import PathCall.Error
import PathCall.Text.Blank
import PathCall.Text.Case
import PathCall.Text.Split
import PathCall.Text.Word

/-!
Names of entities: a module and a name in it, written `module.Name`. An address gives both as path
segments, whose spelling is normalized here.
-/

namespace PathCall

structure EntityId where
  module : String
  name : String
  deriving DecidableEq, Inhabited

namespace EntityId

/-- Ids come in the order of their modules, then of their names. -/
instance : LT EntityId :=
  ⟨fun a b => a.module < b.module ∨ a.module = b.module ∧ a.name < b.name⟩

instance : DecidableLT EntityId := fun a b =>
  inferInstanceAs (Decidable (a.module < b.module ∨ a.module = b.module ∧ a.name < b.name))

instance : Std.Asymm (α := EntityId) (· < ·) where
  asymm a b := by
    rintro (hlt | ⟨heq, hlt⟩) (hgt | ⟨heq', hgt⟩)
    · exact Std.Asymm.asymm _ _ hlt hgt
    · exact String.lt_irrefl _ (heq' ▸ hlt)
    · exact String.lt_irrefl _ (heq ▸ hgt)
    · exact Std.Asymm.asymm _ _ hlt hgt

instance : Trans (α := EntityId) (· < ·) (· < ·) (· < ·) where
  trans {a b c} := by
    rintro (hab | ⟨heq, hab⟩) (hbc | ⟨heq', hbc⟩)
    · exact .inl (String.lt_trans hab hbc)
    · exact .inl (heq' ▸ hab)
    · exact .inl (heq ▸ hbc)
    · exact .inr ⟨heq.trans heq', String.lt_trans hab hbc⟩

instance : Std.Trichotomous (α := EntityId) (· < ·) where
  trichotomous a b := by
    intro hlt hgt
    have hmodule : a.module = b.module :=
      Std.Trichotomous.trichotomous (r := (· < ·)) _ _ (fun h => hlt (.inl h))
        fun h => hgt (.inl h)
    have hname : a.name = b.name :=
      Std.Trichotomous.trichotomous (r := (· < ·)) _ _ (fun h => hlt (.inr ⟨hmodule, h⟩))
        fun h => hgt (.inr ⟨hmodule.symm, h⟩)
    cases a
    cases b
    cases hmodule
    cases hname
    rfl

def display (id : EntityId) : String := id.module ++ "." ++ id.name

/-- Joins the words between hyphens and underscores, each with a capital first letter. -/
def camelCase (text : List Char) : List Char :=
  let words := Text.split '_' (text.map fun c => if c = '-' then '_' else c)
  words.flatMap Text.capitalize

def ofSegments (module instance_ : List Char) : EntityId where
  module := String.ofList (Text.collapse false module)
  name := String.ofList (camelCase (instance_.filter fun c => !Text.isControl c))

/-- Reads `module.Name`; the last point separates, and neither part may be empty. -/
def parse (text : String) : Except Error EntityId :=
  match Text.splitLast '.' text.toList with
  | some (module@(_ :: _), name@(_ :: _)) => .ok ⟨String.ofList module, String.ofList name⟩
  | _ =>
    .error ⟨.inputValidation,
      "Failed to parse entity id '" ++ text ++ "' (expected format: module.Name)"⟩

private def recordShape : Json.RecordShape String where
  title := "struct EntityId"
  fields := ["module", "name"]
  value := Json.readText
  absent := none
  closed := false

/-- The wire form: an object with the members `module` and `name`, or an array of both. -/
def reader : Json.Reader EntityId := fun text => do
  let (values, rest) ← recordShape.read text
  .ok (⟨values[0]?.getD "", values[1]?.getD ""⟩, rest)

end EntityId

end PathCall
