import PathCall.KeyMap

/-!
JSON values. Numbers keep apart what was written as an integer and what was written as a
floating-point number; the members of an object are in increasing order of their names.
-/

namespace PathCall

inductive Json where
  | null
  | bool (value : Bool)
  | int (value : Int)
  | float (bits : UInt64)
  | str (text : String)
  | arr (items : List Json)
  | obj (members : List (String × Json))
  deriving Inhabited

namespace Json

def text? : Json → Option String
  | .str text => some text
  | _ => none

/-- An array or an object, the only values that nest others. -/
def isNested : Json → Bool
  | .arr _ | .obj _ => true
  | _ => false

/-- What holds of the values that nest none, and of an array or object whenever it holds of all
the values right within it, holds of every value. -/
@[elab_as_elim]
theorem nestedInduction {motive : Json → Prop}
    (scalar : ∀ value : Json, value.isNested = false → motive value)
    (arr : ∀ items, (∀ item ∈ items, motive item) → motive (.arr items))
    (obj : ∀ members, (∀ member ∈ members, motive member.2) → motive (.obj members))
    (value : Json) : motive value := by
  refine @Json.rec motive (fun items => ∀ item ∈ items, motive item)
    (fun members => ∀ member ∈ members, motive member.2) (fun member => motive member.2)
    ?null ?bool ?int ?float ?str arr obj ?noItem ?item ?noMember ?member ?pair value
  case null => exact scalar _ rfl
  case bool => exact fun _ => scalar _ rfl
  case int => exact fun _ => scalar _ rfl
  case float => exact fun _ => scalar _ rfl
  case str => exact fun _ => scalar _ rfl
  case noItem => simp
  case noMember => simp
  case item => exact fun _ _ hhead htail => List.forall_mem_cons.mpr ⟨hhead, htail⟩
  case member => exact fun _ _ hhead htail => List.forall_mem_cons.mpr ⟨hhead, htail⟩
  case pair => exact fun _ _ hvalue => hvalue

end Json

end PathCall
