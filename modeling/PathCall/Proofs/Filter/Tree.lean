import PathCall.Filter.Dialect

/-!
The trees of values. `treeOf` gives the tree of a value without any way to fail. A dialect that
joins conditions parses every value to that tree, unless it refuses the alternatives in it. The
main theorem compares the dialect of objects and arrays with the one of objects only: they agree
exactly on the values whose trees offer no alternatives.
-/

namespace PathCall.Filter

mutual
/-- The tree of a value under `key`. Blacklisted keys keep their place in it, without a
condition. -/
def treeOf (blacklist : Blacklist) (key : Option String) : Json → Node
  | .obj members => .all (conditionsOf blacklist members)
  | .arr items => .any key (alternativesOf blacklist key items)
  | value => .leaf value
def conditionsOf (blacklist : Blacklist) :
    List (String × Json) → List (String × Option Node)
  | [] => []
  | (name, value) :: rest =>
    (name, if blacklist.contains name then none else some (treeOf blacklist (some name) value)) ::
      conditionsOf blacklist rest
def alternativesOf (blacklist : Blacklist) (key : Option String) : List Json → List Node
  | [] => []
  | item :: rest => treeOf blacklist key item :: alternativesOf blacklist key rest
end

theorem conditionsOf_eq_map (blacklist : Blacklist) (members : List (String × Json)) :
    conditionsOf blacklist members = members.map fun member =>
      (member.1,
        if blacklist.contains member.1 then none
        else some (treeOf blacklist (some member.1) member.2)) := by
  induction members with
  | nil => rfl
  | cons member rest ih => simp [conditionsOf, ih]

theorem alternativesOf_eq_map (blacklist : Blacklist) (key : Option String) (items : List Json) :
    alternativesOf blacklist key items = items.map (treeOf blacklist key) := by
  induction items with
  | nil => rfl
  | cons item rest ih => simp [alternativesOf, ih]

namespace Node

mutual
/-- Whether there are alternatives anywhere in the tree, be they none. -/
def hasAlternatives : Node → Bool
  | .all conditions => conditionsHaveAlternatives conditions
  | .any _ _ => true
  | .leaf _ => false
def conditionsHaveAlternatives : List (String × Option Node) → Bool
  | [] => false
  | (_, none) :: rest => conditionsHaveAlternatives rest
  | (_, some node) :: rest => hasAlternatives node || conditionsHaveAlternatives rest
end

end Node

theorem treeOf_scalar (blacklist : Blacklist) (key : Option String) {value : Json}
    (h : value.isNested = false) : treeOf blacklist key value = .leaf value := by
  cases value with
  | arr items => cases h
  | obj members => cases h
  | _ => rfl

theorem parseValue_scalar (dialect : Dialect) (blacklist : Blacklist) (key : Option String)
    {value : Json} (h : value.isNested = false) :
    parseValue dialect blacklist key value = .ok (.leaf value) := by
  cases value with
  | arr items => cases h
  | obj members => cases h
  | _ => rfl

def alternativesRefused : Error :=
  ⟨.operationNotSupported, "OR-concatenated filter definitions are not supported"⟩

namespace Dialect

variable {α β γ : Type}

/-- Lets a result pass, unless it has alternatives and the dialect does not understand them. -/
def accept (dialect : Dialect) (hasAlternatives : Bool) (result : α) : Except Error α :=
  if !dialect.alternatives && hasAlternatives then .error alternativesRefused else .ok result

@[simp] theorem accept_false (dialect : Dialect) (result : α) :
    dialect.accept false result = .ok result := by
  simp [accept]

/-- What is made of a result passes with it. -/
theorem accept_map (dialect : Dialect) (hasAlternatives : Bool) (result : α) (f : α → β) :
    (do return f (← dialect.accept hasAlternatives result)) =
      dialect.accept hasAlternatives (f result) := by
  unfold accept
  split <;> rfl

/-- What is made of two results passes when both do. -/
theorem accept_map₂ (dialect : Dialect) (first second : Bool) (left : α) (right : β)
    (f : α → β → γ) :
    (do
      let a ← dialect.accept first left
      return f a (← dialect.accept second right)) =
      dialect.accept (first || second) (f left right) := by
  unfold accept
  cases dialect.alternatives <;> cases first <;> cases second <;> rfl

end Dialect

section

variable {dialect : Dialect} {blacklist : Blacklist}

/-- A dialect that understands alternatives makes a tree of each item. -/
theorem parseItems_eq_ok (halternatives : dialect.alternatives = true) {key : Option String}
    {items : List Json}
    (h : ∀ item ∈ items, parseValue dialect blacklist key item =
      dialect.accept (treeOf blacklist key item).hasAlternatives (treeOf blacklist key item)) :
    parseItems dialect blacklist key items = .ok (alternativesOf blacklist key items) := by
  induction items with
  | nil => rfl
  | cons item rest ih =>
    obtain ⟨hitem, hrest⟩ := List.forall_mem_cons.mp h
    rw [parseItems, hitem, ih hrest]
    simp only [Dialect.accept, halternatives]
    rfl

/-- Members are parsed to their conditions if none of those that the blacklist lets through is
refused. -/
theorem parseMembers_eq_accept {members : List (String × Json)}
    (h : ∀ member ∈ members, ∀ key, parseValue dialect blacklist key member.2 =
      dialect.accept (treeOf blacklist key member.2).hasAlternatives
        (treeOf blacklist key member.2)) :
    parseMembers dialect blacklist members =
      dialect.accept (Node.conditionsHaveAlternatives (conditionsOf blacklist members))
        (conditionsOf blacklist members) := by
  induction members with
  | nil => simp [parseMembers, conditionsOf, Node.conditionsHaveAlternatives]
  | cons member rest ih =>
    obtain ⟨name, value⟩ := member
    obtain ⟨hvalue, hrest⟩ := List.forall_mem_cons.mp h
    rw [parseMembers, conditionsOf, ih hrest]
    cases blacklist.contains name with
    | true => exact dialect.accept_map _ _ ((name, none) :: ·)
    | false =>
      simp only [Bool.false_eq_true, if_false, hvalue (some name)]
      exact dialect.accept_map₂ _ _ _ _ fun node rest => (name, some node) :: rest

/-- A dialect that joins conditions parses a value to its tree, or refuses the alternatives. -/
theorem parseValue_eq_accept (hconjunctions : dialect.conjunctions = true)
    (key : Option String) (value : Json) :
    parseValue dialect blacklist key value =
      dialect.accept (treeOf blacklist key value).hasAlternatives (treeOf blacklist key value) := by
  induction value using Json.nestedInduction generalizing key with
  | scalar value hscalar =>
    rw [parseValue_scalar dialect blacklist key hscalar, treeOf_scalar blacklist key hscalar,
      Node.hasAlternatives, Dialect.accept_false]
  | arr items ih =>
    rw [parseValue, treeOf, Node.hasAlternatives]
    cases halternatives : dialect.alternatives with
    | true =>
      rw [parseItems_eq_ok halternatives fun item hitem => ih item hitem key]
      simp only [Dialect.accept, halternatives]
      rfl
    | false =>
      simp only [Dialect.accept, halternatives]
      rfl
  | obj members ih =>
    rw [parseValue, if_pos hconjunctions, parseMembers_eq_accept ih]
    exact dialect.accept_map _ _ Node.all

/-- The dialect of objects and arrays refuses nothing. -/
theorem parseValue_tree (blacklist : Blacklist) (key : Option String) (value : Json) :
    parseValue .tree blacklist key value = .ok (treeOf blacklist key value) :=
  parseValue_eq_accept rfl key value

/-- The same where the blacklist is asked about the key first. -/
theorem parse_eq_accept (hconjunctions : dialect.conjunctions = true) (key : Option String)
    (value : Json) :
    parse dialect blacklist key value =
      let condition :=
        if key.any blacklist.contains then none else some (treeOf blacklist key value)
      dialect.accept (condition.any Node.hasAlternatives) condition := by
  rw [parse]
  cases key.any blacklist.contains with
  | true => simp
  | false =>
    simp only [Bool.false_eq_true, if_false, parseValue_eq_accept hconjunctions]
    exact dialect.accept_map _ _ some

end

end PathCall.Filter

namespace PathCall.Json

mutual
/-- Whether there is an array in a value, anywhere but beneath a blacklisted name. -/
def hasArrayOutside (blacklist : Filter.Blacklist) : Json → Bool
  | .arr _ => true
  | .obj members => membersHaveArrayOutside blacklist members
  | _ => false
def membersHaveArrayOutside (blacklist : Filter.Blacklist) : List (String × Json) → Bool
  | [] => false
  | (name, value) :: rest =>
    (!blacklist.contains name && hasArrayOutside blacklist value) ||
      membersHaveArrayOutside blacklist rest
end

end PathCall.Json

namespace PathCall.Filter

theorem conditionsHaveAlternatives_conditionsOf {blacklist : Blacklist}
    {members : List (String × Json)}
    (h : ∀ member ∈ members, ∀ key,
      (treeOf blacklist key member.2).hasAlternatives = member.2.hasArrayOutside blacklist) :
    Node.conditionsHaveAlternatives (conditionsOf blacklist members) =
      Json.membersHaveArrayOutside blacklist members := by
  induction members with
  | nil => rfl
  | cons member rest ih =>
    obtain ⟨name, value⟩ := member
    obtain ⟨hvalue, hrest⟩ := List.forall_mem_cons.mp h
    rw [conditionsOf, Json.membersHaveArrayOutside, ← ih hrest]
    cases blacklist.contains name with
    | true => rfl
    | false =>
      rw [← hvalue (some name)]
      rfl

/-- Alternatives come from arrays, and from nothing else. -/
theorem hasAlternatives_treeOf (blacklist : Blacklist) (key : Option String) (value : Json) :
    (treeOf blacklist key value).hasAlternatives = value.hasArrayOutside blacklist := by
  induction value using Json.nestedInduction generalizing key with
  | scalar value hscalar =>
    rw [treeOf_scalar blacklist key hscalar]
    cases value with
    | arr items => cases hscalar
    | obj members => cases hscalar
    | _ => rfl
  | arr items ih => rfl
  | obj members ih => exact conditionsHaveAlternatives_conditionsOf ih

/-- One parser always has a result. The other has the same where there are no alternatives in it,
and else refuses. -/
def AgreesUnless {α : Type} (hasAlternatives : α → Bool) (full flat : Except Error α) : Prop :=
  ∃ result, full = .ok result ∧
    ((∃ other, flat = .ok other) ↔ hasAlternatives result = false) ∧
    (hasAlternatives result = false → flat = .ok result) ∧
    (hasAlternatives result = true → flat = .error alternativesRefused)

theorem agreesUnless_accept {α : Type} (hasAlternatives : α → Bool) (result : α) :
    AgreesUnless hasAlternatives (Dialect.tree.accept (hasAlternatives result) result)
      (Dialect.flat.accept (hasAlternatives result) result) := by
  refine ⟨result, rfl, ?_⟩
  cases hasAlternatives result with
  | true =>
    refine ⟨⟨?_, by simp⟩, by simp, fun _ => rfl⟩
    rintro ⟨other, hother⟩
    cases hother
  | false => exact ⟨⟨fun _ => rfl, fun _ => ⟨result, rfl⟩⟩, fun _ => rfl, by simp⟩

/-- Objects alone are parsed as objects and arrays are, or refused. For every value, key and
blacklist the dialect of objects and arrays yields a tree. It offers alternatives exactly if the
value has an array, however short, that is not beneath a blacklisted name. If it offers none, the
dialect of objects yields the same tree, and else it refuses. Where the blacklist is asked about
the key first, both yield nothing for a blacklisted key and otherwise agree in the same way. -/
theorem flat_agrees_with_tree (blacklist : Blacklist) (key : Option String) (value : Json) :
    (∀ tree, parseValue .tree blacklist key value = .ok tree →
      tree.hasAlternatives = value.hasArrayOutside blacklist) ∧
    AgreesUnless Node.hasAlternatives (parseValue .tree blacklist key value)
      (parseValue .flat blacklist key value) ∧
    AgreesUnless (fun condition : Option Node => condition.any Node.hasAlternatives)
      (parse .tree blacklist key value) (parse .flat blacklist key value) := by
  refine ⟨?_, ?_, ?_⟩
  · intro tree htree
    rw [parseValue_eq_accept rfl] at htree
    obtain rfl := Except.ok.inj htree
    exact hasAlternatives_treeOf blacklist key value
  · rw [parseValue_eq_accept rfl, parseValue_eq_accept rfl]
    exact agreesUnless_accept Node.hasAlternatives _
  · rw [parse_eq_accept rfl, parse_eq_accept rfl]
    exact agreesUnless_accept (fun condition : Option Node => condition.any Node.hasAlternatives) _

end PathCall.Filter
