import PathCall.Proofs.Filter.Pruning

/-!
Nothing of a value is lost in its tree. Paths lead to the same places in both: to an object in the
value where the tree joins conditions, to an array where it offers alternatives, and to any other
value where it has a leaf. The main theorem says so of the parser of objects and arrays on a value
in which no name is blacklisted, says which key every choice is made for, and that the value can be
made again from the tree.
-/

namespace PathCall

inductive Json.Step where
  | item (index : Nat)
  | member (name : String)

def Json.at? : List Step → Json → Option Json
  | [], value => some value
  | .item index :: path, .arr items => (items[index]?).bind (at? path)
  | .member name :: path, .obj members => (KeyMap.find? name members).bind (at? path)
  | _, _ => none

/-- No name in the value is blacklisted, at any depth. -/
inductive Json.Avoids (blacklist : Filter.Blacklist) : Json → Prop where
  | scalar {value : Json} : value.isNested = false → Avoids blacklist value
  | arr {items : List Json} : (∀ item ∈ items, Avoids blacklist item) → Avoids blacklist (.arr items)
  | obj {members : List (String × Json)} :
      (∀ member ∈ members, member.1 ∉ blacklist) →
      (∀ member ∈ members, Avoids blacklist member.2) → Avoids blacklist (.obj members)

/-- An empty blacklist can be avoided by every value. -/
theorem Json.avoids_nil (value : Json) : value.Avoids [] := by
  induction value using Json.nestedInduction with
  | scalar value hscalar => exact .scalar hscalar
  | arr items ih => exact .arr ih
  | obj members ih => exact .obj (fun _ _ => List.not_mem_nil) ih

namespace Filter

/-- The node that a path leads to. Nothing is reached through a key without a condition. -/
def Node.at? : List Json.Step → Node → Option Node
  | [], node => some node
  | .item index :: path, .any _ alternatives => (alternatives[index]?).bind (at? path)
  | .member name :: path, .all conditions => ((KeyMap.find? name conditions).join).bind (at? path)
  | _, _ => none

/-- The key of the last object on a path, or `key` if there is none. -/
def enclosingKey (key : Option String) : List Json.Step → Option String
  | [] => key
  | .item _ :: path => enclosingKey key path
  | .member name :: path => enclosingKey (some name) path

/-- What a node shows of the value that it was made from, the nodes within it apart. -/
inductive Mirrors (key : Option String) : Json → Node → Prop where
  /-- There is a condition for each name, and for no other. -/
  | object {members : List (String × Json)} {conditions : List (String × Option Node)} :
      KeyMap.keys conditions = KeyMap.keys members →
      (∀ condition ∈ conditions, condition.2.isSome = true) →
      Mirrors key (.obj members) (.all conditions)
  /-- There is an alternative for each item. -/
  | array {items : List Json} {alternatives : List Node} :
      alternatives.length = items.length → Mirrors key (.arr items) (.any key alternatives)
  | scalar {value : Json} : value.isNested = false → Mirrors key value (.leaf value)

theorem find?_conditionsOf (name : String) (members : List (String × Json)) :
    KeyMap.find? name (conditionsOf [] members) =
      (KeyMap.find? name members).map fun value => some (treeOf [] (some name) value) := by
  induction members with
  | nil => rfl
  | cons member rest ih =>
    obtain ⟨other, value⟩ := member
    rw [conditionsOf, KeyMap.find?, KeyMap.find?, ih]
    split
    · rename_i heq
      subst heq
      rfl
    · rfl

/-- A path leads to the tree of the value that it leads to. -/
theorem at?_treeOf (path : List Json.Step) (key : Option String) (value : Json) :
    (treeOf [] key value).at? path =
      (value.at? path).map (treeOf [] (enclosingKey key path)) := by
  induction path generalizing key value with
  | nil => rfl
  | cons step path ih =>
    cases step with
    | item index =>
      cases value with
      | arr items =>
        rw [treeOf, Node.at?, Json.at?, alternativesOf_eq_map, List.getElem?_map, enclosingKey]
        cases items[index]? with
        | none => rfl
        | some item => exact ih key item
      | _ => rfl
    | member name =>
      cases value with
      | obj members =>
        rw [treeOf, Node.at?, Json.at?, find?_conditionsOf, enclosingKey]
        cases KeyMap.find? name members with
        | none => rfl
        | some value => exact ih (some name) value
      | _ => rfl

theorem mirrors_treeOf (key : Option String) (value : Json) :
    Mirrors key value (treeOf [] key value) := by
  cases hnested : value.isNested with
  | false =>
    rw [treeOf_scalar [] key hnested]
    exact .scalar hnested
  | true =>
    cases value with
    | obj members =>
      rw [treeOf, conditionsOf_eq_map]
      refine .object ?_ ?_
      · simp [KeyMap.keys]
      · intro condition hcondition
        obtain ⟨member, -, rfl⟩ := List.mem_map.mp hcondition
        rfl
    | arr items =>
      rw [treeOf, alternativesOf_eq_map]
      exact .array (List.length_map _)
    | _ => cases hnested

theorem enclosingKey_none_iff (path : List Json.Step) :
    enclosingKey none path = none ↔ ∀ name, Json.Step.member name ∉ path := by
  have hsome (path : List Json.Step) (key : String) : enclosingKey (some key) path ≠ none := by
    induction path generalizing key with
    | nil => exact Option.some_ne_none key
    | cons step path ih =>
      cases step with
      | item index => exact ih key
      | member name => exact ih name
  induction path with
  | nil => simp [enclosingKey]
  | cons step path ih =>
    cases step with
    | item index => simpa [enclosingKey] using ih
    | member name =>
      constructor
      · intro h
        exact absurd h (hsome path name)
      · intro h
        exact absurd List.mem_cons_self (h name)

section

variable {blacklist : Blacklist} {value : Json}

theorem mask_of_avoids (h : value.Avoids blacklist) : value.mask blacklist = value := by
  induction h with
  | scalar hscalar => exact Json.mask_scalar blacklist hscalar
  | arr _ ih => rw [Json.mask, Json.maskItems_eq_map, List.map_congr_left ih, List.map_id']
  | obj hnames _ ih =>
    rw [Json.mask, Json.maskMembers_eq_map]
    refine congrArg Json.obj ((List.map_congr_left fun member hmember => ?_).trans (List.map_id _))
    simp [hnames member hmember, ih member hmember]

/-- A blacklist does not matter to a value that avoids it. -/
theorem treeOf_of_avoids (h : value.Avoids blacklist) (key : Option String) :
    treeOf blacklist key value = treeOf [] key value := by
  induction h generalizing key with
  | scalar hscalar => rw [treeOf_scalar _ key hscalar, treeOf_scalar _ key hscalar]
  | arr _ ih =>
    rw [treeOf, treeOf, alternativesOf_eq_map, alternativesOf_eq_map]
    exact congrArg (Node.any key) (List.map_congr_left fun item hitem => ih item hitem key)
  | obj hnames _ ih =>
    rw [treeOf, treeOf, conditionsOf_eq_map, conditionsOf_eq_map]
    refine congrArg Node.all (List.map_congr_left fun member hmember => ?_)
    simp [hnames member hmember, ih member hmember]

/-- The parser of objects and arrays loses nothing of a value in which no name is blacklisted. The
value has a tree, from which it can be made again. Every path leads to a node of the tree exactly if
it leads to something in the value, and that node mirrors what is there: the conditions of an object
have its names and none is left out, and the alternatives of an array are for the key of the object
member that it stands in, or for the key around the whole value when it stands in none. When there
is no such key either, the arrays in no object are those without a key. -/
theorem parseValue_loses_nothing (h : value.Avoids blacklist) (key : Option String) :
    ∃ tree, parseValue .tree blacklist key value = .ok tree ∧ tree.source = value ∧
      (∀ path, Option.Rel (Mirrors (enclosingKey key path)) (value.at? path) (tree.at? path)) ∧
      ∀ path, enclosingKey none path = none ↔ ∀ name, Json.Step.member name ∉ path := by
  refine ⟨treeOf blacklist key value, parseValue_tree blacklist key value, ?_, fun path => ?_,
    enclosingKey_none_iff⟩
  · rw [source_treeOf, mask_of_avoids h]
  · rw [treeOf_of_avoids h, at?_treeOf]
    cases value.at? path with
    | none => exact .none
    | some found => exact .some (mirrors_treeOf (enclosingKey key path) found)

end

def ownedTags : Json := .obj [("owner", .arr [.str "ann", .obj [("tags", .arr [.int 1])]])]

def ownedTagsTree : Node :=
  .all [("owner", some (.any (some "owner")
    [.leaf (.str "ann"), .all [("tags", some (.any (some "tags") [.leaf (.int 1)]))]]))]

/-- Choices are made for the key next to them, both with an empty blacklist and with one of another
name. -/
theorem ownedTags_recovered :
    ownedTags.Avoids [] ∧ ownedTags.Avoids ["id"] ∧
    parseValue .tree [] none ownedTags = .ok ownedTagsTree ∧
    parseValue .tree ["id"] none ownedTags = .ok ownedTagsTree ∧
    ownedTagsTree.source = ownedTags := by
  have hid : ownedTags.Avoids ["id"] := by
    have htags : (Json.obj [("tags", .arr [.int 1])]).Avoids ["id"] := by
      refine .obj (by simp) (List.forall_mem_singleton.mpr (.arr ?_))
      exact List.forall_mem_singleton.mpr (.scalar rfl)
    refine .obj (by simp) (List.forall_mem_singleton.mpr (.arr ?_))
    exact List.forall_mem_cons.mpr ⟨.scalar rfl, List.forall_mem_singleton.mpr htags⟩
  obtain ⟨tree, hparse, -⟩ := parseValue_loses_nothing (Json.avoids_nil ownedTags) none
  obtain ⟨tree', hparse', hsource, -⟩ := parseValue_loses_nothing hid none
  obtain rfl : tree = ownedTagsTree := Except.ok.inj (hparse.symm.trans rfl)
  obtain rfl : tree' = ownedTagsTree := Except.ok.inj (hparse'.symm.trans rfl)
  exact ⟨Json.avoids_nil ownedTags, hid, hparse, hparse', hsource⟩

end Filter

end PathCall
