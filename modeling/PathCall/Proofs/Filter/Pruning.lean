import PathCall.Proofs.Filter.Tree

/-!
What a blacklist takes away. The tree of a value under a blacklist is the tree under the empty one
without the conditions of blacklisted keys, at every depth. So two values have the same tree
exactly if they are the same but for what stands beneath blacklisted names.
-/

namespace PathCall

namespace Filter.Node

mutual
/-- The tree without the conditions of blacklisted keys. -/
def prune (blacklist : Blacklist) : Node → Node
  | .all conditions => .all (pruneConditions blacklist conditions)
  | .any key alternatives => .any key (pruneAlternatives blacklist alternatives)
  | .leaf value => .leaf value
def pruneConditions (blacklist : Blacklist) :
    List (String × Option Node) → List (String × Option Node)
  | [] => []
  | (key, none) :: rest => (key, none) :: pruneConditions blacklist rest
  | (key, some node) :: rest =>
    (key, if blacklist.contains key then none else some (prune blacklist node)) ::
      pruneConditions blacklist rest
def pruneAlternatives (blacklist : Blacklist) : List Node → List Node
  | [] => []
  | node :: rest => prune blacklist node :: pruneAlternatives blacklist rest
end

mutual
/-- The value that a tree was made from, with null for a key without a condition. -/
def source : Node → Json
  | .all conditions => .obj (sourceOfConditions conditions)
  | .any _ alternatives => .arr (sourceOfAlternatives alternatives)
  | .leaf value => value
def sourceOfConditions : List (String × Option Node) → List (String × Json)
  | [] => []
  | (key, none) :: rest => (key, .null) :: sourceOfConditions rest
  | (key, some node) :: rest => (key, source node) :: sourceOfConditions rest
def sourceOfAlternatives : List Node → List Json
  | [] => []
  | node :: rest => source node :: sourceOfAlternatives rest
end

theorem pruneConditions_eq_map (blacklist : Blacklist) (conditions : List (String × Option Node)) :
    pruneConditions blacklist conditions = conditions.map fun condition =>
      (condition.1,
        if blacklist.contains condition.1 then none else condition.2.map (prune blacklist)) := by
  induction conditions with
  | nil => rfl
  | cons condition rest ih =>
    obtain ⟨key, _ | node⟩ := condition <;> simp [pruneConditions, ih]

theorem pruneAlternatives_eq_map (blacklist : Blacklist) (alternatives : List Node) :
    pruneAlternatives blacklist alternatives = alternatives.map (prune blacklist) := by
  induction alternatives with
  | nil => rfl
  | cons node rest ih => simp [pruneAlternatives, ih]

theorem sourceOfConditions_eq_map (conditions : List (String × Option Node)) :
    sourceOfConditions conditions = conditions.map fun condition =>
      (condition.1, condition.2.elim .null source) := by
  induction conditions with
  | nil => rfl
  | cons condition rest ih =>
    obtain ⟨key, _ | node⟩ := condition <;> simp [sourceOfConditions, ih]

theorem sourceOfAlternatives_eq_map (alternatives : List Node) :
    sourceOfAlternatives alternatives = alternatives.map source := by
  induction alternatives with
  | nil => rfl
  | cons node rest ih => simp [sourceOfAlternatives, ih]

end Filter.Node

namespace Json

mutual
/-- The value with null in place of whatever stands beneath a blacklisted name. -/
def mask (blacklist : Filter.Blacklist) : Json → Json
  | .arr items => .arr (maskItems blacklist items)
  | .obj members => .obj (maskMembers blacklist members)
  | value => value
def maskItems (blacklist : Filter.Blacklist) : List Json → List Json
  | [] => []
  | item :: rest => mask blacklist item :: maskItems blacklist rest
def maskMembers (blacklist : Filter.Blacklist) : List (String × Json) → List (String × Json)
  | [] => []
  | (name, value) :: rest =>
    (name, if blacklist.contains name then .null else mask blacklist value) ::
      maskMembers blacklist rest
end

theorem maskItems_eq_map (blacklist : Filter.Blacklist) (items : List Json) :
    maskItems blacklist items = items.map (mask blacklist) := by
  induction items with
  | nil => rfl
  | cons item rest ih => simp [maskItems, ih]

theorem maskMembers_eq_map (blacklist : Filter.Blacklist) (members : List (String × Json)) :
    maskMembers blacklist members = members.map fun member =>
      (member.1, if blacklist.contains member.1 then .null else mask blacklist member.2) := by
  induction members with
  | nil => rfl
  | cons member rest ih => simp [maskMembers, ih]

theorem mask_scalar (blacklist : Filter.Blacklist) {value : Json} (h : value.isNested = false) :
    value.mask blacklist = value := by
  cases value with
  | arr items => cases h
  | obj members => cases h
  | _ => rfl

end Json

namespace Filter

/-- Pruning a tree is the same as making it under the blacklist. -/
theorem prune_treeOf (blacklist : Blacklist) (key : Option String) (value : Json) :
    (treeOf [] key value).prune blacklist = treeOf blacklist key value := by
  induction value using Json.nestedInduction generalizing key with
  | scalar value hscalar =>
    rw [treeOf_scalar _ key hscalar, treeOf_scalar _ key hscalar, Node.prune]
  | arr items ih =>
    rw [treeOf, treeOf, Node.prune, Node.pruneAlternatives_eq_map, alternativesOf_eq_map,
      alternativesOf_eq_map, List.map_map]
    exact congrArg (Node.any key) (List.map_congr_left fun item hitem => ih item hitem key)
  | obj members ih =>
    rw [treeOf, treeOf, Node.prune, Node.pruneConditions_eq_map, conditionsOf_eq_map,
      conditionsOf_eq_map, List.map_map]
    refine congrArg Node.all (List.map_congr_left fun member hmember => ?_)
    simp [ih member hmember]

/-- A tree keeps what the blacklist does not mask. -/
theorem source_treeOf (blacklist : Blacklist) (key : Option String) (value : Json) :
    (treeOf blacklist key value).source = value.mask blacklist := by
  induction value using Json.nestedInduction generalizing key with
  | scalar value hscalar =>
    rw [treeOf_scalar _ key hscalar, Json.mask_scalar _ hscalar, Node.source]
  | arr items ih =>
    rw [treeOf, Node.source, Json.mask, Node.sourceOfAlternatives_eq_map, alternativesOf_eq_map,
      Json.maskItems_eq_map, List.map_map]
    exact congrArg Json.arr (List.map_congr_left fun item hitem => ih item hitem key)
  | obj members ih =>
    rw [treeOf, Node.source, Json.mask, Node.sourceOfConditions_eq_map, conditionsOf_eq_map,
      Json.maskMembers_eq_map, List.map_map]
    refine congrArg Json.obj (List.map_congr_left fun member hmember => ?_)
    by_cases hlisted : member.1 ∈ blacklist <;> simp [hlisted, ih member hmember]

/-- What the blacklist masks does not reach the tree. -/
theorem treeOf_mask (blacklist : Blacklist) (key : Option String) (value : Json) :
    treeOf blacklist key (value.mask blacklist) = treeOf blacklist key value := by
  induction value using Json.nestedInduction generalizing key with
  | scalar value hscalar => rw [Json.mask_scalar _ hscalar]
  | arr items ih =>
    rw [Json.mask, treeOf, treeOf, alternativesOf_eq_map, alternativesOf_eq_map,
      Json.maskItems_eq_map, List.map_map]
    exact congrArg (Node.any key) (List.map_congr_left fun item hitem => ih item hitem key)
  | obj members ih =>
    rw [Json.mask, treeOf, treeOf, conditionsOf_eq_map, conditionsOf_eq_map,
      Json.maskMembers_eq_map, List.map_map]
    refine congrArg Node.all (List.map_congr_left fun member hmember => ?_)
    by_cases hlisted : member.1 ∈ blacklist <;> simp [hlisted, ih member hmember]

theorem treeOf_eq_iff (blacklist : Blacklist) (key : Option String) (value other : Json) :
    treeOf blacklist key value = treeOf blacklist key other ↔
      value.mask blacklist = other.mask blacklist := by
  constructor
  · intro htree
    rw [← source_treeOf blacklist key value, htree, source_treeOf]
  · intro hmask
    rw [← treeOf_mask blacklist key value, hmask, treeOf_mask]

/-- A blacklisted key contributes nothing, and everything else is untouched. For every value, key
and blacklist the parser of objects and arrays yields the tree that it yields under the empty
blacklist, without the conditions of blacklisted keys and otherwise unchanged. Two values yield
the same tree exactly if they differ only beneath blacklisted names. -/
theorem parseValue_prunes_blacklisted (blacklist : Blacklist) (key : Option String)
    (value : Json) :
    ∃ tree,
      parseValue .tree [] key value = .ok tree ∧
      parseValue .tree blacklist key value = .ok (tree.prune blacklist) ∧
      ∀ other, parseValue .tree blacklist key other = parseValue .tree blacklist key value ↔
        other.mask blacklist = value.mask blacklist := by
  refine ⟨treeOf [] key value, parseValue_tree [] key value, ?_, fun other => ?_⟩
  · rw [prune_treeOf, parseValue_tree]
  · rw [parseValue_tree, parseValue_tree, Except.ok.injEq]
    exact treeOf_eq_iff blacklist key other value

end Filter

end PathCall
