import PathCall.Json.Value

/-!
Condition trees, the meaning of filter documents.
-/

namespace PathCall.Filter

inductive Node where
  /-- All conditions must hold. A blacklisted key stays, without a condition. -/
  | all (conditions : List (String × Option Node))
  /-- One of the alternatives must hold for the key; at the top level there is none. -/
  | any (key : Option String) (alternatives : List Node)
  | leaf (value : Json)
  deriving Inhabited

namespace Node

def empty : Node := .all []

def isEmpty : Node → Bool
  | .all [] => true
  | _ => false

mutual
/-- The number of nodes. A key without a condition is none. -/
def size : Node → Nat
  | .all conditions => 1 + sizeOfConditions conditions
  | .any _ alternatives => 1 + sizeOfList alternatives
  | .leaf _ => 1
def sizeOfConditions : List (String × Option Node) → Nat
  | [] => 0
  | (_, none) :: rest => sizeOfConditions rest
  | (_, some node) :: rest => size node + sizeOfConditions rest
def sizeOfList : List Node → Nat
  | [] => 0
  | node :: rest => size node + sizeOfList rest
end

mutual
def depth : Node → Nat
  | .all conditions => 1 + depthOfConditions conditions
  | .any _ alternatives => 1 + depthOfList alternatives
  | .leaf _ => 1
def depthOfConditions : List (String × Option Node) → Nat
  | [] => 0
  | (_, none) :: rest => depthOfConditions rest
  | (_, some node) :: rest => max (depth node) (depthOfConditions rest)
def depthOfList : List Node → Nat
  | [] => 0
  | node :: rest => max (depth node) (depthOfList rest)
end

mutual
/-- The written form of a tree: an object whose only member names the kind of the root. -/
def toJson : Node → Json
  | .all conditions => .obj [("and", .obj (conditionsToJson conditions))]
  | .any key alternatives =>
    .obj [("or", .obj [
      ("key", key.elim .null .str),
      ("nodes", .arr (listToJson alternatives))])]
  | .leaf value => .obj [("leaf", value)]
def conditionsToJson : List (String × Option Node) → List (String × Json)
  | [] => []
  | (key, none) :: rest => (key, .null) :: conditionsToJson rest
  | (key, some node) :: rest => (key, toJson node) :: conditionsToJson rest
def listToJson : List Node → List Json
  | [] => []
  | node :: rest => toJson node :: listToJson rest
end

end Node

end PathCall.Filter
