import PathCall.Error
import PathCall.Filter.Blacklist
import PathCall.Filter.Node

/-!
From JSON values to condition trees. An object joins conditions, an array offers alternatives for
the key around it, and every other value stands for itself. A dialect says which of these it
understands. The blacklist is asked wherever a value stands under a key of an object; the elements
of an array are not asked about again.
-/

namespace PathCall.Filter

structure Dialect where
  conjunctions : Bool
  alternatives : Bool
  emptyDocuments : Bool
  deriving DecidableEq, Inhabited

namespace Dialect

/-- Objects and arrays. -/
def tree : Dialect := ⟨true, true, true⟩

/-- Objects only. -/
def flat : Dialect := ⟨true, false, true⟩

/-- Plain values only. -/
def bare : Dialect := ⟨false, false, false⟩

end Dialect

private def unsupported {α : Type} (what : String) : Except Error α :=
  .error ⟨.operationNotSupported, what ++ " filter definitions are not supported"⟩

mutual
/-- The condition that a value stands for, whatever the blacklist says about its own key. -/
def parseValue (dialect : Dialect) (blacklist : Blacklist) (key : Option String) :
    Json → Except Error Node
  | .obj members =>
    if dialect.conjunctions then do
      return .all (← parseMembers dialect blacklist members)
    else unsupported "AND-concatenated"
  | .arr items =>
    if dialect.alternatives then do
      return .any key (← parseItems dialect blacklist key items)
    else unsupported "OR-concatenated"
  | value => .ok (.leaf value)
def parseMembers (dialect : Dialect) (blacklist : Blacklist) :
    List (String × Json) → Except Error (List (String × Option Node))
  | [] => .ok []
  | (name, value) :: rest =>
    if blacklist.contains name then do
      return (name, none) :: (← parseMembers dialect blacklist rest)
    else do
      let node ← parseValue dialect blacklist (some name) value
      return (name, some node) :: (← parseMembers dialect blacklist rest)
def parseItems (dialect : Dialect) (blacklist : Blacklist) (key : Option String) :
    List Json → Except Error (List Node)
  | [] => .ok []
  | item :: rest => do
    let node ← parseValue dialect blacklist key item
    return node :: (← parseItems dialect blacklist key rest)
end

/-- The condition that a value under `key` stands for, if the blacklist lets it through. -/
def parse (dialect : Dialect) (blacklist : Blacklist) (key : Option String) (value : Json) :
    Except Error (Option Node) :=
  if key.any blacklist.contains then .ok none
  else do return some (← parseValue dialect blacklist key value)

def emptyFilter (dialect : Dialect) : Except Error Node :=
  if dialect.emptyDocuments then .ok .empty else unsupported "Empty"

end PathCall.Filter
