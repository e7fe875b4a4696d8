/-!
Keys that contribute nothing to a filter, in the order in which they came onto the list. Several
holders may share one list: a shelf keeps the lists, and a handle says which of them it means.
-/

namespace PathCall.Filter

abbrev Blacklist := List String

namespace Blacklist

def add (key : String) (list : Blacklist) : Blacklist :=
  if list.contains key then list else list ++ [key]

def remove (key : String) (list : Blacklist) : Blacklist :=
  list.filter (· ≠ key)

def ofKeys (keys : List String) : Blacklist :=
  keys.foldl (fun list key => add key list) []

/-- Lists and the handles that share them. `handles` says for every handle where its list is. -/
structure Shelf where
  lists : List Blacklist
  handles : List Nat

namespace Shelf

def empty : Shelf := ⟨[], []⟩

def get (shelf : Shelf) (handle : Nat) : Blacklist :=
  ((shelf.handles[handle]?).bind fun origin => shelf.lists[origin]?).getD []

def modify (shelf : Shelf) (handle : Nat) (change : Blacklist → Blacklist) : Shelf :=
  match shelf.handles[handle]? with
  | some origin => { shelf with lists := shelf.lists.modify origin change }
  | none => shelf

def create (shelf : Shelf) (keys : List String) : Shelf :=
  ⟨shelf.lists ++ [ofKeys keys], shelf.handles ++ [shelf.lists.length]⟩

def share (shelf : Shelf) (handle : Nat) : Shelf :=
  match shelf.handles[handle]? with
  | some origin => { shelf with handles := shelf.handles ++ [origin] }
  | none => shelf

def keys (shelf : Shelf) : List Blacklist :=
  (List.range shelf.handles.length).map shelf.get

end Shelf

inductive Action where
  | create (keys : List String)
  | share (handle : Nat)
  | add (handle : Nat) (key : String)
  | remove (handle : Nat) (key : String)

def Shelf.apply (shelf : Shelf) : Action → Shelf
  | .create keys => shelf.create keys
  | .share handle => shelf.share handle
  | .add handle key => shelf.modify handle (add key)
  | .remove handle key => shelf.modify handle (remove key)

def Shelf.run (shelf : Shelf) (actions : List Action) : Shelf := actions.foldl Shelf.apply shelf

end Blacklist

end PathCall.Filter
