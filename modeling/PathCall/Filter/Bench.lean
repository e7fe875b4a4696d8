import PathCall.Filter.Parser

/-!
Parsers at work beside each other. Every parser has a handle on a blacklist, which it may share
with others; the actions here are all that can happen to the parsers and the lists.
-/

namespace PathCall.Filter

structure Worker where
  parser : Parser
  handle : Nat
  deriving Inhabited

structure Bench where
  shelf : Blacklist.Shelf
  /-- A place stays empty when its parser could not be made. -/
  workers : List (Option Worker)

inductive Query where
  | filter
  | prepare
  | parseDocument
  | parse (key : Option String) (value : Json)
  | parseValue (key : Option String) (value : Json)
  | empty
  | addKey (key : String)
  | removeKey (key : String)
  | contains (key : String)

inductive Reply where
  | node (result : Except Error Node)
  | optionalNode (result : Except Error (Option Node))
  | done (result : Except Error Unit)
  | keys (keys : List String)
  | flag (value : Bool)
  | noParser

namespace Bench

/-- Asks the parser at `place`. Only `filter` and `prepare` may change the parser, only `addKey`
and `removeKey` its blacklist. -/
def ask (bench : Bench) (place : Nat) (query : Query) : Reply × Bench :=
  match (bench.workers[place]?).join with
  | none => (.noParser, bench)
  | some worker =>
    let keys := bench.shelf.get worker.handle
    let dialect := worker.parser.dialect
    let keep (parser : Parser) : Bench :=
      { bench with workers := bench.workers.set place (some { worker with parser }) }
    let change (f : Blacklist → Blacklist) : Reply × Bench :=
      let shelf := bench.shelf.modify worker.handle f
      (.keys (shelf.get worker.handle), { bench with shelf })
    match query with
    | .filter =>
      let (result, parser) := worker.parser.filter keys
      (.node result, keep parser)
    | .prepare =>
      match worker.parser.prepare with
      | .ok parser => (.done (.ok ()), keep parser)
      | .error error => (.done (.error error), bench)
    | .parseDocument =>
      (.node (Filter.parseDocument dialect keys worker.parser.document), bench)
    | .parse key value => (.optionalNode (Filter.parse dialect keys key value), bench)
    | .parseValue key value => (.node (Filter.parseValue dialect keys key value), bench)
    | .empty => (.node (emptyFilter dialect), bench)
    | .addKey key => change (Blacklist.add key)
    | .removeKey key => change (Blacklist.remove key)
    | .contains key => (.flag (keys.contains key), bench)

def changeList (bench : Bench) (handle : Nat) (f : Blacklist → Blacklist) : Bench :=
  { bench with shelf := bench.shelf.modify handle f }

/-- Places a parser, on the list of the given handle or on an empty one of its own. -/
def place (bench : Bench) (handle : Option Nat) (parser : Except Error Parser) : Bench :=
  match parser, handle with
  | .error _, _ => { bench with workers := bench.workers ++ [none] }
  | .ok parser, some handle =>
    { bench with workers := bench.workers ++ [some ⟨parser, handle⟩] }
  | .ok parser, none =>
    { shelf := bench.shelf.create []
      workers := bench.workers ++ [some ⟨parser, bench.shelf.handles.length⟩] }

end Bench

end PathCall.Filter
