import PathCall.Filter.Dialect
import PathCall.Json.Reader
import PathCall.Text.Blank

/-!
Parsers of filter documents. A parser keeps its document without the white space around it, and
the first tree that it could build: later changes of the blacklist do not reach it.
-/

namespace PathCall.Filter

private def invalid {α : Type} (message : String) : Except Error α :=
  .error ⟨.inputValidation, message⟩

/-- The tree that `parse` finds in a decoded document. The first and the last character of the
document are looked at before it is decoded, each by itself. -/
def parseDocumentWith (parse : Json → Except Error (Option Node)) (document : String) :
    Except Error Node :=
  let text := document.toList
  let opens := text.head?.any fun c => c == '[' || c == '\x7b'
  let closes := text.getLast?.any fun c => c == ']' || c == '\x7d'
  if !opens || !closes then invalid "Filter definition given is invalid"
  else
    match Json.parse document with
    | .error message => invalid ("Failed to decode filter definition given: " ++ message)
    | .ok value => do
      match ← parse value with
      | some node => .ok node
      | none => invalid "Failed to parse filter definition given"

def parseDocument (dialect : Dialect) (blacklist : Blacklist) (document : String) :
    Except Error Node :=
  parseDocumentWith (parse dialect blacklist none) document

structure Parser where
  dialect : Dialect
  document : String
  /-- The tree that `filter` yields from now on. -/
  cached : Option Node := none
  deriving Inhabited

namespace Parser

/-- A parser that has not looked at its document yet. -/
def ofText (dialect : Dialect) (text : String) : Parser where
  dialect := dialect
  document := Text.trim text

def prepare (parser : Parser) : Except Error Parser :=
  if parser.document.isEmpty && parser.cached.isNone then do
    return { parser with cached := some (← emptyFilter parser.dialect) }
  else .ok parser

def create (dialect : Dialect) (text : String) : Except Error Parser :=
  (ofText dialect text).prepare

def decodeBytes (bytes : List UInt8) : Except Error String :=
  match String.fromUTF8? (ByteArray.mk bytes.toArray) with
  | some text => .ok text
  | none => invalid "Filter given is invalid"

/-- The parser's tree, and the parser that remembers it. A failure is not remembered. -/
def filter (blacklist : Blacklist) (parser : Parser) : Except Error Node × Parser :=
  match parser.cached with
  | some node => (.ok node, parser)
  | none =>
    match parseDocument parser.dialect blacklist parser.document with
    | .ok node => (.ok node, { parser with cached := some node })
    | .error error => (.error error, parser)

end Parser

end PathCall.Filter
