import PathCall.Text.Quoted

/-!
What can be wrong with a JSON text, and where. A fault names its cause and how many bytes of the
text were still unread when it was noticed; its message turns this into a line and a column, both
counted in bytes.
-/

namespace PathCall.Json

/-- What a reader met in place of the value that it expected. -/
inductive Found where
  | null
  | bool (value : Bool)
  | int (value : Int)
  | float (text : String)
  | str (text : String)
  | arr
  | obj
  | bareVariant

def Found.describe : Found → String
  | .null => "null"
  | .bool value => "boolean \x60" ++ toString value ++ "\x60"
  | .int value => "integer \x60" ++ toString value ++ "\x60"
  | .float text => "floating point \x60" ++ text ++ "\x60"
  | .str text => "string " ++ Text.quoted text
  | .arr => "sequence"
  | .obj => "map"
  | .bareVariant => "unit variant"

inductive Cause where
  | endOfValue
  | endOfList
  | endOfObject
  | endOfString
  | expectedValue
  | expectedIdent
  | expectedColon
  | expectedListEnd
  | expectedObjectEnd
  | trailingComma
  | trailingCharacters
  | keyNotString
  | recursionLimit
  | invalidNumber
  | numberOutOfRange
  | controlCharacter
  | invalidEscape
  | loneSurrogate
  | endOfHexEscape
  | invalidType (found : Found) (expected : String)
  | invalidLength (length : Nat) (expected : String)
  | missingField (field : String)
  | duplicateField (field : String)
  | unknownField (field : String) (expected : List String)
  | unknownVariant (variant : String) (expected : List String)

private def inBackticks (text : String) : String := "\x60" ++ text ++ "\x60"

/-- One name by itself, two joined by `or`, more after `one of`. -/
private def alternatives (names : List String) : String :=
  match names with
  | [only] => inBackticks only
  | [first, second] => inBackticks first ++ " or " ++ inBackticks second
  | names => "one of " ++ ", ".intercalate (names.map inBackticks)

def Cause.message : Cause → String
  | .endOfValue => "EOF while parsing a value"
  | .endOfList => "EOF while parsing a list"
  | .endOfObject => "EOF while parsing an object"
  | .endOfString => "EOF while parsing a string"
  | .expectedValue => "expected value"
  | .expectedIdent => "expected ident"
  | .expectedColon => "expected \x60:\x60"
  | .expectedListEnd => "expected \x60,\x60 or \x60]\x60"
  | .expectedObjectEnd => "expected \x60,\x60 or \x60\x7d\x60"
  | .trailingComma => "trailing comma"
  | .trailingCharacters => "trailing characters"
  | .keyNotString => "key must be a string"
  | .recursionLimit => "recursion limit exceeded"
  | .invalidNumber => "invalid number"
  | .numberOutOfRange => "number out of range"
  | .controlCharacter => "control character (\\u0000-\\u001F) found while parsing a string"
  | .invalidEscape => "invalid escape"
  | .loneSurrogate => "lone leading surrogate in hex escape"
  | .endOfHexEscape => "unexpected end of hex escape"
  | .invalidType found expected =>
    "invalid type: " ++ found.describe ++ ", expected " ++ expected
  | .invalidLength length expected =>
    "invalid length " ++ toString length ++ ", expected " ++ expected
  | .missingField field => "missing field " ++ inBackticks field
  | .duplicateField field => "duplicate field " ++ inBackticks field
  | .unknownField field expected =>
    "unknown field " ++ inBackticks field ++ ", expected " ++ alternatives expected
  | .unknownVariant variant expected =>
    "unknown variant " ++ inBackticks variant ++ ", expected " ++ alternatives expected

/-- A cause and the number of unread bytes, absent for a fault without a place. -/
structure Fault where
  cause : Cause
  unread : Option Nat

def byteSize (text : List Char) : Nat := text.foldr (fun c size => c.utf8Size + size) 0

def place (line column bytes : Nat) : List Char → Nat × Nat
  | [] => (line, column)
  | c :: rest =>
    if bytes < c.utf8Size then (line, column + bytes)
    else if c = '\n' then place (line + 1) 0 (bytes - 1) rest
    else place line (column + c.utf8Size) (bytes - c.utf8Size) rest

def Fault.message (fault : Fault) (text : List Char) : String :=
  match fault.unread with
  | none => fault.cause.message
  | some unread =>
    let (line, column) := place 1 0 (byteSize text - unread) text
    fault.cause.message ++ " at line " ++ toString line ++ " column " ++ toString column

abbrev Reader (α : Type) := List Char → Except Fault (α × List Char)

def failAt {α : Type} (cause : Cause) (rest : List Char) : Except Fault α :=
  .error ⟨cause, some (byteSize rest)⟩

/-- A fault noticed on looking at the next byte, if there is one: it counts as read. -/
def failOn {α : Type} (cause : Cause) (rest : List Char) : Except Fault α :=
  .error ⟨cause, some (byteSize rest - 1)⟩

end PathCall.Json
