import PathCall.Json.Typed

/-!
Errors of calls. An error has one of six kinds and a message. Three kinds specialize a failed
operation. On the wire an error is an object whose only member is the kind with the message.
-/

namespace PathCall

inductive ErrorKind where
  | accessDenied
  | inputValidation
  | operationNotSupported
  | operationFailed
  | nothingMatched
  | updateConflict
  deriving DecidableEq, Inhabited

namespace ErrorKind

def all : List ErrorKind :=
  [.accessDenied, .inputValidation, .operationNotSupported, .operationFailed, .nothingMatched,
    .updateConflict]

def name : ErrorKind → String
  | .accessDenied => "AccessDenied"
  | .inputValidation => "InputValidation"
  | .operationNotSupported => "OperationNotSupported"
  | .operationFailed => "OperationFailed"
  | .nothingMatched => "NothingMatched"
  | .updateConflict => "UpdateConflict"

def ofName? (name : String) : Option ErrorKind := all.find? (·.name == name)

def title : ErrorKind → String
  | .accessDenied => "access denied"
  | .inputValidation => "invalid input"
  | .operationNotSupported => "operation not supported"
  | .operationFailed => "operation failed"
  | .nothingMatched => "nothing matched"
  | .updateConflict => "update conflict"

def parent? : ErrorKind → Option ErrorKind
  | .inputValidation | .nothingMatched | .updateConflict => some .operationFailed
  | _ => none

/-- Whether a kind is `other` or specializes it; no kind has a grandparent. -/
def isA (kind other : ErrorKind) : Bool := kind == other || kind.parent? == some other

theorem ofName?_name (kind : ErrorKind) : ofName? kind.name = some kind := by
  cases kind <;> decide

end ErrorKind

structure Error where
  kind : ErrorKind
  message : String
  deriving DecidableEq, Inhabited

namespace Error

def accessDenied : Error := ⟨.accessDenied, "Access denied"⟩

def inputValidation : Error := ⟨.inputValidation, "Input for element requested is invalid"⟩

def nothingMatched : Error := ⟨.nothingMatched, "Element requested has not been found"⟩

def updateConflict : Error :=
  ⟨.updateConflict, "A concurrent update conflict prevented the requested operation"⟩

def display (error : Error) : String := error.kind.title ++ ": " ++ error.message

def toJson (error : Error) : Json := .obj [(error.kind.name, .str error.message)]

/-- The error in its wire form. A kind without a message is refused. -/
def reader : Json.Reader Error :=
  Json.readVariant (ErrorKind.all.map ErrorKind.name)
    (fun _ => .error (.invalidType .bareVariant "newtype variant"))
    fun variant text => do
      let (message, rest) ← Json.readText text
      .ok (⟨(ErrorKind.ofName? variant).getD default, message⟩, rest)

/-- A text that is not what its reader wants is invalid input. -/
def ofDecoding {α : Type} : Except String α → Except Error α
  | .ok value => .ok value
  | .error message => .error ⟨.inputValidation, message⟩

def parse (text : String) : Except Error Error := ofDecoding (Json.decode reader text)

end Error

inductive BackendFailure where
  | notImplemented (detail : String)
  | unsupported (detail : String)
  | typeMismatch (detail : String)
  | invalidValue (detail : String)
  | inputOutput (detail : String)

/-- Every failure takes the nearest kind and says in its message what it was. -/
def BackendFailure.toError : BackendFailure → Error
  | .notImplemented detail => ⟨.operationNotSupported, "not implemented: " ++ detail⟩
  | .unsupported detail => ⟨.operationNotSupported, "unsupported: " ++ detail⟩
  | .typeMismatch detail => ⟨.inputValidation, "type mismatch: " ++ detail⟩
  | .invalidValue detail => ⟨.inputValidation, "invalid value: " ++ detail⟩
  | .inputOutput detail => ⟨.operationFailed, "I/O error: " ++ detail⟩

end PathCall
