import PathCall.Error
import PathCall.Text.Case

/-!
The seven operations that a caller may request.
-/

namespace PathCall

inductive Operation where
  | create
  | delete
  | execute
  | get
  | isValid
  | update
  | upsert
  deriving DecidableEq, Inhabited

namespace Operation

def all : List Operation := [.create, .delete, .execute, .get, .isValid, .update, .upsert]

def name : Operation → String
  | .create => "create"
  | .delete => "delete"
  | .execute => "execute"
  | .get => "get"
  | .isValid => "is_valid"
  | .update => "update"
  | .upsert => "upsert"

def ofName? (name : String) : Option Operation := all.find? (·.name == name)

def parse (text : String) : Except Error Operation :=
  match all.find? fun operation => Text.sameIgnoringAsciiCase operation.name text with
  | some operation => .ok operation
  | none =>
    .error ⟨.operationNotSupported, "Operation '" ++ Text.lowercase text ++ "' is not supported"⟩

/-- The wire form is the exact name, alone or with the payload null. -/
def reader : Json.Reader Operation :=
  Json.readVariant (all.map name) (fun variant => .ok ((ofName? variant).getD default))
    fun variant text => do
      let (_, rest) ← Json.readUnit text
      .ok ((ofName? variant).getD default, rest)

/-- Names are in lower case. -/
theorem lowercase_name (operation : Operation) :
    Text.lowercase operation.name = operation.name := by
  cases operation <;> rfl

end Operation

end PathCall
