import PathCall.Error
import PathCall.Features

/-!
Lists of operations that are denied. A list never holds a name twice; the first occurrence of a
name decides about its place.
-/

namespace PathCall

abbrev DenyList := List String

namespace DenyList

def features {σ : Type} : Features σ := Features.setFlag [] Features.blacklisting true

/-- Puts a name at the end unless the list has it. -/
def deny (operation : String) (list : DenyList) : DenyList :=
  if list.contains operation then list else list ++ [operation]

def ofNames (names : List String) : DenyList :=
  names.foldl (fun list name => deny name list) []

def namesOf? : Json → Option (List String)
  | .arr items => items.mapM Json.text?
  | _ => none

def ofJson (value : Json) : Except Error DenyList :=
  match namesOf? value with
  | some names => .ok (ofNames names)
  | none => .error ⟨.inputValidation, "List of blacklisted operations given is invalid"⟩

def validate (list : DenyList) (operation : String) : Except Error Unit :=
  if list.contains operation then
    .error ⟨.accessDenied, "Operation '" ++ operation ++ "' is blacklisted"⟩
  else .ok ()

def configShape : Json.RecordShape (List String) where
  title := "struct ValidatorConfig"
  fields := ["blacklisted_operations"]
  value := Json.readTexts
  absent := some []
  closed := true

/-- The names in a configuration: a record whose only field may be left out. -/
def configReader : Json.Reader (List String) := fun text => do
  let (values, rest) ← configShape.read text
  .ok (values.head?.getD [], rest)

def parseConfig (text : String) : Except Error (List String) :=
  Error.ofDecoding (Json.decode configReader text)

def load (text : String) : Except Error DenyList := (parseConfig text).map ofNames

inductive Action where
  | replace (names : List String)
  | set (value : Json)
  | deny (operation : String)

/-- What an action answers and the list after it. A value that is no array of texts changes
nothing. -/
def apply (list : DenyList) : Action → Except Error Unit × DenyList
  | .replace names => (.ok (), ofNames names)
  | .set value =>
    match ofJson value with
    | .ok replaced => (.ok (), replaced)
    | .error error => (.error error, list)
  | .deny operation => (.ok (), deny operation list)

def run (list : DenyList) (actions : List Action) : DenyList :=
  actions.foldl (fun list action => (list.apply action).2) list

end DenyList

end PathCall
