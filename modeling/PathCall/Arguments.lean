import PathCall.Filter.Parser

/-!
What a call step is called with: the caller's named arguments, the identifier that the address
gives to the step, and the value of the step before. Argument names that begin with an underscore
are reserved: they never reach an entity from the caller.
-/

namespace PathCall

abbrev Kwargs := KeyMap String Json

/-- Whether a name belongs to the library and not to callers. -/
def isReservedName (name : String) : Bool := name.toList.head? == some '_'

/-- The arguments that a caller may hand to an entity. -/
def Kwargs.strip (kwargs : Kwargs) : Kwargs :=
  kwargs.filter fun entry => !isReservedName entry.1

structure Arguments where
  kwargs : Kwargs
  selectId : Option String := none
  /-- What the step before returned; absent at the first step. -/
  selected : Option Json := none
  deriving Inhabited

namespace Arguments

private def invalid {α : Type} (message : String) : Except Error α :=
  .error ⟨.inputValidation, message⟩

def get? (arguments : Arguments) (key : String) : Option Json :=
  KeyMap.find? key arguments.kwargs

def requireSelectId (arguments : Arguments) : Except Error String :=
  match arguments.selectId with
  | some id => .ok id
  | none => invalid "No element identifier given"

def requireSelected (arguments : Arguments) : Except Error Json :=
  match arguments.selected with
  | some value => .ok value
  | none => invalid "No element selected"

def requireText (arguments : Arguments) (key : String) : Except Error String :=
  match arguments.get? key with
  | some (.str text) => .ok text
  | some _ => invalid ("Argument '" ++ key ++ "' must be a string")
  | none => invalid ("Argument '" ++ key ++ "' is missing")

def filtered (arguments : Arguments) (names : List String) : Kwargs :=
  arguments.kwargs.filter fun entry => !isReservedName entry.1 && !names.contains entry.1

/-- A parser of the filter document under `key`, if there is one. -/
def filter (arguments : Arguments) (key : String) : Except Error (Option Filter.Parser) :=
  match arguments.get? key with
  | none | some .null => .ok none
  | some (.str document) => (Filter.Parser.create .tree document).map some
  | some _ => invalid "Filter given is invalid"

end Arguments

end PathCall
