import PathCall.Arguments
import PathCall.Scope
import PathCall.Text.Word
import PathCall.Text.Case

/-!
Call stacks: the steps that an operation on an element amounts to, in the order of their calls.
The selectors of an address are resolved from the tail. The last token either names a part of the
element (`get_orders`) or identifies an element of what the token before it names; every earlier
step selects.
-/

namespace PathCall

abbrev Method (σ : Type) := Arguments → Act σ Json

abbrev MethodTable (σ : Type) := KeyMap String (Method σ)

structure CallStep (σ : Type) where
  method : Method σ
  name : String
  selectId : Option String

namespace CallStep

variable {σ : Type}

def resolve (table : MethodTable σ) (name : String) (selectId : Option String) :
    Except Error (CallStep σ) :=
  match KeyMap.find? name table with
  | some method => .ok ⟨method, name, selectId⟩
  | none => .error ⟨.operationNotSupported, "Operation '" ++ name ++ "' is not supported"⟩

def display (step : CallStep σ) : String :=
  match step.selectId with
  | some id => step.name ++ "(" ++ id ++ ")"
  | none => step.name

end CallStep

structure CallStack (σ : Type) where
  operation : String
  steps : List (CallStep σ)

namespace CallStack

variable {σ : Type}

def select : String := "select"

def partMethod (operation token : String) : String := operation ++ "_" ++ token

/-- Resolves selectors given from the tail, and returns the steps in the order of their calls.
The last step decides first, so of several failures the one nearest to the tail counts. -/
def resolveFromTail (table : MethodTable σ) (operation : String) :
    List String → Except Error (List (CallStep σ))
  | [] => .ok []
  | [token] => do
    let step ←
      if KeyMap.contains (partMethod operation token) table then
        CallStep.resolve table (partMethod operation token) none
      else CallStep.resolve table operation (some token)
    return [step]
  | token :: owner :: before =>
    if KeyMap.contains (partMethod operation token) table then do
      let step ← CallStep.resolve table (partMethod operation token) none
      return (← resolveFromTail table select (owner :: before)) ++ [step]
    else
      let method := partMethod operation (Text.sanitize owner)
      if KeyMap.contains method table then do
        let step ← CallStep.resolve table method (some token)
        return (← resolveFromTail table select before) ++ [step]
      else
        .error ⟨.operationNotSupported,
          "Can't find match for operation call stack '" ++ operation ++ "'"⟩

/-- The stack of an operation on the element that the selectors lead to. Without selectors it is
the operation itself. -/
def resolve (table : MethodTable σ) (operation : String) (selectors : List String) :
    Except Error (CallStack σ) := do
  let operation := Text.lowercase operation
  let steps ←
    match selectors with
    | [] => (CallStep.resolve table operation none).map fun step => [step]
    | selectors => resolveFromTail table operation selectors.reverse
  return ⟨operation, steps⟩

def executeSteps (kwargs : Kwargs) (callee : Option (Callee σ)) :
    Option Json → List (CallStep σ) → Act σ Json
  | previous, [] => pure (previous.getD .null)
  | previous, step :: steps => do
    let arguments : Arguments :=
      { kwargs := kwargs, selectId := step.selectId, selected := previous }
    let value ← Scope.run callee (some step.name) (step.method arguments)
    executeSteps kwargs callee (some value) steps

/-- Executes a stack: the value of its last step, or null when there is none. The first step that
fails ends it, and what earlier steps did stays done. Reserved names are dropped first. -/
def execute (stack : CallStack σ) (kwargs : Kwargs) (callee : Option (Callee σ)) : Act σ Json :=
  executeSteps kwargs.strip callee none stack.steps

def toJson (stack : CallStack σ) : Json :=
  .obj [
    ("operation", .str stack.operation),
    ("steps", .arr (stack.steps.map fun step =>
      .obj [
        ("method_name", .str step.name),
        ("select_id", step.selectId.elim .null .str)]))]

end CallStack

end PathCall
