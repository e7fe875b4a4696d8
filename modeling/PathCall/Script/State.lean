import PathCall.World

/-!
What scripted entities, validators and hooks remember: a log of what happened, and for each entity
a counter, a toggle and a store of objects.
-/

namespace PathCall.Script

inductive Event where
  | note (text : String)
  | step (method : String)
  | hook (name : String) (exception : Option ExceptionInfo)
  | validate (operation : String) (context : Kwargs) (hasOperation : Bool)

structure EntityState where
  counter : Nat := 0
  toggled : Bool := false
  store : KeyMap String Json := []

structure State where
  log : List Event := []
  entities : List EntityState := []

namespace State

def entity (state : State) (place : Nat) : EntityState := state.entities[place]?.getD {}

def setEntity (place : Nat) (entity : EntityState) (state : State) : State :=
  { state with entities := state.entities.set place entity }

end State

abbrev Effect (α : Type) := Act (World State) α

def record (event : Event) : Act State Unit :=
  Act.modify fun state => { state with log := state.log ++ [event] }

def panicReason : String := "scripted panic"

inductive HookOutcome where
  | ok
  | fail (error : Error)
  | panic

def HookOutcome.run {σ : Type} : HookOutcome → Act σ Unit
  | .ok => pure ()
  | .fail error => Act.fail error
  | .panic => Act.panic panicReason

/-- A callee given by data: some hooks by name, or every hook but some. -/
inductive CalleeScript where
  | hooks (named : List (String × HookOutcome))
  | every (outcome : HookOutcome) (except : List String)

namespace CalleeScript

def hook (name : String) (outcome : HookOutcome) (exception : Option ExceptionInfo) :
    Effect Unit := do
  World.onApp (record (.hook name exception))
  outcome.run

def namedHooks (named : List (String × HookOutcome)) : Hooks (World State) :=
  KeyMap.ofList (named.map fun entry => (entry.1, hook entry.1 entry.2))

def callee : CalleeScript → Callee (World State)
  | .hooks named => (namedHooks named).callee
  | .every outcome except => {
      hasHook := fun name => !except.contains name
      callHook := fun name exception => hook name outcome exception }

/-- Only callees made of named hooks describe themselves. -/
def describe? : CalleeScript → Option String
  | .hooks named => some (namedHooks named).describe
  | .every _ _ => none

end CalleeScript

/-- A validator that logs what it is asked and wants a key among the arguments. -/
def keyValidator (key : String) : Validator State :=
  .custom fun hasMethod operation kwargs => do
    record (.validate operation kwargs (hasMethod operation))
    if KeyMap.contains key kwargs then pure ()
    else Act.fail ⟨.accessDenied, "'" ++ key ++ "' required"⟩

inductive Body where
  | ok
  | fail (error : Error)
  | panic
  | nested (base : Option String) (body : Body)
  deriving Inhabited

/-- Runs a body, which logs that it runs and that it comes back from a nested scope. A nested
scope is left by a panic without that. -/
def Body.run (callee : Option (Callee (World State))) : Body → Effect Json
  | .ok => do
    World.onApp (record (.note "body"))
    return .str "done"
  | .fail error => do
    World.onApp (record (.note "body"))
    Act.fail error
  | .panic => do
    World.onApp (record (.note "body"))
    Act.panic panicReason
  | .nested base body => do
    World.onApp (record (.note "body"))
    let result ← Act.attempt (Scope.run callee base (Body.run callee body))
    World.onApp (record (.note "after nested"))
    Act.ofExcept result

end PathCall.Script
