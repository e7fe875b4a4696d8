import PathCall.Act
import PathCall.KeyMap
import PathCall.Text.Quoted

/-!
Scopes around the parts of a call. A callee may have hooks, which are called by name when a scope
opens and when it closes; a scope closes on every way out of its body. What a hook returns, or that
it failed, is dropped.
-/

namespace PathCall

structure ExceptionInfo where
  kind : String
  value : String
  deriving DecidableEq, Inhabited

namespace ExceptionInfo

def ofError (error : Error) : ExceptionInfo := ⟨error.kind.name, error.message⟩

def ofPanic : ExceptionInfo := ⟨"Panic", "call step panicked"⟩

end ExceptionInfo

/-- Receives the hooks of scopes. Only hooks that it has are called. Which these are does not change
over time: callees that answer the question anew each time are left out. -/
structure Callee (σ : Type) where
  hasHook : String → Bool
  callHook : String → Option ExceptionInfo → Act σ Unit

abbrev Hooks (σ : Type) := KeyMap String (Option ExceptionInfo → Act σ Unit)

namespace Hooks

variable {σ : Type}

def callee (hooks : Hooks σ) : Callee σ where
  hasHook name := KeyMap.contains name hooks
  callHook name exception :=
    match KeyMap.find? name hooks with
    | some hook => hook exception
    | none => pure ()

def describe (hooks : Hooks σ) : String :=
  "Hooks \x7b hooks: [" ++ ", ".intercalate ((KeyMap.sortedKeys hooks).map Text.quoted) ++ "] \x7d"

end Hooks

namespace Scope

variable {σ α : Type}

/-- The hook of a named scope, or the general one of a scope without a name. -/
def hookName (moment : String) : Option String → String
  | some base => moment ++ "_" ++ base
  | none => "_" ++ moment ++ "_call"

/-- Calls a hook if the callee has it, and drops how that ends. -/
def fire (callee : Option (Callee σ)) (name : String) (exception : Option ExceptionInfo)
    (unwinding : Bool) (state : σ) : σ :=
  match callee with
  | none => state
  | some callee =>
    if callee.hasHook name then (callee.callHook name exception unwinding state).2 else state

/-- Runs a body between the opening and the closing hook. `recorded` says which failure the scope
itself knows about when it closes. Without one it takes any panic that is passing for its own. -/
def around (callee : Option (Callee σ)) (base : Option String)
    (recorded : Outcome α → Option ExceptionInfo) (body : Act σ α) : Act σ α :=
  fun unwinding state =>
    let state := fire callee (hookName "pre" base) none unwinding state
    let (outcome, state) := body unwinding state
    let unwindingNow := unwinding || outcome matches .panic _
    let exception :=
      (recorded outcome).or (if unwindingNow then some ExceptionInfo.ofPanic else none)
    (outcome, fire callee (hookName "post" base) exception unwindingNow state)

/-- Runs a body in a scope of its own, which records the error of the body. -/
def run (callee : Option (Callee σ)) (base : Option String) (body : Act σ α) : Act σ α :=
  around callee base
    (fun
      | .fail error => some (.ofError error)
      | _ => none)
    body

/-- Runs a body in a scope in which the errors were recorded beforehand; the last one counts. -/
def runRecorded (callee : Option (Callee σ)) (base : Option String) (errors : List Error)
    (body : Act σ α) : Act σ α :=
  around callee base (fun _ => errors.getLast?.map .ofError) body

end Scope

end PathCall
