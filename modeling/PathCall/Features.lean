import PathCall.KeyMap

/-!
Named features that something may support. A feature is a fixed flag or a probe, which looks at
the state of the world whenever it is asked.
-/

namespace PathCall

inductive Feature (σ : Type) where
  | flag (value : Bool)
  | probe (read : σ → Bool)

def Feature.holds {σ : Type} (state : σ) : Feature σ → Bool
  | .flag value => value
  | .probe read => read state

abbrev Features (σ : Type) := KeyMap String (Feature σ)

namespace Features

/-- Holds while a validator is attached to an entity instance. -/
def accessControlValidation : String := "access_control_validation"

/-- Holds for protocols that carry a validator. -/
def accessControlValidator : String := "access_control_validator"

def callStackOptimization : String := "call_stack_optimization"

def blacklisting : String := "blacklisting"

variable {σ : Type}

def supports (features : Features σ) (state : σ) (name : String) : Bool :=
  match KeyMap.find? name features with
  | some feature => feature.holds state
  | none => false

def setFlag (features : Features σ) (name : String) (value : Bool) : Features σ :=
  KeyMap.insert name (.flag value) features

def setProbe (features : Features σ) (name : String) (read : σ → Bool) : Features σ :=
  KeyMap.insert name (.probe read) features

/-- Feature sets beside each other. Every handle has a set of its own; the probes of all of them
look at one state. -/
structure Shelf (σ : Type) where
  state : σ
  handles : List (Features σ)

namespace Shelf

def start (state : σ) : Shelf σ := ⟨state, [[]]⟩

inductive Action (σ : Type) where
  | setFlag (handle : Nat) (name : String) (value : Bool)
  | setProbe (handle : Nat) (name : String) (read : σ → Bool)
  | change (next : σ → σ)
  | clone (handle : Nat)

def apply (shelf : Shelf σ) : Action σ → Shelf σ
  | .setFlag handle name value =>
    { shelf with handles := shelf.handles.modify handle (·.setFlag name value) }
  | .setProbe handle name read =>
    { shelf with handles := shelf.handles.modify handle (·.setProbe name read) }
  | .change next => { shelf with state := next shelf.state }
  | .clone handle => { shelf with handles := shelf.handles ++ [shelf.handles[handle]?.getD []] }

def run (shelf : Shelf σ) (actions : List (Action σ)) : Shelf σ := actions.foldl apply shelf

def contains (shelf : Shelf σ) (handle : Nat) (name : String) : Bool :=
  KeyMap.contains name (shelf.handles[handle]?.getD [])

def supports (shelf : Shelf σ) (handle : Nat) (name : String) : Bool :=
  Features.supports (shelf.handles[handle]?.getD []) shelf.state name

end Shelf

end Features

abbrev FeatureShelf := Features.Shelf (List Bool)

namespace FeatureShelf

def start (count : Nat) : FeatureShelf := Features.Shelf.start (List.replicate count false)

def readCell (cell : Nat) (cells : List Bool) : Bool := cells[cell]?.getD false

inductive Action where
  | setFlag (handle : Nat) (name : String) (value : Bool)
  | setProbe (handle : Nat) (name : String) (cell : Nat)
  | setCell (cell : Nat) (value : Bool)
  | clone (handle : Nat)

def Action.onCells : Action → Features.Shelf.Action (List Bool)
  | .setFlag handle name value => .setFlag handle name value
  | .setProbe handle name cell => .setProbe handle name (readCell cell)
  | .setCell cell value => .change (·.set cell value)
  | .clone handle => .clone handle

def apply (shelf : FeatureShelf) (action : Action) : FeatureShelf :=
  Features.Shelf.apply shelf action.onCells

end FeatureShelf

end PathCall
