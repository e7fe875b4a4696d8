import PathCall.Address.Locator
import PathCall.Instance

/-!
Protocols route an address to an entity instance: they resolve operations into call stacks and run
them with a callee of their own.
-/

namespace PathCall

structure Protocol (Ω : Type) where
  supports : World Ω → String → Bool
  callStack : String → Act (World Ω) (CallStack (World Ω))
  guard? : World Ω → Option (Validator Ω) := fun _ => none
  setGuard : Option (Validator Ω) → Act (World Ω) Unit := fun _ =>
    Act.fail ⟨.operationNotSupported, "Protocol does not support access control validators"⟩
  /-- Whether the protocol remembers a callee that it is given. -/
  keepsCallee : Bool
  callee : Option (Callee (World Ω)) := none

namespace Protocol

variable {Ω : Type}

def setCallee (protocol : Protocol Ω) (callee : Option (Callee (World Ω))) : Protocol Ω :=
  if protocol.keepsCallee then { protocol with callee := callee } else protocol

def call (protocol : Protocol Ω) (operation : String) (kwargs : Kwargs) :
    Act (World Ω) Json := do
  let stack ← protocol.callStack operation
  stack.execute kwargs protocol.callee

/-- Whether an operation resolves. The question resolves it and drops the stack. -/
def hasOperation (protocol : Protocol Ω) (operation : String) : Act (World Ω) Bool := do
  let resolved ← Act.attempt (protocol.callStack operation)
  return resolved matches .ok _

end Protocol

abbrev Directory (Ω : Type) := KeyMap EntityId (Act (World Ω) (Instance Ω))

def Directory.instantiate {Ω : Type} (directory : Directory Ω) (id : EntityId) :
    Act (World Ω) (Instance Ω) :=
  match KeyMap.find? id directory with
  | some factory => factory
  | none =>
    Act.fail ⟨.operationNotSupported, "CRUD entity '" ++ id.display ++ "' is not registered"⟩

/-- What a registry is to the factories of protocols that it hands itself to: they may make
instances, and open what other schemes select. A registry holds such factories and so cannot be
their argument itself; copies that a factory takes and changes for itself are left out. -/
structure RegistryView (Ω : Type) where
  hasEntity : EntityId → Bool
  entityIds : List EntityId
  instantiate : EntityId → Act (World Ω) (Instance Ω)
  «open» : Locator → Act (World Ω) (Protocol Ω)
  description : String

/-- The protocol of entities in the process. The path of an address names the entity and holds the
selectors. -/
structure InProcess (Ω : Type) where
  entity : EntityId
  target : Instance Ω
  selectors : List String

namespace InProcess

variable {Ω : Type}

def features : Features (World Ω) := Features.setFlag [] Features.accessControlValidator true

def supports (opened : InProcess Ω) (world : World Ω) (feature : String) : Bool :=
  if KeyMap.contains feature (features (Ω := Ω)) then Features.supports features world feature
  else opened.target.supports world feature

def callStack (opened : InProcess Ω) (operation : String) : Act (World Ω) (CallStack (World Ω)) :=
  opened.target.callStack operation opened.selectors

def protocol (opened : InProcess Ω) : Protocol Ω where
  supports := opened.supports
  callStack := opened.callStack
  guard? := opened.target.guard?
  setGuard := opened.target.setGuard
  keepsCallee := true

def «open» (locator : Locator) (registry : RegistryView Ω) : Act (World Ω) (InProcess Ω) := do
  let path ← Act.ofExcept (AddressPath.parse locator.path)
  let target ← registry.instantiate path.entity
  return ⟨path.entity, target, path.selectors⟩

end InProcess

end PathCall
