import PathCall.Operation
import PathCall.Registry

/-!
Resources, the entry point of callers: an address bound to the protocol that serves it.
-/

namespace PathCall

structure Resource (Ω : Type) where
  locator : Locator
  protocol : Protocol Ω

namespace Resource

variable {Ω : Type}

def «open» (registry : Registry Ω) (address : String) : Act (World Ω) (Resource Ω) := do
  let locator ← Act.ofExcept (Locator.parse address)
  return ⟨locator, ← registry.open locator⟩

theorem open_of_inProcess {registry : Registry Ω} {address : String} {locator : Locator}
    (hlocator : Locator.parse address = .ok locator)
    (hfactory : registry.factory? locator = some Registry.inProcess) :
    Resource.open registry address = (do
      let path ← Act.ofExcept (AddressPath.parse locator.path)
      let target ← registry.instantiate path.entity
      return ⟨locator, InProcess.protocol ⟨path.entity, target, path.selectors⟩⟩) := by
  have hparsed : (Act.ofExcept (.ok locator) : Act (World Ω) Locator) = pure locator := rfl
  rw [Resource.open, hlocator, hparsed, pure_bind, Registry.open_of_inProcess hfactory]
  simp only [bind_assoc, pure_bind]

/-- Calls one of the supported operations, named in any letter case. -/
def call (resource : Resource Ω) (operation : String) (kwargs : Kwargs) :
    Act (World Ω) Json := do
  let operation ← Act.ofExcept (Operation.parse operation)
  resource.protocol.call operation.name kwargs

def callStack (resource : Resource Ω) (operation : String) :
    Act (World Ω) (CallStack (World Ω)) := do
  let operation ← Act.ofExcept (Operation.parse operation)
  resource.protocol.callStack operation.name

/-- Whether an operation is among the supported ones and resolves for the address. -/
def supportsOperation (resource : Resource Ω) (operation : String) : Act (World Ω) Bool :=
  match Operation.parse operation with
  | .ok operation => resource.protocol.hasOperation operation.name
  | .error _ => pure false

def supports (resource : Resource Ω) (world : World Ω) (feature : String) : Bool :=
  resource.protocol.supports world feature

/-- Only protocols that carry validators let them be seen or set. -/
def requireGuardSupport (resource : Resource Ω) (world : World Ω) : Except Error Unit :=
  if resource.supports world Features.accessControlValidator then .ok ()
  else
    .error ⟨.operationNotSupported,
      "Protocol '" ++ resource.locator.scheme ++ "' does not support access control validators"⟩

def guard? (resource : Resource Ω) (world : World Ω) : Except Error (Option (Validator Ω)) := do
  resource.requireGuardSupport world
  return resource.protocol.guard? world

def setGuard (resource : Resource Ω) (validator : Option (Validator Ω)) :
    Act (World Ω) Unit := do
  Act.ofExcept (resource.requireGuardSupport (← Act.get))
  resource.protocol.setGuard validator

def callee (resource : Resource Ω) : Option (Callee (World Ω)) := resource.protocol.callee

def setCallee (resource : Resource Ω) (callee : Option (Callee (World Ω))) : Resource Ω :=
  { resource with protocol := resource.protocol.setCallee callee }

def describe (resource : Resource Ω) : String :=
  "Resource \x7b url: " ++ Text.quoted resource.locator.raw ++ ", .. \x7d"

end Resource

end PathCall
