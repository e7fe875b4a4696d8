import PathCall.Protocol

/-!
Registries: the factories of entity instances by entity, and the factories of protocols by the key
of their scheme. A registry is a value. Who keeps one keeps what it held at that moment, whatever is
registered later.
-/

namespace PathCall

/-- Opens the protocol for an address, with the registry at hand. -/
abbrev ProtocolFactory (Ω : Type) := Locator → RegistryView Ω → Act (World Ω) (Protocol Ω)

structure Registry (Ω : Type) where
  entities : Directory Ω
  protocols : KeyMap String (ProtocolFactory Ω)

namespace Registry

variable {Ω : Type}

/-- The key of a scheme: in lower case, with underscores for hyphens. -/
def protocolKey (scheme : String) : String :=
  String.ofList (Locator.underscored (Text.lowercase scheme).toList)

def registerEntity (registry : Registry Ω) (id : EntityId)
    (factory : Act (World Ω) (Instance Ω)) : Registry Ω :=
  { registry with entities := KeyMap.insert id factory registry.entities }

def registerProtocol (registry : Registry Ω) (scheme : String) (factory : ProtocolFactory Ω) :
    Registry Ω :=
  { registry with protocols := KeyMap.insert (protocolKey scheme) factory registry.protocols }

def inProcess : ProtocolFactory Ω := fun locator registry => do
  return (← InProcess.open locator registry).protocol

def start : Registry Ω := registerProtocol ⟨[], []⟩ Locator.defaultScheme inProcess

def hasEntity (registry : Registry Ω) (id : EntityId) : Bool :=
  KeyMap.contains id registry.entities

def entityIds (registry : Registry Ω) : List EntityId := KeyMap.sortedKeys registry.entities

def instantiate (registry : Registry Ω) (id : EntityId) : Act (World Ω) (Instance Ω) :=
  registry.entities.instantiate id

private def listed (items : List String) : String := "[" ++ ", ".intercalate items ++ "]"

private def describeId (id : EntityId) : String :=
  "EntityId \x7b module: " ++ Text.quoted id.module ++ ", name: " ++ Text.quoted id.name ++
    " \x7d"

def describe (registry : Registry Ω) : String :=
  "Registry \x7b entities: " ++ listed (registry.entityIds.map describeId) ++
    ", protocols: " ++ listed ((KeyMap.sortedKeys registry.protocols).map Text.quoted) ++ " \x7d"

def factory? (registry : Registry Ω) (locator : Locator) : Option (ProtocolFactory Ω) :=
  KeyMap.find? locator.protocolName registry.protocols

/-- The registry as it is handed to factories, which open further addresses by `opening`. -/
def view (registry : Registry Ω) (opening : Locator → Act (World Ω) (Protocol Ω)) :
    RegistryView Ω where
  hasEntity := registry.hasEntity
  entityIds := registry.entityIds
  instantiate := registry.instantiate
  «open» := opening
  description := registry.describe

def stackOverflow : String := "stack overflow"

/-- Opens the protocol that the scheme of the address selects. Its factory may open further
addresses, down to some depth, below which the stack overflows. -/
def openWithin (registry : Registry Ω) :
    (depth : Nat) → Locator → Act (World Ω) (Protocol Ω)
  | 0, _ => Act.panic stackOverflow
  | depth + 1, locator =>
    match registry.factory? locator with
    | some factory => factory locator (registry.view (registry.openWithin depth))
    | none =>
      Act.fail ⟨.operationFailed, "CRUD protocol '" ++ locator.scheme ++ "' is not supported"⟩

/-- How deep openings may nest. The true number is a matter of the machine. -/
def nestingLimit : Nat := 1000

def «open» (registry : Registry Ω) (locator : Locator) : Act (World Ω) (Protocol Ω) :=
  registry.openWithin nestingLimit locator

theorem openWithin_of_some {registry : Registry Ω} {locator : Locator}
    {factory : ProtocolFactory Ω} (h : registry.factory? locator = some factory) (depth : Nat) :
    registry.openWithin (depth + 1) locator =
      factory locator (registry.view (registry.openWithin depth)) := by
  rw [openWithin, h]

theorem openWithin_of_none {registry : Registry Ω} {locator : Locator}
    (h : registry.factory? locator = none) (depth : Nat) :
    registry.openWithin (depth + 1) locator = Act.fail ⟨.operationFailed,
      "CRUD protocol '" ++ locator.scheme ++ "' is not supported"⟩ := by
  rw [openWithin, h]

/-- Opening in the process nests no further. -/
theorem open_of_inProcess {registry : Registry Ω} {locator : Locator}
    (h : registry.factory? locator = some inProcess) :
    registry.open locator = (do
      let path ← Act.ofExcept (AddressPath.parse locator.path)
      let target ← registry.instantiate path.entity
      return InProcess.protocol ⟨path.entity, target, path.selectors⟩) := by
  have hopen : registry.open locator = _ := openWithin_of_some h (nestingLimit - 1)
  rw [hopen, inProcess, InProcess.open]
  simp only [view, bind_assoc, pure_bind]

end Registry

/-- Registries beside each other. The first one is shared by the whole process. -/
abbrev RegistryShelf (Ω : Type) := List (Registry Ω)

namespace RegistryShelf

variable {Ω : Type}

def start : RegistryShelf Ω := [Registry.start]

inductive Action (Ω : Type) where
  | registerEntity (place : Nat) (id : EntityId) (factory : Act (World Ω) (Instance Ω))
  | registerProtocol (place : Nat) (scheme : String) (factory : ProtocolFactory Ω)
  /-- A new registry that starts as a copy, as every snapshot of the shared one does. -/
  | clone (place : Nat)
  | create

def apply (shelf : RegistryShelf Ω) : Action Ω → RegistryShelf Ω
  | .registerEntity place id factory => shelf.modify place (·.registerEntity id factory)
  | .registerProtocol place scheme factory =>
    shelf.modify place (·.registerProtocol scheme factory)
  | .clone place => shelf ++ [(shelf[place]?).getD Registry.start]
  | .create => shelf ++ [Registry.start]

def run (shelf : RegistryShelf Ω) (actions : List (Action Ω)) : RegistryShelf Ω :=
  actions.foldl apply shelf

end RegistryShelf

end PathCall
