import PathCall.CallStack
import PathCall.Features
import PathCall.World

/-!
Entities and their instances. An entity class lists its methods once; an instance has these
methods bound to its place in the world, and the features that the class declares.
-/

namespace PathCall

/-- What a method knows of the instance that it is called on. -/
structure Receiver (Ω : Type) where
  place : Nat
  hasMethod : String → Bool
  features : Features (World Ω)
  /-- Names that `filteredKwargs` drops beside the reserved ones. -/
  ownNames : List String

namespace Receiver

variable {Ω α : Type}

def supports (self : Receiver Ω) (world : World Ω) (feature : String) : Bool :=
  Features.supports self.features world feature

def filteredKwargs (self : Receiver Ω) (arguments : Arguments) : Kwargs :=
  arguments.filtered self.ownNames

/-- Runs a body under guard. While validation is not supported, nobody is allowed; otherwise the
attached validator is asked. -/
def restricted (self : Receiver Ω) (operation : String) (arguments : Arguments)
    (body : Act (World Ω) α) : Act (World Ω) α := do
  let world ← Act.get
  if !self.supports world Features.accessControlValidation then Act.fail Error.accessDenied
  else
    match world.guard? self.place with
    | some validator => do
      validator.validate self.hasMethod operation arguments.kwargs
      body
    | none => body

end Receiver

/-- An entity type: its methods by name, and what it says about its instances. -/
structure EntityClass (Ω : Type) where
  methods : KeyMap String (Receiver Ω → Method (World Ω))
  ownNames : List String := []
  /-- Declares features beside the built-in ones, and may replace those. -/
  declare : Features (World Ω) → Features (World Ω) := id
  /-- Changes a stack of one of its instances. What it does to the world on the way, calls of
  methods included, is its own affair. -/
  optimize : CallStack (World Ω) → Act (World Ω) (CallStack (World Ω)) := pure

/-- An instance of a class. Things that answer to the same interface without a class, and that may
claim methods which they do not bind, are left out. -/
structure Instance (Ω : Type) where
  receiver : Receiver Ω
  methods : MethodTable (World Ω)
  optimize : CallStack (World Ω) → Act (World Ω) (CallStack (World Ω))

namespace EntityClass

variable {Ω : Type}

/-- The features of the instance at a place. Validation is supported while something guards it,
unless the class declares otherwise. -/
def featuresAt (entity : EntityClass Ω) (place : Nat) : Features (World Ω) :=
  entity.declare
    (Features.setProbe [] Features.accessControlValidation fun world =>
      (world.guard? place).isSome)

def instanceAt (entity : EntityClass Ω) (place : Nat) : Instance Ω :=
  let receiver : Receiver Ω := {
    place := place
    hasMethod := fun name => KeyMap.contains name entity.methods
    features := entity.featuresAt place
    ownNames := entity.ownNames }
  { receiver := receiver
    methods := entity.methods.map fun entry => (entry.1, entry.2 receiver)
    optimize := entity.optimize }

def create (entity : EntityClass Ω) : Act (World Ω) (Instance Ω) := do
  return entity.instanceAt (← World.addInstance)

/-- An instance has the place that is made for it, and is unguarded at first. -/
theorem create_apply (entity : EntityClass Ω) (unwinding : Bool) (before : World Ω) :
    entity.create unwinding before =
      (.ok (entity.instanceAt before.guards.length),
        { before with guards := before.guards ++ [none] }) := rfl

end EntityClass

namespace Instance

variable {Ω : Type}

def supports (target : Instance Ω) (world : World Ω) (feature : String) : Bool :=
  target.receiver.supports world feature

def hasMethod (target : Instance Ω) (name : String) : Bool := KeyMap.contains name target.methods

def guard? (target : Instance Ω) (world : World Ω) : Option (Validator Ω) :=
  world.guard? target.receiver.place

def setGuard (target : Instance Ω) (validator : Option (Validator Ω)) : Act (World Ω) Unit :=
  Act.modify (World.setGuard target.receiver.place validator)

/-- The stack of an operation on an element of the instance. An instance that supports it may
change what the selectors resolve to. -/
def callStack (target : Instance Ω) (operation : String) (selectors : List String) :
    Act (World Ω) (CallStack (World Ω)) := do
  let stack ← Act.ofExcept (CallStack.resolve target.methods operation selectors)
  if target.supports (← Act.get) Features.callStackOptimization then target.optimize stack
  else return stack

end Instance

end PathCall
