import PathCall.Instance

/-!
Guarded operations. What a guard decides is described for all bodies at once, so that it can be
said of a body that it was not run. The main theorem tells which classes fail closed, over every
way in which validators come and go: exactly those whose instances never claim validation while
nothing guards them. A class that declares the feature by itself is not among them.
-/

namespace PathCall

namespace World

variable {Ω : Type}

inductive Change (Ω : Type) where
  | addInstance
  | setGuard (place : Nat) (validator : Option (Validator Ω))
  | addDenyList (list : DenyList)
  | setDenyList (place : Nat) (list : DenyList)
  | app (change : Ω → Ω)

def Change.apply (world : World Ω) : Change Ω → World Ω
  | .addInstance => (World.addInstance false world).2
  | .setGuard place validator => world.setGuard place validator
  | .addDenyList list => (World.addDenyList list false world).2
  | .setDenyList place list => world.setDenyList place list
  | .app change => { world with app := change world.app }

/-- What is attached to a place after a change, when `attached` was before. -/
def Change.attached (place : Nat) (attached : Option (Validator Ω)) :
    Change Ω → Option (Validator Ω)
  | .setGuard other validator => if other = place then validator else attached
  | .addInstance | .addDenyList _ | .setDenyList _ _ | .app _ => attached

def run (world : World Ω) (changes : List (Change Ω)) : World Ω :=
  changes.foldl Change.apply world

def lastAttached (place : Nat) (changes : List (Change Ω)) : Option (Validator Ω) :=
  changes.foldl (Change.attached place) none

theorem guard?_setGuard (world : World Ω) {place : Nat} (h : place < world.guards.length)
    (other : Nat) (validator : Option (Validator Ω)) :
    (world.setGuard other validator).guard? place =
      if other = place then validator else world.guard? place := by
  simp only [guard?, setGuard, List.getElem?_set]
  split
  · simp [‹other = place›, h]
  · rfl

theorem guard?_addInstance (world : World Ω) {place : Nat} (h : place < world.guards.length)
    (unwinding : Bool) : (addInstance unwinding world).2.guard? place = world.guard? place := by
  simp only [guard?, addInstance, List.getElem?_append_left h]

theorem Change.length_guards_le (world : World Ω) (change : Change Ω) :
    world.guards.length ≤ (change.apply world).guards.length := by
  cases change <;> simp [apply, World.addInstance, World.setGuard, World.addDenyList,
    World.setDenyList]

/-- A change guards a place as its effect on the place says. -/
theorem Change.guard?_apply (world : World Ω) (change : Change Ω) {place : Nat}
    (h : place < world.guards.length) :
    (change.apply world).guard? place = change.attached place (world.guard? place) := by
  cases change with
  | addInstance => exact guard?_addInstance world h false
  | setGuard other validator => exact guard?_setGuard world h other validator
  | addDenyList list => rfl
  | setDenyList other list => rfl
  | app change => rfl

theorem guard?_run (world : World Ω) (changes : List (Change Ω)) {place : Nat}
    (h : place < world.guards.length) :
    (world.run changes).guard? place =
      changes.foldl (Change.attached place) (world.guard? place) := by
  induction changes generalizing world with
  | nil => rfl
  | cons change changes ih =>
    have hlength : place < (change.apply world).guards.length :=
      Nat.lt_of_lt_of_le h (change.length_guards_le world)
    have hrest := ih (change.apply world) hlength
    rw [change.guard?_apply world h] at hrest
    exact hrest

end World

namespace Receiver

variable {Ω : Type}

/-- What the guard of an operation says, whatever the operation would do: the body runs in the
world that the guard leaves, or the operation ends with the guard and without the body. -/
def Decides (self : Receiver Ω) (operation : String) (arguments : Arguments) (unwinding : Bool)
    (world : World Ω) (verdict : Outcome Unit × World Ω) : Prop :=
  ∀ (α : Type) (body : Act (World Ω) α),
    self.restricted operation arguments body unwinding world =
      match verdict with
      | (.ok _, between) => body unwinding between
      | (.fail error, after) => (.fail error, after)
      | (.panic reason, after) => (.panic reason, after)

variable {self : Receiver Ω} {operation : String} {arguments : Arguments} {unwinding : Bool}
  {world : World Ω}

/-- A guard says one thing only. -/
theorem Decides.unique {verdict other : Outcome Unit × World Ω}
    (h : self.Decides operation arguments unwinding world verdict)
    (hother : self.Decides operation arguments unwinding world other) : verdict = other := by
  have heq := (h Unit (pure ())).symm.trans (hother Unit (pure ()))
  obtain ⟨outcome, after⟩ := verdict
  obtain ⟨otherOutcome, otherAfter⟩ := other
  cases outcome <;> cases otherOutcome <;> simp_all

theorem decides_accessDenied (h : self.supports world Features.accessControlValidation = false) :
    self.Decides operation arguments unwinding world (.fail Error.accessDenied, world) := by
  intro α body
  simp [restricted, Act.bind_apply, h]

/-- Who claims validation and has no validator runs everything. -/
theorem decides_ok (h : self.supports world Features.accessControlValidation = true)
    (hguard : world.guard? self.place = none) :
    self.Decides operation arguments unwinding world (.ok (), world) := by
  intro α body
  simp [restricted, Act.bind_apply, h, hguard]

theorem decides_validate (h : self.supports world Features.accessControlValidation = true)
    {validator : Validator Ω} (hguard : world.guard? self.place = some validator) :
    self.Decides operation arguments unwinding world
      (validator.validate self.hasMethod operation arguments.kwargs unwinding world) := by
  intro α body
  simp only [restricted, Act.bind_apply, Act.get_apply, h, hguard, Bool.not_true,
    Bool.false_eq_true, if_false]
  obtain ⟨outcome, after⟩ :=
    validator.validate self.hasMethod operation arguments.kwargs unwinding world
  cases outcome <;> rfl

/-- At a moment at which `attached` guards the receiver, bodies run only after that validator
allowed the operation, and without one access is denied and nothing happens. -/
def FailsClosedAt (self : Receiver Ω) (attached : Option (Validator Ω)) (unwinding : Bool)
    (world : World Ω) : Prop :=
  ∀ (operation : String) (arguments : Arguments),
    ∃ verdict, self.Decides operation arguments unwinding world verdict ∧
      (∀ between, verdict = (.ok (), between) →
        ∃ validator, attached = some validator ∧
          validator.validate self.hasMethod operation arguments.kwargs unwinding world =
            (.ok (), between)) ∧
      (attached = none → verdict = (.fail Error.accessDenied, world))

theorem failsClosedAt_iff {attached : Option (Validator Ω)}
    (hguard : world.guard? self.place = attached) :
    self.FailsClosedAt attached unwinding world ↔
      (attached = none → self.supports world Features.accessControlValidation = false) := by
  cases hsupports : self.supports world Features.accessControlValidation with
  | false =>
    refine ⟨fun _ _ => rfl, fun _ operation arguments => ?_⟩
    refine ⟨_, decides_accessDenied hsupports, ?_, fun _ => rfl⟩
    intro between hverdict
    cases hverdict
  | true =>
    cases attached with
    | none =>
      -- The body of every operation would run here.
      constructor
      · intro hclosed _
        obtain ⟨verdict, hdecides, -, hdenied⟩ := hclosed "" ⟨[], none, none⟩
        have hrun := hdecides.unique (decides_ok hsupports hguard)
        rw [hdenied rfl] at hrun
        cases hrun
      · intro himpossible
        cases himpossible rfl
    | some validator =>
      refine ⟨fun _ hnone => (by cases hnone), fun _ operation arguments => ?_⟩
      refine ⟨_, decides_validate hsupports hguard, ?_, fun hnone => by cases hnone⟩
      intro between hverdict
      exact ⟨validator, rfl, hverdict⟩

end Receiver

namespace EntityClass

variable {Ω : Type}

/-- Instances of the class fail closed, in whatever world they are made and whatever happens to
that world afterwards. -/
def FailsClosed (entity : EntityClass Ω) : Prop :=
  ∀ (unwinding : Bool) (before created : World Ω) (target : Instance Ω),
    entity.create unwinding before = (.ok target, created) →
      ∀ (unwinding : Bool) (changes : List (World.Change Ω)),
        target.receiver.FailsClosedAt (World.lastAttached target.receiver.place changes)
          unwinding (created.run changes)

/-- What guards an instance is what was attached to it last. -/
theorem guard?_run_create {entity : EntityClass Ω} {unwinding : Bool}
    {before created : World Ω} {target : Instance Ω}
    (h : entity.create unwinding before = (.ok target, created))
    (changes : List (World.Change Ω)) :
    (created.run changes).guard? target.receiver.place =
      World.lastAttached target.receiver.place changes := by
  rw [create_apply] at h
  obtain ⟨htarget, rfl⟩ := Prod.mk.inj h
  obtain rfl := Outcome.ok.inj htarget
  have hplace : before.guards.length < (before.guards ++ [none]).length := by simp
  refine (World.guard?_run _ changes hplace).trans ?_
  simp [World.guard?, World.lastAttached, instanceAt]

/-- A class fails closed exactly if none of its instances claims validation at a moment at which
nothing is attached to it. -/
theorem failsClosed_iff (entity : EntityClass Ω) :
    entity.FailsClosed ↔
      ∀ (unwinding : Bool) (before created : World Ω) (target : Instance Ω),
        entity.create unwinding before = (.ok target, created) →
          ∀ changes : List (World.Change Ω),
            World.lastAttached target.receiver.place changes = none →
              target.supports (created.run changes) Features.accessControlValidation = false := by
  constructor
  · intro hclosed unwinding before created target hcreate changes
    exact (Receiver.failsClosedAt_iff (guard?_run_create hcreate changes)).mp
      (hclosed unwinding before created target hcreate false changes)
  · intro hunclaimed unwinding before created target hcreate now changes
    exact (Receiver.failsClosedAt_iff (guard?_run_create hcreate changes)).mpr
      (hunclaimed unwinding before created target hcreate changes)

/-- Of classes that leave the feature alone, an instance claims validation exactly while something
guards it. -/
theorem supports_validation_of_leaves {entity : EntityClass Ω}
    (hleaves : ∀ features, KeyMap.find? Features.accessControlValidation (entity.declare features) =
      KeyMap.find? Features.accessControlValidation features)
    (place : Nat) (world : World Ω) :
    (entity.instanceAt place).supports world Features.accessControlValidation =
      (world.guard? place).isSome := by
  simp [Instance.supports, Receiver.supports, instanceAt, Features.supports, featuresAt, hleaves,
    Features.setProbe, KeyMap.find?_insert_self, Feature.holds]

/-- Declaring other features does no harm. -/
theorem failsClosed_of_leaves {entity : EntityClass Ω}
    (hleaves : ∀ features, KeyMap.find? Features.accessControlValidation (entity.declare features) =
      KeyMap.find? Features.accessControlValidation features) :
    entity.FailsClosed := by
  intro unwinding before created target hcreate now changes
  have hguard := guard?_run_create hcreate changes
  refine (Receiver.failsClosedAt_iff hguard).mpr fun hnone => ?_
  rw [create_apply] at hcreate
  obtain rfl := Outcome.ok.inj (Prod.mk.inj hcreate).1
  refine (supports_validation_of_leaves hleaves _ _).trans ?_
  exact Option.isSome_eq_false_iff.mpr (Option.isNone_iff_eq_none.mpr (hguard.trans hnone))

/-- A class that claims validation on its own, guarded or not. -/
def overclaiming : EntityClass Unit where
  methods := [("get", fun self arguments =>
    self.restricted "get" arguments (pure (Json.str "secret")))]
  declare features := features.setFlag Features.accessControlValidation true

/-- An instance that was never guarded gives away what it should deny. -/
theorem overclaiming_not_failsClosed : ¬ overclaiming.FailsClosed := by
  intro hclosed
  obtain ⟨verdict, hdecides, -, hdenied⟩ :=
    hclosed false (World.start ()) _ _ rfl false [] "get" ⟨[], none, none⟩
  have hrun := hdecides Json (pure (Json.str "secret"))
  rw [hdenied rfl] at hrun
  cases hrun

end EntityClass

end PathCall
