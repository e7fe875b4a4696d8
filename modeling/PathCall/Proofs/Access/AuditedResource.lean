import PathCall.Proofs.Access.Audit
import PathCall.Proofs.Resource.Requests

/-!
Resources under audit. Calls of what can be audited can be audited, and so can the opening of
resources on instances that a registry makes or shares. What a resource shows of its guard is what
guards the instance that it is bound to, and in its calls every guarded step is decided by what was
last set for its instance.
-/

namespace PathCall

variable {Ω : Type}

namespace Act

variable {σ α β : Type}

/-- What every value has that a computation can return. -/
def Yields (act : Act σ α) (p : α → Prop) : Prop :=
  ∀ unwinding before value after, act unwinding before = (.ok value, after) → p value

theorem yields_pure {value : α} {p : α → Prop} (h : p value) :
    (Pure.pure value : Act σ α).Yields p := by
  intro unwinding before other after hrun
  obtain rfl := Outcome.ok.inj (Prod.mk.inj hrun).1
  exact h

theorem yields_fail {error : Error} {p : α → Prop} : (fail error : Act σ α).Yields p := by
  intro unwinding before value after hrun
  cases (Prod.mk.inj hrun).1

theorem yields_ofExcept {result : Except Error α} {p : α → Prop}
    (h : ∀ value, result = .ok value → p value) : (ofExcept result : Act σ α).Yields p := by
  intro unwinding before value after hrun
  cases result with
  | ok other =>
    obtain rfl := Outcome.ok.inj (Prod.mk.inj hrun).1
    exact h other rfl
  | error error => cases (Prod.mk.inj hrun).1

theorem Yields.bind {act : Act σ α} {next : α → Act σ β} {p : α → Prop} {q : β → Prop}
    (hact : act.Yields p) (hnext : ∀ value, p value → (next value).Yields q) :
    (act >>= next).Yields q := by
  intro unwinding before value after hrun
  obtain ⟨first, between, hfirst, hrest⟩ := exists_of_bind_eq_ok hrun
  exact hnext first (hact unwinding before first between hfirst) unwinding between value after hrest

/-- The end of a sequence alone decides. -/
theorem yields_bind {act : Act σ α} {next : α → Act σ β} {p : β → Prop}
    (h : ∀ value, (next value).Yields p) : (act >>= next).Yields p :=
  Yields.bind (p := fun _ => True) (fun _ _ _ _ _ => trivial) fun value _ => h value

structure AuditableYields (act : Act (World Ω) α) (p : α → Prop) : Prop where
  auditable : act.Auditable
  yields : act.Yields p

namespace AuditableYields

variable {p : α → Prop} {q : β → Prop}

theorem pure {value : α} (h : p value) :
    AuditableYields (Pure.pure value : Act (World Ω) α) p :=
  ⟨.pure value, yields_pure h⟩

theorem fail {error : Error} : AuditableYields (Act.fail error : Act (World Ω) α) p :=
  ⟨.fail error, yields_fail⟩

theorem ofExcept {result : Except Error α} (h : ∀ value, result = .ok value → p value) :
    AuditableYields (Act.ofExcept result : Act (World Ω) α) p :=
  ⟨.ofExcept result, yields_ofExcept h⟩

theorem bind {act : Act (World Ω) α} {next : α → Act (World Ω) β} (hact : act.AuditableYields p)
    (hnext : ∀ value, p value → (next value).AuditableYields q) :
    AuditableYields (act >>= next) q where
  auditable := hact.auditable.bind fun unwinding before value after hrun =>
    (hnext value (hact.yields unwinding before value after hrun)).auditable
  yields := hact.yields.bind fun value hvalue => (hnext value hvalue).yields

/-- A sequence whose second part does not depend on what the first can return. -/
theorem andThen {act : Act (World Ω) α} {next : α → Act (World Ω) β} (hact : act.Auditable)
    (hnext : ∀ value, (next value).AuditableYields q) : AuditableYields (act >>= next) q :=
  ⟨hact.andThen fun value => (hnext value).auditable,
    yields_bind fun value => (hnext value).yields⟩

theorem auditable_bind {act : Act (World Ω) α} {next : α → Act (World Ω) β}
    (hact : act.AuditableYields p) (hnext : ∀ value, p value → (next value).Auditable) :
    (act >>= next).Auditable :=
  hact.auditable.bind fun unwinding before value after hrun =>
    hnext value (hact.yields unwinding before value after hrun)

end AuditableYields

end Act

namespace CallStack

def Auditable (stack : CallStack (World Ω)) : Prop :=
  ∀ step ∈ stack.steps, ∀ arguments, (step.method arguments).Auditable

/-- Calls some steps and returns what is handed to the next one. -/
def passes {σ : Type} (kwargs : Kwargs) (callee : Option (Callee σ)) :
    Option Json → List (CallStep σ) → Act σ (Option Json)
  | previous, [] => pure previous
  | previous, step :: steps => do
    let arguments : Arguments :=
      { kwargs := kwargs, selectId := step.selectId, selected := previous }
    let value ← Scope.run callee (some step.name) (step.method arguments)
    passes kwargs callee (some value) steps

/-- A run can be taken apart in front of every step. -/
theorem executeSteps_append {σ : Type} (kwargs : Kwargs) (callee : Option (Callee σ))
    (previous : Option Json) (before after : List (CallStep σ)) :
    executeSteps kwargs callee previous (before ++ after) =
      passes kwargs callee previous before >>= fun passed =>
        executeSteps kwargs callee passed after := by
  induction before generalizing previous with
  | nil => rfl
  | cons step before ih =>
    rw [List.cons_append, executeSteps, passes, bind_assoc]
    simp only [ih]

variable {callee : Option (Callee (World Ω))}
  (hcallee : ∀ present, callee = some present → present.Auditable)

include hcallee

theorem auditable_passes (kwargs : Kwargs) (previous : Option Json)
    {steps : List (CallStep (World Ω))}
    (hsteps : ∀ step ∈ steps, ∀ arguments, (step.method arguments).Auditable) :
    (passes kwargs callee previous steps).Auditable := by
  induction steps generalizing previous with
  | nil => exact .pure _
  | cons step steps ih =>
    have hmethod := hsteps step List.mem_cons_self ⟨kwargs, step.selectId, previous⟩
    exact (Scope.auditable_around hcallee _ _ hmethod).andThen fun value =>
      ih (some value) fun other hother => hsteps other (List.mem_cons_of_mem step hother)

theorem Auditable.execute {stack : CallStack (World Ω)} (h : stack.Auditable) (kwargs : Kwargs) :
    (stack.execute kwargs callee).Auditable := by
  rw [CallStack.execute, ← List.append_nil stack.steps, executeSteps_append]
  exact (auditable_passes hcallee kwargs.strip none h).andThen fun passed => .pure _

end CallStack

/-- An instance whose methods can be audited and which leaves it to its guard whether it supports
validation. Its optimizer, if any, can be audited too and does not smuggle in other methods. -/
structure Instance.Auditable (target : Instance Ω) : Prop where
  follows : target.receiver.FollowsGuard
  methods : ∀ name method, KeyMap.find? name target.methods = some method →
    ∀ arguments, (method arguments).Auditable
  optimize : ∀ stack, stack.Auditable →
    (target.optimize stack).AuditableYields CallStack.Auditable

theorem Instance.Auditable.callStack {target : Instance Ω} (h : target.Auditable)
    (operation : String) (selectors : List String) :
    (target.callStack operation selectors).AuditableYields CallStack.Auditable := by
  refine (Act.AuditableYields.ofExcept (p := CallStack.Auditable) ?_).bind fun stack hstack => ?_
  · intro resolved hresolve step hstep arguments
    have hfind := (CallStack.resolve_eq_ok_iff.mp hresolve).2.find?_name step hstep
    exact h.methods step.name step.method hfind arguments
  · refine .andThen .get fun world => ?_
    split
    · exact h.optimize stack hstack
    · exact .pure hstack

namespace Protocol

variable {protocol : Protocol Ω} {operation : String}

theorem auditable_call (hstack : (protocol.callStack operation).AuditableYields CallStack.Auditable)
    (hcallee : ∀ present, protocol.callee = some present → present.Auditable) (kwargs : Kwargs) :
    (protocol.call operation kwargs).Auditable :=
  hstack.auditable_bind fun _ hsteps => hsteps.execute hcallee kwargs

theorem auditable_hasOperation (hstack : (protocol.callStack operation).Auditable) :
    (protocol.hasOperation operation).Auditable :=
  hstack.attempt.andThen fun _ => .pure _

end Protocol

namespace Registry

/-- A factory whose instances can be audited. It may make new ones or share those it has. -/
abbrev FactoryAuditable (factory : Act (World Ω) (Instance Ω)) : Prop :=
  factory.AuditableYields Instance.Auditable

/-- Entities can be audited, and nothing but entities in the process is served. -/
structure Auditable (registry : Registry Ω) : Prop where
  entities : ∀ id factory, KeyMap.find? id registry.entities = some factory →
    FactoryAuditable factory
  protocols : ∀ key factory, KeyMap.find? key registry.protocols = some factory →
    factory = inProcess

variable {registry : Registry Ω}

theorem Auditable.registerEntity (h : registry.Auditable) (id : EntityId)
    {factory : Act (World Ω) (Instance Ω)} (hfactory : FactoryAuditable factory) :
    (registry.registerEntity id factory).Auditable := by
  refine ⟨fun other made hmade => ?_, h.protocols⟩
  unfold Registry.registerEntity at hmade
  rw [KeyMap.find?_insert] at hmade
  split at hmade
  · exact Option.some.inj hmade ▸ hfactory
  · exact h.entities other made hmade

theorem Auditable.registerProtocol (h : registry.Auditable) (scheme : String)
    {factory : ProtocolFactory Ω} (hfactory : factory = inProcess) :
    (registry.registerProtocol scheme factory).Auditable := by
  refine ⟨h.entities, fun other opening hopening => ?_⟩
  unfold Registry.registerProtocol at hopening
  rw [KeyMap.find?_insert] at hopening
  split at hopening
  · exact Option.some.inj hopening ▸ hfactory
  · exact h.protocols other opening hopening

end Registry

namespace Resource

structure Auditable (resource : Resource Ω) : Prop where
  serves : ∃ opened, resource.Serves opened ∧ opened.target.Auditable
  callee : ∀ present, resource.callee = some present → present.Auditable

variable {resource : Resource Ω} {opened : InProcess Ω}

theorem Serves.setCallee (h : resource.Serves opened) (callee : Option (Callee (World Ω))) :
    (resource.setCallee callee).Serves opened := by
  obtain ⟨before, hprotocol⟩ := h
  refine ⟨callee, ?_⟩
  rw [Resource.setCallee, hprotocol]
  rfl

theorem Serves.callee_setCallee (h : resource.Serves opened)
    (callee : Option (Callee (World Ω))) : (resource.setCallee callee).callee = callee := by
  obtain ⟨before, hprotocol⟩ := h
  rw [Resource.setCallee, hprotocol]
  rfl

theorem Auditable.setCallee (h : resource.Auditable) {callee : Option (Callee (World Ω))}
    (hcallee : ∀ present, callee = some present → present.Auditable) :
    (resource.setCallee callee).Auditable := by
  obtain ⟨opened, hserves, htarget⟩ := h.serves
  refine ⟨⟨opened, hserves.setCallee callee, htarget⟩, fun present hpresent => hcallee present ?_⟩
  rw [← hserves.callee_setCallee callee, hpresent]

theorem Auditable.protocol_callStack (h : resource.Auditable) (operation : String) :
    (resource.protocol.callStack operation).AuditableYields CallStack.Auditable := by
  obtain ⟨opened, ⟨callee, hprotocol⟩, htarget⟩ := h.serves
  rw [hprotocol]
  exact htarget.callStack operation opened.selectors

theorem Auditable.callStack (h : resource.Auditable) (request : String) :
    (resource.callStack request).AuditableYields CallStack.Auditable :=
  .andThen (.ofExcept _) fun operation => h.protocol_callStack operation.name

theorem Auditable.protocol_call (h : resource.Auditable) (operation : String) (kwargs : Kwargs) :
    (resource.protocol.call operation kwargs).Auditable :=
  Protocol.auditable_call (h.protocol_callStack operation) h.callee kwargs

theorem Auditable.call (h : resource.Auditable) (request : String) (kwargs : Kwargs) :
    (resource.call request kwargs).Auditable :=
  (Act.Auditable.ofExcept _).andThen fun operation => h.protocol_call operation.name kwargs

theorem Auditable.supportsOperation (h : resource.Auditable) (request : String) :
    (resource.supportsOperation request).Auditable := by
  unfold Resource.supportsOperation
  split
  · exact Protocol.auditable_hasOperation (h.protocol_callStack _).auditable
  · exact .pure false

/-- A call of a resource that comes to a step: what the request resolved to, the steps in front of
it, all of which returned values, and what the last of them hands on. -/
structure Invocation (resource : Resource Ω) (request : String) (kwargs : Kwargs)
    (unwinding : Bool) (world : World Ω) where
  stack : CallStack (World Ω)
  resolved : World Ω
  resolves : resource.callStack request unwinding world = (.ok stack, resolved)
  before : List (CallStep (World Ω))
  step : CallStep (World Ω)
  after : List (CallStep (World Ω))
  splits : stack.steps = before ++ step :: after
  passed : Option Json
  reached : World Ω
  passes : CallStack.passes kwargs.strip resource.callee none before unwinding resolved =
    (.ok passed, reached)

namespace Invocation

variable {request : String} {kwargs : Kwargs} {unwinding : Bool} {world : World Ω}

def arguments (invocation : resource.Invocation request kwargs unwinding world) : Arguments where
  kwargs := kwargs.strip
  selectId := invocation.step.selectId
  selected := invocation.passed

/-- The world in which the method of the step is invoked. Its opening hook was fired before. -/
def moment (invocation : resource.Invocation request kwargs unwinding world) : World Ω :=
  Scope.fire resource.callee (Scope.hookName "pre" (some invocation.step.name)) none unwinding
    invocation.reached

/-- The log of the way from the beginning of the call to the invocation of the step. -/
def Logs (invocation : resource.Invocation request kwargs unwinding world) (way : AuditLog Ω) :
    Prop :=
  ∃ resolving passing opening, way = resolving ++ passing ++ opening ∧
    (resource.callStack request).Logs unwinding world resolving ∧
    (CallStack.passes kwargs.strip resource.callee none invocation.before).Logs unwinding
      invocation.resolved passing ∧
    (Scope.firing resource.callee (Scope.hookName "pre" (some invocation.step.name)) none).Logs
      unwinding invocation.reached opening

variable (invocation : resource.Invocation request kwargs unwinding world)

/-- The call goes on with the step. -/
theorem call_eq : resource.call request kwargs unwinding world =
    (do
      let value ← Scope.run resource.callee (some invocation.step.name)
        (invocation.step.method invocation.arguments)
      CallStack.executeSteps kwargs.strip resource.callee (some value) invocation.after)
      unwinding invocation.reached := by
  rw [Resource.call_eq, Act.bind_apply, invocation.resolves]
  simp only [CallStack.execute, invocation.splits, CallStack.executeSteps_append, Act.bind_apply,
    invocation.passes]
  rfl

variable {invocation}

/-- At the moment of the invocation the guards are as the log tells. -/
theorem Logs.accounted {way log : AuditLog Ω} (h : invocation.Logs way)
    (hworld : world.Accounted log) : invocation.moment.Accounted (log ++ way) := by
  obtain ⟨resolving, passing, opening, rfl, hresolving, hpassing, hopening⟩ := h
  have hresolved := hresolving.accounted hworld
  rw [invocation.resolves] at hresolved
  have hreached := hpassing.accounted hresolved
  rw [invocation.passes] at hreached
  have hopened := hopening.accounted hreached
  rw [← List.append_assoc, ← List.append_assoc]
  exact hopened

end Invocation

end Resource

/-! Openings. -/

namespace Registry

variable {registry : Registry Ω}

theorem Auditable.instantiate (h : registry.Auditable) (id : EntityId) :
    FactoryAuditable (registry.instantiate id) := by
  unfold Registry.instantiate Directory.instantiate
  split
  · rename_i factory hfactory
    exact h.entities id factory hfactory
  · exact .fail

theorem Auditable.open_protocol (h : registry.Auditable) (locator : Locator) :
    (registry.open locator).AuditableYields fun protocol =>
      ∃ opened : InProcess Ω, protocol = opened.protocol ∧ opened.target.Auditable := by
  cases hfactory : registry.factory? locator with
  | some factory =>
    obtain rfl := h.protocols _ factory hfactory
    rw [open_of_inProcess hfactory]
    exact .andThen (.ofExcept _) fun path =>
      (h.instantiate path.entity).bind fun target htarget => .pure ⟨_, rfl, htarget⟩
  | none =>
    have hopen : registry.open locator = _ := openWithin_of_none hfactory (nestingLimit - 1)
    rw [hopen]
    exact .fail

/-- A resource is opened without a callee. -/
theorem Auditable.open_resource (h : registry.Auditable) (address : String) :
    (Resource.open registry address).AuditableYields
      fun resource => resource.Auditable ∧ resource.callee = none := by
  refine .andThen (.ofExcept _) fun locator =>
    (h.open_protocol locator).bind fun protocol hprotocol => .pure ?_
  obtain ⟨opened, rfl, htarget⟩ := hprotocol
  exact ⟨⟨⟨opened, ⟨none, rfl⟩, htarget⟩, nofun⟩, rfl⟩

end Registry

end PathCall
