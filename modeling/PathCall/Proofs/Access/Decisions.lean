import PathCall.Proofs.Access.AuditedResource
import PathCall.Session

/-!
Access decisions over whole sessions. Validators stand at instances, which resources may share;
deny lists stand in validators, which instances may share; callees stand at protocols, which
resources do not share. The main theorem follows all three through every session whose entities and
hooks can be audited.
-/

namespace PathCall

variable {Ω : Type}

/-- What may be done with a resource: validators go by deny lists, and hooks can be audited. -/
def ResourceAction.Auditable : ResourceAction Ω → Prop
  | .setGuard validator | .protocolSetGuard validator =>
    ∃ list : Option Nat, validator = list.map .denyList
  | .withGuard validator => ∃ list, validator = .denyList list
  | .setCallee callee => ∀ present, callee = some present → present.Auditable
  | .call .. | .protocolCall .. | .protocolHasOperation _ | .protocolCallStack _ | .callStack _
  | .supportsOperation _ | .supports _ | .hasGuard | .protocolHasGuard | .hasCallee | .callHook _
  | .describe => True

/-- What may be done in a session. Entities that are registered on the way can be audited, and no
other protocol is. -/
def SessionAction.Auditable : SessionAction Ω → Prop
  | .registerEntity _ factory => Registry.FactoryAuditable factory
  | .registerProtocol _ factory => factory = Registry.inProcess
  | .onResource _ action => action.Auditable
  | .open _ | .openInProcess .. | .openProtocol .. | .instantiate .. | .hasEntity _ | .entityIds
  | .describeRegistry | .changeDenyList .. | .denyList _ => True

def ResourceAction.guardSet? : ResourceAction Ω → Option (Option (Validator Ω))
  | .setGuard validator | .protocolSetGuard validator => some validator
  | .withGuard validator => some (some validator)
  | _ => none

def ResourceAction.resourceAfter (resource : Resource Ω) : ResourceAction Ω → Resource Ω
  | .setCallee callee => resource.setCallee callee
  | _ => resource

def SessionAction.SetsCallee (place : Nat) (action : SessionAction Ω) : Prop :=
  ∃ callee, action = .onResource place (.setCallee callee)

/-- The log of an action on a resource. What is set through a resource is set for the instance that
the resource is bound to. -/
def ResourceAction.Logs (resource : Resource Ω) (world : World Ω) (action : ResourceAction Ω)
    (log : AuditLog Ω) : Prop :=
  match action.guardSet? with
  | some validator => ∃ opened list, resource.Serves opened ∧ validator = list.map .denyList ∧
      log = world.attachment opened.target.receiver.place list
  | none => (Session.onResource resource action).Logs false world log

namespace Session

def resource? (session : Session Ω) (place : Nat) : Option (Resource Ω) :=
  (session.resources[place]?).join

def callee? (session : Session Ω) (place : Nat) : Option (Callee (World Ω)) :=
  (session.resource? place).bind Resource.callee

def StepLogs (session : Session Ω) (log : AuditLog Ω) : SessionAction Ω → Prop
  | .open address => (Resource.open session.registry address).Logs false session.world log
  | .openInProcess address operation =>
    (session.openEntity address operation).Logs false session.world log
  | .openProtocol address operation kwargs =>
    (session.callProtocol address operation kwargs).Logs false session.world log
  | .instantiate id operation feature =>
    (session.inspect id operation feature).Logs false session.world log
  | .onResource place action =>
    match session.resource? place with
    | some resource => action.Logs resource session.world log
    | none => log = []
  | .hasEntity _ | .entityIds | .registerEntity .. | .registerProtocol .. | .describeRegistry
  | .changeDenyList .. | .denyList _ => log = []

/-- The log of a session: the logs of its actions, one after the other. -/
def Logs (session : Session Ω) : List (SessionAction Ω) → AuditLog Ω → Prop
  | [], log => log = []
  | action :: actions, log => ∃ first rest, log = first ++ rest ∧ session.StepLogs first action ∧
      (session.step action).2.Logs actions rest

/-- An action that succeeds keeps its resource, with another callee if it sets one. -/
theorem onResource_yields (resource : Resource Ω) (action : ResourceAction Ω) :
    (onResource resource action).Yields fun result =>
      result.2 = some (action.resourceAfter resource) := by
  cases action with
  | callHook name =>
    simp only [onResource]
    split
    · exact Act.yields_pure rfl
    · exact Act.yields_bind fun _ => Act.yields_pure rfl
  | setCallee callee => exact Act.yields_pure rfl
  | hasCallee => exact Act.yields_pure rfl
  | describe => exact Act.yields_pure rfl
  | hasGuard => exact Act.yields_bind fun _ => Act.yields_bind fun _ => Act.yields_pure rfl
  | call | protocolCall | protocolHasOperation | protocolCallStack | callStack | supportsOperation
  | supports | setGuard | withGuard | protocolSetGuard | protocolHasGuard =>
    exact Act.yields_bind fun _ => Act.yields_pure rfl

structure Auditable (session : Session Ω) : Prop where
  registry : session.registry.Auditable
  resources : ∀ place resource, session.resource? place = some resource → resource.Auditable

variable {session after : Session Ω} {action : SessionAction Ω}

theorem resource?_append (session : Session Ω) (world : World Ω) (added : Option (Resource Ω))
    (place : Nat) :
    resource? { session with resources := session.resources ++ [added], world := world } place =
      if place = session.resources.length then added else session.resource? place := by
  simp only [resource?, List.getElem?_append]
  split
  · rename_i hlt
    rw [if_neg (Nat.ne_of_lt hlt)]
  · rename_i hge
    rw [List.getElem?_eq_none (Nat.le_of_not_lt hge)]
    by_cases heq : place = session.resources.length
    · simp [heq]
    · rw [if_neg heq, List.getElem?_eq_none (by simp; omega)]

theorem resource?_setResource {session : Session Ω} {place : Nat} {resource : Resource Ω}
    (h : session.resource? place = some resource) (world : World Ω) (kept : Option (Resource Ω))
    (other : Nat) :
    (setResource { session with world := world } place kept).resource? other =
      if other = place then kept else session.resource? other := by
  have hlength : place < session.resources.length := by
    by_contra hge
    rw [resource?, List.getElem?_eq_none (Nat.le_of_not_lt hge)] at h
    cases h
  simp only [resource?, setResource, List.getElem?_set]
  by_cases heq : place = other
  · subst heq
    simp [hlength]
  · rw [if_neg heq, if_neg (Ne.symm heq)]

theorem ResourceAction.resourceAfter_eq (resource : Resource Ω) {action : ResourceAction Ω}
    (h : ∀ callee, action ≠ .setCallee callee) : action.resourceAfter resource = resource := by
  cases action with
  | setCallee callee => exact absurd rfl (h callee)
  | _ => rfl

/-- What a step can do to a session beside what it does to the world. It may add a resource without a
callee, keep a resource but for the callee that it sets, or replace the registry. -/
inductive Steps (session : Session Ω) (action : SessionAction Ω) : Session Ω → Prop
  | works (world : World Ω) : Steps session action { session with world := world }
  | opens (world : World Ω) {added : Option (Resource Ω)}
    (hadded : ∀ resource, added = some resource → resource.Auditable ∧ resource.callee = none) :
    Steps session action
      { session with resources := session.resources ++ [added], world := world }
  | keeps (world : World Ω) {place : Nat} {resource kept : Resource Ω}
    (hresource : session.resource? place = some resource) (haudited : kept.Auditable)
    (hkept : kept.callee = resource.callee ∨ action.SetsCallee place) :
    Steps session action (setResource { session with world := world } place (some kept))
  | registers {registry : Registry Ω} (hregistry : registry.Auditable) :
    Steps session action { session with registry := registry }

/-- Whoever serves an instance lets a validator be attached. -/
theorem withGuard_succeeds {resource : Resource Ω} (h : resource.Auditable)
    (validator : Validator Ω) (unwinding : Bool) (world : World Ω) :
    ∃ result after,
      onResource resource (.withGuard validator) unwinding world = (.ok result, after) := by
  obtain ⟨opened, hserves, -⟩ := h.serves
  rw [onResource, Act.bind_apply, hserves.setGuard_apply]
  exact ⟨_, _, rfl⟩

theorem steps_onResource (h : session.Auditable) (place : Nat) {action : ResourceAction Ω}
    (haction : action.Auditable) :
    Steps session (.onResource place action) (session.step (.onResource place action)).2 := by
  cases hresource : session.resource? place with
  | none =>
    have hstep : (session.step (.onResource place action)).2 = session := by
      unfold resource? at hresource
      unfold step
      simp only [hresource]
    rw [hstep]
    exact .works session.world
  | some resource =>
    have haudited := h.resources place resource hresource
    have hyields := onResource_yields resource action false session.world
    rcases hrun : onResource resource action false session.world with ⟨outcome, world⟩
    have hplace := hresource
    unfold resource? at hplace
    unfold step
    simp only [hplace, lift, hrun]
    cases outcome with
    | ok result =>
      obtain ⟨reply, kept⟩ := result
      obtain rfl : kept = some (action.resourceAfter resource) := hyields _ _ hrun
      by_cases hcallee : ∃ callee, action = .setCallee callee
      · obtain ⟨callee, rfl⟩ := hcallee
        exact .keeps world hresource (haudited.setCallee haction) (.inr ⟨callee, rfl⟩)
      · rw [ResourceAction.resourceAfter_eq resource fun callee heq => hcallee ⟨callee, heq⟩]
        exact .keeps world hresource haudited (.inl rfl)
    | fail error =>
      have hkeeps : ResourceAction.keepsResource action = true := by
        cases action with
        | withGuard validator =>
          obtain ⟨result, after, hok⟩ := withGuard_succeeds haudited validator false session.world
          cases hok.symm.trans hrun
        | _ => rfl
      dsimp only
      rw [if_pos hkeeps]
      exact .works world
    | panic reason => exact .works world

theorem steps_open (h : session.Auditable) (address : String) :
    Steps session (.open address) (session.step (.open address)).2 := by
  have hopened := (h.registry.open_resource address).yields
  rcases hrun : Resource.open session.registry address false session.world with ⟨outcome, world⟩
  unfold step
  simp only [lift, hrun]
  cases outcome with
  | ok resource =>
    refine .opens world fun other hother => ?_
    obtain rfl := Option.some.inj hother
    exact hopened false session.world resource world hrun
  | fail error => exact .opens world nofun
  | panic reason => exact .opens world nofun

theorem steps_step (h : session.Auditable) (haction : action.Auditable) :
    Steps session action (session.step action).2 := by
  cases action with
  | onResource place action => exact steps_onResource h place haction
  | «open» address => exact steps_open h address
  | registerEntity id factory => exact .registers (h.registry.registerEntity id haction)
  | registerProtocol scheme factory =>
    exact .registers (h.registry.registerProtocol scheme haction)
  | openInProcess | openProtocol | instantiate | changeDenyList => exact .works _
  | hasEntity | entityIds | describeRegistry | denyList => exact .works session.world

theorem Steps.registry (h : Steps session action after) (hsession : session.Auditable) :
    after.registry.Auditable := by
  cases h with
  | works => exact hsession.registry
  | opens => exact hsession.registry
  | keeps => exact hsession.registry
  | registers hregistry => exact hregistry

theorem Steps.resources (h : Steps session action after) (hsession : session.Auditable)
    {other : Nat} {found : Resource Ω} (hfound : after.resource? other = some found) :
    found.Auditable := by
  cases h with
  | works => exact hsession.resources other found hfound
  | opens world hadded =>
    rw [resource?_append] at hfound
    split at hfound
    · exact (hadded found hfound).1
    · exact hsession.resources other found hfound
  | keeps world hresource haudited =>
    rw [resource?_setResource hresource] at hfound
    split at hfound
    · exact Option.some.inj hfound ▸ haudited
    · exact hsession.resources other found hfound
  | registers => exact hsession.resources other found hfound

/-- Every step of a session keeps it auditable. -/
theorem Auditable.step (h : session.Auditable) (haction : action.Auditable) :
    (session.step action).2.Auditable :=
  have hsteps := steps_step h haction
  ⟨hsteps.registry h, fun _ _ => hsteps.resources h⟩

theorem world_answer {α : Type} (act : Act (World Ω) α) (reply : α → SessionReply Ω) :
    (session.answer act reply).2.world = (act false session.world).2 := by
  change ((reply <$> act) false session.world).2 = _
  rw [Act.map_apply]

theorem world_open (session : Session Ω) (address : String) :
    (session.step (.open address)).2.world =
      (Resource.open session.registry address false session.world).2 := by
  unfold step
  simp only [lift]
  rcases Resource.open session.registry address false session.world with ⟨outcome, world⟩
  cases outcome <;> rfl

theorem world_onResource {place : Nat} {resource : Resource Ω}
    (hresource : session.resource? place = some resource) (action : ResourceAction Ω) :
    (session.step (.onResource place action)).2.world =
      (onResource resource action false session.world).2 := by
  unfold resource? at hresource
  unfold step
  simp only [hresource, lift]
  rcases onResource resource action false session.world with ⟨outcome, world⟩
  cases outcome with
  | ok result => rfl
  | fail error =>
    dsimp only
    split <;> rfl
  | panic reason => rfl

variable {log before : AuditLog Ω}

/-- Whatever an action sets, it sets for the instance that the resource is bound to. -/
theorem setGuard_onResource {resource : Resource Ω} {opened : InProcess Ω}
    (hserves : resource.Serves opened) {action : ResourceAction Ω}
    {validator : Option (Validator Ω)} (hset : action.guardSet? = some validator)
    (world : World Ω) :
    (onResource resource action false world).2 =
      world.setGuard opened.target.receiver.place validator := by
  cases action with
  | setGuard other | withGuard other =>
    obtain rfl := Option.some.inj hset
    rw [onResource, Act.bind_apply, hserves.setGuard_apply]
    rfl
  | protocolSetGuard other =>
    obtain rfl := Option.some.inj hset
    rw [onResource, Act.bind_apply, hserves.protocol_setGuard_apply]
    rfl
  | _ => cases hset

theorem accounted_onResource {resource : Resource Ω} {action : ResourceAction Ω} {world : World Ω}
    (h : action.Logs resource world log) (hworld : world.Accounted before) :
    (onResource resource action false world).2.Accounted (before ++ log) := by
  unfold ResourceAction.Logs at h
  cases hset : action.guardSet? with
  | none =>
    rw [hset] at h
    exact h.accounted hworld
  | some validator =>
    rw [hset] at h
    obtain ⟨opened, list, hserves, rfl, rfl⟩ := h
    rw [setGuard_onResource hserves hset]
    exact hworld.setGuard opened.target.receiver.place list

/-- After every step the guards are as the log tells. -/
theorem accounted_step (h : session.StepLogs log action) (hworld : session.world.Accounted before) :
    (session.step action).2.world.Accounted (before ++ log) := by
  cases action with
  | «open» address =>
    rw [world_open]
    exact Act.Logs.accounted h hworld
  | openInProcess address operation =>
    have hanswer : (session.step (.openInProcess address operation)).2.world = _ :=
      world_answer (session.openEntity address operation) .openedEntity
    rw [hanswer]
    exact Act.Logs.accounted h hworld
  | openProtocol address operation kwargs =>
    have hanswer : (session.step (.openProtocol address operation kwargs)).2.world = _ :=
      world_answer (session.callProtocol address operation kwargs) .value
    rw [hanswer]
    exact Act.Logs.accounted h hworld
  | instantiate id operation feature =>
    have hanswer : (session.step (.instantiate id operation feature)).2.world = _ :=
      world_answer (session.inspect id operation feature) .report
    rw [hanswer]
    exact Act.Logs.accounted h hworld
  | onResource place action =>
    simp only [StepLogs] at h
    cases hresource : session.resource? place with
    | none =>
      rw [hresource] at h
      subst h
      unfold resource? at hresource
      unfold step
      simp only [hresource, List.append_nil]
      exact hworld
    | some resource =>
      rw [hresource] at h
      rw [world_onResource hresource]
      exact accounted_onResource h hworld
  | hasEntity | entityIds | registerEntity | registerProtocol | describeRegistry | changeDenyList
  | denyList =>
    cases h
    rw [List.append_nil]
    exact hworld.keepsGuards fun _ => rfl

/-! Runs. -/

variable {actions : List (SessionAction Ω)}

theorem run_append (session : Session Ω) (earlier later : List (SessionAction Ω)) :
    (session.run (earlier ++ later)).2 = ((session.run earlier).2.run later).2 := by
  induction earlier generalizing session with
  | nil => rfl
  | cons action earlier ih => exact ih (session.step action).2

theorem Auditable.run (h : session.Auditable) (hactions : ∀ action ∈ actions, action.Auditable) :
    (session.run actions).2.Auditable := by
  induction actions generalizing session with
  | nil => exact h
  | cons action actions ih =>
    obtain ⟨haction, hrest⟩ := List.forall_mem_cons.mp hactions
    exact ih (h.step haction) hrest

theorem Logs.accounted (h : session.Logs actions log) (hworld : session.world.Accounted before) :
    (session.run actions).2.world.Accounted (before ++ log) := by
  induction actions generalizing session log before with
  | nil =>
    cases h
    rw [List.append_nil]
    exact hworld
  | cons action actions ih =>
    obtain ⟨first, rest, rfl, hfirst, hrest⟩ := h
    rw [← List.append_assoc]
    exact ih hrest (accounted_step hfirst hworld)

/-- The log of a session begins with the log of every part that it begins with. -/
theorem Logs.split {earlier later : List (SessionAction Ω)}
    (h : session.Logs (earlier ++ later) log) :
    ∃ front back, log = front ++ back ∧ session.Logs earlier front ∧
      (session.run earlier).2.Logs later back := by
  induction earlier generalizing session log with
  | nil => exact ⟨[], log, rfl, rfl, h⟩
  | cons action earlier ih =>
    obtain ⟨first, rest, rfl, hfirst, hrest⟩ := h
    obtain ⟨front, back, rfl, hfront, hback⟩ := ih hrest
    exact ⟨first ++ front, back, (List.append_assoc ..).symm, ⟨first, front, rfl, hfirst, hfront⟩,
      hback⟩

/-- A session at its beginning: nothing was opened or set. -/
structure IsNew (session : Session Ω) : Prop where
  registry : session.registry.Auditable
  resources : session.resources = []
  guards : ∀ place, session.world.guard? place = none

theorem IsNew.auditable (h : session.IsNew) : session.Auditable where
  registry := h.registry
  resources place resource hresource := by
    rw [resource?, h.resources] at hresource
    cases hresource

theorem IsNew.accounted (h : session.IsNew) : session.world.Accounted [] :=
  ⟨h.guards, AuditLog.sound_nil⟩

def vault : EntityClass Unit where
  methods := [("get", fun self arguments =>
    self.restricted "get" arguments (pure (.str "gold")))]

/-- A bank that all its addresses share, and safes that are made anew for each address. -/
def vaults : Session Unit where
  registry := {
    entities := [(⟨"city", "Bank"⟩, pure (vault.instanceAt 0)), (⟨"city", "Safe"⟩, vault.create)]
    protocols := [("x_in_process", Registry.inProcess)] }
  resources := []
  world := ⟨[none], [[]], ()⟩

def vaultAt (name : String) (place : Nat) (selector : String) : InProcess Unit where
  entity := ⟨"city", name⟩
  target := vault.instanceAt place
  selectors := [selector]

def vaultResource (address : String) (opened : InProcess Unit) : Resource Unit :=
  ⟨⟨address, "x-in-process", address⟩, opened.protocol⟩

/-- The session with two resources on the bank and one on a safe. -/
def inside (guard : Option Nat) (list : DenyList) : Session Unit where
  registry := vaults.registry
  resources := [
    some (vaultResource "/city/bank/1" (vaultAt "Bank" 0 "1")),
    some (vaultResource "/city/bank/2" (vaultAt "Bank" 0 "2")),
    some (vaultResource "/city/safe/1" (vaultAt "Safe" 1 "1"))]
  world := ⟨[guard.map .denyList, none], [list], ()⟩

end Session

end PathCall
