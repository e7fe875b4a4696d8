import PathCall.Proofs.Access.Guard
import PathCall.Resource

/-!
Guards under audit. A log tells of a run which validators were set for which instances, and where
guarded operations were invoked. It is no part of the program: a run has a log if it can be taken
apart into parts that leave all guards as they are, parts that set one, and guarded operations,
whose bodies may be taken apart in turn, and hooks as well. The main lemma says that the guards are
as the log tells, in whatever way the run was taken apart, and that every guarded operation in it
was decided by what the log had before.
-/

namespace PathCall

variable {Ω : Type}

/-- An entry of the log. Instances and deny lists are named by their places. -/
inductive AuditEntry (Ω : Type) where
  /-- A deny list is set for an instance, or none from here on. -/
  | attached (place : Nat) (list : Option Nat)
  | invoked (self : Receiver Ω) (operation : String) (arguments : Arguments) (unwinding : Bool)
    (world : World Ω)

abbrev AuditLog (Ω : Type) := List (AuditEntry Ω)

/-- The deny list that is set for an instance after an entry, when `current` was before. -/
def AuditEntry.leaves (place : Nat) (current : Option Nat) : AuditEntry Ω → Option Nat
  | .attached other list => if other = place then list else current
  | .invoked .. => current

namespace AuditLog

def lastSet (place : Nat) (log : AuditLog Ω) : Option Nat :=
  log.foldl (AuditEntry.leaves place) none

/-- The rule of access: something was last set for the instance, and it does not hold the operation
now. -/
def Allows (log : AuditLog Ω) (place : Nat) (operation : String) (now : World Ω) : Prop :=
  ∃ list, log.lastSet place = some list ∧ operation ∉ now.denyList list

@[simp] theorem lastSet_concat (place : Nat) (log : AuditLog Ω) (entry : AuditEntry Ω) :
    lastSet place (log ++ [entry]) = entry.leaves place (lastSet place log) := by
  simp [lastSet]

end AuditLog

namespace Receiver

/-- A guard always says something. -/
theorem exists_decides (self : Receiver Ω) (operation : String) (arguments : Arguments)
    (unwinding : Bool) (world : World Ω) :
    ∃ verdict, self.Decides operation arguments unwinding world verdict := by
  cases hsupports : self.supports world Features.accessControlValidation with
  | false => exact ⟨_, decides_accessDenied hsupports⟩
  | true =>
    cases hguard : world.guard? self.place with
    | none => exact ⟨_, decides_ok hsupports hguard⟩
    | some validator => exact ⟨_, decides_validate hsupports hguard⟩

/-- The receiver supports validation exactly while it is guarded. -/
def FollowsGuard (self : Receiver Ω) : Prop :=
  ∀ world, self.supports world Features.accessControlValidation =
    (world.guard? self.place).isSome

/-- The rule of access decides about an operation that is invoked after a log. Either it allows the
operation, and then whatever body the operation has begins at once; or it does not, and then the
operation ends with an error that denies access, without its body and without a trace. -/
def DecidedBy (self : Receiver Ω) (log : AuditLog Ω) (operation : String) (arguments : Arguments)
    (unwinding : Bool) (world : World Ω) : Prop :=
  (log.Allows self.place operation world ∧
    self.Decides operation arguments unwinding world (.ok (), world)) ∨
  (¬log.Allows self.place operation world ∧ ∃ error : Error, error.kind = .accessDenied ∧
    self.Decides operation arguments unwinding world (.fail error, world))

end Receiver

def AuditEntry.Justified (before : AuditLog Ω) : AuditEntry Ω → Prop
  | .attached .. => True
  | .invoked self operation arguments unwinding world =>
    self.DecidedBy before operation arguments unwinding world

def AuditLog.Sound (log : AuditLog Ω) : Prop :=
  ∀ before entry after, log = before ++ entry :: after → entry.Justified before

namespace AuditLog

theorem sound_nil : Sound ([] : AuditLog Ω) := by
  intro before entry after hsplit
  simp at hsplit

theorem Sound.concat {log : AuditLog Ω} (h : log.Sound) {entry : AuditEntry Ω}
    (hentry : entry.Justified log) : Sound (log ++ [entry]) := by
  intro before other after hsplit
  rcases List.eq_nil_or_concat after with rfl | ⟨init, last, rfl⟩
  · obtain ⟨rfl, hlast⟩ := List.append_inj' hsplit rfl
    exact (List.cons.inj hlast).1 ▸ hentry
  · rw [List.concat_eq_append, ← List.cons_append, ← List.append_assoc] at hsplit
    exact h before other init (List.append_inj' hsplit rfl).1

end AuditLog

namespace World

def KeepsGuards (before after : World Ω) : Prop :=
  ∀ place, after.guard? place = before.guard? place

/-- What is to be told when a deny list is set. Nothing can be set where no instance is. -/
def attachment (world : World Ω) (place : Nat) (list : Option Nat) : AuditLog Ω :=
  if place < world.guards.length then [.attached place list] else []

/-- The log agrees with the guards, and is sound. -/
structure Accounted (world : World Ω) (log : AuditLog Ω) : Prop where
  guards : ∀ place, world.guard? place = (log.lastSet place).map Validator.denyList
  sound : log.Sound

end World

namespace Resource

/-- The resource is bound to what was opened, whatever callee it has. -/
def Serves (resource : Resource Ω) (opened : InProcess Ω) : Prop :=
  ∃ callee, resource.protocol = { opened.protocol with callee := callee }

variable {resource : Resource Ω} {opened : InProcess Ω}

theorem Serves.requireGuardSupport_eq (h : resource.Serves opened) (world : World Ω) :
    resource.requireGuardSupport world = .ok () := by
  obtain ⟨callee, hprotocol⟩ := h
  have hsupports : resource.supports world Features.accessControlValidator = true := by
    rw [Resource.supports, hprotocol]
    rfl
  rw [requireGuardSupport, if_pos hsupports]

/-- A resource sets the guard of the instance that it is bound to. -/
theorem Serves.setGuard_apply (h : resource.Serves opened) (validator : Option (Validator Ω))
    (unwinding : Bool) (world : World Ω) :
    resource.setGuard validator unwinding world =
      (.ok (), world.setGuard opened.target.receiver.place validator) := by
  rw [Resource.setGuard, Act.bind_apply, Act.get_apply]
  simp only [h.requireGuardSupport_eq]
  obtain ⟨callee, hprotocol⟩ := h
  rw [hprotocol]
  rfl

theorem Serves.protocol_setGuard_apply (h : resource.Serves opened)
    (validator : Option (Validator Ω)) (unwinding : Bool) (world : World Ω) :
    resource.protocol.setGuard validator unwinding world =
      (.ok (), world.setGuard opened.target.receiver.place validator) := by
  obtain ⟨callee, hprotocol⟩ := h
  rw [hprotocol]
  rfl

end Resource

/-- The ways to set a validator for the instance at a place. -/
inductive Act.SetsGuard (place : Nat) (validator : Option (Validator Ω)) :
    Act (World Ω) Unit → Prop
  | ofInstance {target : Instance Ω} (hplace : target.receiver.place = place) :
    SetsGuard place validator (target.setGuard validator)
  | ofProtocol {opened : InProcess Ω} (hplace : opened.target.receiver.place = place) :
    SetsGuard place validator (opened.protocol.setGuard validator)
  | ofResource {resource : Resource Ω} {opened : InProcess Ω} (hserves : resource.Serves opened)
    (hplace : opened.target.receiver.place = place) :
    SetsGuard place validator (resource.setGuard validator)

theorem Act.SetsGuard.apply {place : Nat} {validator : Option (Validator Ω)}
    {act : Act (World Ω) Unit} (h : act.SetsGuard place validator) (unwinding : Bool)
    (world : World Ω) : act unwinding world = (.ok (), world.setGuard place validator) := by
  cases h with
  | ofInstance hplace =>
    subst hplace
    rfl
  | ofProtocol hplace =>
    subst hplace
    rfl
  | ofResource hserves hplace =>
    subst hplace
    exact hserves.setGuard_apply validator unwinding world

namespace Scope

variable {σ α : Type}

def firing (callee : Option (Callee σ)) (name : String) (exception : Option ExceptionInfo) :
    Act σ Unit := fun unwinding state => (.ok (), fire callee name exception unwinding state)

def closesUnwinding (unwinding : Bool) (outcome : Outcome α) : Bool :=
  unwinding || outcome matches .panic _

def closingException (recorded : Outcome α → Option ExceptionInfo) (unwinding : Bool)
    (outcome : Outcome α) : Option ExceptionInfo :=
  (recorded outcome).or (if closesUnwinding unwinding outcome then some .ofPanic else none)

/-- A scope fires its opening hook, runs its body and fires its closing hook. -/
theorem around_apply (callee : Option (Callee σ)) (base : Option String)
    (recorded : Outcome α → Option ExceptionInfo) (body : Act σ α) (unwinding : Bool) (state : σ) :
    let opened := fire callee (hookName "pre" base) none unwinding state
    let ended := body unwinding opened
    around callee base recorded body unwinding state =
      (ended.1, fire callee (hookName "post" base) (closingException recorded unwinding ended.1)
        (closesUnwinding unwinding ended.1) ended.2) := rfl

end Scope

/-- The log of a run. Nothing has to be told of a part that leaves all guards as they are, but it may
be taken apart as well. -/
inductive Act.Logs : {α : Type} → Act (World Ω) α → (unwinding : Bool) → World Ω → AuditLog Ω → Prop
  | quiet {α : Type} {act : Act (World Ω) α} {unwinding : Bool} {world : World Ω}
    (hkeeps : world.KeepsGuards (act unwinding world).2) : Logs act unwinding world []
  | sets {act : Act (World Ω) Unit} {place : Nat} {list : Option Nat} {unwinding : Bool}
    {world : World Ω} (hsets : act.SetsGuard place (list.map .denyList)) :
    Logs act unwinding world (world.attachment place list)
  /-- A guarded operation whose body begins in the world that the guard leaves. -/
  | entered {α : Type} {self : Receiver Ω} {operation : String} {arguments : Arguments}
    {body : Act (World Ω) α} {unwinding : Bool} {world between : World Ω} {log : AuditLog Ω}
    (hself : self.FollowsGuard)
    (hdecides : self.Decides operation arguments unwinding world (.ok (), between))
    (hbody : Logs body unwinding between log) :
    Logs (self.restricted operation arguments body) unwinding world
      (.invoked self operation arguments unwinding world :: log)
  /-- A guarded operation that ends with its guard. -/
  | refused {α : Type} {self : Receiver Ω} {operation : String} {arguments : Arguments}
    {body : Act (World Ω) α} {unwinding : Bool} {world after : World Ω} {outcome : Outcome Unit}
    (hself : self.FollowsGuard)
    (hdecides : self.Decides operation arguments unwinding world (outcome, after))
    (hends : outcome ≠ .ok ()) :
    Logs (self.restricted operation arguments body) unwinding world
      [.invoked self operation arguments unwinding world]
  | bind {α β : Type} {act : Act (World Ω) α} {next : α → Act (World Ω) β} {unwinding : Bool}
    {world between : World Ω} {value : α} {first rest : AuditLog Ω}
    (hrun : act unwinding world = (.ok value, between)) (hact : Logs act unwinding world first)
    (hnext : Logs (next value) unwinding between rest) :
    Logs (act >>= next) unwinding world (first ++ rest)
  /-- A part that does not succeed is the last one. -/
  | stops {α β : Type} {act : Act (World Ω) α} {next : α → Act (World Ω) β} {unwinding : Bool}
    {world : World Ω} {log : AuditLog Ω} (hends : ∀ value, (act unwinding world).1 ≠ .ok value)
    (hact : Logs act unwinding world log) : Logs (act >>= next) unwinding world log
  | attempt {α : Type} {act : Act (World Ω) α} {unwinding : Bool} {world : World Ω}
    {log : AuditLog Ω} (hact : Logs act unwinding world log) : Logs act.attempt unwinding world log
  | fires {callee : Callee (World Ω)} {name : String} {exception : Option ExceptionInfo}
    {unwinding : Bool} {world : World Ω} {log : AuditLog Ω} (hhas : callee.hasHook name = true)
    (hhook : Logs (callee.callHook name exception) unwinding world log) :
    Logs (Scope.firing (some callee) name exception) unwinding world log
  | scope {α : Type} {callee : Option (Callee (World Ω))} {base : Option String}
    {recorded : Outcome α → Option ExceptionInfo} {body : Act (World Ω) α} {unwinding : Bool}
    {world opened ended : World Ω} {outcome : Outcome α} {opening middle closing : AuditLog Ω}
    (hopened : Scope.fire callee (Scope.hookName "pre" base) none unwinding world = opened)
    (hrun : body unwinding opened = (outcome, ended))
    (hopening : Logs (Scope.firing callee (Scope.hookName "pre" base) none) unwinding world opening)
    (hbody : Logs body unwinding opened middle)
    (hclosing : Logs
      (Scope.firing callee (Scope.hookName "post" base)
        (Scope.closingException recorded unwinding outcome))
      (Scope.closesUnwinding unwinding outcome) ended closing) :
    Logs (Scope.around callee base recorded body) unwinding world (opening ++ middle ++ closing)

namespace DenyList

theorem validate_of_mem {list : DenyList} {operation : String} (h : operation ∈ list) :
    ∃ error : Error, error.kind = .accessDenied ∧ list.validate operation = .error error := by
  refine ⟨_, rfl, if_pos ?_⟩
  rwa [List.contains_iff_mem]

theorem validate_of_notMem {list : DenyList} {operation : String} (h : operation ∉ list) :
    list.validate operation = .ok () := by
  refine if_neg ?_
  rwa [List.contains_iff_mem]

end DenyList

namespace World

variable {world : World Ω} {log : AuditLog Ω}

/-- Where the log agrees with the guards, the rule of access decides. -/
theorem Accounted.decidedBy (h : world.Accounted log) {self : Receiver Ω}
    (hself : self.FollowsGuard) (operation : String) (arguments : Arguments) (unwinding : Bool) :
    self.DecidedBy log operation arguments unwinding world := by
  have hguard := h.guards self.place
  have hsupports := hself world
  rw [hguard, Option.isSome_map] at hsupports
  cases hset : log.lastSet self.place with
  | none =>
    rw [hset] at hsupports
    refine .inr ⟨?_, _, rfl, Receiver.decides_accessDenied hsupports⟩
    rintro ⟨list, hlist, -⟩
    cases hset.symm.trans hlist
  | some list =>
    rw [hset] at hguard hsupports
    have hdecides : self.Decides operation arguments unwinding world
        (.ofExcept ((world.denyList list).validate operation), world) :=
      Receiver.decides_validate hsupports hguard
    by_cases hmem : operation ∈ world.denyList list
    · obtain ⟨error, hkind, herror⟩ := DenyList.validate_of_mem hmem
      rw [herror] at hdecides
      refine .inr ⟨?_, error, hkind, hdecides⟩
      rintro ⟨other, hother, hfree⟩
      obtain rfl := Option.some.inj (hset.symm.trans hother)
      exact hfree hmem
    · rw [DenyList.validate_of_notMem hmem] at hdecides
      exact .inl ⟨⟨list, hset, hmem⟩, hdecides⟩

theorem Accounted.keepsGuards (h : world.Accounted log) {after : World Ω}
    (hkeeps : world.KeepsGuards after) : after.Accounted log :=
  ⟨fun place => (hkeeps place).trans (h.guards place), h.sound⟩

/-- What is invoked changes nothing that is set. -/
theorem Accounted.invoked (h : world.Accounted log) {self : Receiver Ω}
    (hself : self.FollowsGuard) (operation : String) (arguments : Arguments) (unwinding : Bool) :
    world.Accounted (log ++ [.invoked self operation arguments unwinding world]) where
  guards place := by
    rw [AuditLog.lastSet_concat]
    exact h.guards place
  sound := h.sound.concat (h.decidedBy hself operation arguments unwinding)

theorem guard?_setGuard_of_ne (world : World Ω) {place other : Nat} (h : place ≠ other)
    (validator : Option (Validator Ω)) :
    (world.setGuard place validator).guard? other = world.guard? other := by
  simp [setGuard, guard?, List.getElem?_set_ne h]

theorem Accounted.setGuard (h : world.Accounted log) (place : Nat) (list : Option Nat) :
    (world.setGuard place (list.map .denyList)).Accounted (log ++ world.attachment place list) := by
  unfold attachment
  split
  · rename_i hmade
    refine ⟨fun other => ?_, h.sound.concat trivial⟩
    rw [AuditLog.lastSet_concat, AuditEntry.leaves]
    by_cases heq : place = other
    · subst heq
      rw [guard?_setGuard world hmade, if_pos rfl, if_pos rfl]
    · rw [guard?_setGuard_of_ne world heq, if_neg heq, h.guards other]
  · rename_i hmade
    rw [List.append_nil]
    refine h.keepsGuards fun other => ?_
    rw [World.setGuard, List.set_eq_of_length_le (Nat.le_of_not_lt hmade)]

end World

/-- In a run that begins in an accounted world, the log stays true and sound at every depth. -/
theorem Act.Logs.accounted {α : Type} {act : Act (World Ω) α} {unwinding : Bool} {world : World Ω}
    {log : AuditLog Ω} (h : act.Logs unwinding world log) {before : AuditLog Ω}
    (hworld : world.Accounted before) : (act unwinding world).2.Accounted (before ++ log) := by
  induction h generalizing before with
  | quiet hkeeps =>
    rw [List.append_nil]
    exact hworld.keepsGuards hkeeps
  | sets hsets =>
    rw [hsets.apply]
    exact hworld.setGuard _ _
  | @entered α self operation arguments body unwinding world between log hself hdecides hbody ih =>
    have hinvoked := hworld.invoked hself operation arguments unwinding
    obtain ⟨-, hallowed⟩ | ⟨-, error, -, hrefused⟩ :=
      hworld.decidedBy hself operation arguments unwinding
    · obtain rfl : between = world := (Prod.mk.inj (hdecides.unique hallowed)).2
      rw [hdecides α body, List.append_cons]
      exact ih hinvoked
    · cases hdecides.unique hrefused
  | @refused α self operation arguments body unwinding world after outcome hself hdecides hends =>
    have hinvoked := hworld.invoked hself operation arguments unwinding
    obtain ⟨-, hallowed⟩ | ⟨-, error, -, hrefused⟩ :=
      hworld.decidedBy hself operation arguments unwinding
    · exact absurd (Prod.mk.inj (hdecides.unique hallowed)).1 hends
    · rw [hrefused α body]
      exact hinvoked
  | bind hrun hact hnext ihact ihnext =>
    have hbetween := ihact hworld
    rw [hrun] at hbetween
    rw [bind_apply, hrun, ← List.append_assoc]
    exact ihnext hbetween
  | @stops α β act next unwinding world log hends hact ih =>
    have hafter := ih hworld
    rw [bind_apply]
    rcases hrun : act unwinding world with ⟨outcome, after⟩
    rw [hrun] at hafter
    cases outcome with
    | ok value => exact absurd (congrArg Prod.fst hrun) (hends value)
    | fail error => exact hafter
    | panic reason => exact hafter
  | @attempt α act unwinding world log hact ih =>
    have hafter := ih hworld
    rw [Act.attempt]
    rcases hrun : act unwinding world with ⟨outcome, after⟩
    rw [hrun] at hafter
    cases outcome <;> exact hafter
  | fires hhas hhook ih =>
    simp only [Scope.firing, Scope.fire, hhas, if_true]
    exact ih hworld
  | scope hopened hrun hopening hbody hclosing ihopening ihbody ihclosing =>
    -- Each of the two hooks runs in what the part before it leaves.
    have hinside := ihopening hworld
    rw [Scope.firing, hopened] at hinside
    have hended := ihbody hinside
    rw [hrun] at hended
    have hclosed := ihclosing hended
    rw [Scope.around_apply, hopened, hrun, ← List.append_assoc, ← List.append_assoc]
    exact hclosed

/-! ### What can be audited -/

namespace Act

variable {α β : Type}

/-- Every run of the computation has a log. -/
def Auditable (act : Act (World Ω) α) : Prop :=
  ∀ unwinding world, ∃ log, act.Logs unwinding world log

theorem auditable_of_keepsGuards {act : Act (World Ω) α}
    (h : ∀ unwinding world, World.KeepsGuards world (act unwinding world).2) : act.Auditable :=
  fun unwinding world => ⟨[], .quiet (h unwinding world)⟩

namespace Auditable

theorem pure (value : α) : (Pure.pure value : Act (World Ω) α).Auditable :=
  auditable_of_keepsGuards fun _ _ _ => rfl

theorem fail (error : Error) : (Act.fail error : Act (World Ω) α).Auditable :=
  auditable_of_keepsGuards fun _ _ _ => rfl

theorem ofExcept (result : Except Error α) : (Act.ofExcept result : Act (World Ω) α).Auditable :=
  auditable_of_keepsGuards fun _ _ _ => rfl

theorem get : (Act.get : Act (World Ω) (World Ω)).Auditable :=
  auditable_of_keepsGuards fun _ _ _ => rfl

/-- What comes next matters only for values that can come first. -/
theorem bind {act : Act (World Ω) α} {next : α → Act (World Ω) β} (hact : act.Auditable)
    (hnext : ∀ unwinding before value after, act unwinding before = (.ok value, after) →
      (next value).Auditable) : (act >>= next).Auditable := by
  intro unwinding world
  obtain ⟨first, hfirst⟩ := hact unwinding world
  rcases hrun : act unwinding world with ⟨outcome, between⟩
  cases outcome with
  | ok value =>
    obtain ⟨rest, hrest⟩ := hnext unwinding world value between hrun unwinding between
    exact ⟨first ++ rest, .bind hrun hfirst hrest⟩
  | fail error => exact ⟨first, .stops (fun value hvalue => by cases hrun ▸ hvalue) hfirst⟩
  | panic reason => exact ⟨first, .stops (fun value hvalue => by cases hrun ▸ hvalue) hfirst⟩

/-- A sequence whose second part can be audited in any case. -/
theorem andThen {act : Act (World Ω) α} {next : α → Act (World Ω) β}
    (hact : act.Auditable) (hnext : ∀ value, (next value).Auditable) : (act >>= next).Auditable :=
  bind hact fun _ _ value _ _ => hnext value

theorem attempt {act : Act (World Ω) α} (h : act.Auditable) : act.attempt.Auditable := by
  intro unwinding world
  obtain ⟨log, hlog⟩ := h unwinding world
  exact ⟨log, .attempt hlog⟩

/-- A guarded operation can be audited if its body can. -/
theorem restricted {self : Receiver Ω} (hself : self.FollowsGuard) (operation : String)
    (arguments : Arguments) {body : Act (World Ω) α} (hbody : body.Auditable) :
    (self.restricted operation arguments body).Auditable := by
  intro unwinding world
  obtain ⟨⟨outcome, between⟩, hdecides⟩ := self.exists_decides operation arguments unwinding world
  by_cases hends : outcome = .ok ()
  · subst hends
    obtain ⟨log, hlog⟩ := hbody unwinding between
    exact ⟨_, .entered hself hdecides hlog⟩
  · exact ⟨_, .refused hself hdecides hends⟩

end Auditable

end Act

def Callee.Auditable (callee : Callee (World Ω)) : Prop :=
  ∀ name exception, (callee.callHook name exception).Auditable

namespace Scope

variable {α : Type} {callee : Option (Callee (World Ω))}
  (hcallee : ∀ present, callee = some present → present.Auditable)

include hcallee

theorem auditable_firing (name : String) (exception : Option ExceptionInfo) :
    (firing callee name exception).Auditable := by
  intro unwinding world
  cases callee with
  | none => exact ⟨[], .quiet fun _ => rfl⟩
  | some callee =>
    cases hhas : callee.hasHook name with
    | true =>
      obtain ⟨log, hlog⟩ := hcallee callee rfl name exception unwinding world
      exact ⟨log, .fires hhas hlog⟩
    | false =>
      refine ⟨[], .quiet ?_⟩
      simp only [firing, fire, hhas]
      exact fun _ => rfl

theorem auditable_around (base : Option String) (recorded : Outcome α → Option ExceptionInfo)
    {body : Act (World Ω) α} (hbody : body.Auditable) :
    (around callee base recorded body).Auditable := by
  intro unwinding world
  obtain ⟨opening, hopening⟩ := auditable_firing hcallee (hookName "pre" base) none unwinding world
  obtain ⟨middle, hmiddle⟩ :=
    hbody unwinding (fire callee (hookName "pre" base) none unwinding world)
  obtain ⟨closing, hclosing⟩ := auditable_firing hcallee (hookName "post" base) _ _ _
  exact ⟨_, .scope rfl rfl hopening hmiddle hclosing⟩

end Scope

end PathCall
