import PathCall.Proofs.CallStack.Bracketing

/-!
Scopes within scopes. A scope may be opened by the body of another one, by code that goes on after
it has ended in whatever way, and by a hook of another one. Here such code is given by its form, and
a journal is kept of its run. The main theorem says that the journal consists of spans, one for each
scope, which hold each other as the scopes do, and what the closing hooks are told. That is how the
body of their own scope ended, but for one case: a scope that is opened while a panic passes, and
whose body returns a value, closes as if its body had panicked.
-/

namespace PathCall

def Outcome.isPanic {α : Type} : Outcome α → Bool
  | .panic _ => true
  | _ => false

namespace Scope

open CallStack (passingPanic)

inductive Code (σ : Type) where
  /-- Does something that opens none. -/
  | act (run : Act σ Json)
  /-- Goes on when the first part has ended: it may pass an error on, swallow it or make another
  one of it, and catch a panic or pass it on. -/
  | andThen (first : Code σ) (next : Outcome Json → Code σ)
  /-- Runs a body in a scope. The callee, if there is one, has hooks of some names, and these may
  open scopes in their turn. -/
  | scope (base : Option String) (hooks : Option (String → Bool))
      (hook : String → Option ExceptionInfo → Code σ) (body : Code σ)

/-- A scope as its body finds it: its name, the hooks that its callee has, and whether it was
opened while a panic passes. -/
structure Opening where
  base : Option String
  hooks : Option (String → Bool)
  unwinding : Bool

def Opening.has (opening : Opening) (name : String) : Bool := opening.hooks.any fun has => has name

inductive Event where
  | called (hook : String) (exception : Option ExceptionInfo)
  | returned
  | began (opening : Opening)
  | ended (outcome : Outcome Json)

variable {σ τ : Type}

/-- Writes down that something begins, and how it ends. -/
def noted {α : Type} (write : Event → τ → τ) (before : Event) (after : Outcome α → Event)
    (act : Act τ α) : Act τ α := fun unwinding state =>
  let ended := act unwinding (write before state)
  (ended.1, write (after ended.1) ended.2)

def notedCallee (write : Event → τ → τ) (hooks : Option (String → Bool))
    (hook : String → Option ExceptionInfo → Act τ Json) : Option (Callee τ) :=
  hooks.map fun has =>
    { hasHook := has
      callHook := fun name exception => do
        let _ ← noted write (.called name exception) (fun _ => .returned) (hook name exception)
        return () }

def notedScope (write : Event → τ → τ) (base : Option String) (hooks : Option (String → Bool))
    (hook : String → Option ExceptionInfo → Act τ Json) (body : Act τ Json) : Act τ Json :=
  Scope.run (notedCallee write hooks hook) base fun unwinding =>
    noted write (.began ⟨base, hooks, unwinding⟩) .ended body unwinding

def Code.run (lift : Act σ Json → Act τ Json) (write : Event → τ → τ) : Code σ → Act τ Json
  | .act run => lift run
  | .andThen first next => fun unwinding state =>
    let (outcome, state) := first.run lift write unwinding state
    (next outcome).run lift write unwinding state
  | .scope base hooks hook body =>
    notedScope write base hooks (fun name exception => (hook name exception).run lift write)
      (body.run lift write)

def Code.plain (code : Code σ) : Act σ Json := code.run id fun _ => id

structure Traced (σ : Type) where
  app : σ
  events : List Event

def Traced.write (event : Event) (state : Traced σ) : Traced σ :=
  { state with events := state.events ++ [event] }

def Code.traced (code : Code σ) : Act (Traced σ) Json :=
  code.run (Act.focus Traced.app fun app state => { state with app := app }) Traced.write

/-- A scope and what happened in it: the scopes that its opening hook opened, those that its body
opened, how the body ended, and the scopes that its closing hook opened. -/
inductive Span where
  | mk (opening : Opening) (before within : List Span) (outcome : Outcome Json)
      (after : List Span)

namespace Span

def opening : Span → Opening
  | .mk opening _ _ _ _ => opening

def outcome : Span → Outcome Json
  | .mk _ _ _ outcome _ => outcome

def ownFailure (span : Span) : Option ExceptionInfo := span.outcome.exception?

def toldFailure (span : Span) : Option ExceptionInfo :=
  span.ownFailure.or (passingPanic span.opening.unwinding)

def closes (span : Span) : Bool := span.opening.has (hookName "post" span.opening.base)

/-- A hook and what it does are there only if the callee has it. -/
def hookEvents (opening : Opening) (moment : String) (exception : Option ExceptionInfo)
    (events : List Event) : List Event :=
  if opening.has (hookName moment opening.base) then
    .called (hookName moment opening.base) exception :: (events ++ [.returned])
  else []

section

variable (told : Span → Option ExceptionInfo)

mutual
/-- The journal of a scope: its opening hook, its body, and its closing hook, once each. `told` is
what the closing hooks are told. -/
def events : Span → List Event
  | .mk opening before within outcome after =>
    hookEvents opening "pre" none (eventsOf before) ++
      .began opening :: (eventsOf within ++ .ended outcome ::
        hookEvents opening "post" (told (.mk opening before within outcome after))
          (eventsOf after))
def eventsOf : List Span → List Event
  | [] => []
  | span :: rest => events span ++ eventsOf rest
end

end

mutual
/-- A scope and all that were opened in it, at any depth. -/
def all : Span → List Span
  | .mk opening before within outcome after =>
    .mk opening before within outcome after :: (allOf before ++ allOf within ++ allOf after)
def allOf : List Span → List Span
  | [] => []
  | span :: rest => all span ++ allOf rest
end

end Span

/-- Scopes opened one after the other. What the closing hook of a scope opens after its body has
panicked is opened while that panic passes; nothing else begins the passing of a panic. A hook that
the callee does not have opens nothing. -/
inductive Opened : Bool → List Span → Prop where
  | nil {unwinding : Bool} : Opened unwinding []
  | cons {unwinding : Bool} {base : Option String} {hooks : Option (String → Bool)}
      {before within after rest : List Span} {outcome : Outcome Json} :
      (before ≠ [] → hooks.any fun has => has (hookName "pre" base)) →
      (after ≠ [] → hooks.any fun has => has (hookName "post" base)) →
      Opened unwinding before → Opened unwinding within →
      Opened (unwinding || outcome.isPanic) after → Opened unwinding rest →
      Opened unwinding (.mk ⟨base, hooks, unwinding⟩ before within outcome after :: rest)

open PathCall.Scope.Span (eventsOf hookEvents allOf ownFailure toldFailure)

theorem Span.eventsOf_append (told : Span → Option ExceptionInfo) (first second : List Span) :
    eventsOf told (first ++ second) = eventsOf told first ++ eventsOf told second := by
  induction first with
  | nil => rfl
  | cons span rest ih => simp [eventsOf, ih]

theorem Opened.append {unwinding : Bool} {first second : List Span}
    (hfirst : Opened unwinding first) (hsecond : Opened unwinding second) :
    Opened unwinding (first ++ second) := by
  induction hfirst with
  | nil => exact hsecond
  | cons hpre hpost hbefore hwithin hafter _ _ _ _ ih =>
    exact .cons hpre hpost hbefore hwithin hafter (ih hsecond)

/-- The journal of one computation adds spans to what the other one does. -/
def Traces (plain : Act σ Json) (traced : Act (Traced σ) Json) : Prop :=
  ∀ unwinding app events, ∃ spans, Opened unwinding spans ∧
    traced unwinding ⟨app, events⟩ =
      ((plain unwinding app).1,
        ⟨(plain unwinding app).2, events ++ eventsOf toldFailure spans⟩)

theorem snd_bind_pure {α : Type} (act : Act τ α) (unwinding : Bool) (state : τ) :
    ((act >>= fun _ => pure ()) unwinding state).2 = (act unwinding state).2 := by
  rw [Act.bind_apply]
  obtain ⟨outcome, state⟩ := act unwinding state
  cases outcome <;> rfl

theorem fire_notedCallee (write : Event → τ → τ) (hooks : Option (String → Bool))
    (hook : String → Option ExceptionInfo → Act τ Json) (name : String)
    (exception : Option ExceptionInfo) (unwinding : Bool) (state : τ) :
    fire (notedCallee write hooks hook) name exception unwinding state =
      if hooks.any (fun has => has name) then
        write .returned (hook name exception unwinding (write (.called name exception) state)).2
      else state := by
  cases hooks with
  | none => rfl
  | some has =>
    simp only [notedCallee, Option.map_some, fire, Option.any_some, snd_bind_pure]
    rfl

/-- A hook adds its call and the spans of what it does, if the callee has it. -/
theorem fire_traces {hook : String → Option ExceptionInfo → Act σ Json}
    {hook' : String → Option ExceptionInfo → Act (Traced σ) Json}
    (hhook : ∀ name exception, Traces (hook name exception) (hook' name exception))
    (opening : Opening) (moment : String) (exception : Option ExceptionInfo) (unwinding : Bool)
    (app : σ) (events : List Event) :
    ∃ spans, Opened unwinding spans ∧
      (spans ≠ [] → opening.has (hookName moment opening.base)) ∧
      fire (notedCallee Traced.write opening.hooks hook') (hookName moment opening.base) exception
          unwinding ⟨app, events⟩ =
        ⟨fire (notedCallee (fun _ => id) opening.hooks hook) (hookName moment opening.base)
            exception unwinding app,
          events ++ hookEvents opening moment exception (eventsOf toldFailure spans)⟩ := by
  obtain ⟨spans, hopened, hspans⟩ := hhook (hookName moment opening.base) exception unwinding app
    (events ++ [.called (hookName moment opening.base) exception])
  rw [fire_notedCallee, fire_notedCallee, Opening.has]
  unfold hookEvents Opening.has
  cases opening.hooks.any fun has => has (hookName moment opening.base) with
  | false => exact ⟨[], .nil, by simp, by simp⟩
  | true => exact ⟨spans, hopened, fun _ => rfl, by simp [Traced.write, hspans]⟩

/-- A scope whose body ran to its end tells its closing hook how. -/
theorem notedScope_of_body (write : Event → τ → τ) {base : Option String}
    {hooks : Option (String → Bool)} {hook : String → Option ExceptionInfo → Act τ Json}
    {body : Act τ Json} {unwinding : Bool} {state opened ended : τ} {outcome : Outcome Json}
    (hopen : fire (notedCallee write hooks hook) (hookName "pre" base) none unwinding state =
      opened)
    (hbody : body unwinding (write (.began ⟨base, hooks, unwinding⟩) opened) = (outcome, ended)) :
    notedScope write base hooks hook body unwinding state =
      (outcome, fire (notedCallee write hooks hook) (hookName "post" base)
        (outcome.exception?.or (passingPanic unwinding)) (unwinding || outcome.isPanic)
        (write (.ended outcome) ended)) := by
  have hnoted : noted write (.began ⟨base, hooks, unwinding⟩) .ended body unwinding opened =
      (outcome, write (.ended outcome) ended) := by
    rw [noted, hbody]
  simp only [notedScope, Scope.run, around, hopen, hnoted]
  cases outcome <;> cases unwinding <;> rfl

/-- A scope adds one span. -/
theorem Traces.scope {hook : String → Option ExceptionInfo → Act σ Json}
    {hook' : String → Option ExceptionInfo → Act (Traced σ) Json} {body : Act σ Json}
    {body' : Act (Traced σ) Json}
    (hhook : ∀ name exception, Traces (hook name exception) (hook' name exception))
    (hbody : Traces body body') (base : Option String) (hooks : Option (String → Bool)) :
    Traces (notedScope (fun _ => id) base hooks hook body)
      (notedScope Traced.write base hooks hook' body') := by
  intro unwinding app events
  obtain ⟨before, hbefore, hpre, hopen⟩ := fire_traces hhook ⟨base, hooks, unwinding⟩ "pre" none
    unwinding app events
  obtain ⟨opened, hopened⟩ : ∃ opened, fire (notedCallee (fun _ => id) hooks hook)
    (hookName "pre" base) none unwinding app = opened := ⟨_, rfl⟩
  obtain ⟨⟨outcome, ended⟩, hended⟩ : ∃ ended, body unwinding opened = ended := ⟨_, rfl⟩
  obtain ⟨within, hwithin, hran⟩ := hbody unwinding opened
    (events ++ hookEvents ⟨base, hooks, unwinding⟩ "pre" none (eventsOf toldFailure before) ++
      [.began ⟨base, hooks, unwinding⟩])
  obtain ⟨after, hafter, hpost, hclose⟩ := fire_traces hhook ⟨base, hooks, unwinding⟩ "post"
    (outcome.exception?.or (passingPanic unwinding)) (unwinding || outcome.isPanic) ended
    (events ++ hookEvents ⟨base, hooks, unwinding⟩ "pre" none (eventsOf toldFailure before) ++
      [.began ⟨base, hooks, unwinding⟩] ++ eventsOf toldFailure within ++ [.ended outcome])
  rw [hopened] at hopen
  rw [hended] at hran
  refine ⟨[.mk ⟨base, hooks, unwinding⟩ before within outcome after],
    .cons hpre hpost hbefore hwithin hafter .nil, ?_⟩
  rw [notedScope_of_body (fun _ => id) hopened hended, notedScope_of_body _ hopen hran]
  refine Prod.ext rfl (hclose.trans ?_)
  simp [eventsOf, Span.events, toldFailure, ownFailure, Span.outcome, Span.opening]

theorem Code.run_andThen (lift : Act σ Json → Act τ Json) (write : Event → τ → τ)
    (first : Code σ) (next : Outcome Json → Code σ) (unwinding : Bool) (state : τ) :
    let ended := first.run lift write unwinding state
    (Code.andThen first next).run lift write unwinding state =
      (next ended.1).run lift write unwinding ended.2 := rfl

/-- Code adds the spans of its scopes. -/
theorem Code.traces (code : Code σ) : Traces code.plain code.traced := by
  induction code with
  | act run => exact fun unwinding app events => ⟨[], .nil, by simp [eventsOf]; rfl⟩
  | andThen first next hfirst hnext =>
    intro unwinding app events
    obtain ⟨before, hbefore, hran⟩ := hfirst unwinding app events
    obtain ⟨after, hafter, hended⟩ := hnext (first.plain unwinding app).1 unwinding
      (first.plain unwinding app).2 (events ++ eventsOf toldFailure before)
    refine ⟨before ++ after, hbefore.append hafter, ?_⟩
    rw [Code.traced] at hran hended
    rw [Code.traced, Code.plain, Code.run_andThen, Code.run_andThen, hran, hended,
      Span.eventsOf_append, List.append_assoc]
    rfl
  | scope base hooks hook body hhook hbody => exact Traces.scope hhook hbody base hooks

theorem length_hookEvents (opening : Opening) (moment : String) (exception : Option ExceptionInfo)
    (events : List Event) :
    (hookEvents opening moment exception events).length =
      if opening.has (hookName moment opening.base) then events.length + 2 else 0 := by
  unfold hookEvents
  split <;> simp

section

variable {told told' : Span → Option ExceptionInfo}

/-- How long a journal is does not depend on what the closing hooks are told. -/
theorem Opened.length_eventsOf {unwinding : Bool} {spans : List Span} (h : Opened unwinding spans) :
    (eventsOf told spans).length = (eventsOf told' spans).length := by
  induction h with
  | nil => rfl
  | cons _ _ _ _ _ _ hbefore hwithin hafter hrest =>
    simp only [eventsOf, Span.events, List.length_append, List.length_cons, length_hookEvents,
      hbefore, hwithin, hafter, hrest]

theorem hookEvents_eq_iff {opening : Opening} {moment : String} {spans : List Span}
    (hspans : spans ≠ [] → opening.has (hookName moment opening.base))
    {exception exception' : Option ExceptionInfo} :
    hookEvents opening moment exception (eventsOf told spans) =
        hookEvents opening moment exception' (eventsOf told' spans) ↔
      (opening.has (hookName moment opening.base) → exception = exception') ∧
        eventsOf told spans = eventsOf told' spans := by
  unfold hookEvents
  by_cases hhas : opening.has (hookName moment opening.base)
  · simp [hhas]
  · cases spans with
    | nil => simp [hhas, eventsOf]
    | cons span rest => exact absurd (hspans (List.cons_ne_nil span rest)) hhas

/-- What a closing hook is told can be seen in the journal of its scope, as can the journals of
the scopes in it. -/
theorem Opened.events_eq_iff {unwinding : Bool} {base : Option String}
    {hooks : Option (String → Bool)} {before within after : List Span} {outcome : Outcome Json}
    {span : Span} (hspan : span = .mk ⟨base, hooks, unwinding⟩ before within outcome after)
    (hpre : before ≠ [] → hooks.any fun has => has (hookName "pre" base))
    (hpost : after ≠ [] → hooks.any fun has => has (hookName "post" base))
    (hbefore : Opened unwinding before) (hwithin : Opened unwinding within) :
    Span.events told span = Span.events told' span ↔
      (span.closes → told span = told' span) ∧ eventsOf told before = eventsOf told' before ∧
        eventsOf told within = eventsOf told' within ∧ eventsOf told after = eventsOf told' after := by
  subst hspan
  have hhook : (hookEvents ⟨base, hooks, unwinding⟩ "pre" none (eventsOf told before)).length =
      (hookEvents ⟨base, hooks, unwinding⟩ "pre" none (eventsOf told' before)).length := by
    rw [length_hookEvents, length_hookEvents, hbefore.length_eventsOf]
  rw [Span.events, Span.events, List.append_eq_append_iff_of_size_eq_left hhook,
    hookEvents_eq_iff hpre, List.cons_inj_right,
    List.append_eq_append_iff_of_size_eq_left hwithin.length_eventsOf, List.cons_inj_right,
    hookEvents_eq_iff hpost]
  constructor
  · rintro ⟨⟨-, hbefores⟩, hwithins, htold, hafters⟩
    exact ⟨htold, hbefores, hwithins, hafters⟩
  · rintro ⟨htold, hbefores, hwithins, hafters⟩
    exact ⟨⟨fun _ => rfl, hbefores⟩, hwithins, htold, hafters⟩

/-- A journal is another one of the same scopes exactly if all closing hooks are told the same. -/
theorem Opened.eventsOf_eq_iff {unwinding : Bool} {spans : List Span} (h : Opened unwinding spans) :
    eventsOf told spans = eventsOf told' spans ↔
      ∀ span ∈ allOf spans, span.closes → told span = told' span := by
  induction h with
  | nil => simp [eventsOf, allOf]
  | @cons passing base hooks before within after rest outcome hpre hpost hbefore hwithin hafter _
      ihbefore ihwithin ihafter ihrest =>
    let span := Span.mk ⟨base, hooks, passing⟩ before within outcome after
    have hlength : (Span.events told span).length = (Span.events told' span).length := by
      simpa [eventsOf] using (Opened.cons hpre hpost hbefore hwithin hafter .nil).length_eventsOf
    rw [eventsOf, eventsOf, List.append_eq_append_iff_of_size_eq_left hlength,
      events_eq_iff rfl hpre hpost hbefore hwithin, ihbefore, ihwithin, ihafter, ihrest]
    simp only [allOf, Span.all, List.forall_mem_append, List.forall_mem_cons, and_assoc]

end

theorem Span.toldFailure_eq_ownFailure_iff (span : Span) :
    span.toldFailure = span.ownFailure ↔
      (span.opening.unwinding → ∀ value, span.outcome ≠ .ok value) := by
  unfold toldFailure ownFailure passingPanic
  cases span.outcome <;> cases span.opening.unwinding <;> simp [Outcome.exception?]

/-- Scopes are nested in the journal of a run as they are in the code. For every code, whatever it
does between its scopes and in their hooks, the journal consists of one span for each scope: its
opening hook is called once before its body and its closing hook once after it, if the callee has
them, and each stretch in between holds the whole spans of the scopes opened there. The closing hook
is told how the body failed, or else of a panic that passes. These journals are the ones in which
every closing hook is told the failure of its own body exactly if no scope with a closing hook was
opened while a panic passes and returned a value. -/
theorem Code.journal_of_nested_scopes (code : Code σ) (app : σ) :
    ∃ spans, Opened false spans ∧
      code.traced false ⟨app, []⟩ =
        ((code.plain false app).1, ⟨(code.plain false app).2, eventsOf toldFailure spans⟩) ∧
      (eventsOf toldFailure spans = eventsOf ownFailure spans ↔
        ∀ span ∈ allOf spans, span.closes → span.opening.unwinding →
          ∀ value, span.outcome ≠ .ok value) := by
  obtain ⟨spans, hopened, hran⟩ := code.traces false app []
  refine ⟨spans, hopened, hran, ?_⟩
  rw [hopened.eventsOf_eq_iff]
  simp only [Span.toldFailure_eq_ownFailure_iff]

def everyHook : Option (String → Bool) := some fun _ => true

/-- A scope whose body panics, and whose closing hook opens another one. -/
def reopening : Code Unit :=
  .scope (some "outer") everyHook
    (fun _ exception =>
      if exception.isSome then
        .scope (some "inner") everyHook (fun _ _ => .act (pure .null)) (.act (pure .null))
      else .act (pure .null))
    (.act (.panic "boom"))

/-- The inner scope of `reopening` closes as if its body had panicked, which returned a value. -/
theorem inner_told_of_outer_panic :
    (reopening.traced false ⟨(), []⟩).2.events =
      [.called "pre_outer" none, .returned, .began ⟨some "outer", everyHook, false⟩,
        .ended (.panic "boom"), .called "post_outer" (some ⟨"Panic", "call step panicked"⟩),
        .called "pre_inner" none, .returned, .began ⟨some "inner", everyHook, true⟩,
        .ended (.ok .null), .called "post_inner" (some ⟨"Panic", "call step panicked"⟩),
        .returned, .returned] := rfl

end Scope

end PathCall
