import PathCall.CallStack

/-!
Runs of call stacks, watched from outside. The state of a watched run keeps apart what the methods
of the steps work on and what hooks work on, and has a journal of all calls. The main theorem
describes the calls of methods and how a run ends without mentioning any hook, and says that this
description fits the run under every callee.
-/

namespace PathCall

def Outcome.value? {α : Type} : Outcome α → Option α
  | .ok value => some value
  | .fail _ | .panic _ => none

theorem Outcome.eq_ok_of_value?_eq_some {α : Type} {outcome : Outcome α} {value : α}
    (h : outcome.value? = some value) : outcome = .ok value := by
  cases outcome with
  | ok other => exact congrArg Outcome.ok (Option.some.inj h)
  | fail error => cases h
  | panic reason => cases h

namespace CallStack

variable {τ η : Type}

structure Call (τ : Type) where
  step : CallStep τ
  arguments : Arguments
  outcome : Outcome Json

inductive Event (τ : Type) where
  | method (call : Call τ)
  | hook (name : String) (exception : Option ExceptionInfo)

def Event.call? : Event τ → Option (Call τ)
  | .method call => some call
  | .hook _ _ => none

/-- The state of a watched run. Methods and hooks share nothing. -/
structure Watched (τ η : Type) where
  app : τ
  hooks : η
  journal : List (Event τ)

def Watched.calls (state : Watched τ η) : List (Call τ) := state.journal.filterMap Event.call?

def Watched.write (state : Watched τ η) (event : Event τ) : Watched τ η :=
  { state with journal := state.journal ++ [event] }

end CallStack

open CallStack

variable {τ η : Type}

def CallStep.watched (η : Type) (step : CallStep τ) : CallStep (Watched τ η) where
  method arguments := fun unwinding state =>
    let (outcome, app) := step.method arguments unwinding state.app
    (outcome, { state with app := app }.write (.method ⟨step, arguments, outcome⟩))
  name := step.name
  selectId := step.selectId

def Callee.watched (τ : Type) (callee : Callee η) : Callee (Watched τ η) where
  hasHook := callee.hasHook
  callHook name exception := fun unwinding state =>
    let (outcome, hooks) := callee.callHook name exception unwinding state.hooks
    (outcome, { state with hooks := hooks }.write (.hook name exception))

def CallStack.watched (η : Type) (stack : CallStack τ) : CallStack (Watched τ η) where
  operation := stack.operation
  steps := stack.steps.map (CallStep.watched η)

namespace CallStack

/-- Calls that hand values through some steps, the first of which gets `previous`, and the outcome
that they amount to. -/
structure Threads (kwargs : Kwargs) (previous : Option Json) (steps : List (CallStep τ))
    (calls : List (Call τ)) (outcome : Outcome Json) : Prop where
  /-- The steps are called once each and in their order, up to some point. -/
  order : calls.map Call.step = steps.take calls.length
  /-- Each gets its own identifier and the value of the one before. -/
  arguments : ∀ before call after, calls = before ++ call :: after →
    call.arguments = {
      kwargs := kwargs
      selectId := call.step.selectId
      selected := before.getLast?.elim previous fun call => call.outcome.value? }
  /-- After a call that did not succeed there is no other. -/
  goes_on : ∀ before call after, calls = before ++ call :: after → after ≠ [] →
    ∃ value, call.outcome = .ok value
  /-- Steps are left out only behind a call that did not succeed. -/
  complete : calls.length < steps.length →
    ∃ call, calls.getLast? = some call ∧ call.outcome.value? = none
  /-- The last call decides; without calls the outcome is what there was before, or null. -/
  outcome : outcome = calls.getLast?.elim (.ok (previous.getD .null)) Call.outcome

variable {kwargs : Kwargs} {previous : Option Json} {steps : List (CallStep τ)}

theorem threads_nil : Threads kwargs previous ([] : List (CallStep τ)) []
    (.ok (previous.getD .null)) where
  order := rfl
  arguments := by simp
  goes_on := by simp
  complete := by simp
  outcome := rfl

/-- A call that does not succeed is the last one. -/
theorem threads_stop (step : CallStep τ) {outcome : Outcome Json} (h : outcome.value? = none) :
    Threads kwargs previous (step :: steps)
      [⟨step, ⟨kwargs, step.selectId, previous⟩, outcome⟩] outcome where
  order := rfl
  arguments := by
    intro before call after hsplit
    cases before with
    | nil =>
      obtain ⟨rfl, -⟩ := List.cons.inj hsplit
      rfl
    | cons first rest => simp at hsplit
  goes_on := by
    intro before call after hsplit hafter
    cases before with
    | nil => exact absurd (List.cons.inj hsplit).2.symm hafter
    | cons first rest => simp at hsplit
  complete := fun _ => ⟨_, rfl, h⟩
  outcome := rfl

/-- A call that succeeds hands its value to the calls of the other steps. -/
theorem threads_cons (step : CallStep τ) {value : Json} {calls : List (Call τ)}
    {outcome : Outcome Json} (h : Threads kwargs (some value) steps calls outcome) :
    Threads kwargs previous (step :: steps)
      (⟨step, ⟨kwargs, step.selectId, previous⟩, .ok value⟩ :: calls) outcome where
  order := by simp [h.order]
  arguments := by
    intro before call after hsplit
    cases before with
    | nil =>
      obtain ⟨rfl, -⟩ := List.cons.inj hsplit
      rfl
    | cons first rest =>
      obtain ⟨rfl, hrest⟩ := List.cons.inj hsplit
      rw [h.arguments rest call after hrest, List.getLast?_cons]
      cases rest.getLast? <;> rfl
  goes_on := by
    intro before call after hsplit hafter
    cases before with
    | nil =>
      obtain ⟨rfl, -⟩ := List.cons.inj hsplit
      exact ⟨value, rfl⟩
    | cons first rest => exact h.goes_on rest call after (List.cons.inj hsplit).2 hafter
  complete := by
    intro hshort
    obtain ⟨last, hlast, hfailed⟩ := h.complete (by simpa using hshort)
    exact ⟨last, by simp [List.getLast?_cons, hlast], hfailed⟩
  outcome := by
    rw [h.outcome, List.getLast?_cons]
    cases calls.getLast? <;> rfl

/-! Watched runs. -/

/-- Hooks, if the callee has them, leave no trace but their own. -/
theorem fire_watched (callee : Option (Callee η)) (name : String)
    (exception : Option ExceptionInfo) (unwinding : Bool) (state : Watched τ η) :
    let fired := Scope.fire (callee.map (Callee.watched τ)) name exception unwinding state
    fired.app = state.app ∧ fired.calls = state.calls := by
  cases callee with
  | none => exact ⟨rfl, rfl⟩
  | some callee =>
    simp only [Option.map_some, Scope.fire]
    split
    · refine ⟨rfl, ?_⟩
      simp [Callee.watched, Watched.write, Watched.calls, Event.call?]
    · exact ⟨rfl, rfl⟩

/-- A watched method does what the method does, and one call is written down. -/
theorem method_watched (step : CallStep τ) (arguments : Arguments) (unwinding : Bool)
    (state : Watched τ η) :
    let plain := step.method arguments unwinding state.app
    let run := (step.watched η).method arguments unwinding state
    run.1 = plain.1 ∧ run.2.app = plain.2 ∧
      run.2.calls = state.calls ++ [⟨step, arguments, plain.1⟩] := by
  refine ⟨rfl, rfl, ?_⟩
  simp [CallStep.watched, Watched.write, Watched.calls, Event.call?]

/-- The scope of a watched step adds the call of its method and ends as the method does. -/
theorem run_watched (callee : Option (Callee η)) (base : Option String) (step : CallStep τ)
    (arguments : Arguments) (unwinding : Bool) (state : Watched τ η) :
    let plain := step.method arguments unwinding state.app
    let run := Scope.run (callee.map (Callee.watched τ)) base
      ((step.watched η).method arguments) unwinding state
    run.1 = plain.1 ∧ run.2.app = plain.2 ∧
      run.2.calls = state.calls ++ [⟨step, arguments, plain.1⟩] := by
  intro plain run
  obtain ⟨hopenApp, hopenCalls⟩ :=
    fire_watched callee (Scope.hookName "pre" base) none unwinding state
  let opened := Scope.fire (callee.map (Callee.watched τ)) (Scope.hookName "pre" base) none
    unwinding state
  have hplain : step.method arguments unwinding opened.app = plain :=
    congrArg (step.method arguments unwinding) hopenApp
  obtain ⟨houtcome, happ, hcalls⟩ := method_watched step arguments unwinding opened
  rw [hplain] at houtcome happ hcalls
  obtain ⟨hcloseApp, hcloseCalls⟩ :=
    fire_watched callee (Scope.hookName "post" base) _ _
      ((step.watched η).method arguments unwinding opened).2
  exact ⟨houtcome, hcloseApp.trans happ,
    hcloseCalls.trans (hcalls.trans (congrArg (· ++ [_]) hopenCalls))⟩

theorem executeSteps_of_ok {σ : Type} {kwargs : Kwargs} {callee : Option (Callee σ)}
    {previous : Option Json} {step : CallStep σ} (steps : List (CallStep σ)) {unwinding : Bool}
    {state : σ} {value : Json} {after : σ}
    (h : Scope.run callee (some step.name) (step.method ⟨kwargs, step.selectId, previous⟩)
      unwinding state = (.ok value, after)) :
    executeSteps kwargs callee previous (step :: steps) unwinding state =
      executeSteps kwargs callee (some value) steps unwinding after := by
  rw [executeSteps, Act.bind_apply, h]

theorem executeSteps_of_not_ok {σ : Type} {kwargs : Kwargs} {callee : Option (Callee σ)}
    {previous : Option Json} {step : CallStep σ} (steps : List (CallStep σ)) {unwinding : Bool}
    {state : σ} {outcome : Outcome Json} {after : σ} (hnone : outcome.value? = none)
    (h : Scope.run callee (some step.name) (step.method ⟨kwargs, step.selectId, previous⟩)
      unwinding state = (outcome, after)) :
    executeSteps kwargs callee previous (step :: steps) unwinding state = (outcome, after) := by
  rw [executeSteps, Act.bind_apply, h]
  cases outcome with
  | ok value => cases hnone
  | fail error => rfl
  | panic reason => rfl

/-- From every state of a run, the remaining steps make the same calls under every callee. -/
theorem executeSteps_watched (kwargs : Kwargs) (previous : Option Json)
    (steps : List (CallStep τ)) (unwinding : Bool) (app : τ) :
    ∃ calls,
      Threads kwargs previous steps calls
        (executeSteps kwargs none previous steps unwinding app).1 ∧
      ∀ (η : Type) (callee : Option (Callee η)) (state : Watched τ η), state.app = app →
        let plain := executeSteps kwargs none previous steps unwinding app
        let run := executeSteps kwargs (callee.map (Callee.watched τ)) previous
          (steps.map (CallStep.watched η)) unwinding state
        run.1 = plain.1 ∧ run.2.app = plain.2 ∧ run.2.calls = state.calls ++ calls := by
  induction steps generalizing previous app with
  | nil =>
    refine ⟨[], threads_nil, ?_⟩
    rintro η callee state rfl
    exact ⟨rfl, rfl, (List.append_nil _).symm⟩
  | cons step steps ih =>
    have hscope (η : Type) (callee : Option (Callee η)) (state : Watched τ η) :=
      run_watched callee (some step.name) step ⟨kwargs, step.selectId, previous⟩ unwinding state
    rcases hmethod : step.method ⟨kwargs, step.selectId, previous⟩ unwinding app with
      ⟨outcome, after⟩
    have hplain : Scope.run none (some step.name)
        (step.method ⟨kwargs, step.selectId, previous⟩) unwinding app = (outcome, after) := hmethod
    cases hvalue : outcome.value? with
    | some value =>
      obtain rfl : outcome = .ok value := Outcome.eq_ok_of_value?_eq_some hvalue
      obtain ⟨calls, hthreads, hruns⟩ := ih (some value) after
      rw [executeSteps_of_ok steps hplain]
      refine ⟨_, threads_cons step hthreads, ?_⟩
      rintro η callee state rfl
      obtain ⟨houtcome, happ, hcalls⟩ := hscope η callee state
      simp only [hmethod] at houtcome happ hcalls
      obtain ⟨hend, hfinal, hall⟩ := hruns η callee _ happ
      rw [List.map_cons, executeSteps_of_ok _ (Prod.ext houtcome rfl)]
      rw [hcalls, List.append_assoc] at hall
      exact ⟨hend, hfinal, hall⟩
    | none =>
      rw [executeSteps_of_not_ok steps hvalue hplain]
      refine ⟨_, threads_stop step hvalue, ?_⟩
      rintro η callee state rfl
      obtain ⟨houtcome, happ, hcalls⟩ := hscope η callee state
      simp only [hmethod] at houtcome happ hcalls
      rw [List.map_cons, executeSteps_of_not_ok _ hvalue (Prod.ext houtcome rfl)]
      exact ⟨rfl, happ, hcalls⟩

/-- Calls methods in their order, each with its own identifier and the value of the one before.
The value is that of the last one. -/
def thread {σ : Type} (kwargs : Kwargs) (previous : Option Json) (steps : List (CallStep σ)) :
    Act σ (Option Json) :=
  steps.foldlM
    (fun previous step => do return some (← step.method ⟨kwargs, step.selectId, previous⟩)) previous

theorem executeSteps_none {σ : Type} (kwargs : Kwargs) (previous : Option Json)
    (steps : List (CallStep σ)) :
    executeSteps kwargs none previous steps = do
      return (← thread kwargs previous steps).getD .null := by
  induction steps generalizing previous with
  | nil => rfl
  | cons step steps ih =>
    funext unwinding state
    simp only [thread, List.foldlM_cons, executeSteps, Act.bind_apply] at ih ⊢
    have hscope : Scope.run none (some step.name)
        (step.method ⟨kwargs, step.selectId, previous⟩) unwinding state =
          step.method ⟨kwargs, step.selectId, previous⟩ unwinding state := rfl
    rw [hscope]
    obtain ⟨outcome, after⟩ := step.method ⟨kwargs, step.selectId, previous⟩ unwinding state
    cases outcome with
    | ok value => exact congrFun (congrFun (ih (some value)) unwinding) after
    | fail error => rfl
    | panic reason => rfl

/-- Hooks never change what the steps of a stack do. For every stack and all arguments there are
calls of methods, which hand their values through the steps, and an outcome and an end state, such
that under every callee the run makes exactly these calls and ends in exactly this way. The same
outcome and end state are those of the run without a callee and unwatched. -/
theorem execute_threads_under_every_callee (stack : CallStack τ) (kwargs : Kwargs)
    (unwinding : Bool) (app : τ) :
    ∃ calls outcome final,
      Threads kwargs.strip none stack.steps calls outcome ∧
      stack.execute kwargs none unwinding app = (outcome, final) ∧
      ∀ (η : Type) (callee : Option (Callee η)) (hooks : η),
        let run := (stack.watched η).execute kwargs (callee.map (Callee.watched τ)) unwinding
          ⟨app, hooks, []⟩
        run.1 = outcome ∧ run.2.app = final ∧ run.2.calls = calls := by
  obtain ⟨calls, hthreads, hruns⟩ :=
    executeSteps_watched kwargs.strip none stack.steps unwinding app
  refine ⟨calls, _, _, hthreads, rfl, ?_⟩
  intro η callee hooks
  obtain ⟨houtcome, hfinal, hcalls⟩ := hruns η callee ⟨app, hooks, []⟩ rfl
  exact ⟨houtcome, hfinal, hcalls.trans (List.nil_append calls)⟩

end CallStack

end PathCall
