import PathCall.Proofs.CallStack.Execution

/-!
Hooks around the steps of a run. Here methods and hooks work on one state, so that a hook may
change what later methods find, and a journal of all calls stands beside that state. The main
theorem gives the whole journal of a run: the calls of the steps in their order, each between the
hooks that the callee has for it.
-/

namespace PathCall

/-- What a closing hook is told about the end of a body, when no other panic is passing. -/
def Outcome.exception? {α : Type} : Outcome α → Option ExceptionInfo
  | .ok _ => none
  | .fail error => some ⟨error.kind.name, error.message⟩
  | .panic _ => some ⟨"Panic", "call step panicked"⟩

namespace CallStack

variable {σ : Type}

structure Journaled (σ : Type) where
  app : σ
  journal : List (Event σ)

end CallStack

open CallStack

variable {σ : Type}

def CallStep.journaled (step : CallStep σ) : CallStep (Journaled σ) where
  method arguments := fun unwinding state =>
    let (outcome, app) := step.method arguments unwinding state.app
    (outcome, ⟨app, state.journal ++ [.method ⟨step, arguments, outcome⟩]⟩)
  name := step.name
  selectId := step.selectId

def Callee.journaled (callee : Callee σ) : Callee (Journaled σ) where
  hasHook := callee.hasHook
  callHook name exception := fun unwinding state =>
    let (outcome, app) := callee.callHook name exception unwinding state.app
    (outcome, ⟨app, state.journal ++ [.hook name exception]⟩)

def CallStack.journaled (stack : CallStack σ) : CallStack (Journaled σ) where
  operation := stack.operation
  steps := stack.steps.map CallStep.journaled

namespace CallStack

def hookCalls (callee : Option (Callee σ)) (name : String) (exception : Option ExceptionInfo) :
    List (Event σ) :=
  if callee.any fun callee => callee.hasHook name then [.hook name exception] else []

/-- The call of a step's method between its hooks. `passing` is what the closing hook is told when
the step returned a value. -/
def bracket (callee : Option (Callee σ)) (passing : Option ExceptionInfo) (call : Call σ) :
    List (Event σ) :=
  hookCalls callee ("pre_" ++ call.step.name) none ++ [.method call] ++
    hookCalls callee ("post_" ++ call.step.name) (call.outcome.exception?.or passing)

/-- The panic that passes through whatever runs while it unwinds. -/
def passingPanic (unwinding : Bool) : Option ExceptionInfo :=
  if unwinding then some .ofPanic else none

theorem hookName_pre (base : String) : Scope.hookName "pre" (some base) = "pre_" ++ base := rfl

theorem hookName_post (base : String) : Scope.hookName "post" (some base) = "post_" ++ base := rfl

theorem method_journaled (step : CallStep σ) (arguments : Arguments) (unwinding : Bool)
    (state : Journaled σ) :
    let plain := step.method arguments unwinding state.app
    step.journaled.method arguments unwinding state =
      (plain.1, ⟨plain.2, state.journal ++ [.method ⟨step, arguments, plain.1⟩]⟩) := rfl

/-- A hook is written down exactly if the callee has it, however it ends. -/
theorem fire_journaled (callee : Option (Callee σ)) (name : String)
    (exception : Option ExceptionInfo) (unwinding : Bool) (state : Journaled σ) :
    Scope.fire (callee.map Callee.journaled) name exception unwinding state =
      ⟨Scope.fire callee name exception unwinding state.app,
        state.journal ++ hookCalls callee name exception⟩ := by
  cases callee with
  | none => simp [Scope.fire, hookCalls]
  | some callee =>
    cases hhas : callee.hasHook name <;>
      simp [Scope.fire, hookCalls, Callee.journaled, hhas]

/-- A scope fires its opening hook, runs its body, and tells its closing hook how that ended. -/
theorem run_apply {α : Type} (callee : Option (Callee σ)) (base : Option String) (body : Act σ α)
    (unwinding : Bool) (state : σ) :
    let opened := Scope.fire callee (Scope.hookName "pre" base) none unwinding state
    let ended := body unwinding opened
    Scope.run callee base body unwinding state =
      (ended.1, Scope.fire callee (Scope.hookName "post" base)
        (ended.1.exception?.or (passingPanic unwinding))
        (unwinding || ended.1 matches .panic _) ended.2) := by
  intro opened ended
  have hrun : body unwinding opened = ended := rfl
  obtain ⟨outcome, after⟩ := ended
  simp only [Scope.run, Scope.around, opened, hrun]
  cases outcome <;> cases unwinding <;> rfl

/-- The scope of a journaled step does what the plain scope does and adds its bracket. -/
theorem run_journaled (callee : Option (Callee σ)) (step : CallStep σ) (arguments : Arguments)
    (unwinding : Bool) (state : Journaled σ) :
    let plain := Scope.run callee (some step.name) (step.method arguments) unwinding state.app
    Scope.run (callee.map Callee.journaled) (some step.name) (step.journaled.method arguments)
        unwinding state =
      (plain.1, ⟨plain.2, state.journal ++
        bracket callee (passingPanic unwinding) ⟨step, arguments, plain.1⟩⟩) := by
  rw [run_apply, run_apply]
  simp only [fire_journaled, method_journaled, bracket, List.append_assoc, hookName_pre,
    hookName_post]

/-- From every state of a run, the remaining steps add a bracket for each call that they make. -/
theorem executeSteps_journaled (kwargs : Kwargs) (callee : Option (Callee σ))
    (previous : Option Json) (steps : List (CallStep σ)) (unwinding : Bool) (app : σ) :
    ∃ calls,
      let plain := executeSteps kwargs callee previous steps unwinding app
      Threads kwargs previous steps calls plain.1 ∧
      ∀ journal,
        executeSteps kwargs (callee.map Callee.journaled) previous
            (steps.map CallStep.journaled) unwinding ⟨app, journal⟩ =
          (plain.1, ⟨plain.2, journal ++
            calls.flatMap (bracket callee (passingPanic unwinding))⟩) := by
  induction steps generalizing previous app with
  | nil => exact ⟨[], threads_nil, fun journal => by simp [executeSteps]⟩
  | cons step steps ih =>
    have hscope := run_journaled callee step ⟨kwargs, step.selectId, previous⟩ unwinding
    rcases hplain : Scope.run callee (some step.name)
        (step.method ⟨kwargs, step.selectId, previous⟩) unwinding app with ⟨outcome, after⟩
    cases hvalue : outcome.value? with
    | some value =>
      obtain rfl : outcome = .ok value := Outcome.eq_ok_of_value?_eq_some hvalue
      obtain ⟨calls, hthreads, hjournal⟩ := ih (some value) after
      rw [executeSteps_of_ok steps hplain]
      refine ⟨_, threads_cons step hthreads, fun journal => ?_⟩
      have hstep := hscope ⟨app, journal⟩
      simp only [hplain] at hstep
      rw [List.map_cons, executeSteps_of_ok _ hstep, hjournal, List.flatMap_cons,
        List.append_assoc]
    | none =>
      rw [executeSteps_of_not_ok steps hvalue hplain]
      refine ⟨_, threads_stop step hvalue, fun journal => ?_⟩
      have hstep := hscope ⟨app, journal⟩
      simp only [hplain] at hstep
      rw [List.map_cons, executeSteps_of_not_ok _ hvalue hstep, List.flatMap_singleton]

theorem length_hookCalls (callee : Option (Callee σ)) (name : String)
    (exception exception' : Option ExceptionInfo) :
    (hookCalls callee name exception).length = (hookCalls callee name exception').length := by
  unfold hookCalls
  split <;> rfl

/-- What a closing hook is told about a passing panic shows after a call that returned a value, if
the callee has the hook, and nowhere else. -/
theorem bracket_passingPanic_eq_iff (callee : Option (Callee σ)) (unwinding : Bool)
    (call : Call σ) :
    bracket callee (passingPanic unwinding) call = bracket callee none call ↔
      (unwinding = true → (callee.any fun callee => callee.hasHook ("post_" ++ call.step.name)) →
        ∀ value, call.outcome ≠ .ok value) := by
  unfold bracket hookCalls passingPanic
  rw [List.append_cancel_left_eq]
  cases (callee.any fun callee => callee.hasHook ("post_" ++ call.step.name)) <;>
    cases unwinding <;> cases call.outcome <;> simp [Outcome.exception?]

/-- Journals of the same calls are compared bracket by bracket. -/
theorem brackets_eq_iff (callee : Option (Callee σ)) (passing passing' : Option ExceptionInfo)
    (calls : List (Call σ)) :
    calls.flatMap (bracket callee passing) = calls.flatMap (bracket callee passing') ↔
      ∀ call ∈ calls, bracket callee passing call = bracket callee passing' call := by
  induction calls with
  | nil => simp
  | cons call calls ih =>
    have hlength : (bracket callee passing call).length = (bracket callee passing' call).length := by
      simp only [bracket, List.length_append]
      rw [length_hookCalls callee _ (call.outcome.exception?.or passing)]
    rw [List.flatMap_cons, List.flatMap_cons,
      List.append_eq_append_iff_of_size_eq_left hlength, ih, List.forall_mem_cons]

/-- A run calls the hooks of every step that it reaches, and no others. For every stack, arguments
and callee, whose hooks and methods may do anything to the state that they share and end in any
way, there are calls of methods, which hand their values through the steps, such that the journal
of the run is these calls in their order, each between the hooks that the callee has for its step:
before it without an exception, after it with the failure of the step, if it failed. Writing the
journal changes nothing else. A run that a hook makes while a panic passes is the exception: there
the closing hooks of steps that returned a value are told of that panic. Every closing hook is told
how its own step ended exactly if the run is not made on the way of a panic, or no step of it with a
closing hook returns a value. -/
theorem execute_brackets_every_step (stack : CallStack σ) (kwargs : Kwargs)
    (callee : Option (Callee σ)) (unwinding : Bool) (app : σ) :
    ∃ calls outcome final,
      Threads kwargs.strip none stack.steps calls outcome ∧
      stack.execute kwargs callee unwinding app = (outcome, final) ∧
      stack.journaled.execute kwargs (callee.map Callee.journaled) unwinding ⟨app, []⟩ =
        (outcome, ⟨final, calls.flatMap (bracket callee (passingPanic unwinding))⟩) ∧
      (calls.flatMap (bracket callee (passingPanic unwinding)) =
          calls.flatMap (bracket callee none) ↔
        (unwinding = true → ∀ call ∈ calls,
          (callee.any fun callee => callee.hasHook ("post_" ++ call.step.name)) →
          ∀ value, call.outcome ≠ .ok value)) := by
  obtain ⟨calls, hthreads, hjournal⟩ :=
    executeSteps_journaled kwargs.strip callee none stack.steps unwinding app
  refine ⟨calls, _, _, hthreads, rfl, hjournal [], ?_⟩
  simp only [brackets_eq_iff, bracket_passingPanic_eq_iff]
  exact ⟨fun h hpassing call hcall => h call hcall hpassing,
    fun h call hcall hpassing => h hpassing call hcall⟩

def cleanup : CallStack Unit := ⟨"get", [⟨fun _ => pure .null, "cleanup", none⟩]⟩

/-- Closing the step of the request, it executes `cleanup` with every hook. -/
def tidy : Callee (Journaled Unit) where
  hasHook name := name == "post_request"
  callHook _ _ := do
    let everyHook : Callee Unit := ⟨fun _ => true, fun _ _ => pure ()⟩
    let _ ← cleanup.journaled.execute [] (some everyHook.journaled)

/-- The step of the request panics. Under `tidy` the hook `post_cleanup` is told that its step
panicked, which returned null. -/
theorem cleanup_told_of_passing_panic :
    let request : CallStack (Journaled Unit) :=
      ⟨"get", [⟨fun _ => Act.panic "boom", "request", none⟩]⟩
    let call : Call Unit := ⟨⟨fun _ => pure .null, "cleanup", none⟩, ⟨[], none, none⟩, .ok .null⟩
    (request.execute [] (some tidy) false ⟨(), []⟩).1 = .panic "boom" ∧
    (request.execute [] (some tidy) false ⟨(), []⟩).2.journal =
      [.hook "pre_cleanup" none, .method call,
        .hook "post_cleanup" (some ⟨"Panic", "call step panicked"⟩)] :=
  ⟨rfl, rfl⟩

end CallStack

end PathCall
