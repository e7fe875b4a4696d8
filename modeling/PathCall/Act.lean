import PathCall.Error

/-!
Computations with effects. They read and change a state, and end with a value, with an error or
with a panic. A panic is no error: it passes through everything, and only scopes that close on its
way can tell that it is passing.
-/

namespace PathCall

inductive Outcome (α : Type) where
  | ok (value : α)
  | fail (error : Error)
  | panic (reason : String)
  deriving Inhabited, DecidableEq

def Outcome.ofExcept {α : Type} : Except Error α → Outcome α
  | .ok value => .ok value
  | .error error => .fail error

def Outcome.map {α β : Type} (f : α → β) : Outcome α → Outcome β
  | .ok value => .ok (f value)
  | .fail error => .fail error
  | .panic reason => .panic reason

theorem Outcome.map_ofExcept {α β : Type} (f : α → β) (result : Except Error α) :
    (ofExcept result).map f = ofExcept (result.map f) := by
  cases result <;> rfl

theorem Outcome.ofExcept_eq_ok_iff {α : Type} {result : Except Error α} {value : α} :
    ofExcept result = .ok value ↔ result = .ok value := by
  cases result <;> simp [ofExcept]

/-- A computation over states `σ`. `unwinding` tells that it runs while an earlier panic passes
through the program. -/
def Act (σ α : Type) : Type := (unwinding : Bool) → σ → Outcome α × σ

namespace Act

variable {σ α β : Type}

def pure (value : α) : Act σ α := fun _ state => (.ok value, state)

/-- Goes on with a value; an error or a panic ends the computation. -/
def bind (act : Act σ α) (next : α → Act σ β) : Act σ β := fun unwinding state =>
  match act unwinding state with
  | (.ok value, state) => next value unwinding state
  | (.fail error, state) => (.fail error, state)
  | (.panic reason, state) => (.panic reason, state)

instance : Monad (Act σ) where
  pure := pure
  bind := bind

def fail (error : Error) : Act σ α := fun _ state => (.fail error, state)

def panic (reason : String) : Act σ α := fun _ state => (.panic reason, state)

def get : Act σ σ := fun _ state => (.ok state, state)

def modify (change : σ → σ) : Act σ Unit := fun _ state => (.ok (), change state)

def ofExcept (result : Except Error α) : Act σ α := fun _ state => (.ofExcept result, state)

/-- Turns an error into a value; a panic still passes. -/
def attempt (act : Act σ α) : Act σ (Except Error α) := fun unwinding state =>
  match act unwinding state with
  | (.ok value, state) => (.ok (.ok value), state)
  | (.fail error, state) => (.ok (.error error), state)
  | (.panic reason, state) => (.panic reason, state)

/-- A computation on a part of the state. -/
def focus {τ : Type} (read : τ → σ) (write : σ → τ → τ) (act : Act σ α) : Act τ α :=
  fun unwinding state =>
    let (outcome, part) := act unwinding (read state)
    (outcome, write part state)

@[simp] theorem pure_apply (value : α) (unwinding : Bool) (state : σ) :
    (Pure.pure value : Act σ α) unwinding state = (.ok value, state) := rfl

@[simp] theorem fail_apply (error : Error) (unwinding : Bool) (state : σ) :
    (fail error : Act σ α) unwinding state = (.fail error, state) := rfl

@[simp] theorem panic_apply (reason : String) (unwinding : Bool) (state : σ) :
    (panic reason : Act σ α) unwinding state = (.panic reason, state) := rfl

@[simp] theorem get_apply (unwinding : Bool) (state : σ) :
    (get : Act σ σ) unwinding state = (.ok state, state) := rfl

@[simp] theorem modify_apply (change : σ → σ) (unwinding : Bool) (state : σ) :
    (modify change : Act σ Unit) unwinding state = (.ok (), change state) := rfl

@[simp] theorem ofExcept_apply (result : Except Error α) (unwinding : Bool) (state : σ) :
    (ofExcept result : Act σ α) unwinding state = (.ofExcept result, state) := rfl

theorem map_apply (f : α → β) (act : Act σ α) (unwinding : Bool) (state : σ) :
    (f <$> act) unwinding state = ((act unwinding state).1.map f, (act unwinding state).2) := by
  change bind act (fun value => pure (f value)) unwinding state = _
  unfold bind
  cases act unwinding state with
  | mk outcome state => cases outcome <;> rfl

theorem bind_apply (act : Act σ α) (next : α → Act σ β) (unwinding : Bool) (state : σ) :
    (act >>= next) unwinding state =
      match act unwinding state with
      | (.ok value, state) => next value unwinding state
      | (.fail error, state) => (.fail error, state)
      | (.panic reason, state) => (.panic reason, state) := rfl

instance : LawfulMonad (Act σ) := LawfulMonad.mk' (Act σ)
  (fun act => by
    funext unwinding state
    change (act >>= Pure.pure) unwinding state = act unwinding state
    rw [bind_apply]
    cases act unwinding state with
    | mk outcome state => cases outcome <;> rfl)
  (fun _ _ => rfl)
  (fun act next last => by
    funext unwinding state
    simp only [bind_apply]
    cases act unwinding state with
    | mk outcome state => cases outcome <;> rfl)

/-- A composed computation has a value only if both of its parts have one. -/
theorem exists_of_bind_eq_ok {act : Act σ α} {next : α → Act σ β} {unwinding : Bool}
    {before after : σ} {value : β} (h : (act >>= next) unwinding before = (.ok value, after)) :
    ∃ first between, act unwinding before = (.ok first, between) ∧
      next first unwinding between = (.ok value, after) := by
  rw [bind_apply] at h
  split at h
  · rename_i first between hact
    exact ⟨first, between, hact, h⟩
  · cases h
  · cases h

end Act

end PathCall
