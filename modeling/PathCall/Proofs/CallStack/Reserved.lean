import Mathlib.Data.List.Sort
import PathCall.Proofs.Access.Guard
import PathCall.Proofs.CallStack.Bracketing

/-!
Argument names that begin with an underscore belong to the library. A caller may write such names,
but they never reach a method, a hook or a validator. The main theorem compares two runs whose
arguments differ in such names only: they are one run. And it says what methods and validators get
to see in place of what the caller wrote.
-/

namespace PathCall

namespace KeyMap

variable {κ ν : Type} [DecidableEq κ] [LT κ] [@Std.Asymm κ (· < ·)] {key : κ} {value : ν}
  {map left right : KeyMap κ ν}

theorem Ordered.find?_eq_some_iff (h : Ordered map) :
    find? key map = some value ↔ (key, value) ∈ map := by
  refine ⟨mem_of_find?_eq_some, fun hmem => ?_⟩
  induction map with
  | nil => cases hmem
  | cons pair rest ih =>
    obtain ⟨k, v⟩ := pair
    obtain ⟨hfirst, hrest⟩ := List.pairwise_cons.mp h
    rcases List.mem_cons.mp hmem with heq | hmem
    · cases heq
      simp [find?]
    · have hlt : k < key := hfirst key (List.mem_map_of_mem (f := Prod.fst) hmem)
      have hne : key ≠ k := fun heq => Std.Asymm.asymm _ _ (heq ▸ hlt) (heq ▸ hlt)
      rw [find?, if_neg hne]
      exact ih hrest hmem

/-- A map is determined by what is found in it. -/
theorem Ordered.eq_of_find?_eq (hleft : Ordered left) (hright : Ordered right)
    (h : ∀ key, find? key left = find? key right) : left = right := by
  have hbefore (map : KeyMap κ ν) (hmap : Ordered map) :
      map.Pairwise fun entry other => entry.1 < other.1 := List.pairwise_map.mp hmap
  have hanti : @Std.Antisymm (κ × ν) (fun entry other => entry.1 < other.1) :=
    ⟨fun entry other hlt hgt => absurd hgt (Std.Asymm.asymm _ _ hlt)⟩
  have hirrefl : @Std.Irrefl (κ × ν) (fun entry other => entry.1 < other.1) :=
    ⟨fun entry hlt => Std.Asymm.asymm _ _ hlt hlt⟩
  refine (hbefore left hleft).eq_of_mem_iff (hbefore right hright) fun entry => ?_
  rw [← hleft.find?_eq_some_iff, ← hright.find?_eq_some_iff, h]

end KeyMap

namespace Kwargs

def AgreeUnreserved (kwargs kwargs' : Kwargs) : Prop :=
  ∀ name, isReservedName name = false → KeyMap.find? name kwargs = KeyMap.find? name kwargs'

theorem find?_strip (kwargs : Kwargs) (name : String) :
    KeyMap.find? name kwargs.strip =
      if isReservedName name then none else KeyMap.find? name kwargs := by
  rw [strip, KeyMap.find?_filter fun name => !isReservedName name]
  cases isReservedName name <;> rfl

theorem mem_strip {kwargs : Kwargs} {entry : String × Json} :
    entry ∈ kwargs.strip ↔ entry ∈ kwargs ∧ isReservedName entry.1 = false := by
  simp [strip]

theorem ordered_strip {kwargs : Kwargs} (h : KeyMap.Ordered kwargs) :
    KeyMap.Ordered kwargs.strip := by
  unfold KeyMap.Ordered KeyMap.keys strip at *
  exact h.sublist (List.filter_sublist.map Prod.fst)

/-- Only reserved names are dropped, so nothing else can tell arguments apart afterwards. -/
theorem AgreeUnreserved.strip_eq {kwargs kwargs' : Kwargs} (h : kwargs.AgreeUnreserved kwargs')
    (hordered : KeyMap.Ordered kwargs) (hordered' : KeyMap.Ordered kwargs') :
    kwargs.strip = kwargs'.strip := by
  refine (ordered_strip hordered).eq_of_find?_eq (ordered_strip hordered') fun name => ?_
  rw [find?_strip, find?_strip]
  split
  · rfl
  · exact h name (Bool.eq_false_iff.mpr ‹_›)

end Kwargs

namespace Receiver

variable {Ω : Type} {kwargs : Kwargs} {arguments : Arguments}

/-- An entity that drops its own names gets the others that the caller wrote. -/
theorem mem_filteredKwargs_of_strip (h : arguments.kwargs = kwargs.strip) (self : Receiver Ω)
    (entry : String × Json) :
    entry ∈ self.filteredKwargs arguments ↔
      entry ∈ kwargs ∧ isReservedName entry.1 = false ∧ entry.1 ∉ self.ownNames := by
  simp only [filteredKwargs, Arguments.filtered, h, List.mem_filter, Kwargs.mem_strip,
    Bool.and_eq_true, Bool.not_eq_true', List.contains_eq_mem, decide_eq_false_iff_not]
  constructor
  · rintro ⟨⟨hentry, hunreserved⟩, -, hown⟩
    exact ⟨hentry, hunreserved, hown⟩
  · rintro ⟨hentry, hunreserved, hown⟩
    exact ⟨⟨hentry, hunreserved⟩, hunreserved, hown⟩

end Receiver

namespace CallStack

theorem Threads.kwargs_of_mem {τ : Type} {kwargs : Kwargs} {previous : Option Json}
    {steps : List (CallStep τ)} {calls : List (Call τ)} {outcome : Outcome Json}
    (h : Threads kwargs previous steps calls outcome) {call : Call τ} (hcall : call ∈ calls) :
    call.arguments.kwargs = kwargs := by
  obtain ⟨before, after, hsplit⟩ := List.append_of_mem hcall
  rw [h.arguments before call after hsplit]

variable {Ω : Type}

/-- Reserved argument names never influence a call. Two runs of a stack under one callee, whose
arguments agree in all other names, are the same run: in outcome and end state, in the calls of
methods with their arguments, and in the calls of hooks. In every run each method gets exactly the
caller's arguments without the reserved names, whichever way it looks at them, beside the identifier
of its step and the value of the step before, which come from the stack alone. An entity that drops
names of its own drops nothing else, and a validator that decides about one of these calls is shown
the same arguments as the method. -/
theorem execute_ignores_reserved_names (stack : CallStack (World Ω))
    (callee : Option (Callee (World Ω))) :
    (∀ kwargs kwargs' : Kwargs, KeyMap.Ordered kwargs → KeyMap.Ordered kwargs' →
      kwargs.AgreeUnreserved kwargs' →
      stack.execute kwargs callee = stack.execute kwargs' callee ∧
      stack.journaled.execute kwargs (callee.map Callee.journaled) =
        stack.journaled.execute kwargs' (callee.map Callee.journaled)) ∧
    ∀ (kwargs : Kwargs) (unwinding : Bool) (world : World Ω), ∃ calls outcome final,
      Threads kwargs.strip none stack.steps calls outcome ∧
      stack.execute kwargs callee unwinding world = (outcome, final) ∧
      stack.journaled.execute kwargs (callee.map Callee.journaled) unwinding ⟨world, []⟩ =
        (outcome, ⟨final, calls.flatMap (bracket callee (passingPanic unwinding))⟩) ∧
      ∀ call ∈ calls,
        (∀ entry, entry ∈ call.arguments.kwargs ↔
          entry ∈ kwargs ∧ isReservedName entry.1 = false) ∧
        (∀ name, call.arguments.get? name =
          if isReservedName name then none else KeyMap.find? name kwargs) ∧
        ∀ self : Receiver Ω,
          (∀ entry, entry ∈ self.filteredKwargs call.arguments ↔
            entry ∈ kwargs ∧ isReservedName entry.1 = false ∧ entry.1 ∉ self.ownNames) ∧
          ∀ (operation : String) (validator : Validator Ω) (unwinding : Bool) (now : World Ω),
            self.supports now Features.accessControlValidation = true →
            now.guard? self.place = some validator →
            self.Decides operation call.arguments unwinding now
              (validator.validate self.hasMethod operation kwargs.strip unwinding now) := by
  constructor
  · intro kwargs kwargs' hordered hordered' hagree
    have hstrip := hagree.strip_eq hordered hordered'
    simp only [execute, hstrip, and_self]
  · intro kwargs unwinding world
    obtain ⟨calls, hthreads, hjournal⟩ :=
      executeSteps_journaled kwargs.strip callee none stack.steps unwinding world
    refine ⟨calls, _, _, hthreads, rfl, hjournal [], fun call hcall => ?_⟩
    have hkwargs : call.arguments.kwargs = kwargs.strip := hthreads.kwargs_of_mem hcall
    refine ⟨fun entry => ?_, fun name => ?_, fun self => ⟨fun entry => ?_, ?_⟩⟩
    · rw [hkwargs, Kwargs.mem_strip]
    · rw [Arguments.get?, hkwargs, Kwargs.find?_strip]
    · exact Receiver.mem_filteredKwargs_of_strip hkwargs self entry
    · intro operation validator unwinding now hsupports hguard
      rw [← hkwargs]
      exact Receiver.decides_validate hsupports hguard

/-- A stack of one method, which returns the arguments that it gets. -/
def echo : CallStack (World Unit) where
  operation := "get"
  steps := [⟨fun arguments => pure (.obj arguments.kwargs), "get", none⟩]

/-- A caller who writes a select id gets the answer of one who writes a token and an underscore:
neither is seen. -/
theorem echo_ignores_written_select_id :
    KeyMap.Ordered [("_select_id", Json.str "7"), ("limit", .int 5)] ∧
    KeyMap.Ordered [("_", Json.null), ("_token", .str "x"), ("limit", .int 5)] ∧
    Kwargs.AgreeUnreserved [("_select_id", Json.str "7"), ("limit", .int 5)]
      [("_", .null), ("_token", .str "x"), ("limit", .int 5)] ∧
    (echo.execute [("_select_id", Json.str "7"), ("limit", .int 5)] none false
      (World.start ())).1 = .ok (.obj [("limit", .int 5)]) := by
  have hordered : KeyMap.Ordered [("_select_id", Json.str "7"), ("limit", .int 5)] := by
    unfold KeyMap.Ordered
    decide
  have hordered' : KeyMap.Ordered [("_", Json.null), ("_token", .str "x"), ("limit", .int 5)] := by
    unfold KeyMap.Ordered
    decide
  have hagree : Kwargs.AgreeUnreserved [("_select_id", Json.str "7"), ("limit", .int 5)]
      [("_", .null), ("_token", .str "x"), ("limit", .int 5)] := by
    intro name hname
    have hne (other : String) (hother : isReservedName other = true) : name ≠ other := by
      rintro rfl
      rw [hname] at hother
      cases hother
    simp only [KeyMap.find?, if_neg (hne "_select_id" (by decide)), if_neg (hne "_" (by decide)),
      if_neg (hne "_token" (by decide))]
  obtain ⟨hsame, -⟩ := (execute_ignores_reserved_names echo none).1 _ _ hordered hordered' hagree
  exact ⟨hordered, hordered', hagree, by rw [hsame]; rfl⟩

end CallStack

end PathCall
