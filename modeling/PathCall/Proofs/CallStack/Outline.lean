import PathCall.Proofs.CallStack.Segmentation

/-!
What a call stack says about itself: its operation, and the names and identifiers of its steps. It
depends on the names of the methods alone, and not on what they do, so the instances of a class
resolve alike as long as they leave their stacks alone.
-/

namespace PathCall

def CallStep.label {σ : Type} (step : CallStep σ) : String × Option String :=
  (step.name, step.selectId)

namespace CallStack

variable {σ : Type} {left right : MethodTable σ}

/-- What a stack says about itself: its operation, and the names and identifiers of its steps. -/
def outline (stack : CallStack σ) : String × List (String × Option String) :=
  (stack.operation, stack.steps.map CallStep.label)

/-- The label of a step depends on whether the method is there, not on what it does. -/
theorem label_resolve_congr {name : String}
    (h : KeyMap.contains name left = KeyMap.contains name right) (selectId : Option String) :
    (CallStep.resolve left name selectId).map CallStep.label =
      (CallStep.resolve right name selectId).map CallStep.label := by
  cases hleft : KeyMap.contains name left with
  | true =>
    obtain ⟨method, hfind⟩ := KeyMap.contains_eq_true_iff.mp hleft
    obtain ⟨method', hfind'⟩ := KeyMap.contains_eq_true_iff.mp (h ▸ hleft)
    simp only [CallStep.resolve, hfind, hfind']
    rfl
  | false =>
    have hfind := KeyMap.contains_eq_false_iff.mp hleft
    have hfind' := KeyMap.contains_eq_false_iff.mp (h ▸ hleft)
    simp only [CallStep.resolve, hfind, hfind']

/-- The labels of steps with one more step behind them. -/
theorem labels_append (last : Except Error (CallStep σ))
    (front : Except Error (List (CallStep σ))) :
    Except.map (List.map CallStep.label) (do let step ← last; return (← front) ++ [step]) =
      (do
        let label ← last.map CallStep.label
        return (← front.map (List.map CallStep.label)) ++ [label]) := by
  cases last with
  | error fault => rfl
  | ok step =>
    cases front with
    | error fault => rfl
    | ok steps => exact congrArg Except.ok (List.map_append ..)

theorem labels_singleton (last : Except Error (CallStep σ)) :
    Except.map (List.map CallStep.label) (do let step ← last; return [step]) =
      (do let label ← last.map CallStep.label; return [label]) := by
  cases last <;> rfl

/-- Tables with the same names resolve alike. The induction follows the tokens as they are taken
from the tail. -/
theorem labels_resolveFromTail_congr
    (h : ∀ name, KeyMap.contains name left = KeyMap.contains name right) (operation : String)
    (tokens : List String) :
    (resolveFromTail left operation tokens).map (List.map CallStep.label) =
      (resolveFromTail right operation tokens).map (List.map CallStep.label) := by
  fun_induction resolveFromTail left operation tokens with
  | case1 => rfl
  | case2 operation token _ hpart =>
    rw [resolveFromTail, if_pos (h _ ▸ hpart)]
    exact (labels_singleton _).trans (label_resolve_congr (h _) none ▸ (labels_singleton _).symm)
  | case3 operation token _ hpart =>
    rw [resolveFromTail, if_neg (h _ ▸ hpart)]
    exact (labels_singleton _).trans
      (label_resolve_congr (h _) (some token) ▸ (labels_singleton _).symm)
  | case4 operation token owner before hpart ih =>
    rw [resolveFromTail, if_pos (h _ ▸ hpart), labels_append, labels_append, ih,
      label_resolve_congr (h _)]
  | case5 operation token owner before hpart method hmethod ih =>
    rw [resolveFromTail, if_neg (h _ ▸ hpart), if_pos (h _ ▸ hmethod), labels_append,
      labels_append, ih, label_resolve_congr (h _)]
  | case6 operation token owner before hpart method hmethod =>
    rw [resolveFromTail, if_neg (h _ ▸ hpart), if_neg (h _ ▸ hmethod)]

theorem outline_ofSteps (operation : String) (steps : Except Error (List (CallStep σ))) :
    Except.map outline (do return ⟨operation, ← steps⟩) =
      (steps.map (List.map CallStep.label)).map (Prod.mk operation) := by
  cases steps <;> rfl

/-- What a stack says about itself depends on the names of the methods alone. -/
theorem outline_resolve_congr
    (h : ∀ name, KeyMap.contains name left = KeyMap.contains name right) (operation : String)
    (selectors : List String) :
    (resolve left operation selectors).map outline =
      (resolve right operation selectors).map outline := by
  cases selectors with
  | nil =>
    have hsingle (table : MethodTable σ) : (resolve table operation []).map outline =
        ((CallStep.resolve table (Text.lowercase operation) none).map CallStep.label).map
          fun label => (Text.lowercase operation, [label]) := by
      rw [resolve]
      cases CallStep.resolve table (Text.lowercase operation) none <;> rfl
    rw [hsingle, hsingle, label_resolve_congr (h _)]
  | cons first others =>
    have htail (table : MethodTable σ) : (resolve table operation (first :: others)).map outline =
        ((resolveFromTail table (Text.lowercase operation) (first :: others).reverse).map
          (List.map CallStep.label)).map (Prod.mk (Text.lowercase operation)) :=
      outline_ofSteps _ _
    rw [htail, htail, labels_resolveFromTail_congr h]

end CallStack

/-- All instances of a class have its methods. -/
theorem EntityClass.hasMethod_instanceAt {Ω : Type} (entity : EntityClass Ω) (place : Nat)
    (name : String) :
    (entity.instanceAt place).hasMethod name = KeyMap.contains name entity.methods := by
  rw [Bool.eq_iff_iff, Instance.hasMethod, KeyMap.contains_iff_mem_keys,
    KeyMap.contains_iff_mem_keys]
  simp [KeyMap.keys, EntityClass.instanceAt]

namespace Instance

variable {Ω : Type}

/-- Two instances with the same names of methods resolve alike while they leave their stacks
alone, and resolving changes nothing. -/
theorem outline_callStack_congr {left right : Instance Ω}
    (hmethods : ∀ name, left.hasMethod name = right.hasMethod name) {now now' : World Ω}
    (hleft : left.supports now Features.callStackOptimization = false)
    (hright : right.supports now' Features.callStackOptimization = false)
    (operation : String) (selectors : List String) (unwinding unwinding' : Bool) :
    ∃ result,
      (CallStack.outline <$> left.callStack operation selectors) unwinding now = (result, now) ∧
      (CallStack.outline <$> right.callStack operation selectors) unwinding' now' =
        (result, now') := by
  have houtlines := CallStack.outline_resolve_congr hmethods operation selectors
  refine ⟨.ofExcept ((CallStack.resolve left.methods operation selectors).map CallStack.outline),
    ?_, ?_⟩
  · rw [Act.map_apply, left.callStack_of_keeps_stacks _ _ _ hleft, Outcome.map_ofExcept]
  · rw [Act.map_apply, right.callStack_of_keeps_stacks _ _ _ hright, Outcome.map_ofExcept,
      houtlines]

end Instance

end PathCall
