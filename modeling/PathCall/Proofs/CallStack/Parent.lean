import PathCall.Proofs.CallStack.Segmentation

/-!
What stands in front of the last step. The requested operation decides about the last block of the
selectors and about nothing else: what is left of them is resolved as if it were to be selected.
The main theorem says that a stack is the stack of that selection with one step more, or fails as
the selection fails, so that operations which take equally many selectors for their last step share
all others.
-/

namespace PathCall

namespace CallStack

variable {σ : Type} {table : MethodTable σ}

theorem lowercase_select : Text.lowercase select = select := by decide

/-- A legal block behind `before` leaves the selection of `before` to do. -/
theorem resolve_append {operation : String} {before : List String} {block : Block σ}
    (hblock : block.Legal table (Text.lowercase operation) before) :
    resolve table operation (before ++ block.tokens) =
      (resolveFromTail table select before.reverse).map fun steps =>
        ⟨Text.lowercase operation, steps ++ [block.step]⟩ := by
  rw [resolve_of_ne_nil table operation (by simp [hblock.tokens_ne_nil]),
    resolveFromTail_append hblock]
  cases resolveFromTail table select before.reverse <;> rfl

theorem resolve_select {selectors : List String} (hne : selectors ≠ []) :
    resolve table select selectors =
      (resolveFromTail table select selectors.reverse).map fun steps => ⟨select, steps⟩ := by
  rw [resolve_of_ne_nil table select hne, lowercase_select]

/-- All steps but the last are those of the selection. -/
theorem dropLast_resolve_append {operation : String} {before : List String} {block : Block σ}
    (hblock : block.Legal table (Text.lowercase operation) before) :
    ((resolve table operation (before ++ block.tokens)).map fun stack => stack.steps.dropLast) =
      resolveFromTail table select before.reverse := by
  rw [resolve_append hblock]
  cases resolveFromTail table select before.reverse with
  | error error => rfl
  | ok steps => exact congrArg Except.ok List.dropLast_concat

end CallStack

namespace Instance

open CallStack (select)

variable {Ω : Type}

/-- The way to the parent does not depend on the operation. Let the selectors end with a block that
is legal for the operation. If there is nothing in front of the block, its step is the whole stack.
Otherwise the operation resolves exactly if selecting what is in front of the block does, to the
steps of that selection and the step of the block, and fails with the very error of the selection.
Any other operation for which a block of equally many selectors is legal at the end has the same
steps in front of its last one, or fails in the same way. -/
theorem callStack_extends_selection (target : Instance Ω) (world : World Ω) (operation : String)
    (unwinding : Bool) {before : List String} {block : CallStack.Block (World Ω)}
    (hkeeps : target.supports world Features.callStackOptimization = false)
    (hblock : block.Legal target.methods (Text.lowercase operation) before) :
    (before = [] → target.callStack operation (before ++ block.tokens) unwinding world =
      (.ok ⟨Text.lowercase operation, [block.step]⟩, world)) ∧
    (before ≠ [] → target.callStack operation (before ++ block.tokens) unwinding world =
      (do
        let parent ← target.callStack select before
        return ⟨Text.lowercase operation, parent.steps ++ [block.step]⟩ :
          Act (World Ω) (CallStack (World Ω))) unwinding world) ∧
    ∀ (other : String) (before' : List String) (block' : CallStack.Block (World Ω)),
      block'.Legal target.methods (Text.lowercase other) before' →
      before' ++ block'.tokens = before ++ block.tokens →
      block'.tokens.length = block.tokens.length →
      ((fun stack => stack.steps.dropLast) <$>
        target.callStack other (before ++ block.tokens)) unwinding world =
      ((fun stack => stack.steps.dropLast) <$>
        target.callStack operation (before ++ block.tokens)) unwinding world := by
  simp only [Act.map_apply, Act.bind_apply, target.callStack_of_keeps_stacks _ _ unwinding hkeeps,
    Outcome.map_ofExcept]
  refine ⟨?_, fun hne => ?_, ?_⟩
  · rintro rfl
    rw [CallStack.resolve_append hblock]
    rfl
  · rw [CallStack.resolve_append hblock, CallStack.resolve_select hne]
    cases CallStack.resolveFromTail target.methods select before.reverse <;> rfl
  · intro other before' block' hblock' hsame hlength
    obtain ⟨hbefore, -⟩ := List.append_inj' hsame hlength
    rw [CallStack.dropLast_resolve_append hblock, ← hsame,
      CallStack.dropLast_resolve_append hblock', hbefore]

def orderDesk : EntityClass Unit where
  methods := KeyMap.ofList [
    ("delete_orders", fun _ _ => pure .null),
    ("get_orders", fun _ _ => pure .null),
    ("select", fun _ _ => pure .null)]

/-- Reading and deleting an order of one element both select the element first. -/
theorem orderDesk_selects_first :
    (orderDesk.instanceAt 0).supports (World.start ()) Features.callStackOptimization = false ∧
    (((fun stack => stack.steps.map CallStep.display) <$>
        (orderDesk.instanceAt 0).callStack "DELETE" ["42", "orders", "7"]) false
      (World.start ())).1 = .ok ["select(42)", "delete_orders(7)"] ∧
    ((fun stack => stack.steps.dropLast) <$>
        (orderDesk.instanceAt 0).callStack "DELETE" ["42", "orders", "7"]) false (World.start ()) =
      ((fun stack => stack.steps.dropLast) <$>
        (orderDesk.instanceAt 0).callStack "get" ["42", "orders", "7"]) false (World.start ()) := by
  have hkeeps : (orderDesk.instanceAt 0).supports (World.start ())
      Features.callStackOptimization = false := by decide
  have hdelete : CallStack.Block.Legal (orderDesk.instanceAt 0).methods (Text.lowercase "DELETE")
      ["42"] ⟨["orders", "7"], ⟨fun _ => pure .null, "delete_orders", some "7"⟩⟩ :=
    .element rfl rfl
  have hget : CallStack.Block.Legal (orderDesk.instanceAt 0).methods (Text.lowercase "get")
      ["42"] ⟨["orders", "7"], ⟨fun _ => pure .null, "get_orders", some "7"⟩⟩ :=
    .element rfl rfl
  obtain ⟨-, hextends, -⟩ := callStack_extends_selection (orderDesk.instanceAt 0)
    (World.start ()) "DELETE" false hkeeps hdelete
  obtain ⟨-, -, hshared⟩ := callStack_extends_selection (orderDesk.instanceAt 0)
    (World.start ()) "get" false hkeeps hget
  refine ⟨hkeeps, ?_, hshared "DELETE" _ _ hdelete rfl rfl⟩
  have hstack := hextends (by simp)
  simp only [List.cons_append, List.nil_append] at hstack
  rw [Act.map_apply, hstack]
  decide

end Instance

end PathCall
