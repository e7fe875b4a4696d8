import Mathlib.Data.List.Induction
import PathCall.Instance

/-!
What the selectors of an address resolve to. Resolution walks from the tail and decides token by
token; here its result is described without the walk, as a cut of the selectors into blocks, each
of which is legal where it stands. The main theorem says that resolving an operation returns
exactly the stacks that come from such a cut, that there is never more than one, and that resolving
is refused when there is none.
-/

namespace PathCall

namespace CallStack

variable {σ : Type} {table : MethodTable σ} {operation : String}

/-- Neighbouring selectors that are resolved together, with the step that they stand for. -/
structure Block (σ : Type) where
  tokens : List String
  step : CallStep σ

/-- The blocks that may stand behind the selectors `before`. A token that names a method together
with the operation is a block of its own. Any other token identifies an element: of what the token
in front of it names, or, as the very first selector, of the entity itself. -/
inductive Block.Legal (table : MethodTable σ) (operation : String) :
    List String → Block σ → Prop where
  | part {before : List String} {token : String} {method : Method σ} :
      KeyMap.find? (partMethod operation token) table = some method →
      Block.Legal table operation before
        ⟨[token], ⟨method, partMethod operation token, none⟩⟩
  | element {before : List String} {owner token : String} {method : Method σ} :
      KeyMap.find? (partMethod operation token) table = none →
      KeyMap.find? (partMethod operation (Text.sanitize owner)) table = some method →
      Block.Legal table operation before
        ⟨[owner, token], ⟨method, partMethod operation (Text.sanitize owner), some token⟩⟩
  | first {token : String} {method : Method σ} :
      KeyMap.find? (partMethod operation token) table = none →
      KeyMap.find? operation table = some method →
      Block.Legal table operation [] ⟨[token], ⟨method, operation, some token⟩⟩

/-- A cut of the selectors into legal blocks, in the order of the address. The requested operation
belongs to the last block; all others select. -/
structure Segmentation (table : MethodTable σ) (operation : String) (selectors : List String)
    (blocks : List (Block σ)) : Prop where
  tokens : blocks.flatMap Block.tokens = selectors
  legal : ∀ before block after, blocks = before ++ block :: after →
    block.Legal table (if after = [] then operation else select)
      (before.flatMap Block.tokens)

/-- The steps that an operation on selectors stands for: those of the blocks of a segmentation, or
the operation itself when there is nothing to cut. -/
inductive Resolution (table : MethodTable σ) (operation : String) :
    List String → List (CallStep σ) → Prop where
  | operation {method : Method σ} :
      KeyMap.find? operation table = some method →
      Resolution table operation [] [⟨method, operation, none⟩]
  | blocks {selectors : List String} {blocks : List (Block σ)} :
      selectors ≠ [] → Segmentation table operation selectors blocks →
      Resolution table operation selectors (blocks.map Block.step)

theorem Block.Legal.tokens_ne_nil {before : List String} {block : Block σ}
    (h : block.Legal table operation before) : block.tokens ≠ [] := by
  cases h <;> simp

theorem segmentation_nil_iff {blocks : List (Block σ)} :
    Segmentation table operation [] blocks ↔ blocks = [] := by
  constructor
  · intro h
    cases blocks with
    | nil => rfl
    | cons block blocks =>
      have hempty : block.tokens = [] := by
        have := h.tokens
        simp only [List.flatMap_cons, List.append_eq_nil_iff] at this
        exact this.1
      exact absurd hempty (h.legal [] block blocks rfl).tokens_ne_nil
  · rintro rfl
    exact ⟨rfl, by simp⟩

/-- The last block of a segmentation can be taken off: in front of it only selections remain. -/
theorem segmentation_concat_iff {selectors : List String} {blocks : List (Block σ)}
    {block : Block σ} :
    Segmentation table operation selectors (blocks ++ [block]) ↔
      ∃ before, selectors = before ++ block.tokens ∧ Segmentation table select before blocks ∧
        block.Legal table operation before := by
  constructor
  · intro h
    refine ⟨blocks.flatMap Block.tokens, ?_, ⟨rfl, ?_⟩, ?_⟩
    · simpa using h.tokens.symm
    · intro before other after hsplit
      have hlegal := h.legal before other (after ++ [block]) (by simp [hsplit])
      simpa using hlegal
    · simpa using h.legal blocks block [] rfl
  · rintro ⟨before, rfl, hblocks, hblock⟩
    refine ⟨by simp [hblocks.tokens], ?_⟩
    intro front other after hsplit
    rcases List.eq_nil_or_concat after with rfl | ⟨middle, last, rfl⟩
    · obtain ⟨rfl, hlast⟩ := List.append_inj' hsplit rfl
      obtain rfl : block = other := by simpa using hlast
      simpa [hblocks.tokens] using hblock
    · rw [List.concat_eq_append, ← List.cons_append, ← List.append_assoc] at hsplit
      obtain ⟨rfl, -⟩ := List.append_inj' hsplit rfl
      simpa using hblocks.legal front other middle rfl

/-- A segmentation of at least one selector ends with a legal block. -/
theorem segmentation_iff_last {selectors : List String} {blocks : List (Block σ)}
    (hne : selectors ≠ []) :
    Segmentation table operation selectors blocks ↔
      ∃ before init block, selectors = before ++ block.tokens ∧ blocks = init ++ [block] ∧
        Segmentation table select before init ∧ block.Legal table operation before := by
  rcases List.eq_nil_or_concat blocks with rfl | ⟨init, last, rfl⟩
  · constructor
    · intro h
      exact absurd h.tokens.symm hne
    · rintro ⟨_, _, _, -, hblocks, -⟩
      simp at hblocks
  · rw [List.concat_eq_append, segmentation_concat_iff]
    constructor
    · rintro ⟨before, hselectors, hinit, hlast⟩
      exact ⟨before, init, last, hselectors, rfl, hinit, hlast⟩
    · rintro ⟨before, other, block, hselectors, hblocks, hinit, hlast⟩
      obtain ⟨rfl, hlast'⟩ := List.append_inj' hblocks rfl
      obtain rfl : last = block := by simpa using hlast'
      exact ⟨before, hselectors, hinit, hlast⟩

/-- The selectors decide about the last block: two legal blocks at the end of the same selectors
are one, and stand behind the same selectors. -/
theorem Block.Legal.unique {before front : List String} {block other : Block σ}
    (hblock : block.Legal table operation before) (hother : other.Legal table operation front)
    (hsame : before ++ block.tokens = front ++ other.tokens) :
    before = front ∧ block = other := by
  -- From the tail, the last token of both blocks comes first.
  have hreversed : block.tokens.reverse ++ before.reverse =
      other.tokens.reverse ++ front.reverse := by
    simpa only [List.reverse_append] using congrArg List.reverse hsame
  cases hblock with
  | part hpart =>
    cases hother with
    | part hpart' =>
      obtain ⟨rfl, hrest⟩ := List.cons.inj hreversed
      obtain rfl := List.reverse_inj.mp hrest
      obtain rfl := Option.some.inj (hpart.symm.trans hpart')
      exact ⟨rfl, rfl⟩
    | element hnone _ =>
      obtain ⟨rfl, -⟩ := List.cons.inj hreversed
      cases hnone.symm.trans hpart
    | first hnone _ =>
      obtain ⟨rfl, -⟩ := List.cons.inj hreversed
      cases hnone.symm.trans hpart
  | element hnone hmethod =>
    cases hother with
    | part hpart =>
      obtain ⟨rfl, -⟩ := List.cons.inj hreversed
      cases hnone.symm.trans hpart
    | element _ hmethod' =>
      obtain ⟨rfl, howner⟩ := List.cons.inj hreversed
      obtain ⟨rfl, hrest⟩ := List.cons.inj howner
      obtain rfl := List.reverse_inj.mp hrest
      obtain rfl := Option.some.inj (hmethod.symm.trans hmethod')
      exact ⟨rfl, rfl⟩
    | first _ _ => cases (List.cons.inj hreversed).2
  | first hnone hmethod =>
    cases hother with
    | part hpart =>
      obtain ⟨rfl, -⟩ := List.cons.inj hreversed
      cases hnone.symm.trans hpart
    | element _ _ => cases (List.cons.inj hreversed).2
    | first _ hmethod' =>
      obtain ⟨rfl, -⟩ := List.cons.inj hreversed
      obtain rfl := Option.some.inj (hmethod.symm.trans hmethod')
      exact ⟨rfl, rfl⟩

/-- A legal block at the end of the selectors ends every segmentation of them. -/
theorem segmentation_append_iff {before : List String} {block : Block σ}
    {blocks : List (Block σ)} (hblock : block.Legal table operation before) :
    Segmentation table operation (before ++ block.tokens) blocks ↔
      ∃ init, Segmentation table select before init ∧ blocks = init ++ [block] := by
  rw [segmentation_iff_last (by simp [hblock.tokens_ne_nil])]
  constructor
  · rintro ⟨front, init, other, hsame, rfl, hinit, hother⟩
    obtain ⟨rfl, rfl⟩ := hblock.unique hother hsame
    exact ⟨init, hinit, rfl⟩
  · rintro ⟨init, hinit, rfl⟩
    exact ⟨before, init, block, rfl, rfl, hinit, hblock⟩

/-- There is at most one segmentation. -/
theorem segmentation_unique {selectors : List String} {left right : List (Block σ)}
    (hleft : Segmentation table operation selectors left)
    (hright : Segmentation table operation selectors right) : left = right := by
  induction left using List.reverseRecOn generalizing operation selectors right with
  | nil =>
    obtain rfl : [] = selectors := hleft.tokens
    exact (segmentation_nil_iff.mp hright).symm
  | append_singleton left block ih =>
    obtain ⟨before, rfl, hbefore, hblock⟩ := segmentation_concat_iff.mp hleft
    obtain ⟨init, hinit, rfl⟩ := (segmentation_append_iff hblock).mp hright
    rw [ih hbefore hinit]

theorem resolve_step_of_find?_eq_some {name : String} {method : Method σ}
    (selectId : Option String) (h : KeyMap.find? name table = some method) :
    CallStep.resolve table name selectId = .ok ⟨method, name, selectId⟩ := by
  simp [CallStep.resolve, h]

/-- Resolving a step fails in one way only. -/
theorem resolve_step_of_find?_eq_none {name : String} (selectId : Option String)
    (h : KeyMap.find? name table = none) :
    CallStep.resolve table name selectId =
      .error ⟨.operationNotSupported, "Operation '" ++ name ++ "' is not supported"⟩ := by
  simp [CallStep.resolve, h]

/-- Selectors that end with a legal block resolve to the selections in front of it and its step. -/
theorem resolveFromTail_append {before : List String} {block : Block σ}
    (hblock : block.Legal table operation before) :
    resolveFromTail table operation (before ++ block.tokens).reverse =
      (resolveFromTail table select before.reverse).map (· ++ [block.step]) := by
  rw [List.reverse_append]
  cases hblock with
  | part hmethod =>
    have hpart := KeyMap.contains_eq_true_iff.mpr ⟨_, hmethod⟩
    -- The equations of resolution tell a first selector from a later one.
    cases hbefore : before.reverse with
    | nil =>
      simp only [List.reverse_singleton, List.append_nil, resolveFromTail, hpart, if_true,
        resolve_step_of_find?_eq_some none hmethod]
      rfl
    | cons owner rest =>
      simp only [List.reverse_singleton, List.singleton_append, resolveFromTail, hpart, if_true,
        resolve_step_of_find?_eq_some none hmethod]
      cases resolveFromTail table select (owner :: rest) <;> rfl
  | @element _ owner token method hnone hmethod =>
    have hpart := KeyMap.contains_eq_false_iff.mpr hnone
    have helement := KeyMap.contains_eq_true_iff.mpr ⟨_, hmethod⟩
    have hreversed : [owner, token].reverse ++ before.reverse =
        token :: owner :: before.reverse := rfl
    simp only [hreversed, resolveFromTail, hpart, helement, if_true, Bool.false_eq_true, if_false,
      resolve_step_of_find?_eq_some _ hmethod]
    cases resolveFromTail table select before.reverse <;> rfl
  | first hnone hmethod =>
    have hpart := KeyMap.contains_eq_false_iff.mpr hnone
    simp only [List.reverse_singleton, List.reverse_nil, List.append_nil, resolveFromTail, hpart,
      Bool.false_eq_true, if_false, resolve_step_of_find?_eq_some _ hmethod]
    rfl

/-- The steps of a segmentation are what its selectors resolve to. -/
theorem resolveFromTail_of_segmentation {selectors : List String} {blocks : List (Block σ)}
    (h : Segmentation table operation selectors blocks) :
    resolveFromTail table operation selectors.reverse = .ok (blocks.map Block.step) := by
  induction blocks using List.reverseRecOn generalizing operation selectors with
  | nil =>
    obtain rfl : [] = selectors := h.tokens
    rfl
  | append_singleton blocks block ih =>
    obtain ⟨before, rfl, hbefore, hblock⟩ := segmentation_concat_iff.mp h
    rw [resolveFromTail_append hblock, ih hbefore, List.map_append]
    rfl

/-- Selectors end with a legal block, or they are refused. -/
theorem exists_legal_or_refused (table : MethodTable σ) (operation : String)
    {selectors : List String} (hne : selectors ≠ []) :
    (∃ before block, selectors = before ++ Block.tokens block ∧
      block.Legal table operation before) ∨
    ∃ message, resolveFromTail table operation selectors.reverse =
      .error ⟨.operationNotSupported, message⟩ := by
  obtain ⟨front, token, rfl⟩ := (selectors.eq_nil_or_concat).resolve_left hne
  rw [List.concat_eq_append]
  cases hpart : KeyMap.find? (partMethod operation token) table with
  | some method => exact .inl ⟨front, _, rfl, .part hpart⟩
  | none =>
    rcases front.eq_nil_or_concat with rfl | ⟨before, owner, rfl⟩
    · cases hfirst : KeyMap.find? operation table with
      | some method => exact .inl ⟨[], _, rfl, .first hpart hfirst⟩
      | none =>
        right
        simp only [List.nil_append, List.reverse_singleton, resolveFromTail, KeyMap.contains,
          hpart, Option.isSome_none, Bool.false_eq_true, if_false]
        rw [resolve_step_of_find?_eq_none _ hfirst]
        exact ⟨_, rfl⟩
    · cases helement : KeyMap.find? (partMethod operation (Text.sanitize owner)) table with
      | some method =>
        exact .inl ⟨before, _, by simp, .element hpart helement⟩
      | none =>
        right
        simp only [List.concat_eq_append, List.append_assoc, List.reverse_append,
          List.reverse_cons, List.reverse_nil, List.nil_append, List.cons_append, resolveFromTail,
          KeyMap.contains, hpart, helement, Option.isSome_none, Bool.false_eq_true, if_false]
        exact ⟨_, rfl⟩

/-- Selectors have a segmentation, or they are refused. -/
theorem exists_segmentation_or_refused (table : MethodTable σ) (operation : String)
    (selectors : List String) :
    (∃ blocks, Segmentation table operation selectors blocks) ∨
    ∃ message, resolveFromTail table operation selectors.reverse =
      .error ⟨.operationNotSupported, message⟩ := by
  induction hlength : selectors.length using Nat.strongRecOn
    generalizing operation selectors with
  | ind length ih =>
    by_cases hne : selectors = []
    · subst hne
      exact .inl ⟨[], segmentation_nil_iff.mpr rfl⟩
    rcases exists_legal_or_refused table operation hne with
      ⟨before, block, rfl, hblock⟩ | hrefused
    · have hpositive := List.length_pos_iff.mpr hblock.tokens_ne_nil
      have hshorter : before.length < length := by
        rw [← hlength, List.length_append]
        omega
      rcases ih before.length hshorter select before rfl with
        ⟨blocks, hblocks⟩ | ⟨message, hmessage⟩
      · exact .inl ⟨blocks ++ [block],
          (segmentation_append_iff hblock).mpr ⟨blocks, hblocks, rfl⟩⟩
      · refine .inr ⟨message, ?_⟩
        rw [resolveFromTail_append hblock, hmessage]
        rfl
    · exact .inr hrefused

theorem resolve_nil (table : MethodTable σ) (operation : String) :
    resolve table operation [] =
      (CallStep.resolve table (Text.lowercase operation) none).map
        fun step => ⟨Text.lowercase operation, [step]⟩ := by
  cases hstep : CallStep.resolve table (Text.lowercase operation) none <;>
    simp only [resolve, hstep] <;> rfl

theorem resolve_of_ne_nil (table : MethodTable σ) (operation : String)
    {selectors : List String} (hne : selectors ≠ []) :
    resolve table operation selectors =
      (resolveFromTail table (Text.lowercase operation) selectors.reverse).map
        fun steps => ⟨Text.lowercase operation, steps⟩ := by
  cases selectors with
  | nil => exact absurd rfl hne
  | cons first rest =>
    cases hsteps : resolveFromTail table (Text.lowercase operation) (first :: rest).reverse <;>
      simp only [resolve, hsteps] <;> rfl

/-- The steps that selectors stand for are what the operation resolves to. -/
theorem resolve_of_resolution {selectors : List String} {steps : List (CallStep σ)}
    (h : Resolution table (Text.lowercase operation) selectors steps) :
    resolve table operation selectors = .ok ⟨Text.lowercase operation, steps⟩ := by
  cases h with
  | operation hmethod =>
    rw [resolve_nil, resolve_step_of_find?_eq_some none hmethod]
    rfl
  | blocks hne hblocks =>
    rw [resolve_of_ne_nil table operation hne, resolveFromTail_of_segmentation hblocks]
    rfl

theorem Block.Legal.find?_name {before : List String} {block : Block σ}
    (h : block.Legal table operation before) :
    KeyMap.find? block.step.name table = some block.step.method := by
  cases h with
  | part hmethod => exact hmethod
  | element _ hmethod => exact hmethod
  | first _ hmethod => exact hmethod

/-- Every step has the method that the table holds under its name. -/
theorem Resolution.find?_name {selectors : List String} {steps : List (CallStep σ)}
    (h : Resolution table operation selectors steps) :
    ∀ step ∈ steps, KeyMap.find? step.name table = some step.method := by
  intro step hstep
  cases h with
  | operation hmethod =>
    obtain rfl := List.mem_singleton.mp hstep
    exact hmethod
  | blocks _ hblocks =>
    obtain ⟨block, hblock, rfl⟩ := List.mem_map.mp hstep
    obtain ⟨before, after, hsplit⟩ := List.append_of_mem hblock
    exact (hblocks.legal before block after hsplit).find?_name

/-- Selectors stand for steps, or the operation is refused as not supported. -/
theorem exists_resolution_or_refused (table : MethodTable σ) (operation : String)
    (selectors : List String) :
    (∃ steps, Resolution table (Text.lowercase operation) selectors steps) ∨
    ∃ message, resolve table operation selectors = .error ⟨.operationNotSupported, message⟩ := by
  by_cases hne : selectors = []
  · subst hne
    cases hmethod : KeyMap.find? (Text.lowercase operation) table with
    | some method => exact .inl ⟨_, .operation hmethod⟩
    | none =>
      right
      rw [resolve_nil, resolve_step_of_find?_eq_none none hmethod]
      exact ⟨_, rfl⟩
  · rcases exists_segmentation_or_refused table (Text.lowercase operation) selectors with
      ⟨blocks, hblocks⟩ | ⟨message, hmessage⟩
    · exact .inl ⟨_, .blocks hne hblocks⟩
    · right
      rw [resolve_of_ne_nil table operation hne, hmessage]
      exact ⟨message, rfl⟩

/-- An operation resolves to a stack exactly if its selectors stand for the steps of the stack. -/
theorem resolve_eq_ok_iff {selectors : List String} {stack : CallStack σ} :
    resolve table operation selectors = .ok stack ↔
      stack.operation = Text.lowercase operation ∧
        Resolution table (Text.lowercase operation) selectors stack.steps := by
  constructor
  · intro h
    rcases exists_resolution_or_refused table operation selectors with
      ⟨steps, hsteps⟩ | ⟨message, hmessage⟩
    · rw [resolve_of_resolution hsteps] at h
      obtain rfl := Except.ok.inj h
      exact ⟨rfl, hsteps⟩
    · rw [hmessage] at h
      cases h
  · rintro ⟨hoperation, hsteps⟩
    rw [resolve_of_resolution hsteps, ← hoperation]

end CallStack

namespace Instance

variable {Ω : Type}

/-- An instance that leaves its stacks alone resolves operations by its methods. -/
theorem callStack_of_keeps_stacks (target : Instance Ω) {world : World Ω} (operation : String)
    (selectors : List String) (unwinding : Bool)
    (hkeeps : target.supports world Features.callStackOptimization = false) :
    target.callStack operation selectors unwinding world =
      (.ofExcept (CallStack.resolve target.methods operation selectors), world) := by
  unfold callStack
  rw [Act.bind_apply]
  cases CallStack.resolve target.methods operation selectors with
  | ok stack => simp [Outcome.ofExcept, Act.bind_apply, hkeeps]
  | error error => rfl

/-- Resolving an operation on an instance that leaves its stacks alone is cutting the selectors
into legal blocks: a stack is returned exactly if its steps, in the order of the address, are those
of a segmentation. There is at most one segmentation, its blocks hold every selector once and in
order, and without one the operation is not supported. The world is left as it is. -/
theorem callStack_eq_ok_iff_segmentation (target : Instance Ω) (world : World Ω)
    (operation : String) (selectors : List String) (unwinding : Bool)
    (hkeeps : target.supports world Features.callStackOptimization = false) :
    (∀ stack after, target.callStack operation selectors unwinding world = (.ok stack, after) ↔
      after = world ∧ stack.operation = Text.lowercase operation ∧
        CallStack.Resolution target.methods (Text.lowercase operation) selectors stack.steps) ∧
    (∀ left right,
      CallStack.Segmentation target.methods (Text.lowercase operation) selectors left →
      CallStack.Segmentation target.methods (Text.lowercase operation) selectors right →
      left = right) ∧
    (∀ blocks, CallStack.Segmentation target.methods (Text.lowercase operation) selectors blocks →
      blocks.flatMap CallStack.Block.tokens = selectors) ∧
    ((¬∃ steps,
        CallStack.Resolution target.methods (Text.lowercase operation) selectors steps) →
      ∃ message, target.callStack operation selectors unwinding world =
        (.fail ⟨.operationNotSupported, message⟩, world)) := by
  rw [target.callStack_of_keeps_stacks operation selectors unwinding hkeeps]
  refine ⟨fun stack after => ?_, fun _ _ => CallStack.segmentation_unique,
    fun _ => CallStack.Segmentation.tokens, ?_⟩
  · rw [Prod.mk.injEq, Outcome.ofExcept_eq_ok_iff, CallStack.resolve_eq_ok_iff, eq_comm (b := after)]
    exact and_comm
  · intro hnone
    obtain ⟨message, hmessage⟩ :=
      (CallStack.exists_resolution_or_refused target.methods operation selectors).resolve_left hnone
    exact ⟨message, hmessage ▸ rfl⟩

def orderShop : EntityClass Unit where
  methods := KeyMap.ofList [
    ("get_orders", fun _ _ => pure .null),
    ("select", fun _ _ => pure .null)]

/-- Under `42/orders/7` the order is found from the tail, and what is in front of it selects. -/
theorem orderShop_segmentation :
    (orderShop.instanceAt 0).supports (World.start ()) Features.callStackOptimization = false ∧
    ∃ stack, (orderShop.instanceAt 0).callStack "GET" ["42", "orders", "7"] false
        (World.start ()) = (.ok stack, World.start ()) ∧
      stack.steps.map CallStep.display = ["select(42)", "get_orders(7)"] := by
  have hkeeps : (orderShop.instanceAt 0).supports (World.start ())
      Features.callStackOptimization = false := by decide
  have hselect : CallStack.Block.Legal (orderShop.instanceAt 0).methods CallStack.select []
      ⟨["42"], ⟨fun _ => pure .null, "select", some "42"⟩⟩ := .first rfl rfl
  have horder : CallStack.Block.Legal (orderShop.instanceAt 0).methods (Text.lowercase "GET")
      ["42"] ⟨["orders", "7"], ⟨fun _ => pure .null, "get_orders", some "7"⟩⟩ :=
    .element rfl rfl
  have hblocks := (CallStack.segmentation_append_iff horder).mpr
    ⟨_, (CallStack.segmentation_append_iff hselect).mpr
      ⟨[], CallStack.segmentation_nil_iff.mpr rfl, rfl⟩, rfl⟩
  obtain ⟨hresolves, -⟩ := callStack_eq_ok_iff_segmentation (orderShop.instanceAt 0)
    (World.start ()) "GET" ["42", "orders", "7"] false hkeeps
  exact ⟨hkeeps, _, (hresolves ⟨_, _⟩ _).mpr ⟨rfl, rfl, .blocks (by simp) hblocks⟩, by decide⟩

end Instance

end PathCall
