import Mathlib
import PathCall.Proofs.CallStack.Bracketing
import PathCall.Proofs.CallStack.Segmentation
import PathCall.Resource

/-!
Requests of operations. A resource may be asked whether it supports an operation, which steps that
would take, and to take them. The main theorem says that the three answers go together, that a
request which does not resolve as a whole does nothing at all, and which requests are refused
whatever the entity can do.
-/

namespace PathCall

namespace Text

/-- Capital ASCII letters, told one by one. -/
theorem eq_ofNat_of_isUpper {c : Char} (h : c.isUpper = true) :
    ∃ index < 26, c = Char.ofNat (65 + index) := by
  simp only [Char.isUpper, decide_eq_true_eq] at h
  obtain ⟨hlow, hhigh⟩ : 65 ≤ c.toNat ∧ c.toNat ≤ 90 := h
  refine ⟨c.toNat - 65, by omega, ?_⟩
  rw [show 65 + (c.toNat - 65) = c.toNat by omega, Char.ofNat_toNat]

/-- What holds of the capital ASCII letters, and of all characters that `toLower` leaves alone. -/
theorem forall_of_isUpper {p : Char → Prop} (hupper : ∀ index < 26, p (Char.ofNat (65 + index)))
    (hother : ∀ c : Char, c.toLower = c → p c) (c : Char) : p c := by
  by_cases h : c.isUpper = true
  · obtain ⟨index, hindex, rfl⟩ := eq_ofNat_of_isUpper h
    exact hupper index hindex
  · exact hother c (Char.toLower_eq_of_not_isUpper h)

theorem lower_toLower (c : Char) : lower c.toLower = lower c :=
  forall_of_isUpper (p := fun c => lower c.toLower = lower c) (by decide) (fun c h => by rw [h]) c

theorem isCased_toLower (c : Char) : isCased c.toLower = isCased c :=
  forall_of_isUpper (p := fun c => isCased c.toLower = isCased c) (by decide)
    (fun c h => by rw [h]) c

theorem isCaseIgnorable_toLower (c : Char) : isCaseIgnorable c.toLower = isCaseIgnorable c :=
  forall_of_isUpper (p := fun c => isCaseIgnorable c.toLower = isCaseIgnorable c) (by decide)
    (fun c h => by rw [h]) c

theorem toLower_eq_sigma_iff (c : Char) : c.toLower = 'Σ' ↔ c = 'Σ' :=
  forall_of_isUpper (p := fun c => c.toLower = 'Σ' ↔ c = 'Σ') (by decide) (fun c h => by rw [h]) c

theorem meetsCased_map_toLower (text : List Char) :
    meetsCased (text.map Char.toLower) = meetsCased text := by
  induction text with
  | nil => rfl
  | cons c rest ih =>
    unfold meetsCased at ih ⊢
    rw [List.map_cons, List.dropWhile_cons, List.dropWhile_cons, isCaseIgnorable_toLower]
    cases isCaseIgnorable c with
    | true => exact ih
    | false => exact isCased_toLower c

/-- Lower-casing a text, with its context, does not see the case of ASCII letters. -/
theorem lowerAfter_map_toLower (before rest : List Char) :
    lowerAfter (before.map Char.toLower) (rest.map Char.toLower) = lowerAfter before rest := by
  induction rest generalizing before with
  | nil => rfl
  | cons c rest ih =>
    rw [List.map_cons, lowerAfter, lowerAfter, ← List.map_cons, ih, lower_toLower,
      meetsCased_map_toLower, meetsCased_map_toLower, if_congr (toLower_eq_sigma_iff c) rfl rfl]

theorem lowercase_congr {a b : String} (h : sameIgnoringAsciiCase a b = true) :
    lowercase a = lowercase b := by
  rw [lowercase, lowercase, ← lowerAfter_map_toLower [] a.toList,
    ← lowerAfter_map_toLower [] b.toList, eq_of_beq h]

end Text

open Text (sameIgnoringAsciiCase)

namespace Operation

variable {request request' : String}

/-- Requests that differ in the case of ASCII letters ask for the same operation, or are refused in
the same words. -/
theorem parse_congr (h : sameIgnoringAsciiCase request request' = true) :
    parse request = parse request' := by
  have hsame (operation : Operation) :
      sameIgnoringAsciiCase operation.name request =
        sameIgnoringAsciiCase operation.name request' := by
    rw [sameIgnoringAsciiCase, sameIgnoringAsciiCase, eq_of_beq h]
  simp only [parse, hsame, Text.lowercase_congr h]

/-- What is no name of an operation is refused. -/
theorem parse_of_foreign (h : ∀ operation : Operation,
    sameIgnoringAsciiCase operation.name request = false) :
    ∃ message, parse request = .error ⟨.operationNotSupported, message⟩ := by
  have hnone : all.find? (fun operation => sameIgnoringAsciiCase operation.name request) = none :=
    List.find?_eq_none.mpr fun operation _ => Bool.eq_false_iff.mp (h operation)
  rw [parse, hnone]
  exact ⟨_, rfl⟩

/-- The names of methods that only selectors lead to: what selects, and what a part is reached
by. -/
inductive IsInner : String → Prop
  | select : IsInner CallStack.select
  | selectPart (token : String) : IsInner (CallStack.partMethod CallStack.select token)
  | part (operation : Operation) (token : String) :
    IsInner (CallStack.partMethod operation.name token)

/-- A name that is the name of an operation up to case begins like it. -/
theorem isPrefixOf_of_same_partMethod {name operation token : String}
    (h : sameIgnoringAsciiCase name (CallStack.partMethod operation token) = true) :
    ((operation ++ "_").toList.map Char.toLower).isPrefixOf (name.toList.map Char.toLower) =
      true := by
  rw [eq_of_beq h, List.isPrefixOf_iff_prefix, CallStack.partMethod,
    @String.toList_append (operation ++ "_") token, List.map_append]
  exact List.prefix_append _ _

theorem IsInner.foreign (h : IsInner request) (operation : Operation) :
    sameIgnoringAsciiCase operation.name request = false := by
  rw [Bool.eq_false_iff]
  intro hsame
  cases h with
  | select => cases operation <;> exact absurd hsame (by decide)
  | selectPart token =>
    have hprefix := isPrefixOf_of_same_partMethod hsame
    cases operation <;> exact absurd hprefix (by decide)
  | part other token =>
    have hprefix := isPrefixOf_of_same_partMethod hsame
    cases operation <;> cases other <;> exact absurd hprefix (by decide)

end Operation

namespace Resource

variable {Ω : Type} {resource : Resource Ω} {request : String} {unwinding : Bool} {world : World Ω}

/-- The question whether a request is supported resolves it, and answers whether that succeeds. -/
theorem supportsOperation_apply (resource : Resource Ω) (request : String) (unwinding : Bool)
    (world : World Ω) :
    resource.supportsOperation request unwinding world =
      match resource.callStack request unwinding world with
      | (.ok _, after) => (.ok true, after)
      | (.fail _, after) => (.ok false, after)
      | (.panic reason, after) => (.panic reason, after) := by
  unfold supportsOperation callStack
  cases Operation.parse request with
  | error fault => rfl
  | ok operation =>
    change resource.protocol.hasOperation operation.name unwinding world =
      match resource.protocol.callStack operation.name unwinding world with
      | (.ok _, after) => (.ok true, after)
      | (.fail _, after) => (.ok false, after)
      | (.panic reason, after) => (.panic reason, after)
    unfold Protocol.hasOperation
    rw [Act.bind_apply, Act.attempt]
    rcases resource.protocol.callStack operation.name unwinding world with ⟨outcome, after⟩
    cases outcome <;> rfl

/-- A call first resolves the request and then does nothing but execute what it resolved to. -/
theorem call_eq (resource : Resource Ω) (request : String) (kwargs : Kwargs) :
    resource.call request kwargs =
      resource.callStack request >>= fun stack => stack.execute kwargs resource.callee := by
  unfold call callStack
  cases Operation.parse request <;> rfl

/-- A request that is not supported, resolves to nothing, and does nothing but fail. -/
def Refuses (resource : Resource Ω) (request : String) : Prop :=
  ∃ message, ∀ (unwinding : Bool) (world : World Ω),
    resource.supportsOperation request unwinding world = (.ok false, world) ∧
    resource.callStack request unwinding world =
      (.fail ⟨.operationNotSupported, message⟩, world) ∧
    ∀ kwargs, resource.call request kwargs unwinding world =
      (.fail ⟨.operationNotSupported, message⟩, world)

/-- No entity is asked about what is no name of an operation. -/
theorem refuses_of_foreign (resource : Resource Ω)
    (h : ∀ operation : Operation, sameIgnoringAsciiCase operation.name request = false) :
    resource.Refuses request := by
  obtain ⟨message, hparse⟩ := Operation.parse_of_foreign h
  have hstack (unwinding : Bool) (world : World Ω) :
      resource.callStack request unwinding world =
        (.fail ⟨.operationNotSupported, message⟩, world) := by
    rw [callStack, hparse]
    rfl
  refine ⟨message, fun unwinding world => ⟨?_, hstack unwinding world, fun kwargs => ?_⟩⟩
  · rw [supportsOperation_apply, hstack]
  · rw [call_eq, Act.bind_apply, hstack]

/-- Resources answer alike to requests that name one operation in any ASCII letter case. -/
theorem answers_congr {request' : String} (resource : Resource Ω)
    (h : sameIgnoringAsciiCase request request' = true) :
    resource.supportsOperation request = resource.supportsOperation request' ∧
    resource.callStack request = resource.callStack request' ∧
    ∀ kwargs, resource.call request kwargs = resource.call request' kwargs := by
  unfold supportsOperation callStack call
  rw [Operation.parse_congr h]
  exact ⟨rfl, rfl, fun _ => rfl⟩

end Resource

/-- Resolving leaves the world alone, up to what the optimizer does to it. The optimizer of an
instance gets what the selectors resolved to, and only while the instance supports that. -/
theorem Instance.callStack_cases {Ω : Type} (target : Instance Ω) (operation : String)
    (selectors : List String) (unwinding : Bool) (world : World Ω) :
    (target.callStack operation selectors unwinding world =
        (.ofExcept (CallStack.resolve target.methods operation selectors), world) ∧
      ∀ stack, CallStack.resolve target.methods operation selectors = .ok stack →
        target.supports world Features.callStackOptimization = false) ∨
    ∃ stack, CallStack.resolve target.methods operation selectors = .ok stack ∧
      target.supports world Features.callStackOptimization = true ∧
      target.callStack operation selectors unwinding world =
        target.optimize stack unwinding world := by
  cases hresolve : CallStack.resolve target.methods operation selectors with
  | error error =>
    refine .inl ⟨?_, nofun⟩
    rw [callStack, Act.bind_apply, Act.ofExcept_apply, hresolve]
    rfl
  | ok stack =>
    cases hsupports : target.supports world Features.callStackOptimization with
    | false =>
      refine .inl ⟨?_, fun _ _ => rfl⟩
      rw [target.callStack_of_keeps_stacks operation selectors unwinding hsupports, hresolve]
    | true =>
      refine .inr ⟨stack, rfl, rfl, ?_⟩
      simp [callStack, hresolve, Act.bind_apply, hsupports, Outcome.ofExcept]

namespace InProcess

variable {Ω : Type}

def resource (opened : InProcess Ω) (locator : Locator) (callee : Option (Callee (World Ω))) :
    Resource Ω :=
  ⟨locator, opened.protocol.setCallee callee⟩

theorem callStack_resource (opened : InProcess Ω) (locator : Locator)
    (callee : Option (Callee (World Ω))) (request : String) :
    (opened.resource locator callee).callStack request =
      Act.ofExcept (Operation.parse request) >>= fun operation =>
        opened.target.callStack operation.name opened.selectors := rfl

/-- A request fails with the error of its resolution and leaves the world as it is, unless every
step of it resolved and the instance's optimizer was asked. -/
theorem resource_callStack_cases (opened : InProcess Ω) (locator : Locator)
    (callee : Option (Callee (World Ω))) (request : String) (unwinding : Bool) (world : World Ω) :
    ((opened.resource locator callee).callStack request unwinding world).2 = world ∨
    ∃ operation stack, Operation.parse request = .ok operation ∧
      CallStack.resolve opened.target.methods operation.name opened.selectors = .ok stack ∧
      opened.target.supports world Features.callStackOptimization = true ∧
      (opened.resource locator callee).callStack request unwinding world =
        opened.target.optimize stack unwinding world := by
  rw [callStack_resource, Act.bind_apply, Act.ofExcept_apply]
  cases Operation.parse request with
  | error error => exact .inl rfl
  | ok operation =>
    obtain ⟨hkeeps, -⟩ | ⟨stack, hstack, hsupports, hasked⟩ :=
      opened.target.callStack_cases operation.name opened.selectors unwinding world
    · exact .inl (congrArg Prod.snd hkeeps)
    · exact .inr ⟨operation, stack, rfl, hstack, hsupports, hasked⟩

/-- Support, introspection and calls agree on every request, asked in one and the same state, and
nothing runs before everything resolves. An operation is supported exactly if its call stack is
reported. Then a call executes this stack: the methods that it calls are those of the reported steps
in their order, each between its hooks. Otherwise the call fails with the error that is reported in
place of a stack, in the world that reporting it leaves. This is the world as it was, with all that
methods and hooks could have written to it, wherever in the address the error arose; only the
optimizer of an instance that supports one, asked about steps that all resolved, may do something to
it. Requests that differ in the case of ASCII letters are answered alike. What differs from the
seven names in more than that is refused, whatever methods the entity has, and so are the names of
methods that only selectors lead to. -/
theorem requests_run_as_reported (opened : InProcess Ω) (locator : Locator)
    (callee : Option (Callee (World Ω))) :
    let resource := opened.resource locator callee
    (∀ (request : String) (unwinding : Bool) (world : World Ω),
      (resource.supportsOperation request unwinding world =
        match resource.callStack request unwinding world with
        | (.ok _, after) => (.ok true, after)
        | (.fail _, after) => (.ok false, after)
        | (.panic reason, after) => (.panic reason, after)) ∧
      (∀ stack resolved, resource.callStack request unwinding world = (.ok stack, resolved) →
        ∀ kwargs,
          resource.call request kwargs unwinding world =
            stack.execute kwargs callee unwinding resolved ∧
          ∃ calls outcome final,
            CallStack.Threads kwargs.strip none stack.steps calls outcome ∧
            resource.call request kwargs unwinding world = (outcome, final) ∧
            stack.journaled.execute kwargs (callee.map Callee.journaled) unwinding
                ⟨resolved, []⟩ =
              (outcome, ⟨final, calls.flatMap
                (CallStack.bracket callee (CallStack.passingPanic unwinding))⟩)) ∧
      (∀ error after, resource.callStack request unwinding world = (.fail error, after) →
        ∀ kwargs, resource.call request kwargs unwinding world = (.fail error, after)) ∧
      ((resource.callStack request unwinding world).2 = world ∨
        ∃ operation stack, Operation.parse request = .ok operation ∧
          CallStack.resolve opened.target.methods operation.name opened.selectors = .ok stack ∧
          opened.target.supports world Features.callStackOptimization = true ∧
          resource.callStack request unwinding world =
            opened.target.optimize stack unwinding world)) ∧
    (∀ request request', sameIgnoringAsciiCase request request' = true →
      resource.supportsOperation request = resource.supportsOperation request' ∧
      resource.callStack request = resource.callStack request' ∧
      ∀ kwargs, resource.call request kwargs = resource.call request' kwargs) ∧
    (∀ request, (∀ operation : Operation,
      sameIgnoringAsciiCase operation.name request = false) → resource.Refuses request) ∧
    ∀ request, Operation.IsInner request → resource.Refuses request := by
  intro resource
  refine ⟨fun request unwinding world => ⟨resource.supportsOperation_apply request unwinding world,
      ?_, ?_, opened.resource_callStack_cases locator callee request unwinding world⟩,
    fun request request' hsame => resource.answers_congr hsame,
    fun request hforeign => resource.refuses_of_foreign hforeign,
    fun request hinner => resource.refuses_of_foreign hinner.foreign⟩
  · intro stack resolved hstack kwargs
    have hcall : resource.call request kwargs unwinding world =
        stack.execute kwargs callee unwinding resolved := by
      rw [Resource.call_eq, Act.bind_apply, hstack]
      rfl
    obtain ⟨calls, hthreads, hjournal⟩ :=
      CallStack.executeSteps_journaled kwargs.strip callee none stack.steps unwinding resolved
    exact ⟨hcall, calls, _, _, hthreads, hcall, hjournal []⟩
  · intro error after hstack kwargs
    rw [Resource.call_eq, Act.bind_apply, hstack]

/-- Orders of customers, whom the entity does not have. -/
def customerOrder : InProcess Unit where
  entity := ⟨"shop", "Widgets"⟩
  target := Instance.orderShop.instanceAt 0
  selectors := ["customers", "1", "orders", "7"]

/-- The order itself resolves, the customer does not: the request is not supported, and a call does
nothing but fail. A widget's order is served. Nobody can request a selection. -/
theorem customerOrder_requests :
    let resource := customerOrder.resource default none
    let served : InProcess Unit := { customerOrder with selectors := ["42", "orders", "7"] }
    resource.supportsOperation "GeT" false (World.start ()) = (.ok false, World.start ()) ∧
    resource.call "GeT" [] false (World.start ()) =
      (.fail ⟨.operationNotSupported, "Can't find match for operation call stack 'select'"⟩,
        World.start ()) ∧
    (served.resource default none).supportsOperation "GeT" false (World.start ()) =
      (.ok true, World.start ()) ∧
    resource.Refuses "select" ∧
    resource.Refuses "get_orders" := by
  intro resource served
  obtain ⟨hanswers, -, -, hinner⟩ := requests_run_as_reported customerOrder default none
  obtain ⟨hsupports, -, hfails, -⟩ := hanswers "GeT" false (World.start ())
  obtain ⟨hserves, -⟩ :=
    (requests_run_as_reported served default none).1 "GeT" false (World.start ())
  have hstack : resource.callStack "GeT" false (World.start ()) =
      (.fail ⟨.operationNotSupported, "Can't find match for operation call stack 'select'"⟩,
        World.start ()) := rfl
  refine ⟨hsupports, hfails _ _ hstack [], hserves, hinner _ .select, hinner _ (.part .get "orders")⟩

/-- Optimizes every other stack and refuses the rest. It remembers which comes next. -/
def fickle : EntityClass Bool where
  methods := KeyMap.ofList [("get", fun _ _ => pure .null)]
  declare features := features.setFlag Features.callStackOptimization true
  optimize stack := do
    let refuses := (← Act.get).app
    World.onApp (Act.modify (!·))
    if refuses then Act.fail Error.accessDenied
    else return stack

/-- Refuses stacks once its method was called. -/
def oneTime : EntityClass Bool where
  methods := KeyMap.ofList [("get", fun _ _ => do
    World.onApp (Act.modify fun _ => true)
    return .null)]
  declare features := features.setProbe Features.callStackOptimization World.app
  optimize _ := Act.fail Error.accessDenied

/-- Executes stacks before it refuses them. -/
def hasty : EntityClass Bool where
  methods := KeyMap.ofList [("get", fun _ _ => do
    World.onApp (Act.modify fun _ => true)
    return .null)]
  declare features := features.setFlag Features.callStackOptimization true
  optimize stack := do
    let _ ← stack.execute [] none
    Act.fail Error.accessDenied

/-- Questions that are asked one after the other may be answered apart, since an optimizer goes by
the state of its entity: what is supported at first resolves to nothing afterwards, be it that the
question itself has changed the state or that a call in between has. And an optimizer may run methods
before it refuses what they belong to. -/
theorem answers_may_change :
    let asked := InProcess.resource ⟨⟨"shop", "Widgets"⟩, fickle.instanceAt 0, []⟩ default none
    let called := InProcess.resource ⟨⟨"shop", "Widgets"⟩, oneTime.instanceAt 0, []⟩ default none
    let refused := InProcess.resource ⟨⟨"shop", "Widgets"⟩, hasty.instanceAt 0, []⟩ default none
    (asked.supportsOperation "get" false (World.start false) = (.ok true, World.start true) ∧
      asked.callStack "get" false (World.start true) =
        (.fail Error.accessDenied, World.start false)) ∧
    (called.supportsOperation "get" false (World.start false) = (.ok true, World.start false) ∧
      called.call "get" [] false (World.start false) = (.ok .null, World.start true) ∧
      called.callStack "get" false (World.start true) =
        (.fail Error.accessDenied, World.start true)) ∧
    refused.call "get" [] false (World.start false) =
      (.fail Error.accessDenied, World.start true) :=
  ⟨⟨rfl, rfl⟩, ⟨rfl, rfl, rfl⟩, rfl⟩

end InProcess

end PathCall
