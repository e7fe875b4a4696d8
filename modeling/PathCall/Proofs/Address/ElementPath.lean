import PathCall.Proofs.Address.BarePath
import PathCall.Proofs.CallStack.Execution
import PathCall.Proofs.CallStack.Outline
import PathCall.Resource

/-!
Addresses of elements, from the written address to the values that its call returns. An element is
reached from an entity over parts of it, each with the identifier of an element in that part. The
main theorem says which methods an operation on such an address calls, in which order and with
which identifiers, for entities that have these methods and none that a token could be taken for.
-/

namespace PathCall

open CallStack (partMethod select)

/-- The default scheme is registered under the name that its addresses look up. -/
theorem Locator.protocolName_defaultScheme (raw path : String) :
    protocolName ⟨raw, defaultScheme, path⟩ = Registry.protocolKey defaultScheme := rfl

/-- An element of an entity: `root` is the identifier of an element of the entity itself, and each
part has a name and the identifier of an element in it. -/
structure ElementPath where
  module : String
  entity : String
  root : Option String
  parts : List (String × String)

namespace ElementPath

variable {Ω σ : Type} {path : ElementPath} {table : MethodTable σ} {operation : String}

def selectors (path : ElementPath) : List String :=
  path.root.toList ++ path.parts.flatMap fun part => [part.1, part.2]

def segments (path : ElementPath) : List String := path.module :: path.entity :: path.selectors

def address (path : ElementPath) : String := AddressPath.ofSegments path.segments

def entityId (path : ElementPath) : EntityId :=
  EntityId.ofSegments path.module.toList path.entity.toList

structure WellFormed (path : ElementPath) : Prop where
  unbroken : ∀ segment ∈ path.segments, ∀ c ∈ segment.toList, c ≠ '/' ∧ c ≠ '?' ∧ c ≠ '#'
  uncontrolled : ∀ token ∈ path.selectors, ∀ c ∈ token.toList, Text.isControl c = false
  unmarked : ¬Locator.schemeMark <:+: path.address.toList

def elementStep (operation : String) (part : String × String) : String × Option String :=
  (partMethod operation (Text.sanitize part.1), some part.2)

def selections (root : Option String) (parts : List (String × String)) :
    List (String × Option String) :=
  root.toList.map (fun id => (select, some id)) ++ parts.map (elementStep select)

/-- The methods on the way to the element, with the identifiers that they get. The requested
operation is the last one; all others select. -/
def plan (path : ElementPath) (operation : String) : List (String × Option String) :=
  match path.parts.getLast? with
  | none => [(operation, path.root)]
  | some last => selections path.root path.parts.dropLast ++ [elementStep operation last]

/-- The methods for which the identifiers would be names of parts. -/
def misreadings (path : ElementPath) (operation : String) : List String :=
  match path.parts.getLast? with
  | none => path.root.toList.map (partMethod operation)
  | some last =>
    (path.root.toList ++ path.parts.dropLast.map Prod.snd).map (partMethod select) ++
      [partMethod operation last.2]

/-- A method table that has the methods on the way to the element and none that would misread it. -/
structure Served (path : ElementPath) (operation : String) (table : MethodTable σ) : Prop where
  methods : ∀ entry ∈ path.plan operation, KeyMap.contains entry.1 table = true
  unmistaken : ∀ name ∈ path.misreadings operation, KeyMap.contains name table = false

/-- An element of a part adds the block of its two tokens. -/
theorem exists_segmentation_element {before : List String} {blocks : List (CallStack.Block σ)}
    (hblocks : CallStack.Segmentation table select before blocks)
    (part : String × String)
    (hmethod : KeyMap.contains (elementStep operation part).1 table = true)
    (hplain : KeyMap.contains (partMethod operation part.2) table = false) :
    ∃ block : CallStack.Block σ,
      CallStack.Segmentation table operation (before ++ [part.1, part.2]) (blocks ++ [block]) ∧
      block.step.label = elementStep operation part := by
  obtain ⟨method, hfind⟩ := KeyMap.contains_eq_true_iff.mp hmethod
  have hlegal : CallStack.Block.Legal table operation before
      ⟨[part.1, part.2],
        ⟨method, partMethod operation (Text.sanitize part.1), some part.2⟩⟩ :=
    .element (KeyMap.contains_eq_false_iff.mp hplain) hfind
  exact ⟨_, (CallStack.segmentation_append_iff hlegal).mpr ⟨blocks, hblocks, rfl⟩, rfl⟩

/-- The first selector may identify an element of the entity itself. -/
theorem exists_segmentation_root (operation id : String)
    (hmethod : KeyMap.contains operation table = true)
    (hplain : KeyMap.contains (partMethod operation id) table = false) :
    ∃ block : CallStack.Block σ,
      CallStack.Segmentation table operation [id] [block] ∧
      block.step.label = (operation, some id) := by
  obtain ⟨method, hfind⟩ := KeyMap.contains_eq_true_iff.mp hmethod
  have hlegal : CallStack.Block.Legal table operation []
      ⟨[id], ⟨method, operation, some id⟩⟩ :=
    .first (KeyMap.contains_eq_false_iff.mp hplain) hfind
  exact ⟨_, (CallStack.segmentation_append_iff hlegal).mpr
    ⟨[], CallStack.segmentation_nil_iff.mpr rfl, rfl⟩, rfl⟩

theorem selections_concat (root : Option String) (parts : List (String × String))
    (part : String × String) :
    selections root (parts ++ [part]) = selections root parts ++ [elementStep select part] := by
  simp [selections]

/-- In front of the last part everything selects. -/
theorem exists_segmentation_selections (root : Option String) (parts : List (String × String))
    (hmethods : ∀ entry ∈ selections root parts, KeyMap.contains entry.1 table = true)
    (hplain : ∀ id ∈ root.toList ++ parts.map Prod.snd,
      KeyMap.contains (partMethod select id) table = false) :
    ∃ blocks : List (CallStack.Block σ),
      CallStack.Segmentation table select
        (root.toList ++ parts.flatMap fun part => [part.1, part.2]) blocks ∧
      (blocks.map CallStack.Block.step).map CallStep.label = selections root parts := by
  induction parts using List.reverseRecOn with
  | nil =>
    cases root with
    | none => exact ⟨[], CallStack.segmentation_nil_iff.mpr rfl, rfl⟩
    | some id =>
      obtain ⟨block, hblock, hstep⟩ := exists_segmentation_root select id
        (hmethods (select, some id) (by simp [selections])) (hplain id (by simp))
      exact ⟨[block], by simpa using hblock, by simpa [selections] using hstep⟩
  | append_singleton parts part ih =>
    rw [selections_concat] at hmethods ⊢
    rw [List.map_append, ← List.append_assoc] at hplain
    obtain ⟨blocks, hblocks, hsteps⟩ := ih
      (fun entry hentry => hmethods entry (List.mem_append_left _ hentry))
      (fun id hid => hplain id (List.mem_append_left _ hid))
    obtain ⟨block, hblock, hstep⟩ := exists_segmentation_element hblocks part
      (hmethods (elementStep select part) (by simp)) (hplain part.2 (by simp))
    refine ⟨blocks ++ [block], by simpa using hblock, ?_⟩
    rw [List.map_append, List.map_append, hsteps]
    simp [hstep]

/-- What the selectors stand for is planned. -/
theorem exists_resolution (h : path.Served operation table) :
    ∃ steps : List (CallStep σ), CallStack.Resolution table operation path.selectors steps ∧
      steps.map CallStep.label = path.plan operation := by
  obtain ⟨module, entity, root, parts⟩ := path
  obtain ⟨hmethods, hunmistaken⟩ := h
  rcases List.eq_nil_or_concat parts with rfl | ⟨init, last, rfl⟩
  · have hoperation := hmethods (operation, root) (List.mem_singleton_self _)
    cases root with
    | none =>
      obtain ⟨method, hfind⟩ := KeyMap.contains_eq_true_iff.mp hoperation
      exact ⟨_, .operation hfind, rfl⟩
    | some id =>
      obtain ⟨block, hblock, hstep⟩ := exists_segmentation_root operation id hoperation
        (hunmistaken _ (List.mem_singleton_self _))
      exact ⟨_, .blocks (by simp [selectors]) hblock, by simpa [plan] using hstep⟩
  · simp only [plan, misreadings, selectors, List.concat_eq_append, List.getLast?_concat,
      List.dropLast_concat] at hmethods hunmistaken ⊢
    obtain ⟨blocks, hblocks, hsteps⟩ := exists_segmentation_selections root init
      (fun entry hentry => hmethods entry (List.mem_append_left _ hentry))
      (fun id hid => hunmistaken _ (List.mem_append_left _ (List.mem_map_of_mem hid)))
    obtain ⟨block, hblock, hstep⟩ := exists_segmentation_element hblocks last
      (hmethods (elementStep operation last) (by simp)) (hunmistaken _ (by simp))
    refine ⟨(blocks ++ [block]).map CallStack.Block.step,
      .blocks (by simp) (by simpa using hblock), ?_⟩
    rw [List.map_append, List.map_append, hsteps]
    simp [hstep]

theorem length_plan (path : ElementPath) (operation : String) :
    (path.plan operation).length =
      path.parts.length + if path.root.isSome ∨ path.parts = [] then 1 else 0 := by
  obtain ⟨module, entity, root, parts⟩ := path
  rcases List.eq_nil_or_concat parts with rfl | ⟨init, last, rfl⟩
  · simp [plan]
  · cases root <;> simp [plan, selections]

/-- The address is its own path. -/
theorem WellFormed.parse_address (h : path.WellFormed) :
    Locator.parse path.address = .ok ⟨path.address, Locator.defaultScheme, path.address⟩ :=
  AddressPath.locator_ofSegments h.unmarked
    (fun segment hsegment hin => (h.unbroken segment hsegment '?' hin).2.1 rfl)
    (fun segment hsegment hin => (h.unbroken segment hsegment '#' hin).2.2 rfl)

/-- The path holds the entity and the selectors as they were written. -/
theorem WellFormed.parse_path (h : path.WellFormed) :
    AddressPath.parse path.address = .ok ⟨path.entityId, path.selectors⟩ := by
  have hslash : ∀ segment ∈ path.segments, '/' ∉ segment.toList := fun segment hsegment hin =>
    (h.unbroken segment hsegment '/' hin).1 rfl
  have htokens : path.selectors.map Text.dropControls = path.selectors.map id :=
    List.map_congr_left fun token htoken =>
      Text.dropControls_eq_self (h.uncontrolled token htoken)
  rw [List.map_id] at htokens
  rw [address, ElementPath.segments, AddressPath.parse_ofSegments hslash, htokens]
  rfl

/-- A registry that serves addresses without a scheme in the process opens the entity. -/
theorem WellFormed.open_address (h : path.WellFormed) {registry : Registry Ω}
    {factory : Act (World Ω) (Instance Ω)} {target : Instance Ω} {unwinding : Bool}
    {before opened : World Ω}
    (hprotocol : KeyMap.find? (Registry.protocolKey Locator.defaultScheme) registry.protocols =
      some Registry.inProcess)
    (hentity : KeyMap.find? path.entityId registry.entities = some factory)
    (hfactory : factory unwinding before = (.ok target, opened)) :
    Resource.open registry path.address unwinding before =
      (.ok ⟨⟨path.address, Locator.defaultScheme, path.address⟩,
        InProcess.protocol ⟨path.entityId, target, path.selectors⟩⟩, opened) := by
  have hchosen : registry.factory? ⟨path.address, Locator.defaultScheme, path.address⟩ =
      some Registry.inProcess := hprotocol
  rw [Resource.open_of_inProcess h.parse_address hchosen, h.parse_path]
  simp only [Registry.instantiate, Directory.instantiate, hentity, Act.bind_apply,
    Act.ofExcept_apply, Outcome.ofExcept, hfactory, Act.pure_apply]

/-- Without a callee a protocol only threads values through the steps of its stack. -/
theorem call_of_callStack {protocol : Protocol Ω} (hcallee : protocol.callee = none)
    {world : World Ω} {name : String} {stack : CallStack (World Ω)} {unwinding : Bool}
    (hstack : protocol.callStack name unwinding world = (.ok stack, world)) (kwargs : Kwargs) :
    protocol.call name kwargs unwinding world =
      (do return (← CallStack.thread kwargs.strip none stack.steps).getD .null : Act _ Json)
        unwinding world := by
  rw [← CallStack.executeSteps_none, ← hcallee]
  simp only [Protocol.call, Act.bind_apply, hstack, CallStack.execute]

/-- An operation on the address of an element calls what is planned. The entity must have the
planned methods and none that would misread an identifier, and must leave its stacks alone; the
registry must serve addresses without a scheme in the process. Then the address opens, the
operation, in any spelling that is supported, resolves to the planned steps with the methods of the
entity, and a call returns what the last of them returns when each gets its own identifier and the
value of the one before. -/
theorem call_follows_plan (hpath : path.WellFormed) {registry : Registry Ω}
    (hprotocol : KeyMap.find? (Registry.protocolKey Locator.defaultScheme) registry.protocols =
      some Registry.inProcess)
    {factory : Act (World Ω) (Instance Ω)}
    (hentity : KeyMap.find? path.entityId registry.entities = some factory)
    {target : Instance Ω} {unwinding : Bool} {before opened : World Ω}
    (hfactory : factory unwinding before = (.ok target, opened))
    {request : String} {operation : Operation}
    (hoperation : Operation.parse request = .ok operation)
    (hserved : path.Served operation.name target.methods) :
    ∃ resource steps,
      Resource.open registry path.address unwinding before = (.ok resource, opened) ∧
      steps.map CallStep.label = path.plan operation.name ∧
      steps.length = path.parts.length + (if path.root.isSome ∨ path.parts = [] then 1 else 0) ∧
      (∀ step ∈ steps, KeyMap.find? step.name target.methods = some step.method) ∧
      ∀ (world : World Ω) (unwinding : Bool),
        target.supports world Features.callStackOptimization = false →
        resource.callStack request unwinding world = (.ok ⟨operation.name, steps⟩, world) ∧
        ∀ kwargs : Kwargs,
          resource.call request kwargs unwinding world =
            (do return (← CallStack.thread kwargs.strip none steps).getD .null : Act _ Json)
              unwinding world := by
  obtain ⟨steps, hresolution, hplan⟩ := exists_resolution hserved
  refine ⟨_, steps, hpath.open_address hprotocol hentity hfactory, hplan, ?_,
    hresolution.find?_name, ?_⟩
  · rw [← length_plan, ← hplan, List.length_map]
  · intro world unwinding hkeeps
    have hstack : target.callStack operation.name path.selectors unwinding world =
        (.ok ⟨operation.name, steps⟩, world) := by
      rw [target.callStack_of_keeps_stacks _ _ _ hkeeps]
      rw [← operation.lowercase_name] at hresolution
      rw [CallStack.resolve_of_resolution hresolution, operation.lowercase_name]
      rfl
    refine ⟨?_, fun kwargs => ?_⟩
    · simp only [Resource.callStack, hoperation]
      exact hstack
    · simp only [Resource.call, hoperation, Act.bind_apply, Act.ofExcept_apply, Outcome.ofExcept]
      let protocol := InProcess.protocol ⟨path.entityId, target, path.selectors⟩
      have hresolved : protocol.callStack operation.name unwinding world =
          (.ok ⟨operation.name, steps⟩, world) := hstack
      exact call_of_callStack rfl hresolved kwargs

/-- The address `/shop/widgets/42/orders/7`. -/
def widgetOrder : ElementPath where
  module := "shop"
  entity := "widgets"
  root := some "42"
  parts := [("orders", "7")]

def widgetRegistry : Registry Unit :=
  Registry.start.registerEntity widgetOrder.entityId Instance.orderShop.create

theorem widgetOrder_wellFormed : widgetOrder.WellFormed where
  unbroken := by
    have hall : (widgetOrder.segments.all fun segment =>
        segment.toList.all fun c => c != '/' && (c != '?' && c != '#')) = true := by decide
    simpa using hall
  uncontrolled := by
    have hall : (widgetOrder.selectors.all fun token =>
        token.toList.all fun c => !Text.isControl c) = true := by decide
    simpa using hall
  unmarked := by
    rw [← Text.splitOnce_isSome_iff]
    decide

theorem widgetOrder_served :
    widgetOrder.Served Operation.get.name (Instance.orderShop.instanceAt 0).methods where
  methods := by decide
  unmistaken := by decide

theorem widgetRegistry_find? :
    KeyMap.find? widgetOrder.entityId widgetRegistry.entities = some Instance.orderShop.create :=
  KeyMap.find?_insert_self _ _ _

/-- Getting `/shop/widgets/42/orders/7` selects the element and then gets its order. -/
theorem widgetOrder_call :
    ∃ resource steps opened,
      Resource.open widgetRegistry "/shop/widgets/42/orders/7" false (World.start ()) =
        (.ok resource, opened) ∧
      steps.map CallStep.label = [("select", some "42"), ("get_orders", some "7")] ∧
      resource.callStack "GET" false opened = (.ok ⟨"get", steps⟩, opened) := by
  have haddress : widgetOrder.address = "/shop/widgets/42/orders/7" := by decide
  have hprotocol : KeyMap.find? (Registry.protocolKey Locator.defaultScheme)
      widgetRegistry.protocols = some Registry.inProcess := KeyMap.find?_insert_self _ _ _
  have hoperation : Operation.parse "GET" = .ok .get := rfl
  obtain ⟨resource, steps, hopen, hplan, -, -, hcalls⟩ :=
    call_follows_plan widgetOrder_wellFormed hprotocol widgetRegistry_find?
      (Instance.orderShop.create_apply false (World.start ())) hoperation widgetOrder_served
  rw [haddress] at hopen
  exact ⟨resource, steps, _, hopen, hplan, (hcalls _ false (by decide)).1⟩

/-- The same registry after its protocol for addresses without a scheme was replaced. -/
def reroutedRegistry : Registry Unit :=
  widgetRegistry.registerProtocol Locator.defaultScheme fun _ _ =>
    Act.fail ⟨.operationFailed, "rerouted"⟩

/-- Whoever replaces the protocol for addresses without a scheme decides about all of them: then
even an address whose entity is registered and serves it does not open. -/
theorem reroutedRegistry_refuses :
    widgetOrder.WellFormed ∧
    KeyMap.find? widgetOrder.entityId reroutedRegistry.entities = some Instance.orderShop.create ∧
    widgetOrder.Served Operation.get.name (Instance.orderShop.instanceAt 0).methods ∧
    ¬∃ resource opened, Resource.open reroutedRegistry widgetOrder.address false (World.start ()) =
      (.ok resource, opened) := by
  refine ⟨widgetOrder_wellFormed, widgetRegistry_find?, widgetOrder_served, ?_⟩
  rintro ⟨resource, opened, hopen⟩
  have hfactory : reroutedRegistry.factory?
      ⟨widgetOrder.address, Locator.defaultScheme, widgetOrder.address⟩ =
        some fun _ _ => Act.fail ⟨.operationFailed, "rerouted"⟩ := by
    rw [Registry.factory?, Locator.protocolName_defaultScheme]
    exact KeyMap.find?_insert_self _ _ _
  have hrefused : reroutedRegistry.open
      ⟨widgetOrder.address, Locator.defaultScheme, widgetOrder.address⟩ =
        Act.fail ⟨.operationFailed, "rerouted"⟩ := Registry.openWithin_of_some hfactory _
  simp only [Resource.open, widgetOrder_wellFormed.parse_address, Act.bind_apply,
    Act.ofExcept_apply, Outcome.ofExcept, hrefused, Act.fail_apply] at hopen
  cases hopen

end ElementPath

end PathCall
