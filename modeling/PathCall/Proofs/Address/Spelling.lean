import PathCall.Proofs.Address.ElementPath
import PathCall.Script.Behavior

/-!
The spellings of an address in the process: a path with or without a slash in front, or behind the
default scheme in any letter case and an authority. They are read alike, and so they are opened
alike by every registry whose protocol for them looks at the scheme and the path of an address
alone, as the protocol for entities in the process does. The main theorem says so, and what remains
alike of two resources that are opened at different moments.
-/

namespace PathCall

namespace Locator

/-- What may follow the first slash of a path and may be written without that slash. -/
structure IsRelative (tail : String) : Prop where
  nonempty : tail ≠ ""
  unbroken : ∀ c ∈ tail.toList.head?, c ≠ '/' ∧ c ≠ '?' ∧ c ≠ '#'
  unmarked : ¬schemeMark <:+: tail.toList

def IsDefaultScheme (scheme : String) : Prop :=
  scheme.toList.map Char.toLower = defaultScheme.toList

instance (scheme : String) : Decidable (IsDefaultScheme scheme) :=
  inferInstanceAs (Decidable (scheme.toList.map Char.toLower = defaultScheme.toList))

/-- The ways to write one address. Not every authority is a valid one. -/
inductive Spelling (tail : String) : String → Prop
  | relative : Spelling tail tail
  | rooted : Spelling tail ("/" ++ tail)
  | complete {scheme : String} (hscheme : IsDefaultScheme scheme) :
    Spelling tail (scheme ++ ":///" ++ tail)
  | hosted {scheme authority : String} (hscheme : IsDefaultScheme scheme)
    (hauthority : ∀ c ∈ authority.toList, c ≠ '/' ∧ c ≠ '?' ∧ c ≠ '#')
    (haccepted : ∃ locator, parse (scheme ++ "://" ++ authority ++ "/" ++ tail) = .ok locator) :
    Spelling tail (scheme ++ "://" ++ authority ++ "/" ++ tail)

/-- The path that all spellings have: up to a query or a fragment, as it is written. -/
def pathOf (tail : String) : String :=
  String.ofList ('/' :: tail.toList.takeWhile fun c => !(c == '?' || c == '#'))

variable {tail raw scheme authority : String}

theorem IsRelative.exists_cons (h : IsRelative tail) :
    ∃ c rest, tail.toList = c :: rest ∧ c ≠ '/' ∧ c ≠ '?' ∧ c ≠ '#' := by
  cases htail : tail.toList with
  | nil => exact absurd (String.toList_eq_nil_iff.mp htail) h.nonempty
  | cons c rest => exact ⟨c, rest, rfl, h.unbroken c (by simp [htail])⟩

theorem rooted_cons {c : Char} (h : c ≠ '/') (rest : List Char) :
    rooted (c :: rest) = '/' :: c :: rest := by
  unfold rooted
  split
  · contradiction
  · rename_i heq
    exact absurd (List.cons.inj heq).1 h
  · rfl

theorem isRelative_iff :
    IsRelative tail ↔
      (tail.toList.head?.any fun c => c != '/' && (c != '?' && c != '#')) = true ∧
        (Text.splitOnce schemeMark tail.toList).isSome = false := by
  rw [Bool.eq_false_iff, Ne, Text.splitOnce_isSome_iff]
  constructor
  · intro h
    obtain ⟨c, rest, htail, hslash, hquery, hfragment⟩ := h.exists_cons
    exact ⟨by simp [htail, hslash, hquery, hfragment], h.unmarked⟩
  · rintro ⟨hfirst, hunmarked⟩
    refine ⟨?_, fun c hc => ?_, hunmarked⟩
    · rintro rfl
      cases hfirst
    · rw [Option.mem_def.mp hc] at hfirst
      simpa using hfirst

instance (tail : String) : Decidable (IsRelative tail) := decidable_of_iff' _ isRelative_iff

/-- A path without its slash is an address of the default scheme, and gets the slash back. -/
theorem parse_relative (h : IsRelative tail) :
    parse tail = .ok ⟨tail, defaultScheme, pathOf tail⟩ := by
  obtain ⟨c, rest, htail, hslash, hquery, hfragment⟩ := h.exists_cons
  have hsplit : Text.splitOnce schemeMark tail.toList = none :=
    (Text.splitOnce_eq_none_iff _ _).mpr h.unmarked
  have hcomplete : complete tail =
      String.ofList (defaultScheme.toList ++ "://".toList ++ '/' :: tail.toList) := by
    rw [complete, hsplit, if_neg (by simp), if_neg (by simp [htail, hslash])]
    apply String.toList_injective
    simp
  have hcut : (tail.toList.takeWhile fun c => !(c == '?' || c == '#')) =
      c :: rest.takeWhile fun c => !(c == '?' || c == '#') := by
    simp [htail, hquery, hfragment]
  have hpath : rooted (rawPath tail.toList) =
      '/' :: tail.toList.takeWhile fun c => !(c == '?' || c == '#') := by
    simp only [rawPath, hsplit]
    rw [hcut, rooted_cons hslash]
  rw [parse, hcomplete, Address.schemeOf_rooted (by decide), hpath]
  rfl

/-- A slash in front of a path makes it bare. -/
theorem parse_slash (h : IsRelative tail) :
    parse ("/" ++ tail) = .ok ⟨"/" ++ tail, defaultScheme, pathOf tail⟩ := by
  have htoList : ("/" ++ tail).toList = '/' :: tail.toList := by simp
  have hunmarked : ¬schemeMark <:+: ("/" ++ tail).toList := by
    rw [htoList, List.infix_cons_iff, not_or]
    exact ⟨by simp [schemeMark], h.unmarked⟩
  rw [parse_of_isBare ⟨by simp [htoList], hunmarked⟩, htoList]
  rfl

theorem IsDefaultScheme.isScheme (h : IsDefaultScheme scheme) :
    Address.isScheme scheme.toList = true :=
  Address.isScheme_of_map_toLower (by rw [h]; decide)

theorem IsDefaultScheme.leading_eq (h : IsDefaultScheme scheme) :
    Address.leading scheme.toList = scheme.toList :=
  Address.leading_eq_self fun c hc => Address.isEdge_of_isSchemeChar
    (List.all_eq_true.mp (Bool.and_eq_true_iff.mp h.isScheme).2 c hc)

/-- The first mark of a URL stands behind its scheme. -/
theorem IsDefaultScheme.splitOnce_eq (h : IsDefaultScheme scheme) (after : List Char) :
    Text.splitOnce schemeMark (scheme.toList ++ schemeMark ++ after) =
      some (scheme.toList, after) :=
  Text.splitOnce_append (Address.colon_notMem_of_isScheme h.isScheme) after

/-- An authority is no part of the path, and nothing of the path is part of the authority. -/
theorem rooted_rawPath_hosted (hscheme : IsDefaultScheme scheme)
    (hauthority : ∀ c ∈ authority.toList, c ≠ '/' ∧ c ≠ '?' ∧ c ≠ '#') :
    rooted (rawPath (scheme.toList ++ schemeMark ++ (authority.toList ++ '/' :: tail.toList))) =
      (pathOf tail).toList := by
  have hskipped : (authority.toList ++ '/' :: tail.toList).dropWhile
      (fun c => !(c == '/' || c == '?' || c == '#')) = '/' :: tail.toList := by
    rw [List.dropWhile_append_of_pos fun c hc => by simp [hauthority c hc]]
    rfl
  rw [rooted_rawPath_of_splitOnce (hscheme.splitOnce_eq _), hskipped, pathOf,
    String.toList_ofList]
  rfl

/-- An accepted address with an authority has the default scheme. -/
theorem parse_hosted (hscheme : IsDefaultScheme scheme)
    (hauthority : ∀ c ∈ authority.toList, c ≠ '/' ∧ c ≠ '?' ∧ c ≠ '#')
    (haccepted : ∃ locator, parse (scheme ++ "://" ++ authority ++ "/" ++ tail) = .ok locator) :
    parse (scheme ++ "://" ++ authority ++ "/" ++ tail) =
      .ok ⟨scheme ++ "://" ++ authority ++ "/" ++ tail, defaultScheme, pathOf tail⟩ := by
  obtain ⟨locator, hlocator⟩ := haccepted
  generalize hraw : scheme ++ "://" ++ authority ++ "/" ++ tail = raw at *
  have htoList : raw.toList =
      scheme.toList ++ schemeMark ++ (authority.toList ++ '/' :: tail.toList) := by
    simp [← hraw, schemeMark]
  have hcomplete : complete raw = raw :=
    complete_of_splitOnce (by rw [htoList]; exact hscheme.splitOnce_eq _)
  have hfound : Address.schemeOf raw = .ok defaultScheme := by
    have hread := schemeOf_of_parse_eq_ok hlocator
    have hcolon : raw.toList = scheme.toList ++
        ':' :: ('/' :: '/' :: (authority.toList ++ '/' :: tail.toList)) := by
      simpa [schemeMark] using htoList
    rw [hcomplete, ← String.ofList_toList (s := raw), hcolon] at hread
    obtain ⟨-, hlowered⟩ := Address.scheme_of_schemeOf_append hread
    rw [hscheme.leading_eq, Address.takeWhile_eq_self_of_colon_notMem
      (Address.colon_notMem_of_isScheme hscheme.isScheme), hscheme, String.ofList_toList]
      at hlowered
    rw [← String.ofList_toList (s := raw), hcolon, hread, hlowered]
  rw [parse, hcomplete, hfound, htoList, rooted_rawPath_hosted hscheme hauthority,
    String.ofList_toList]

/-- An empty authority is always accepted. -/
theorem exists_parse_complete (hscheme : IsDefaultScheme scheme) (tail : String) :
    ∃ locator, parse (scheme ++ "://" ++ "" ++ "/" ++ tail) = .ok locator := by
  have htoList : (scheme ++ "://" ++ "" ++ "/" ++ tail).toList =
      scheme.toList ++ schemeMark ++ '/' :: tail.toList := by simp [schemeMark]
  have hcomplete : complete (scheme ++ "://" ++ "" ++ "/" ++ tail) =
      scheme ++ "://" ++ "" ++ "/" ++ tail :=
    complete_of_splitOnce (by rw [htoList]; exact hscheme.splitOnce_eq _)
  have hfound := Address.schemeOf_rooted hscheme tail.toList
  rw [parse, hcomplete, ← String.ofList_toList (s := scheme ++ "://" ++ "" ++ "/" ++ tail),
    htoList]
  exact ⟨_, by rw [show schemeMark = "://".toList from rfl, hfound]⟩

/-- All spellings of an address are read alike. -/
theorem Spelling.parse_eq (h : IsRelative tail) (hspelling : Spelling tail raw) :
    parse raw = .ok ⟨raw, defaultScheme, pathOf tail⟩ := by
  cases hspelling with
  | relative => exact parse_relative h
  | rooted => exact parse_slash h
  | complete hscheme =>
    rename_i scheme
    have hempty : scheme ++ ":///" ++ tail = scheme ++ "://" ++ "" ++ "/" ++ tail := by
      apply String.toList_injective
      simp
    rw [hempty]
    exact parse_hosted hscheme (by simp) (exists_parse_complete hscheme tail)
  | hosted hscheme hauthority haccepted => exact parse_hosted hscheme hauthority haccepted

end Locator

namespace Registry

variable {Ω : Type}

/-- Whatever opens addresses without a scheme goes by the scheme and the path of an address, and
not by the text that the caller wrote. -/
def IgnoresSpelling (registry : Registry Ω) : Prop :=
  ∀ factory, KeyMap.find? (protocolKey Locator.defaultScheme) registry.protocols = some factory →
    ∀ (locator : Locator) (raw : String) (view : RegistryView Ω),
      factory { locator with raw := raw } view = factory locator view

def ServesInProcess (registry : Registry Ω) : Prop :=
  KeyMap.find? (protocolKey Locator.defaultScheme) registry.protocols = some inProcess

theorem ServesInProcess.ignoresSpelling {registry : Registry Ω} (h : registry.ServesInProcess) :
    registry.IgnoresSpelling := by
  intro factory hfactory locator raw view
  rw [ServesInProcess, hfactory] at h
  cases h
  rfl

theorem IgnoresSpelling.open_eq {registry : Registry Ω} (h : registry.IgnoresSpelling)
    (raw raw' path : String) :
    registry.open ⟨raw, Locator.defaultScheme, path⟩ =
      registry.open ⟨raw', Locator.defaultScheme, path⟩ := by
  have hchosen : registry.factory? ⟨raw, Locator.defaultScheme, path⟩ =
      registry.factory? ⟨raw', Locator.defaultScheme, path⟩ := rfl
  cases hfactory : registry.factory? ⟨raw', Locator.defaultScheme, path⟩ with
  | some factory =>
    have hopen : registry.open ⟨raw, Locator.defaultScheme, path⟩ = _ :=
      openWithin_of_some (hchosen.trans hfactory) (nestingLimit - 1)
    have hopen' : registry.open ⟨raw', Locator.defaultScheme, path⟩ = _ :=
      openWithin_of_some hfactory (nestingLimit - 1)
    rw [hopen, hopen']
    exact h factory hfactory ⟨raw', Locator.defaultScheme, path⟩ raw _
  | none =>
    have hopen : registry.open ⟨raw, Locator.defaultScheme, path⟩ = _ :=
      openWithin_of_none (hchosen.trans hfactory) (nestingLimit - 1)
    have hopen' : registry.open ⟨raw', Locator.defaultScheme, path⟩ = _ :=
      openWithin_of_none hfactory (nestingLimit - 1)
    rw [hopen, hopen']

end Registry

namespace Resource

variable {Ω : Type} {tail raw raw' : String} {registry : Registry Ω}

theorem open_of_parse {locator : Locator} (h : Locator.parse raw = .ok locator) :
    Resource.open registry raw = (do return ⟨locator, ← registry.open locator⟩) := by
  rw [Resource.open, h]
  rfl

/-- Through such a registry all spellings are opened by one computation. -/
theorem exists_opening (htail : Locator.IsRelative tail) (hregistry : registry.IgnoresSpelling) :
    ∃ opening : Act (World Ω) (Protocol Ω), ∀ raw, Locator.Spelling tail raw →
      Resource.open registry raw =
        (do return ⟨⟨raw, Locator.defaultScheme, Locator.pathOf tail⟩, ← opening⟩) := by
  refine ⟨registry.open ⟨tail, Locator.defaultScheme, Locator.pathOf tail⟩, ?_⟩
  intro raw hspelling
  rw [open_of_parse (hspelling.parse_eq htail), hregistry.open_eq raw tail]

/-- What one spelling opens, every other one opens from the same state as well, and operations
resolve alike on both. -/
theorem exists_open_of_spelling (htail : Locator.IsRelative tail)
    (hregistry : registry.IgnoresSpelling) (hraw : Locator.Spelling tail raw)
    (hraw' : Locator.Spelling tail raw') {unwinding : Bool} {before after : World Ω}
    {resource : Resource Ω} (h : Resource.open registry raw unwinding before = (.ok resource, after)) :
    ∃ resource', Resource.open registry raw' unwinding before = (.ok resource', after) ∧
      ∀ request, resource'.callStack request = resource.callStack request := by
  obtain ⟨opening, hopening⟩ := exists_opening htail hregistry
  rw [hopening raw hraw] at h
  obtain ⟨protocol, between, hprotocol, hreturn⟩ := Act.exists_of_bind_eq_ok h
  cases hreturn
  refine ⟨⟨⟨raw', Locator.defaultScheme, Locator.pathOf tail⟩, protocol⟩, ?_, fun _ => rfl⟩
  rw [hopening raw' hraw', Act.bind_apply, hprotocol]
  rfl

/-- An address in the process opens an instance of the entity that its path names. -/
theorem open_in_process (htail : Locator.IsRelative tail) (hregistry : registry.ServesInProcess)
    (hraw : Locator.Spelling tail raw) :
    Resource.open registry raw = (do
      let path ← Act.ofExcept (AddressPath.parse (Locator.pathOf tail))
      let target ← registry.instantiate path.entity
      return ⟨⟨raw, Locator.defaultScheme, Locator.pathOf tail⟩,
        InProcess.protocol ⟨path.entity, target, path.selectors⟩⟩) := by
  have hfactory : registry.factory? ⟨raw, Locator.defaultScheme, Locator.pathOf tail⟩ =
      some Registry.inProcess := hregistry
  rw [open_of_inProcess (hraw.parse_eq htail) hfactory]

/-- What a resource resolves operations with: an instance of the entity that the path names, as it
was made when the resource was opened, and the selectors of the path. -/
theorem exists_instance_of_open (htail : Locator.IsRelative tail)
    (hregistry : registry.ServesInProcess) (hraw : Locator.Spelling tail raw) {unwinding : Bool}
    {before after : World Ω} {resource : Resource Ω}
    (h : Resource.open registry raw unwinding before = (.ok resource, after)) :
    ∃ path target, AddressPath.parse (Locator.pathOf tail) = .ok path ∧
      registry.instantiate path.entity unwinding before = (.ok target, after) ∧
      resource.protocol = InProcess.protocol ⟨path.entity, target, path.selectors⟩ := by
  rw [open_in_process htail hregistry hraw] at h
  obtain ⟨path, between, hpath, hrest⟩ := Act.exists_of_bind_eq_ok h
  obtain ⟨target, later, htarget, hreturn⟩ := Act.exists_of_bind_eq_ok hrest
  cases hreturn
  cases hparse : AddressPath.parse (Locator.pathOf tail) with
  | error fault =>
    rw [hparse] at hpath
    cases hpath
  | ok found =>
    rw [hparse] at hpath
    cases hpath
    exact ⟨path, target, rfl, htarget, rfl⟩

theorem callStack_in_process {resource : Resource Ω} {path : AddressPath} {target : Instance Ω}
    (h : resource.protocol = InProcess.protocol ⟨path.entity, target, path.selectors⟩)
    (request : String) :
    resource.callStack request = (do
      let operation ← Act.ofExcept (Operation.parse request)
      target.callStack operation.name path.selectors) := by
  rw [Resource.callStack, h]
  rfl

/-- Resources that were opened at different moments resolve operations with the same selectors, each
with the instance that was made for it. -/
theorem callStacks_of_opens (htail : Locator.IsRelative tail)
    (hregistry : registry.ServesInProcess) (hraw : Locator.Spelling tail raw)
    (hraw' : Locator.Spelling tail raw') {unwinding unwinding' : Bool}
    {before before' after after' : World Ω} {resource resource' : Resource Ω}
    (hopen : Resource.open registry raw unwinding before = (.ok resource, after))
    (hopen' : Resource.open registry raw' unwinding' before' = (.ok resource', after')) :
    ∃ (path : AddressPath) (target target' : Instance Ω),
      AddressPath.parse (Locator.pathOf tail) = .ok path ∧
      registry.instantiate path.entity unwinding before = (.ok target, after) ∧
      registry.instantiate path.entity unwinding' before' = (.ok target', after') ∧
      (target = target' →
        ∀ request, resource'.callStack request = resource.callStack request) ∧
      ((∀ name, target.hasMethod name = target'.hasMethod name) → ∀ now now',
        target.supports now Features.callStackOptimization = false →
        target'.supports now' Features.callStackOptimization = false →
        ∀ request unwinding unwinding', ∃ result,
          (CallStack.outline <$> resource.callStack request) unwinding now = (result, now) ∧
          (CallStack.outline <$> resource'.callStack request) unwinding' now' =
            (result, now')) := by
  obtain ⟨path, target, hpath, hmade, hprotocol⟩ :=
    exists_instance_of_open htail hregistry hraw hopen
  obtain ⟨_, target', hpath', hmade', hprotocol'⟩ :=
    exists_instance_of_open htail hregistry hraw' hopen'
  cases hpath.symm.trans hpath'
  refine ⟨path, target, target', hpath, hmade, hmade', ?_, ?_⟩
  · rintro rfl request
    rw [callStack_in_process hprotocol, callStack_in_process hprotocol']
  · intro hmethods now now' hkeeps hkeeps' request unwinding unwinding'
    rw [callStack_in_process hprotocol, callStack_in_process hprotocol']
    cases Operation.parse request with
    | error fault => exact ⟨.fail fault, rfl, rfl⟩
    | ok operation =>
      exact Instance.outline_callStack_congr hmethods hkeeps hkeeps' _ _ unwinding unwinding'

/-- For an entity of one class that leaves its stacks alone, all resources resolve alike, whenever
they were opened and whatever was called in between. -/
theorem outline_of_entityClass (htail : Locator.IsRelative tail)
    (hregistry : registry.ServesInProcess) {path : AddressPath}
    (hpath : AddressPath.parse (Locator.pathOf tail) = .ok path) {entity : EntityClass Ω}
    (hentity : KeyMap.find? path.entity registry.entities = some entity.create)
    (hkeeps : ∀ place now,
      (entity.instanceAt place).supports now Features.callStackOptimization = false)
    (hraw : Locator.Spelling tail raw) (hraw' : Locator.Spelling tail raw')
    {unwinding unwinding' : Bool} {before before' after after' : World Ω}
    {resource resource' : Resource Ω}
    (hopen : Resource.open registry raw unwinding before = (.ok resource, after))
    (hopen' : Resource.open registry raw' unwinding' before' = (.ok resource', after'))
    (now now' : World Ω) (request : String) :
    ∃ result,
      (CallStack.outline <$> resource.callStack request) unwinding now = (result, now) ∧
      (CallStack.outline <$> resource'.callStack request) unwinding' now' = (result, now') := by
  obtain ⟨found, target, target', hfound, hmade, hmade', -, houtlines⟩ :=
    callStacks_of_opens htail hregistry hraw hraw' hopen hopen'
  cases hpath.symm.trans hfound
  simp only [Registry.instantiate, Directory.instantiate, hentity, EntityClass.create_apply,
    Prod.mk.injEq, Outcome.ok.injEq] at hmade hmade'
  obtain ⟨rfl, -⟩ := hmade
  obtain ⟨rfl, -⟩ := hmade'
  refine houtlines (fun name => ?_) now now' (hkeeps _ now) (hkeeps _ now') request _ _
  rw [EntityClass.hasMethod_instanceAt, EntityClass.hasMethod_instanceAt]

/-- All spellings of an address in the process are read alike, and a registry that goes by the
scheme and the path of an address opens all of them alike from one state of the world: when one
spelling opens so does every other one, in one protocol, and so operations resolve to the same
stacks. Two resources that entities in the process serve resolve operations with the same selectors
also when they were opened at different moments, each with the instance that was made for it: to the
same stacks when they got one instance, and to stacks of the same outline when the instances have
the same methods and leave their stacks alone. -/
theorem spellings_resolve_alike (htail : Locator.IsRelative tail) :
    (∃ result, ∀ raw, Locator.Spelling tail raw →
      ∃ locator, Locator.parse raw = .ok locator ∧ locator.scheme = Locator.defaultScheme ∧
        locator.path = Locator.pathOf tail ∧ AddressPath.parse locator.path = result) ∧
    (∀ registry : Registry Ω, registry.IgnoresSpelling →
      (∃ opening : Act (World Ω) (Protocol Ω), ∀ raw, Locator.Spelling tail raw →
        Resource.open registry raw =
          (do return ⟨⟨raw, Locator.defaultScheme, Locator.pathOf tail⟩, ← opening⟩)) ∧
      ∀ raw raw', Locator.Spelling tail raw → Locator.Spelling tail raw' →
        ∀ unwinding before resource after,
          Resource.open registry raw unwinding before = (.ok resource, after) →
          ∃ resource', Resource.open registry raw' unwinding before = (.ok resource', after) ∧
            ∀ request, resource'.callStack request = resource.callStack request) ∧
    ∀ registry : Registry Ω, registry.ServesInProcess →
      ∀ raw raw', Locator.Spelling tail raw → Locator.Spelling tail raw' →
        ∀ unwinding before resource after unwinding' before' resource' after',
          Resource.open registry raw unwinding before = (.ok resource, after) →
          Resource.open registry raw' unwinding' before' = (.ok resource', after') →
          ∃ (path : AddressPath) (target target' : Instance Ω),
            AddressPath.parse (Locator.pathOf tail) = .ok path ∧
            registry.instantiate path.entity unwinding before = (.ok target, after) ∧
            registry.instantiate path.entity unwinding' before' = (.ok target', after') ∧
            (target = target' →
              ∀ request, resource'.callStack request = resource.callStack request) ∧
            ((∀ name, target.hasMethod name = target'.hasMethod name) → ∀ now now',
              target.supports now Features.callStackOptimization = false →
              target'.supports now' Features.callStackOptimization = false →
              ∀ request unwinding unwinding', ∃ result,
                (CallStack.outline <$> resource.callStack request) unwinding now = (result, now) ∧
                (CallStack.outline <$> resource'.callStack request) unwinding' now' =
                  (result, now')) := by
  refine ⟨⟨AddressPath.parse (Locator.pathOf tail), fun raw hraw =>
    ⟨_, hraw.parse_eq htail, rfl, rfl, rfl⟩⟩, fun registry hregistry =>
    ⟨exists_opening htail hregistry, ?_⟩, ?_⟩
  · intro raw raw' hraw hraw' unwinding before resource after hopen
    exact exists_open_of_spelling htail hregistry hraw hraw' hopen
  · intro registry hregistry raw raw' hraw hraw' unwinding before resource after unwinding' before'
      resource' after' hopen hopen'
    exact callStacks_of_opens htail hregistry hraw hraw' hopen hopen'

/-- The address of an order, as a path without its slash and with the default scheme in capitals
and an authority. -/
theorem widgetOrder_spellings :
    Locator.IsRelative "shop/widgets/42/orders/7" ∧ ∃ resource resource' opened,
      Resource.open ElementPath.widgetRegistry "shop/widgets/42/orders/7" false (World.start ()) =
        (.ok resource, opened) ∧
      Resource.open ElementPath.widgetRegistry "X-IN-PROCESS://host:80/shop/widgets/42/orders/7"
        false (World.start ()) = (.ok resource', opened) ∧
      resource'.callStack "GET" = resource.callStack "GET" := by
  have htail : Locator.IsRelative "shop/widgets/42/orders/7" := by decide
  have hserves : ElementPath.widgetRegistry.ServesInProcess := KeyMap.find?_insert_self _ _ _
  have hhosted : Locator.Spelling "shop/widgets/42/orders/7"
      ("X-IN-PROCESS" ++ "://" ++ "host:80" ++ "/" ++ "shop/widgets/42/orders/7") :=
    .hosted (by decide) (by simp)
      ⟨⟨"X-IN-PROCESS://host:80/shop/widgets/42/orders/7", "x-in-process",
        "/shop/widgets/42/orders/7"⟩, by decide⟩
  obtain ⟨-, hopened, -⟩ := spellings_resolve_alike (Ω := Unit) htail
  have hopen : ∃ resource opened, Resource.open ElementPath.widgetRegistry
      "shop/widgets/42/orders/7" false (World.start ()) = (.ok resource, opened) := by
    have hpath : AddressPath.parse (Locator.pathOf "shop/widgets/42/orders/7") =
        .ok ⟨ElementPath.widgetOrder.entityId, ["42", "orders", "7"]⟩ := by decide
    rw [open_in_process htail hserves .relative, hpath]
    simp only [Act.bind_apply, Act.ofExcept, Outcome.ofExcept, Registry.instantiate,
      Directory.instantiate, ElementPath.widgetRegistry_find?, EntityClass.create_apply]
    exact ⟨_, _, rfl⟩
  obtain ⟨resource, opened, hopen⟩ := hopen
  obtain ⟨resource', hopen', hstack⟩ := (hopened _ hserves.ignoresSpelling).2 _ _ .relative hhosted
    _ _ _ _ hopen
  exact ⟨htail, resource, resource', opened, hopen, hopen', hstack "GET"⟩

/-- Instances that can be called once: after a call of theirs the same operation has no steps. -/
def callableOnce : Script.ClassScript where
  methods := [("get", .toggle)]
  features := [(Features.callStackOptimization, .toggle)]
  optimize := .empty
  ownNames := []

def onceRegistry : Registry Script.State :=
  Registry.start.registerEntity (EntityId.ofSegments "shop".toList "widgets".toList)
    callableOnce.create

/-- Hands on whole addresses, with the text that the caller wrote. -/
def verbatim : ProtocolFactory Unit := fun locator _ => pure {
  supports := fun _ _ => false
  callStack := fun operation =>
    pure ⟨operation, [⟨fun _ => pure .null, operation, some locator.raw⟩]⟩
  keepsCallee := false }

def relayRegistry : Registry Unit :=
  Registry.start.registerProtocol Locator.defaultScheme verbatim

/-- An opened instance has the next places for its state and for a validator. -/
theorem onceRegistry_open {raw : String} (hraw : Locator.Spelling "shop/widgets" raw)
    (before : World Script.State) :
    Resource.open onceRegistry raw false before =
      (.ok ⟨⟨raw, Locator.defaultScheme, "/shop/widgets"⟩,
        InProcess.protocol ⟨EntityId.ofSegments "shop".toList "widgets".toList,
          (callableOnce.entityClass before.app.entities.length).instanceAt before.guards.length,
          []⟩⟩,
        { before with
          guards := before.guards ++ [none]
          app := { before.app with entities := before.app.entities ++ [{}] } }) := by
  have hserves : onceRegistry.ServesInProcess := KeyMap.find?_insert_self _ _ _
  have hpath : AddressPath.parse (Locator.pathOf "shop/widgets") =
      .ok ⟨EntityId.ofSegments "shop".toList "widgets".toList, []⟩ := by decide
  have hfind : KeyMap.find? (EntityId.ofSegments "shop".toList "widgets".toList)
      onceRegistry.entities = some callableOnce.create := KeyMap.find?_insert_self _ _ _
  rw [open_in_process (by decide) hserves hraw, hpath]
  simp only [Act.bind_apply, Act.ofExcept, Outcome.ofExcept, Registry.instantiate,
    Directory.instantiate, hfind]
  rfl

theorem relayRegistry_open {raw : String} (hraw : Locator.Spelling "shop/widgets" raw)
    (before : World Unit) :
    ∃ resource, Resource.open relayRegistry raw false before = (.ok resource, before) ∧
      ∀ now, (CallStack.outline <$> resource.callStack "get") false now =
        (.ok ("get", [("get", some raw)]), now) := by
  have hfactory : relayRegistry.factory?
      ⟨raw, Locator.defaultScheme, Locator.pathOf "shop/widgets"⟩ = some verbatim := by
    rw [Registry.factory?, Locator.protocolName_defaultScheme]
    exact KeyMap.find?_insert_self _ _ _
  have hopen : relayRegistry.open
      ⟨raw, Locator.defaultScheme, Locator.pathOf "shop/widgets"⟩ = _ :=
    Registry.openWithin_of_some hfactory (Registry.nestingLimit - 1)
  rw [open_of_parse (hraw.parse_eq (by decide)), hopen]
  exact ⟨_, rfl, fun _ => rfl⟩

/-- Two spellings may resolve apart in two ways. Instances that were made one after the other have
states of their own, and here a call of the first one changes what it resolves to. And a registry
may serve addresses without a scheme by a protocol that looks at their text. -/
theorem spellings_may_resolve_apart :
    Locator.IsRelative "shop/widgets" ∧
    (∃ (first second : Resource Script.State) (opened opened' called : World Script.State),
      Resource.open onceRegistry "/shop/widgets" false (World.start {}) = (.ok first, opened) ∧
      Resource.open onceRegistry "shop/widgets" false opened = (.ok second, opened') ∧
      first.call "get" [] false opened' = (.ok (.bool true), called) ∧
      (CallStack.outline <$> first.callStack "get") false called = (.ok ("get", []), called) ∧
      (CallStack.outline <$> second.callStack "get") false called =
        (.ok ("get", [("get", none)]), called)) ∧
    ∃ first second : Resource Unit,
      Resource.open relayRegistry "/shop/widgets" false (World.start ()) =
        (.ok first, World.start ()) ∧
      Resource.open relayRegistry "shop/widgets" false (World.start ()) =
        (.ok second, World.start ()) ∧
      (CallStack.outline <$> first.callStack "get") false (World.start ()) =
        (.ok ("get", [("get", some "/shop/widgets")]), World.start ()) ∧
      (CallStack.outline <$> second.callStack "get") false (World.start ()) =
        (.ok ("get", [("get", some "shop/widgets")]), World.start ()) := by
  have hrooted : Locator.Spelling "shop/widgets" "/shop/widgets" := .rooted
  refine ⟨by decide, ?_, ?_⟩
  · exact ⟨_, _, _, _, _, onceRegistry_open hrooted _, onceRegistry_open .relative _, rfl, rfl, rfl⟩
  · obtain ⟨first, hfirst, hstack⟩ := relayRegistry_open hrooted (World.start ())
    obtain ⟨second, hsecond, hstack'⟩ := relayRegistry_open .relative (World.start ())
    exact ⟨first, second, hfirst, hsecond, hstack _, hstack' _⟩

end Resource

end PathCall
