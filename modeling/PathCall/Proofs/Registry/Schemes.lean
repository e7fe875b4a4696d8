import PathCall.Proofs.Address.Scheme
import PathCall.Proofs.Registry.Registrations

/-!
Which protocol an address opens. Protocols are registered under the key of a name that a caller
chose, and looked up under the key of the scheme that a URL was found to have. The main theorem says
that both keys agree, whatever the case of the letters, and that no two schemes share one.
-/

namespace PathCall

open Text (sameIgnoringAsciiCase)

namespace Address

theorem isSchemeChar_of_mem {name : List Char} (h : isScheme name = true) {c : Char}
    (hc : c ∈ name) : isSchemeChar c = true :=
  List.all_eq_true.mp (Bool.and_eq_true_iff.mp h).2 c hc

/-- An underscore is no character of a scheme, and no letter has it as its lower-case form. -/
theorem underscore_notMem_lowered {name : List Char} (h : isScheme name = true) :
    '_' ∉ name.map Char.toLower := by
  intro hmem
  obtain ⟨c, hc, hlower⟩ := List.mem_map.mp hmem
  have hchar := isSchemeChar_of_mem h hc
  have heq : c = '_' := Text.forall_ascii (p := fun c => c.toLower = '_' → c = '_') (by decide)
    (bounds_of_isSchemeChar hchar).2 hlower
  rw [heq] at hchar
  cases hchar

end Address

namespace Locator

/-- Without underscores nothing is lost by writing them for hyphens. -/
theorem map_underscored {text : List Char} (h : '_' ∉ text) :
    (underscored text).map (fun c => if c = '_' then '-' else c) = text := by
  rw [underscored, List.map_map]
  refine (List.map_congr_left fun c hc => ?_).trans (List.map_id text)
  have hne : c ≠ '_' := ne_of_mem_of_not_mem hc h
  by_cases hhyphen : c = '-' <;> simp [hhyphen, hne]

theorem underscored_inj {text other : List Char} (htext : '_' ∉ text) (hother : '_' ∉ other) :
    underscored text = underscored other ↔ text = other := by
  refine ⟨fun h => ?_, congrArg underscored⟩
  rw [← map_underscored htext, h, map_underscored hother]

theorem underscored_underscored (text : List Char) :
    underscored (underscored text) = underscored text := by
  rw [underscored, underscored, List.map_map]
  refine List.map_congr_left fun c _ => ?_
  by_cases hhyphen : c = '-' <;> simp [hhyphen]

/-- An underscore is in lower case. -/
theorem map_toLower_underscored (text : List Char) :
    (underscored (text.map Char.toLower)).map Char.toLower =
      underscored (text.map Char.toLower) := by
  rw [underscored, List.map_map, List.map_map, List.map_map]
  refine List.map_congr_left fun c _ => ?_
  by_cases hhyphen : c.toLower = '-' <;> simp [hhyphen]

variable {raw scheme : String} {locator : Locator}

/-- An accepted address has its scheme in lower case. -/
theorem scheme_of_same (hparse : parse raw = .ok locator)
    (hsame : sameIgnoringAsciiCase locator.scheme scheme = true) :
    locator.scheme = String.ofList (scheme.toList.map Char.toLower) := by
  obtain ⟨name, _, _, _, hname⟩ :=
    Address.exists_scheme_of_schemeOf_eq_ok (schemeOf_of_parse_eq_ok hparse)
  have hlowered : locator.scheme.toList.map Char.toLower = locator.scheme.toList := by
    simp [hname, Function.comp_def]
  rw [← String.ofList_toList (s := locator.scheme), ← hlowered, eq_of_beq hsame]

end Locator

namespace Registry

variable {Ω : Type} {raw scheme other : String} {locator : Locator}

theorem protocolKey_of_ascii (h : ∀ c ∈ scheme.toList, c.toNat < 128) :
    protocolKey scheme =
      String.ofList (Locator.underscored (scheme.toList.map Char.toLower)) := by
  rw [protocolKey, Text.lowercase_of_ascii h, String.toList_ofList]

theorem protocolKey_of_isScheme (h : Address.isScheme scheme.toList = true) :
    protocolKey scheme =
      String.ofList (Locator.underscored (scheme.toList.map Char.toLower)) :=
  protocolKey_of_ascii fun _ hc =>
    (Address.bounds_of_isSchemeChar (Address.isSchemeChar_of_mem h hc)).2

/-- Schemes have one key only if they are one scheme. -/
theorem protocolKey_eq_iff (h : Address.isScheme scheme.toList = true)
    (hother : Address.isScheme other.toList = true) :
    protocolKey other = protocolKey scheme ↔ sameIgnoringAsciiCase other scheme = true := by
  rw [protocolKey_of_isScheme h, protocolKey_of_isScheme hother, String.ofList_inj,
    Locator.underscored_inj (Address.underscore_notMem_lowered hother)
      (Address.underscore_notMem_lowered h), sameIgnoringAsciiCase, beq_iff_eq]

theorem lt_of_mem_protocolKey (h : Address.isScheme scheme.toList = true) {c : Char}
    (hc : c ∈ (protocolKey scheme).toList) : c.toNat < 128 := by
  rw [protocolKey_of_isScheme h, String.toList_ofList, Locator.underscored, List.map_map] at hc
  obtain ⟨written, hwritten, rfl⟩ := List.mem_map.mp hc
  have hbounds := Address.bounds_of_isSchemeChar (Address.isSchemeChar_of_mem h hwritten)
  rw [Function.comp_apply]
  split
  · decide
  · exact Text.toLower_lt_of_lt hbounds.2

/-- A key is in lower case and has no hyphens. -/
theorem protocolKey_protocolKey (h : Address.isScheme scheme.toList = true) :
    protocolKey (protocolKey scheme) = protocolKey scheme := by
  rw [protocolKey_of_ascii fun c hc => lt_of_mem_protocolKey h hc, protocolKey_of_isScheme h,
    String.toList_ofList, Locator.map_toLower_underscored, Locator.underscored_underscored]

/-- What an accepted address opens is chosen under the key of its scheme. -/
theorem factory?_of_same (registry : Registry Ω) (hscheme : Address.isScheme scheme.toList = true)
    (hparse : Locator.parse raw = .ok locator)
    (hsame : sameIgnoringAsciiCase locator.scheme scheme = true) :
    registry.factory? locator = KeyMap.find? (protocolKey scheme) registry.protocols := by
  have hname : locator.protocolName = protocolKey scheme := by
    rw [Locator.protocolName, Locator.scheme_of_same hparse hsame, String.toList_ofList,
      protocolKey_of_isScheme hscheme]
  rw [factory?, hname]

/-! ### How deep openings nest -/

/-- `shallow` does what `deep` does, unless it runs out of stack. -/
def IsCutOf {α : Type} (shallow deep : Act (World Ω) α) : Prop :=
  ∀ unwinding world, (shallow unwinding world).1 = .panic stackOverflow ∨
    shallow unwinding world = deep unwinding world

theorem IsCutOf.refl {α : Type} (act : Act (World Ω) α) : IsCutOf act act :=
  fun _ _ => .inr rfl

theorem IsCutOf.bind {α β : Type} {shallow deep : Act (World Ω) α}
    {next next' : α → Act (World Ω) β} (h : IsCutOf shallow deep)
    (hnext : ∀ value, IsCutOf (next value) (next' value)) :
    IsCutOf (shallow >>= next) (deep >>= next') := by
  intro unwinding world
  rw [Act.bind_apply, Act.bind_apply]
  rcases h unwinding world with hoverflow | heq
  · left
    rcases hrun : shallow unwinding world with ⟨outcome, after⟩
    rw [hrun] at hoverflow
    obtain rfl : outcome = .panic stackOverflow := hoverflow
    rfl
  · rw [heq]
    rcases deep unwinding world with ⟨outcome, after⟩
    cases outcome with
    | ok value => exact hnext value unwinding after
    | fail error => exact .inr rfl
    | panic reason => exact .inr rfl

/-- A factory that opens further addresses in no other way than it is handed, and so cannot tell how
deep it is itself. -/
def KeepsCuts (factory : ProtocolFactory Ω) : Prop :=
  ∀ (registry : Registry Ω) (opening opening' : Locator → Act (World Ω) (Protocol Ω)),
    (∀ locator, IsCutOf (opening locator) (opening' locator)) →
    ∀ locator, IsCutOf (factory locator (registry.view opening))
      (factory locator (registry.view opening'))

theorem keepsCuts_inProcess : KeepsCuts (inProcess : ProtocolFactory Ω) :=
  fun _ _ _ _ _ => .refl _

/-- A factory that serves another address instead. -/
theorem keepsCuts_relay (address : Locator → Except Error Locator) :
    KeepsCuts (fun locator (view : RegistryView Ω) => do
      let target ← Act.ofExcept (address locator)
      view.open target) :=
  fun _ _ _ hopening locator =>
    (IsCutOf.refl (Act.ofExcept (address locator))).bind hopening

/-- What opens within some depth opens alike within every greater one, so the depth is a bound on
the stack and nothing that decides about results. -/
theorem openWithin_isCutOf {registry : Registry Ω}
    (h : ∀ locator factory, registry.factory? locator = some factory → KeepsCuts factory)
    {depth deeper : Nat} (hle : depth ≤ deeper) (locator : Locator) :
    IsCutOf (registry.openWithin depth locator) (registry.openWithin deeper locator) := by
  induction depth generalizing deeper locator with
  | zero => exact fun _ _ => .inl rfl
  | succ depth ih =>
    obtain ⟨deeper, rfl⟩ := Nat.exists_eq_add_one_of_ne_zero (Nat.ne_zero_of_lt hle)
    cases hfactory : registry.factory? locator with
    | none =>
      rw [openWithin_of_none hfactory, openWithin_of_none hfactory]
      exact .refl _
    | some factory =>
      rw [openWithin_of_some hfactory, openWithin_of_some hfactory]
      exact h locator factory hfactory registry _ _
        (fun locator => ih (Nat.le_of_succ_le_succ hle) locator) locator

/-! ### The factory of a scheme -/

/-- Protocols are found under the scheme that they were registered for. A registry is given by all
that it has been told, the protocol that every one begins with included. An accepted address whose
scheme is the given one, in any letter case, is opened by the factory that was registered last under
any name with the key of that scheme, which is handed the registry; without one it fails, and the
error names the scheme in lower case. Schemes have one key only if they differ in the case of
letters alone, so what is registered for another scheme does not change which factory opens this
one. And a key is its own key, so a protocol may be registered under the key as well. -/
theorem open_follows_scheme (hscheme : Address.isScheme scheme.toList = true) :
    (∀ (record : List (Registration Ω)) (raw : String) (locator : Locator),
      Locator.parse raw = .ok locator → sameIgnoringAsciiCase locator.scheme scheme = true →
      (∀ before name factory after, record = before ++ .protocol name factory :: after →
        protocolKey name = protocolKey scheme →
        (∀ other replacement, .protocol other replacement ∈ after →
          protocolKey other ≠ protocolKey scheme) →
        let registry := ofRecord record
        (∀ depth, registry.openWithin (depth + 1) locator =
          factory locator (registry.view (registry.openWithin depth))) ∧
        registry.open locator =
          factory locator (registry.view (registry.openWithin (nestingLimit - 1)))) ∧
      ((∀ name factory, .protocol name factory ∈ record →
          protocolKey name ≠ protocolKey scheme) →
        (ofRecord record).open locator = Act.fail ⟨.operationFailed,
          "CRUD protocol '" ++ String.ofList (scheme.toList.map Char.toLower) ++
            "' is not supported"⟩)) ∧
    (∀ other, Address.isScheme other.toList = true →
      (protocolKey other = protocolKey scheme ↔ sameIgnoringAsciiCase other scheme = true) ∧
      (sameIgnoringAsciiCase other scheme = false →
        ∀ (registry : Registry Ω) (factory : ProtocolFactory Ω) (raw : String) (locator : Locator),
          Locator.parse raw = .ok locator → sameIgnoringAsciiCase locator.scheme scheme = true →
          (registry.registerProtocol other factory).factory? locator =
            registry.factory? locator)) ∧
    protocolKey (protocolKey scheme) = protocolKey scheme := by
  refine ⟨fun record raw locator hparse hsame => ⟨?_, ?_⟩,
    fun other hother => ⟨protocolKey_eq_iff hscheme hother, ?_⟩, protocolKey_protocolKey hscheme⟩
  · rintro before name factory after rfl hkey hlast registry
    rw [← hkey] at hlast
    have hfactory : registry.factory? locator = some factory := by
      rw [factory?_of_same _ hscheme hparse hsame, ← hkey, find?_protocols_of_last hlast]
    exact ⟨openWithin_of_some hfactory, openWithin_of_some hfactory _⟩
  · intro hnone
    have hfactory : (ofRecord record).factory? locator = none := by
      rw [factory?_of_same _ hscheme hparse hsame, find?_protocols_eq_none hnone]
    rw [← Locator.scheme_of_same hparse hsame]
    exact openWithin_of_none hfactory _
  · intro hforeign registry factory raw locator hparse hsame
    have hne : protocolKey scheme ≠ protocolKey other := by
      intro hkey
      rw [(protocolKey_eq_iff hscheme hother).mp hkey.symm] at hforeign
      cases hforeign
    rw [factory?_of_same _ hscheme hparse hsame, factory?_of_same _ hscheme hparse hsame,
      registerProtocol, KeyMap.find?_insert_of_ne hne]

def elsewhere : Locator := ⟨"x-other:///shop/widgets", "x-other", "/shop/widgets"⟩

def relay : ProtocolFactory Unit := fun _ registry => registry.open elsewhere

def conflict : ProtocolFactory Unit := fun _ _ => Act.fail Error.updateConflict

/-- A protocol for mirrors that is registered twice, the second time under its key. From there it
opens an address of another scheme. -/
def mirrors : List (Registration Unit) := [
  .initial,
  .protocol "X-Mirror" fun _ _ => Act.fail Error.accessDenied,
  .protocol "x_mirror" relay,
  .protocol "x-other" conflict]

/-- The second registration replaced the first and reaches the protocol that it opens, and no fourth
scheme is served. -/
theorem mirrors_open :
    let mirror : Locator := ⟨"x-MIRROR:///shop/widgets", "x-mirror", "/shop/widgets"⟩
    let remote : Locator := ⟨"FTP://host/shop/widgets", "ftp", "/shop/widgets"⟩
    Address.isScheme "X-mirror".toList = true ∧ Address.isScheme "x-other".toList = true ∧
    Address.isScheme "Ftp".toList = true ∧
    Locator.parse mirror.raw = .ok mirror ∧ Locator.parse elsewhere.raw = .ok elsewhere ∧
    Locator.parse remote.raw = .ok remote ∧
    (ofRecord mirrors).open mirror = Act.fail Error.updateConflict ∧
    (ofRecord mirrors).open remote =
      Act.fail ⟨.operationFailed, "CRUD protocol 'ftp' is not supported"⟩ := by
  intro mirror remote
  have hmirror : Locator.parse mirror.raw = .ok mirror := by decide
  have helsewhere : Locator.parse elsewhere.raw = .ok elsewhere := by decide
  have hremote : Locator.parse remote.raw = .ok remote := by decide
  have hmirrorScheme : Address.isScheme "X-mirror".toList = true := by decide
  have hotherScheme : Address.isScheme "x-other".toList = true := by decide
  have hremoteScheme : Address.isScheme "Ftp".toList = true := by decide
  obtain ⟨hopens, -, -⟩ := open_follows_scheme (Ω := Unit) hmirrorScheme
  obtain ⟨hfurther, -, -⟩ := open_follows_scheme (Ω := Unit) hotherScheme
  obtain ⟨hrefuses, -, -⟩ := open_follows_scheme (Ω := Unit) hremoteScheme
  refine ⟨hmirrorScheme, hotherScheme, hremoteScheme, hmirror, helsewhere, hremote, ?_, ?_⟩
  · have hkey : protocolKey "x_mirror" = protocolKey "X-mirror" := by decide +kernel
    have hlast : ∀ other replacement,
        Registration.protocol other replacement ∈ [.protocol "x-other" conflict] →
          protocolKey other ≠ protocolKey "X-mirror" := by
      intro other replacement hmem
      cases List.mem_singleton.mp hmem
      decide
    have hrelayed :=
      ((hopens mirrors _ mirror hmirror (by decide)).1 [_, _] _ relay _ rfl hkey hlast).2
    have hconflict := ((hfurther mirrors _ elsewhere helsewhere (by decide)).1 [_, _, _] "x-other"
      conflict [] rfl rfl nofun).1
    have hfurtherOpen (opening : Locator → Act (World Unit) (Protocol Unit)) :
        relay mirror ((ofRecord mirrors).view opening) = opening elsewhere := rfl
    have hroom : nestingLimit - 1 = 998 + 1 := rfl
    rw [hrelayed, hfurtherOpen, hroom, hconflict, conflict]
  · have hmessage : "CRUD protocol '" ++ String.ofList ("Ftp".toList.map Char.toLower) ++
        "' is not supported" = "CRUD protocol 'ftp' is not supported" := by decide
    rw [(hrefuses mirrors _ remote hremote (by decide)).2 ?_, hmessage]
    intro name factory hmem
    simp only [mirrors, Registration.initial, List.mem_cons, List.not_mem_nil, or_false,
      Registration.protocol.injEq] at hmem
    rcases hmem with ⟨rfl, -⟩ | ⟨rfl, -⟩ | ⟨rfl, -⟩ | ⟨rfl, -⟩ <;> decide +kernel

end Registry

end PathCall
