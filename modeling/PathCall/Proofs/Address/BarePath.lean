import PathCall.Address.Path
import PathCall.Proofs.Address.Scheme

/-!
Addresses that are paths by themselves. They stand for URLs of the default scheme with an empty
authority, and are valid whatever follows their first slash; of what follows, the part up to a query
or a fragment is the path, and segments that were joined to a path come back from it.
-/

namespace PathCall

namespace Address

/-- The letters of a scheme in another case make a scheme as well. -/
theorem isScheme_of_map_toLower {name : List Char}
    (h : isScheme (name.map Char.toLower) = true) : isScheme name = true := by
  obtain ⟨hletter, hchars⟩ := Bool.and_eq_true_iff.mp h
  refine Bool.and_eq_true_iff.mpr ⟨?_, List.all_eq_true.mpr fun c hc => ?_⟩
  · cases name with
    | nil => cases hletter
    | cons c name => exact (Char.isAlpha_toLower_eq_isAlpha c).symm.trans hletter
  · exact isSchemeChar_of_toLower (List.all_eq_true.mp hchars _ (List.mem_map_of_mem hc))

/-- An empty authority is fine for the default scheme, which names no internet hosts, and for its
spellings in other letter cases. -/
theorem schemeOf_rooted {name : List Char}
    (h : name.map Char.toLower = Locator.defaultScheme.toList) (tail : List Char) :
    schemeOf (String.ofList (name ++ "://".toList ++ '/' :: tail)) =
      .ok Locator.defaultScheme := by
  have hname : isScheme name = true := isScheme_of_map_toLower (by rw [h]; decide)
  have hmark : ("://".toList.all fun c => !isEdge c) = true := by decide
  have hkept : leading (name ++ "://".toList) = name ++ "://".toList := by
    refine leading_eq_self fun c hc => ?_
    rcases List.mem_append.mp hc with hc | hc
    · exact isEdge_of_isSchemeChar
        (List.all_eq_true.mp (Bool.and_eq_true_iff.mp hname).2 c hc)
    · simpa using List.all_eq_true.mp hmark c hc
  obtain ⟨rest, hrest⟩ := exists_significant_append (c := '/') (by decide)
    (name ++ "://".toList) tail
  have hsplit : splitScheme? (significant (name ++ "://".toList ++ '/' :: tail)) =
      some (Locator.defaultScheme.toList, '/' :: '/' :: '/' :: rest) := by
    refine splitScheme?_eq_some_iff.mpr ⟨name, hname, ?_, h.symm⟩
    rw [hrest, hkept, List.append_assoc]
    rfl
  have hauthority : checkAuthority .other ('/' :: rest) = .ok () := rfl
  have hclass : SchemeClass.of Locator.defaultScheme.toList = .other := by decide
  simp only [schemeOf, String.toList_ofList, hsplit, hclass, hauthority]
  rfl

/-- What begins with a slash has no scheme. -/
theorem schemeOf_slash (tail : List Char) :
    schemeOf (String.ofList ('/' :: tail)) = .error .relativeWithoutBase := by
  obtain ⟨rest, hrest⟩ := exists_significant_append (c := '/') (by decide) [] tail
  have hsplit : splitScheme? (significant ('/' :: tail)) = none := by
    rw [← List.nil_append ('/' :: tail), hrest]
    rfl
  simp only [schemeOf, String.toList_ofList, hsplit]

end Address

namespace Locator

structure IsBare (raw : String) : Prop where
  rooted : raw.toList.head? = some '/'
  unmarked : ¬schemeMark <:+: raw.toList

theorem IsBare.splitOnce_eq_none {raw : String} (h : IsBare raw) :
    Text.splitOnce schemeMark raw.toList = none :=
  (Text.splitOnce_eq_none_iff _ _).mpr h.unmarked

/-- A bare path is an address of the default scheme. Its path is what stands in front of a query
and a fragment, as it is written. -/
theorem parse_of_isBare {raw : String} (h : IsBare raw) :
    parse raw = .ok {
      raw := raw
      scheme := defaultScheme
      path := String.ofList (raw.toList.takeWhile fun c => !(c == '?' || c == '#')) } := by
  obtain ⟨tail, htail⟩ : ∃ tail, raw.toList = '/' :: tail := by
    cases hraw : raw.toList with
    | nil => simpa [hraw] using h.rooted
    | cons c tail => exact ⟨tail, by simpa [hraw] using h.rooted⟩
  have hcomplete : complete raw =
      String.ofList (defaultScheme.toList ++ "://".toList ++ '/' :: tail) := by
    rw [complete, h.splitOnce_eq_none, if_neg (by simp), if_pos h.rooted]
    apply String.toList_injective
    simp [htail]
  have hpath : rooted (rawPath raw.toList) =
      raw.toList.takeWhile fun c => !(c == '?' || c == '#') := by
    rw [rawPath, h.splitOnce_eq_none, htail]
    rfl
  rw [parse, hcomplete, Address.schemeOf_rooted (by decide), hpath]

/-- An address that begins with a slash is a bare path exactly if it holds no mark, in its query and
its fragment neither. With a mark it is taken for a URL, and no URL begins with a slash. -/
theorem rooted_parses_iff_unmarked (tail : String) :
    (parse ("/" ++ tail) = .ok {
        raw := "/" ++ tail
        scheme := defaultScheme
        path := String.ofList (("/" ++ tail).toList.takeWhile fun c => !(c == '?' || c == '#')) } ↔
      ¬schemeMark <:+: ("/" ++ tail).toList) ∧
    (schemeMark <:+: ("/" ++ tail).toList →
      parse ("/" ++ tail) = .error ⟨.inputValidation,
        "CRUD URL '" ++ ("/" ++ tail) ++ "' is invalid: relative URL without a base"⟩) := by
  generalize hraw : "/" ++ tail = raw
  have htoList : raw.toList = '/' :: tail.toList := by simp [← hraw]
  have hrefused (hmark : schemeMark <:+: raw.toList) :
      parse raw = .error ⟨.inputValidation,
        "CRUD URL '" ++ raw ++ "' is invalid: relative URL without a base"⟩ := by
    have hcomplete : complete raw = String.ofList ('/' :: tail.toList) := by
      rw [complete, if_pos ((Text.splitOnce_isSome_iff _ _).mpr hmark), ← htoList,
        String.ofList_toList]
    have hmessage : "' is invalid: " ++ Address.Fault.message .relativeWithoutBase =
        "' is invalid: relative URL without a base" := by decide
    simp only [parse, hcomplete, Address.schemeOf_slash]
    rw [String.append_assoc, hmessage]
  refine ⟨⟨fun hok hmark => ?_, fun hunmarked => ?_⟩, hrefused⟩
  · rw [hrefused hmark] at hok
    cases hok
  · exact parse_of_isBare ⟨by simp [htoList], hunmarked⟩

/-- The query of an address that begins with a slash makes it invalid when it holds a URL. -/
theorem urlInQuery_refused :
    parse "/shop/widgets?next=http://host" =
      .error ⟨.inputValidation,
        "CRUD URL '/shop/widgets?next=http://host' is invalid: relative URL without a base"⟩ := by
  decide

/-- A bare path without a query and a fragment is its own path. -/
theorem parse_of_isBare_of_notMem {raw : String} (h : IsBare raw) (hquery : '?' ∉ raw.toList)
    (hfragment : '#' ∉ raw.toList) : parse raw = .ok ⟨raw, defaultScheme, raw⟩ := by
  have hpath : (raw.toList.takeWhile fun c => !(c == '?' || c == '#')) = raw.toList := by
    refine List.takeWhile_eq_self_iff.mpr fun c hc => ?_
    have hneQuery : c ≠ '?' := fun heq => hquery (heq ▸ hc)
    have hneFragment : c ≠ '#' := fun heq => hfragment (heq ▸ hc)
    simp [hneQuery, hneFragment]
  rw [parse_of_isBare h, hpath, String.ofList_toList]

end Locator

namespace AddressPath

def ofSegments (segments : List String) : String :=
  String.ofList ('/' :: Text.join '/' (segments.map String.toList))

theorem eq_or_mem_of_mem_ofSegments {segments : List String} {c : Char}
    (h : c ∈ (ofSegments segments).toList) :
    c = '/' ∨ ∃ segment ∈ segments, c ∈ segment.toList := by
  rw [ofSegments, String.toList_ofList, List.mem_cons] at h
  rcases h with rfl | h
  · exact .inl rfl
  · rcases Text.eq_or_mem_of_mem_join h with rfl | ⟨_, hpiece, hc⟩
    · exact .inl rfl
    · obtain ⟨segment, hsegment, rfl⟩ := List.mem_map.mp hpiece
      exact .inr ⟨segment, hsegment, hc⟩

theorem notMem_ofSegments {segments : List String} {c : Char} (hc : c ≠ '/')
    (h : ∀ segment ∈ segments, c ∉ segment.toList) : c ∉ (ofSegments segments).toList := by
  intro hmem
  rcases eq_or_mem_of_mem_ofSegments hmem with rfl | ⟨segment, hsegment, hin⟩
  · exact hc rfl
  · exact h segment hsegment hin

/-- A path of segments that end no path is an address of its own. -/
theorem locator_ofSegments {segments : List String}
    (hunmarked : ¬Locator.schemeMark <:+: (ofSegments segments).toList)
    (hquery : ∀ segment ∈ segments, '?' ∉ segment.toList)
    (hfragment : ∀ segment ∈ segments, '#' ∉ segment.toList) :
    Locator.parse (ofSegments segments) =
      .ok ⟨ofSegments segments, Locator.defaultScheme, ofSegments segments⟩ :=
  Locator.parse_of_isBare_of_notMem ⟨by simp [ofSegments], hunmarked⟩
    (notMem_ofSegments (by decide) hquery) (notMem_ofSegments (by decide) hfragment)

/-- Segments without slashes come back from the path that is written from them. -/
theorem segments_ofSegments {written : List String} (hne : written ≠ [])
    (h : ∀ segment ∈ written, '/' ∉ segment.toList) :
    segments (ofSegments written).toList = written.map String.toList := by
  rw [ofSegments, String.toList_ofList]
  exact Text.split_join (by simpa using hne) (by simpa using h)

/-- A path of segments names the entity of the first two, and the others are its selectors, without
their control characters. -/
theorem parse_ofSegments {module entity : String} {tokens : List String}
    (h : ∀ segment ∈ module :: entity :: tokens, '/' ∉ segment.toList) :
    parse (ofSegments (module :: entity :: tokens)) =
      .ok ⟨EntityId.ofSegments module.toList entity.toList, tokens.map Text.dropControls⟩ := by
  simp [parse, segments_ofSegments (by simp) h, Function.comp_def]

end AddressPath

end PathCall
