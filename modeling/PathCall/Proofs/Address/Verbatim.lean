import PathCall.Proofs.Address.BarePath

/-!
Tokens of addresses. What callers put between the slashes of a path reaches the entity as they wrote
it, without its control characters: nothing is decoded, dot segments stay, and so do empty tokens.
The main theorem says so of paths that are written from tokens, and describes reading for all paths:
it cuts at every slash, loses nothing, and fails exactly where one segment is all there is.
-/

namespace PathCall

namespace Text

variable {separator : Char} {text piece : List Char}

theorem notMem_of_mem_split (h : piece ∈ split separator text) : separator ∉ piece := by
  induction text generalizing piece with
  | nil =>
    obtain rfl := List.mem_singleton.mp h
    exact List.not_mem_nil
  | cons c rest ih =>
    simp only [split] at h
    split at h
    · rcases List.mem_cons.mp h with rfl | hrest
      · exact List.not_mem_nil
      · exact ih hrest
    · rename_i hc
      cases hsplit : split separator rest with
      | nil => exact absurd hsplit (split_ne_nil separator rest)
      | cons first others =>
        rw [hsplit] at h ih
        rcases List.mem_cons.mp h with rfl | hothers
        · rw [List.mem_cons, not_or]
          exact ⟨Ne.symm hc, ih List.mem_cons_self⟩
        · exact ih (List.mem_cons_of_mem first hothers)

/-- A text falls apart exactly if it holds the separator. -/
theorem exists_split_eq_cons_cons_iff :
    (∃ first second others, split separator text = first :: second :: others) ↔
      separator ∈ text := by
  constructor
  · rintro ⟨first, second, others, hsplit⟩
    by_contra hnone
    rw [split_of_notMem hnone] at hsplit
    cases hsplit
  · intro hmem
    obtain ⟨before, after, rfl, hbefore⟩ := List.eq_append_cons_of_mem hmem
    rw [split_append_separator hbefore]
    cases hafter : split separator after with
    | nil => exact absurd hafter (split_ne_nil separator after)
    | cons second others => exact ⟨before, second, others, rfl⟩

end Text

namespace AddressPath

variable {path : String}

/-- A path without its slash in front. Of several slashes one counts. -/
def unrooted (path : List Char) : List Char :=
  match path with
  | '/' :: rest => rest
  | path => path

theorem segments_eq_split (path : List Char) : segments path = Text.split '/' (unrooted path) := by
  cases path with
  | nil => rfl
  | cons c rest =>
    by_cases hc : c = '/'
    · subst hc
      rfl
    · simp [segments, unrooted, hc]

/-- The segments of a path make up the path. -/
theorem join_segments (path : List Char) : Text.join '/' (segments path) = unrooted path := by
  rw [segments_eq_split, Text.join_split]

/-- A path is read as what it is a join of: the first two pieces name the entity and the others are
the selectors. -/
theorem parse_eq_ok_iff {found : AddressPath} :
    parse path = .ok found ↔
      ∃ module entity tokens,
        (∀ segment ∈ module :: entity :: tokens, '/' ∉ segment.toList) ∧
        Text.join '/' ((module :: entity :: tokens).map String.toList) = unrooted path.toList ∧
        found = ⟨EntityId.ofSegments module.toList entity.toList,
          tokens.map Text.dropControls⟩ := by
  have hsegments := segments_eq_split path.toList
  constructor
  · intro h
    unfold parse at h
    split at h
    · rename_i module entity tokens hcut
      have hback : (tokens.map String.ofList).map String.toList = tokens := by simp
      refine ⟨String.ofList module, String.ofList entity, tokens.map String.ofList, ?_, ?_, ?_⟩
      · intro segment hsegment
        have hmem : segment.toList ∈ Text.split '/' (unrooted path.toList) := by
          rw [← hsegments, hcut]
          simpa using List.mem_map_of_mem (f := String.toList) hsegment
        exact Text.notMem_of_mem_split hmem
      · rw [← join_segments, hcut]
        simp
      · simpa [Function.comp_def] using (Except.ok.inj h).symm
    · cases h
  · rintro ⟨module, entity, tokens, hunbroken, hjoin, rfl⟩
    have hcut : segments path.toList = (module :: entity :: tokens).map String.toList := by
      rw [hsegments, ← hjoin]
      exact Text.split_join (by simp) (by simpa using hunbroken)
    simp [parse, hcut, Function.comp_def]

/-- Whatever names an entity holds a slash behind the first character. -/
theorem exists_parse_eq_ok_iff :
    (∃ found, parse path = .ok found) ↔ '/' ∈ unrooted path.toList := by
  rw [← Text.exists_split_eq_cons_cons_iff, ← segments_eq_split]
  unfold parse
  constructor
  · rintro ⟨found, h⟩
    split at h
    · exact ⟨_, _, _, ‹_›⟩
    · cases h
  · rintro ⟨module, entity, tokens, hcut⟩
    rw [hcut]
    exact ⟨_, rfl⟩

/-- Tokens survive addressing as they are. Written behind an entity they make an address, unless it
holds the mark of a scheme, that is its own path and is read as the entity and exactly these tokens
without their control characters. And for every path: it names an entity exactly if it holds a slash
behind the first character, its segments make up the path, and it is read as what it is a join
of. -/
theorem tokens_survive_addressing :
    (∀ (module entity : String) (tokens : List String),
      (∀ segment ∈ module :: entity :: tokens,
        ∀ c ∈ segment.toList, c ≠ '/' ∧ c ≠ '?' ∧ c ≠ '#') →
      let address := ofSegments (module :: entity :: tokens)
      ¬Locator.schemeMark <:+: address.toList →
      Locator.parse address = .ok ⟨address, Locator.defaultScheme, address⟩ ∧
      parse address = .ok ⟨EntityId.ofSegments module.toList entity.toList,
        tokens.map Text.dropControls⟩) ∧
    ∀ path : String,
      ((∃ found, parse path = .ok found) ↔ '/' ∈ unrooted path.toList) ∧
      Text.join '/' (segments path.toList) = unrooted path.toList ∧
      ∀ found, parse path = .ok found ↔
        ∃ module entity tokens,
          (∀ segment ∈ module :: entity :: tokens, '/' ∉ segment.toList) ∧
          Text.join '/' ((module :: entity :: tokens).map String.toList) = unrooted path.toList ∧
          found = ⟨EntityId.ofSegments module.toList entity.toList,
            tokens.map Text.dropControls⟩ := by
  constructor
  · intro module entity tokens hunbroken address hunmarked
    constructor
    · exact locator_ofSegments hunmarked
        (fun segment hsegment hin => (hunbroken segment hsegment '?' hin).2.1 rfl)
        (fun segment hsegment hin => (hunbroken segment hsegment '#' hin).2.2 rfl)
    · exact parse_ofSegments fun segment hsegment hin => (hunbroken segment hsegment '/' hin).1 rfl
  · intro path
    exact ⟨exists_parse_eq_ok_iff, join_segments _, fun _ => parse_eq_ok_iff⟩

def oddSegments : List String := ["shop", "widgets", "..", "", "a%20b", "café\u0007", ""]

/-- Dot segments, percent signs, letters beyond ASCII and empty tokens stay; a bell is dropped. -/
theorem oddSegments_survive :
    (∀ segment ∈ oddSegments, ∀ c ∈ segment.toList, c ≠ '/' ∧ c ≠ '?' ∧ c ≠ '#') ∧
    ¬Locator.schemeMark <:+: (ofSegments oddSegments).toList ∧
    ofSegments oddSegments = "/shop/widgets/..//a%20b/café\u0007/" ∧
    Locator.parse (ofSegments oddSegments) =
      .ok ⟨ofSegments oddSegments, Locator.defaultScheme, ofSegments oddSegments⟩ ∧
    parse (ofSegments oddSegments) =
      .ok ⟨⟨"shop", "Widgets"⟩, ["..", "", "a%20b", "café", ""]⟩ := by
  have hunbroken : ∀ segment ∈ oddSegments, ∀ c ∈ segment.toList, c ≠ '/' ∧ c ≠ '?' ∧ c ≠ '#' := by
    have hall : (oddSegments.all fun segment =>
        segment.toList.all fun c => c != '/' && (c != '?' && c != '#')) = true := by decide
    simpa using hall
  have hunmarked : ¬Locator.schemeMark <:+: (ofSegments oddSegments).toList := by
    rw [← Text.splitOnce_isSome_iff]
    decide
  obtain ⟨haddress, hpath⟩ := tokens_survive_addressing.1 "shop" "widgets"
    ["..", "", "a%20b", "café\u0007", ""] hunbroken hunmarked
  exact ⟨hunbroken, hunmarked, by decide, haddress, hpath⟩

end AddressPath

end PathCall
