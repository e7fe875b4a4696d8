/-!
Texts cut at separators. `split` keeps empty pieces, so joining the pieces gives the text back.
-/

namespace PathCall.Text

def split (separator : Char) : List Char → List (List Char)
  | [] => [[]]
  | c :: rest =>
    if c = separator then [] :: split separator rest
    else
      match split separator rest with
      | [] => [[c]]
      | piece :: pieces => (c :: piece) :: pieces

def join (separator : Char) : List (List Char) → List Char
  | [] => []
  | [piece] => piece
  | piece :: next :: pieces => piece ++ separator :: join separator (next :: pieces)

def splitOnce (mark : List Char) : List Char → Option (List Char × List Char)
  | [] => if mark.isEmpty then some ([], []) else none
  | c :: rest =>
    if mark.isPrefixOf (c :: rest) then some ([], (c :: rest).drop mark.length)
    else (splitOnce mark rest).map fun (before, after) => (c :: before, after)

def splitLast (separator : Char) : List Char → Option (List Char × List Char)
  | [] => none
  | c :: rest =>
    match splitLast separator rest with
    | some (before, after) => some (c :: before, after)
    | none => if c = separator then some ([], rest) else none

theorem split_ne_nil (separator : Char) (text : List Char) : split separator text ≠ [] := by
  cases text with
  | nil => simp [split]
  | cons c rest =>
    simp only [split]
    split
    · simp
    · split <;> simp

theorem join_split (separator : Char) (text : List Char) :
    join separator (split separator text) = text := by
  induction text with
  | nil => rfl
  | cons c rest ih =>
    simp only [split]
    cases h : split separator rest with
    | nil => exact absurd h (split_ne_nil separator rest)
    | cons piece pieces =>
      rw [h] at ih
      by_cases hc : c = separator
      · subst hc
        simp only [if_true, join, List.nil_append]
        rw [ih]
      · simp only [hc, if_false]
        cases pieces with
        | nil => simpa [join] using ih
        | cons next others => simpa [join] using ih

theorem split_of_notMem {separator : Char} {text : List Char} (h : separator ∉ text) :
    split separator text = [text] := by
  induction text with
  | nil => rfl
  | cons c rest ih =>
    rw [List.mem_cons, not_or] at h
    obtain ⟨hc, hrest⟩ := h
    simp [split, Ne.symm hc, ih hrest]

theorem split_append_separator {separator : Char} {piece : List Char} (h : separator ∉ piece)
    (rest : List Char) :
    split separator (piece ++ separator :: rest) = piece :: split separator rest := by
  induction piece with
  | nil => simp [split]
  | cons c piece ih =>
    rw [List.mem_cons, not_or] at h
    obtain ⟨hc, hpiece⟩ := h
    simp [split, Ne.symm hc, ih hpiece]

/-- Pieces without separators come back from their join. -/
theorem split_join {separator : Char} {pieces : List (List Char)} (hne : pieces ≠ [])
    (h : ∀ piece ∈ pieces, separator ∉ piece) :
    split separator (join separator pieces) = pieces := by
  induction pieces with
  | nil => exact absurd rfl hne
  | cons piece pieces ih =>
    obtain ⟨hpiece, hpieces⟩ := List.forall_mem_cons.mp h
    cases pieces with
    | nil => exact split_of_notMem hpiece
    | cons next others =>
      rw [join, split_append_separator hpiece, ih (by simp) hpieces]

theorem eq_or_mem_of_mem_join {separator c : Char} {pieces : List (List Char)}
    (h : c ∈ join separator pieces) : c = separator ∨ ∃ piece ∈ pieces, c ∈ piece := by
  induction pieces with
  | nil => cases h
  | cons piece pieces ih =>
    cases pieces with
    | nil => exact .inr ⟨piece, by simp, h⟩
    | cons next others =>
      rw [join, List.mem_append, List.mem_cons] at h
      rcases h with h | rfl | h
      · exact .inr ⟨piece, by simp, h⟩
      · exact .inl rfl
      · rcases ih h with rfl | ⟨other, hother, hc⟩
        · exact .inl rfl
        · exact .inr ⟨other, List.mem_cons_of_mem piece hother, hc⟩

theorem mem_join_of_mem {separator c : Char} {piece : List Char} {pieces : List (List Char)}
    (hpiece : piece ∈ pieces) (hc : c ∈ piece) : c ∈ join separator pieces := by
  induction pieces with
  | nil => cases hpiece
  | cons first pieces ih =>
    cases pieces with
    | nil =>
      obtain rfl := List.mem_singleton.mp hpiece
      exact hc
    | cons next others =>
      rw [join, List.mem_append]
      rcases List.mem_cons.mp hpiece with rfl | hpiece
      · exact .inl hc
      · exact .inr (List.mem_cons_of_mem separator (ih hpiece))

/-- The pieces have the characters of the text, without the separators. -/
theorem exists_mem_split_iff {separator c : Char} (hc : c ≠ separator) (text : List Char) :
    (∃ piece ∈ split separator text, c ∈ piece) ↔ c ∈ text := by
  constructor
  · rintro ⟨piece, hpiece, hmem⟩
    rw [← join_split separator text]
    exact mem_join_of_mem hpiece hmem
  · intro hmem
    rw [← join_split separator text] at hmem
    exact (eq_or_mem_of_mem_join hmem).resolve_left hc

/-- A text is cut at a mark exactly if it holds the mark. -/
theorem splitOnce_isSome_iff (mark text : List Char) :
    (splitOnce mark text).isSome = true ↔ mark <:+: text := by
  induction text with
  | nil => cases mark <;> simp [splitOnce]
  | cons c rest ih =>
    rw [splitOnce, List.infix_cons_iff, ← ih, ← List.isPrefixOf_iff_prefix]
    split
    · simp [*]
    · simp [*]

theorem splitOnce_eq_none_iff (mark text : List Char) :
    splitOnce mark text = none ↔ ¬mark <:+: text := by
  rw [← splitOnce_isSome_iff, Option.not_isSome_iff_eq_none]

theorem eq_append_of_splitOnce_eq_some {mark text before after : List Char}
    (h : splitOnce mark text = some (before, after)) : text = before ++ mark ++ after := by
  induction text generalizing before with
  | nil =>
    cases mark with
    | nil =>
      cases h
      rfl
    | cons c mark => cases h
  | cons c rest ih =>
    rw [splitOnce] at h
    split at h
    · rename_i hmark
      cases h
      obtain ⟨tail, htail⟩ := List.isPrefixOf_iff_prefix.mp hmark
      rw [← htail, List.drop_left, List.nil_append]
    · obtain ⟨⟨front, back⟩, hrest, hpair⟩ := Option.map_eq_some_iff.mp h
      cases hpair
      rw [ih hrest, List.cons_append, List.cons_append]

/-- What stands in front of a mark is found by it, if the mark can begin nowhere earlier. -/
theorem splitOnce_append {c : Char} {mark before : List Char} (h : c ∉ before)
    (after : List Char) :
    splitOnce (c :: mark) (before ++ (c :: mark) ++ after) = some (before, after) := by
  induction before with
  | nil =>
    have hprefix : (c :: mark).isPrefixOf (c :: (mark ++ after)) = true :=
      List.isPrefixOf_iff_prefix.mpr ⟨after, rfl⟩
    simp [splitOnce, hprefix]
  | cons first before ih =>
    rw [List.mem_cons, not_or] at h
    obtain ⟨hfirst, hbefore⟩ := h
    have hprefix : (c :: mark).isPrefixOf (first :: (before ++ (c :: mark) ++ after)) = false := by
      simp [List.isPrefixOf, hfirst]
    rw [List.cons_append, List.cons_append, splitOnce, hprefix, if_neg Bool.false_ne_true,
      ih hbefore]
    rfl

theorem splitLast_eq_none_iff {separator : Char} {text : List Char} :
    splitLast separator text = none ↔ separator ∉ text := by
  induction text with
  | nil => simp [splitLast]
  | cons c rest ih =>
    rw [splitLast, List.mem_cons, not_or, ← ih]
    cases splitLast separator rest with
    | some parts => simp
    | none => simp [eq_comm]

theorem splitLast_append {separator : Char} {after : List Char} (h : separator ∉ after)
    (before : List Char) :
    splitLast separator (before ++ separator :: after) = some (before, after) := by
  induction before with
  | nil => simp [splitLast, splitLast_eq_none_iff.mpr h]
  | cons c before ih => simp [splitLast, ih]

theorem eq_append_of_splitLast_eq_some {separator : Char} {text before after : List Char}
    (h : splitLast separator text = some (before, after)) :
    text = before ++ separator :: after ∧ separator ∉ after := by
  induction text generalizing before with
  | nil => cases h
  | cons c rest ih =>
    rw [splitLast] at h
    split at h
    · rename_i hrest
      cases h
      obtain ⟨rfl, hafter⟩ := ih hrest
      exact ⟨rfl, hafter⟩
    · rename_i hnone
      split at h
      · rename_i hc
        cases h
        exact ⟨by rw [hc, List.nil_append], splitLast_eq_none_iff.mp hnone⟩
      · cases h

/-- The cut is at the one separator behind which there is none. -/
theorem splitLast_eq_some_iff {separator : Char} {text before after : List Char} :
    splitLast separator text = some (before, after) ↔
      text = before ++ separator :: after ∧ separator ∉ after := by
  constructor
  · exact eq_append_of_splitLast_eq_some
  · rintro ⟨rfl, hafter⟩
    exact splitLast_append hafter before

end PathCall.Text
