import Mathlib.Logic.ExistsUnique
import PathCall.Text.Blank
import PathCall.Text.Split
import PathCall.Text.Word

/-!
What sanitizing keeps of a text. A text falls into words and the gaps between them, in one way only
when the gaps are as long as they can be. The main theorem says that sanitizing writes one
underscore in place of every gap, so that only the words of a text matter to it.
-/

namespace PathCall.Text

/-- A text cut into words and gaps: the word in front, then every gap with the word behind it. -/
structure Cut where
  first : List Char
  others : List (List Char × List Char)

namespace Cut

def text (cut : Cut) : List Char :=
  cut.first ++ cut.others.flatMap fun part => part.1 ++ part.2

def words (cut : Cut) : List (List Char) := cut.first :: cut.others.map (·.2)

/-- Words hold word characters only, gaps others only. No gap is empty, and of the words at most
the first and the last are. -/
structure IsMaximal (cut : Cut) : Prop where
  words : ∀ word ∈ cut.words, ∀ c ∈ word, isWord c = true
  gaps : ∀ part ∈ cut.others, part.1 ≠ [] ∧ ∀ c ∈ part.1, isWord c = false
  inner : ∀ part ∈ cut.others.dropLast, part.2 ≠ []

variable {cut : Cut} {first gap word : List Char} {others : List (List Char × List Char)}

theorem isMaximal_nil_iff : IsMaximal ⟨first, []⟩ ↔ ∀ c ∈ first, isWord c = true := by
  constructor
  · intro h
    exact h.words first List.mem_cons_self
  · intro h
    exact ⟨by simpa [Cut.words] using h, by simp, by simp⟩

/-- Behind the first gap the cut goes on with a word, which is empty only at the end. -/
theorem isMaximal_cons_iff : IsMaximal ⟨first, (gap, word) :: others⟩ ↔
    (∀ c ∈ first, isWord c = true) ∧ (gap ≠ [] ∧ ∀ c ∈ gap, isWord c = false) ∧
      (others ≠ [] → word ≠ []) ∧ IsMaximal ⟨word, others⟩ := by
  constructor
  · intro h
    obtain ⟨hfirst, hwords⟩ := List.forall_mem_cons.mp h.words
    obtain ⟨hgap, hgaps⟩ := List.forall_mem_cons.mp h.gaps
    refine ⟨hfirst, hgap, fun hmore => ?_, hwords, hgaps, fun part hpart => ?_⟩
    · exact h.inner (gap, word) (by simp [List.dropLast_cons_of_ne_nil hmore])
    · refine h.inner part ?_
      have hmore : others ≠ [] := fun hnil => by simp [hnil] at hpart
      rw [List.dropLast_cons_of_ne_nil hmore]
      exact List.mem_cons_of_mem _ hpart
  · rintro ⟨hfirst, hgap, hword, hothers⟩
    refine ⟨List.forall_mem_cons.mpr ⟨hfirst, hothers.words⟩,
      List.forall_mem_cons.mpr ⟨hgap, hothers.gaps⟩, ?_⟩
    cases others with
    | nil => simp
    | cons part others => exact List.forall_mem_cons.mpr ⟨hword (by simp), hothers.inner⟩

/-! ### The one cut of a text -/

/-- The cut with a character in front, which belongs to the word or to the gap that it meets there,
or begins a gap. -/
def push (c : Char) : Cut → Cut
  | ⟨first, others⟩ =>
    if isWord c then ⟨c :: first, others⟩
    else
      match first, others with
      | [], (gap, word) :: others => ⟨[], (c :: gap, word) :: others⟩
      | first, others => ⟨[], ([c], first) :: others⟩

/-- A gap begins in front of a word, and at the end of a text. -/
theorem push_begin {c : Char} (hc : isWord c = false) (h : others ≠ [] → first ≠ []) :
    push c ⟨first, others⟩ = ⟨[], ([c], first) :: others⟩ := by
  cases others with
  | nil => cases first <;> simp [push, hc]
  | cons part others =>
    obtain ⟨d, first, rfl⟩ := List.exists_cons_of_ne_nil (h (List.cons_ne_nil _ _))
    simp [push, hc]

def ofText (text : List Char) : Cut := text.foldr push ⟨[], []⟩

theorem text_push (c : Char) (cut : Cut) : (cut.push c).text = c :: cut.text := by
  fun_cases push c cut <;> simp_all [text]

theorem IsMaximal.push (h : cut.IsMaximal) (c : Char) : (cut.push c).IsMaximal := by
  fun_cases Cut.push c cut with
  | case1 first others hc =>
    obtain ⟨hfirst, hwords⟩ := List.forall_mem_cons.mp h.words
    have hpushed : ∀ d ∈ c :: first, isWord d = true := List.forall_mem_cons.mpr ⟨hc, hfirst⟩
    exact ⟨List.forall_mem_cons.mpr ⟨hpushed, hwords⟩, h.gaps, h.inner⟩
  | case2 hc gap word others =>
    obtain ⟨hfirst, ⟨-, hgap⟩, hothers⟩ := isMaximal_cons_iff.mp h
    have hpushed : ∀ d ∈ c :: gap, isWord d = false :=
      List.forall_mem_cons.mpr ⟨Bool.not_eq_true _ ▸ hc, hgap⟩
    exact isMaximal_cons_iff.mpr ⟨hfirst, ⟨List.cons_ne_nil _ _, hpushed⟩, hothers⟩
  | case3 hc first others hbegins =>
    refine isMaximal_cons_iff.mpr ⟨by simp, ⟨by simp, by simpa using hc⟩, ?_, h⟩
    -- Nothing can follow an empty word, or the character would have met the gap there.
    rintro hmore rfl
    obtain ⟨⟨gap, word⟩, others, rfl⟩ := List.exists_cons_of_ne_nil hmore
    exact hbegins gap word others rfl rfl

theorem text_ofText (text : List Char) : (ofText text).text = text := by
  induction text with
  | nil => rfl
  | cons c rest ih => rw [ofText, List.foldr_cons, ← ofText, text_push, ih]

theorem isMaximal_ofText (text : List Char) : (ofText text).IsMaximal := by
  induction text with
  | nil => exact isMaximal_nil_iff.mpr (by simp)
  | cons c rest ih => exact ih.push c

/-- A cut of a text that is not empty comes from a cut of what is behind the first character. -/
theorem IsMaximal.exists_push_eq (h : cut.IsMaximal) {c : Char} {rest : List Char}
    (htext : cut.text = c :: rest) :
    ∃ inner : Cut, inner.IsMaximal ∧ inner.text = rest ∧ inner.push c = cut := by
  suffices hinner : ∃ inner : Cut, inner.IsMaximal ∧ inner.push c = cut by
    obtain ⟨inner, hmaximal, rfl⟩ := hinner
    rw [text_push] at htext
    exact ⟨inner, hmaximal, (List.cons.inj htext).2, rfl⟩
  obtain ⟨_ | ⟨d, first⟩, others⟩ := cut
  case cons =>
    obtain rfl : d = c := (List.cons.inj htext).1
    obtain ⟨hfirst, hwords⟩ := List.forall_mem_cons.mp h.words
    obtain ⟨hd, hfirst⟩ := List.forall_mem_cons.mp hfirst
    refine ⟨⟨first, others⟩, ⟨List.forall_mem_cons.mpr ⟨hfirst, hwords⟩, h.gaps, h.inner⟩, ?_⟩
    exact if_pos hd
  case nil =>
    cases others with
    | nil => cases htext
    | cons part others =>
      obtain ⟨gap, word⟩ := part
      obtain ⟨-, ⟨hne, hgap⟩, hword, hothers⟩ := isMaximal_cons_iff.mp h
      obtain ⟨d, gap, rfl⟩ := List.exists_cons_of_ne_nil hne
      obtain rfl : d = c := (List.cons.inj htext).1
      obtain ⟨hd, hgap⟩ := List.forall_mem_cons.mp hgap
      cases gap with
      | nil => exact ⟨⟨word, others⟩, hothers, push_begin hd hword⟩
      | cons e gap =>
        have hrest : (Cut.mk [] ((e :: gap, word) :: others)).IsMaximal :=
          isMaximal_cons_iff.mpr ⟨by simp, ⟨List.cons_ne_nil _ _, hgap⟩, hword, hothers⟩
        exact ⟨_, hrest, by simp [Cut.push, hd]⟩

/-- There is one way to cut a text. -/
theorem isMaximal_text_iff {text : List Char} :
    cut.IsMaximal ∧ cut.text = text ↔ cut = ofText text := by
  constructor
  · rintro ⟨h, htext⟩
    induction text generalizing cut with
    | nil =>
      obtain ⟨first, others⟩ := cut
      obtain ⟨rfl, hothers⟩ := List.append_eq_nil_iff.mp htext
      cases others with
      | nil => rfl
      | cons part others =>
        have hpart : part.1 ++ part.2 = [] := List.flatMap_eq_nil_iff.mp hothers _ List.mem_cons_self
        exact absurd (List.append_eq_nil_iff.mp hpart).1 (h.gaps part List.mem_cons_self).1
    | cons c rest ih =>
      obtain ⟨inner, hinner, hrest, rfl⟩ := h.exists_push_eq htext
      rw [ih hinner hrest]
      rfl
  · rintro rfl
    exact ⟨isMaximal_ofText text, text_ofText text⟩

end Cut

/-! ### What sanitizing does with the pieces -/

theorem collapse_word {word : List Char} (h : ∀ c ∈ word, isWord c = true) (rest : List Char) :
    collapse false (word ++ rest) = word ++ collapse false rest := by
  induction word with
  | nil => rfl
  | cons c word ih =>
    obtain ⟨hc, hword⟩ := List.forall_mem_cons.mp h
    simp [collapse, hc, ih hword]

theorem collapse_gap_rest {gap : List Char} (h : ∀ c ∈ gap, isWord c = false)
    (rest : List Char) : collapse true (gap ++ rest) = collapse true rest := by
  induction gap with
  | nil => rfl
  | cons c gap ih =>
    obtain ⟨hc, hgap⟩ := List.forall_mem_cons.mp h
    simp [collapse, hc, ih hgap]

/-- A gap is written as the underscore that its first character leaves. -/
theorem collapse_gap {gap : List Char} (hne : gap ≠ []) (h : ∀ c ∈ gap, isWord c = false)
    (rest : List Char) : collapse false (gap ++ rest) = '_' :: collapse true rest := by
  obtain ⟨c, gap, rfl⟩ := List.exists_cons_of_ne_nil hne
  obtain ⟨hc, hgap⟩ := List.forall_mem_cons.mp h
  simp [collapse, hc, collapse_gap_rest hgap]

namespace Cut

variable {cut : Cut}

/-- What follows a gap is a word or nothing, so the gap does not go on there. -/
theorem IsMaximal.collapse_behind_gap {word : List Char}
    {others : List (List Char × List Char)} (h : IsMaximal ⟨word, others⟩)
    (hword : others ≠ [] → word ≠ []) :
    collapse true (text ⟨word, others⟩) = collapse false (text ⟨word, others⟩) := by
  cases word with
  | nil =>
    obtain rfl : others = [] := Decidable.byContradiction fun hmore => hword hmore rfl
    rfl
  | cons c word =>
    have hc : isWord c = true := h.words _ List.mem_cons_self c List.mem_cons_self
    simp [text, collapse, hc]

theorem IsMaximal.collapse_text (h : cut.IsMaximal) :
    collapse false cut.text = join '_' cut.words := by
  obtain ⟨first, others⟩ := cut
  induction others generalizing first with
  | nil =>
    have hfirst := collapse_word (isMaximal_nil_iff.mp h) []
    simpa [text, Cut.words, join, collapse] using hfirst
  | cons part others ih =>
    obtain ⟨gap, word⟩ := part
    obtain ⟨hfirst, ⟨hne, hgap⟩, hword, hothers⟩ := isMaximal_cons_iff.mp h
    have htext : text ⟨first, (gap, word) :: others⟩ = first ++ (gap ++ text ⟨word, others⟩) := by
      simp [text]
    rw [htext, collapse_word hfirst, collapse_gap hne hgap, hothers.collapse_behind_gap hword,
      ih word hothers]
    rfl

/-- A text is cut into words and maximal gaps. -/
def IsCutOf (cut : Cut) (text : String) : Prop := cut.IsMaximal ∧ cut.text = text.toList

theorem IsCutOf.sanitize_eq {text : String} (h : cut.IsCutOf text) :
    sanitize text = String.ofList (join '_' cut.words) := by
  rw [sanitize, ← h.2, h.1.collapse_text]

end Cut

/-- White space is found between words only. -/
theorem isWord_of_isBlank {c : Char} (h : isBlank c = true) : isWord c = false := by
  have hpoint : c.toNat ∈ List.range' 9 5 ++ List.range' 0x2000 11 ++
      [0x20, 0x85, 0xA0, 0x1680, 0x2028, 0x2029, 0x202F, 0x205F, 0x3000] := by
    simp only [isBlank, Bool.or_eq_true, Bool.and_eq_true, decide_eq_true_eq, beq_iff_eq] at h
    simp only [List.mem_append, List.mem_range'_1, List.mem_cons, List.not_mem_nil]
    omega
  rw [← Char.ofNat_toNat c]
  generalize c.toNat = point at hpoint
  revert point
  decide +kernel

/-- Nothing but word characters is left of a text. -/
theorem isWord_of_mem_sanitize {text : String} {c : Char} (h : c ∈ (sanitize text).toList) :
    isWord c = true := by
  rw [sanitize, String.toList_ofList] at h
  exact isWord_of_mem_collapse h

theorem sanitize_sanitize (text : String) : sanitize (sanitize text) = sanitize text := by
  have hword : ∀ c ∈ (sanitize text).toList, isWord c = true := fun c => isWord_of_mem_sanitize
  have hcollapse := collapse_word hword []
  rw [collapse, List.append_nil] at hcollapse
  rw [sanitize, hcollapse, String.ofList_toList]

/-- Sanitizing writes one underscore for every gap of a text and keeps the words. A text can be cut
into words and gaps in exactly one way, where no gap is empty, nor a word between two gaps; the
words of that cut joined by underscores are the sanitized text. So it consists of word characters,
none of which is a point, a hyphen or white space, sanitizing it once more changes nothing, and
texts with the same words are the same when sanitized, whatever their gaps are. -/
theorem sanitize_replaces_gaps (text : String) :
    (∃! cut : Cut, cut.IsCutOf text) ∧
    (∀ cut : Cut, cut.IsCutOf text → sanitize text = String.ofList (join '_' cut.words)) ∧
    (∀ c ∈ (sanitize text).toList,
      isWord c = true ∧ c ≠ '.' ∧ c ≠ '-' ∧ isBlank c = false) ∧
    sanitize (sanitize text) = sanitize text ∧
    ∀ (other : String) (cut cut' : Cut), cut.IsCutOf text → cut'.IsCutOf other →
      cut.words = cut'.words → sanitize text = sanitize other := by
  refine ⟨⟨.ofText text.toList, ?cuts, ?unique⟩, fun cut hcut => hcut.sanitize_eq, ?plain,
    sanitize_sanitize text, ?alike⟩
  case cuts => exact Cut.isMaximal_text_iff.mpr rfl
  case unique => exact fun cut hcut => Cut.isMaximal_text_iff.mp hcut
  case plain =>
    intro c hc
    have hword := isWord_of_mem_sanitize hc
    refine ⟨hword, ?_, ?_, Bool.eq_false_iff.mpr fun hblank => ?_⟩
    · rintro rfl
      cases hword
    · rintro rfl
      cases hword
    · rw [isWord_of_isBlank hblank] at hword
      cases hword
  case alike =>
    intro other cut cut' hcut hcut' hwords
    rw [hcut.sanitize_eq, hcut'.sanitize_eq, hwords]

/-- Gaps at both ends, and one next to an underscore. -/
example : sanitize "..ab -c_- d." = "_ab_c__d_" := by decide +kernel

end PathCall.Text
