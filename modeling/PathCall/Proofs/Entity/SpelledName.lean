import Mathlib
import PathCall.EntityId

/-!
Names of entities by their words. A segment of a path spells the words of a name in many ways: in
any case, with hyphens and underscores between them and around them, and with control characters
anywhere. The main theorem says that the segments that spell one list of words stand for one
entity, and those that spell another list for another entity.
-/

namespace PathCall

namespace Text

variable {word other rest rest' : List Char}

/-- The word in small letters, which tells words apart up to the case of ASCII letters. -/
def folded (word : List Char) : List Char := word.map Char.toLower

theorem lt_of_toLower_lt {c : Char} (h : c.toLower.toNat < 128) : c.toNat < 128 := by
  by_cases hupper : c.isUpper = true
  · simp only [Char.isUpper, decide_eq_true_eq] at hupper
    obtain ⟨-, hle⟩ : 65 ≤ c.toNat ∧ c.toNat ≤ 90 := hupper
    omega
  · rwa [Char.toLower_eq_of_not_isUpper hupper] at h

/-- Small letters are ASCII exactly if the word was. -/
theorem ascii_of_folded_eq (hsame : folded other = folded word)
    (hword : ∀ c ∈ word, c.toNat < 128) : ∀ c ∈ other, c.toNat < 128 := by
  intro c hc
  have hmem : c.toLower ∈ folded word := hsame ▸ List.mem_map_of_mem hc
  obtain ⟨d, hd, heq⟩ := List.mem_map.mp hmem
  exact lt_of_toLower_lt (heq ▸ toLower_lt_of_lt (hword d hd))

theorem flatMap_lower_of_ascii (h : ∀ c ∈ word, c.toNat < 128) :
    word.flatMap lower = folded word := by
  induction word with
  | nil => rfl
  | cons c word ih =>
    obtain ⟨hc, hword⟩ := List.forall_mem_cons.mp h
    rw [List.flatMap_cons, ih hword, lower, if_pos hc]
    rfl

/-- A word of ASCII characters with a capital in front. -/
theorem capitalize_of_ascii {c : Char} (h : ∀ d ∈ c :: word, d.toNat < 128) :
    capitalize (c :: word) = c.toUpper :: folded word := by
  obtain ⟨hc, hword⟩ := List.forall_mem_cons.mp h
  rw [capitalize, flatMap_lower_of_ascii hword, upper, if_pos hc]
  rfl

/-- Capitalizing forgets the case of a word. -/
theorem capitalize_congr (hsame : folded other = folded word)
    (hword : ∀ c ∈ word, c.toNat < 128) : capitalize other = capitalize word := by
  have hother := ascii_of_folded_eq hsame hword
  cases word with
  | nil =>
    obtain rfl : other = [] := List.map_eq_nil_iff.mp hsame
    rfl
  | cons c word =>
    cases other with
    | nil => cases hsame
    | cons d other =>
      obtain ⟨hfirst, hrest⟩ := List.cons.inj hsame
      have hupper : d.toUpper = c.toUpper := by
        rw [← Char.toUpper_toLower_eq_toUpper, hfirst, Char.toUpper_toLower_eq_toUpper]
      have hrest' : folded other = folded word := hrest
      rw [capitalize_of_ascii hword, capitalize_of_ascii hother, hupper, hrest']

/-- A capital stands in front, or nothing at all. -/
def BeginsUpper (text : List Char) : Prop := ∀ c tail, text = c :: tail → c.isUpper = true

/-- Up to the next capital, a text is determined. -/
theorem folded_append_inj (hrest : BeginsUpper rest) (hrest' : BeginsUpper rest')
    (h : folded word ++ rest = folded other ++ rest') :
    folded word = folded other ∧ rest = rest' := by
  have hfolded (word : List Char) : ∀ c ∈ folded word, (!c.isUpper) = true := by
    intro c hc
    obtain ⟨d, -, rfl⟩ := List.mem_map.mp hc
    simp
  have htaken {rest : List Char} (h : BeginsUpper rest) :
      rest.takeWhile (fun c => !c.isUpper) = [] := by
    cases rest with
    | nil => rfl
    | cons c tail => simp [h c tail rfl]
  have hfront := congrArg (List.takeWhile fun c => !c.isUpper) h
  rw [List.takeWhile_append_of_pos (hfolded word), List.takeWhile_append_of_pos (hfolded other),
    htaken hrest, htaken hrest', List.append_nil, List.append_nil] at hfront
  exact ⟨hfront, List.append_cancel_left (hfront ▸ h)⟩

end Text

namespace EntityId

open Text (folded)

/-- A word of a name: an ASCII letter, and then ASCII letters and digits. -/
inductive IsWord : List Char → Prop where
  | mk {first : Char} {rest : List Char} :
      first.isAlpha = true → (∀ c ∈ rest, c.isAlphanum = true) → IsWord (first :: rest)

def isGap (c : Char) : Bool := c == '-' || c == '_'

/-- The texts that spell a list of words: each in any case, with gaps between neighbours and
possibly at both ends. -/
inductive Spells : List (List Char) → List Char → Prop where
  | ends {gaps : List Char} : (∀ c ∈ gaps, isGap c = true) → Spells [] gaps
  | word {gaps word written rest : List Char} {words : List (List Char)} :
      (∀ c ∈ gaps, isGap c = true) → folded written = folded word →
      (words ≠ [] → ∃ c tail, rest = c :: tail ∧ isGap c = true) → Spells words rest →
      Spells (word :: words) (gaps ++ written ++ rest)

/-- The texts that arise from `text` when control characters are put anywhere into it. -/
inductive Strewn : List Char → List Char → Prop where
  | nil : Strewn [] []
  | keep (c : Char) {text strewn : List Char} : Strewn text strewn → Strewn (c :: text) (c :: strewn)
  | control {c : Char} {text strewn : List Char} :
      Text.isControl c = true → Strewn text strewn → Strewn text (c :: strewn)

theorem strewn_self (text : List Char) : Strewn text text := by
  induction text with
  | nil => exact .nil
  | cons c text ih => exact .keep c ih

def IsSpelling (words : List (List Char)) (segment : List Char) : Prop :=
  ∃ plain, Spells words plain ∧ Strewn plain segment

variable {word other text : List Char} {words others : List (List Char)}

theorem lt_of_isAlphanum {c : Char} (h : c.isAlphanum = true) : c.toNat < 128 := by
  simp only [Char.isAlphanum, Char.isAlpha, Char.isUpper, Char.isLower, Char.isDigit,
    Bool.or_eq_true, Bool.and_eq_true, decide_eq_true_eq] at h
  change ((65 ≤ c.toNat ∧ c.toNat ≤ 90) ∨ (97 ≤ c.toNat ∧ c.toNat ≤ 122)) ∨
    (48 ≤ c.toNat ∧ c.toNat ≤ 57) at h
  omega

/-- Letters and digits stand neither between words nor among the control characters. -/
theorem isGap_isControl_of_isAlphanum {c : Char} (h : c.isAlphanum = true) :
    isGap c = false ∧ Text.isControl c = false :=
  Text.forall_ascii
    (p := fun c => c.isAlphanum = true → isGap c = false ∧ Text.isControl c = false)
    (by decide) (lt_of_isAlphanum h) h

theorem not_isControl_of_isGap {c : Char} (h : isGap c = true) : Text.isControl c = false := by
  simp only [isGap, Bool.or_eq_true, beq_iff_eq] at h
  rcases h with rfl | rfl <;> decide

theorem IsWord.isAlphanum (h : IsWord word) : ∀ c ∈ word, c.isAlphanum = true := by
  cases h with
  | mk hfirst hrest =>
    refine List.forall_mem_cons.mpr ⟨?_, hrest⟩
    rw [Char.isAlphanum, hfirst, Bool.true_or]

theorem IsWord.ascii (h : IsWord word) : ∀ c ∈ word, c.toNat < 128 :=
  fun c hc => lt_of_isAlphanum (h.isAlphanum c hc)

theorem isAlphanum_toLower {c : Char} (h : c.toNat < 128) :
    c.toLower.isAlphanum = c.isAlphanum :=
  Text.forall_ascii (p := fun c => c.toLower.isAlphanum = c.isAlphanum) (by decide) h

/-- A word in another case holds letters and digits, too. -/
theorem IsWord.isAlphanum_of_folded_eq (h : IsWord word) (hsame : folded other = folded word) :
    ∀ c ∈ other, c.isAlphanum = true := by
  intro c hc
  have hmem : c.toLower ∈ folded word := hsame ▸ List.mem_map_of_mem hc
  obtain ⟨d, hd, heq⟩ := List.mem_map.mp hmem
  rw [← isAlphanum_toLower (Text.ascii_of_folded_eq hsame h.ascii c hc), ← heq,
    isAlphanum_toLower (h.ascii d hd)]
  exact h.isAlphanum d hd

/-! How names are made of texts with gaps. -/

theorem camelCase_gap {c : Char} (h : isGap c = true) (rest : List Char) :
    camelCase (c :: rest) = camelCase rest := by
  have hc : (if c = '-' then '_' else c) = '_' := by
    simp only [isGap, Bool.or_eq_true, beq_iff_eq] at h
    rcases h with rfl | rfl <;> rfl
  simp only [camelCase, List.map_cons, hc, Text.split, if_true, List.flatMap_cons,
    Text.capitalize, List.nil_append]

theorem camelCase_gaps {gaps : List Char} (h : ∀ c ∈ gaps, isGap c = true) (rest : List Char) :
    camelCase (gaps ++ rest) = camelCase rest := by
  induction gaps with
  | nil => rfl
  | cons c gaps ih =>
    obtain ⟨hc, hgaps⟩ := List.forall_mem_cons.mp h
    rw [List.cons_append, camelCase_gap hc, ih hgaps]

/-- Without gaps nothing is rewritten, and there is nothing to split at. -/
theorem underscored_of_no_gap (h : ∀ c ∈ text, isGap c = false) :
    (text.map fun c => if c = '-' then '_' else c) = text ∧ '_' ∉ text := by
  constructor
  · rw [List.map_congr_left, List.map_id]
    intro c hc
    have hgap := h c hc
    simp only [isGap, Bool.or_eq_false_iff, beq_eq_false_iff_ne] at hgap
    exact if_neg hgap.1
  · intro hmem
    cases h '_' hmem

theorem camelCase_of_no_gap (h : ∀ c ∈ text, isGap c = false) :
    camelCase text = Text.capitalize text := by
  obtain ⟨hmap, hmem⟩ := underscored_of_no_gap h
  simp only [camelCase, hmap, Text.split_of_notMem hmem, List.flatMap_singleton]

/-- What stands in front of a gap is a word of its own. -/
theorem camelCase_append_gap (h : ∀ c ∈ text, isGap c = false) {c : Char} (hc : isGap c = true)
    (rest : List Char) :
    camelCase (text ++ c :: rest) = Text.capitalize text ++ camelCase (c :: rest) := by
  obtain ⟨hmap, hmem⟩ := underscored_of_no_gap h
  have hgap : (if c = '-' then '_' else c) = '_' := by
    simp only [isGap, Bool.or_eq_true, beq_iff_eq] at hc
    rcases hc with rfl | rfl <;> rfl
  rw [camelCase_gap hc]
  simp only [camelCase, List.map_append, List.map_cons, hmap, hgap,
    Text.split_append_separator hmem, List.flatMap_cons]

/-- Behind a word the spelling of the others is empty or begins with a gap. -/
theorem Spells.eq_nil_or_gap {rest : List Char} (h : Spells words rest)
    (hgap : words ≠ [] → ∃ c tail, rest = c :: tail ∧ isGap c = true) :
    rest = [] ∨ ∃ c tail, rest = c :: tail ∧ isGap c = true := by
  cases h with
  | ends hgaps =>
    cases rest with
    | nil => exact .inl rfl
    | cons c tail => exact .inr ⟨c, tail, rfl, hgaps c List.mem_cons_self⟩
  | word _ _ _ _ => exact .inr (hgap (List.cons_ne_nil _ _))

/-- However words are spelled, the name is made of them. -/
theorem Spells.camelCase_eq (h : Spells words text) (hwords : ∀ word ∈ words, IsWord word) :
    camelCase text = words.flatMap Text.capitalize := by
  induction h with
  | ends hgaps =>
    have hends := camelCase_gaps hgaps []
    rw [List.append_nil] at hends
    exact hends
  | @word gaps word written rest words hgaps hsame hgap hrest ih =>
    obtain ⟨hword, hwords⟩ := List.forall_mem_cons.mp hwords
    have hwritten : ∀ c ∈ written, isGap c = false := fun c hc =>
      (isGap_isControl_of_isAlphanum (hword.isAlphanum_of_folded_eq hsame c hc)).1
    have hcapital := Text.capitalize_congr hsame hword.ascii
    rw [List.append_assoc, camelCase_gaps hgaps, List.flatMap_cons, ← ih hwords, ← hcapital]
    rcases hrest.eq_nil_or_gap hgap with rfl | ⟨c, tail, rfl, hc⟩
    · rw [List.append_nil, camelCase_of_no_gap hwritten]
      exact (List.append_nil _).symm
    · exact camelCase_append_gap hwritten hc tail

theorem Spells.not_isControl (h : Spells words text) (hwords : ∀ word ∈ words, IsWord word) :
    ∀ c ∈ text, Text.isControl c = false := by
  induction h with
  | ends hgaps => exact fun c hc => not_isControl_of_isGap (hgaps c hc)
  | word hgaps hsame _ _ ih =>
    obtain ⟨hword, hwords⟩ := List.forall_mem_cons.mp hwords
    intro c hc
    rcases List.mem_append.mp hc with hc | hc
    · rcases List.mem_append.mp hc with hc | hc
      · exact not_isControl_of_isGap (hgaps c hc)
      · exact (isGap_isControl_of_isAlphanum (hword.isAlphanum_of_folded_eq hsame c hc)).2
    · exact ih hwords c hc

/-- The control characters of a text can be taken out again. -/
theorem Strewn.filter_eq {strewn : List Char} (h : Strewn text strewn)
    (hplain : ∀ c ∈ text, Text.isControl c = false) :
    strewn.filter (fun c => !Text.isControl c) = text := by
  induction h with
  | nil => rfl
  | keep c _ ih =>
    obtain ⟨hc, htext⟩ := List.forall_mem_cons.mp hplain
    rw [List.filter_cons_of_pos (by simp [hc]), ih htext]
  | control hcontrol _ ih => rw [List.filter_cons_of_neg (by simp [hcontrol]), ih hplain]

/-! How words are found in a name again. -/

theorem IsWord.capitalize_eq (h : IsWord word) :
    ∃ first rest, word = first :: rest ∧ first.toUpper.isUpper = true ∧
      Text.capitalize word = first.toUpper :: folded rest := by
  have hascii := h.ascii
  cases h with
  | mk hfirst hrest =>
    exact ⟨_, _, rfl, by rw [Char.isUpper_toUpper_eq_isAlpha, hfirst],
      Text.capitalize_of_ascii hascii⟩

theorem beginsUpper_flatMap_capitalize (hwords : ∀ word ∈ words, IsWord word) :
    Text.BeginsUpper (words.flatMap Text.capitalize) := by
  intro c tail h
  cases words with
  | nil => cases h
  | cons word words =>
    obtain ⟨first, rest, -, hupper, hcapital⟩ :=
      (hwords word List.mem_cons_self).capitalize_eq
    rw [List.flatMap_cons, hcapital] at h
    exact (List.cons.inj h).1 ▸ hupper

/-- Each capital begins a word, and there are no others. -/
theorem map_folded_of_flatMap_capitalize_eq (hwords : ∀ word ∈ words, IsWord word)
    (hothers : ∀ word ∈ others, IsWord word)
    (h : words.flatMap Text.capitalize = others.flatMap Text.capitalize) :
    words.map folded = others.map folded := by
  induction words generalizing others with
  | nil =>
    cases others with
    | nil => rfl
    | cons other others =>
      obtain ⟨_, _, -, -, hcapital⟩ := (hothers other List.mem_cons_self).capitalize_eq
      rw [List.flatMap_cons, hcapital] at h
      cases h
  | cons word words ih =>
    obtain ⟨hword, htail⟩ := List.forall_mem_cons.mp hwords
    obtain ⟨first, rest, rfl, -, hcapital⟩ := hword.capitalize_eq
    cases others with
    | nil =>
      rw [List.flatMap_cons, hcapital] at h
      cases h
    | cons other others =>
      obtain ⟨hother, htail'⟩ := List.forall_mem_cons.mp hothers
      obtain ⟨first', rest', rfl, -, hcapital'⟩ := hother.capitalize_eq
      rw [List.flatMap_cons, List.flatMap_cons, hcapital, hcapital'] at h
      obtain ⟨hfirst, hbehind⟩ := List.cons.inj h
      obtain ⟨hrest, hwordsEq⟩ := Text.folded_append_inj
        (beginsUpper_flatMap_capitalize htail) (beginsUpper_flatMap_capitalize htail') hbehind
      have hlower : first.toLower = first'.toLower := by
        rw [← Char.toLower_toUpper_eq_toLower, hfirst, Char.toLower_toUpper_eq_toLower]
      have hsame : folded (first :: rest) = folded (first' :: rest') :=
        congrArg₂ List.cons hlower hrest
      rw [List.map_cons, List.map_cons, hsame, ih htail htail' hwordsEq]

theorem flatMap_capitalize_congr (hothers : ∀ word ∈ others, IsWord word)
    (h : words.map folded = others.map folded) :
    words.flatMap Text.capitalize = others.flatMap Text.capitalize := by
  induction words generalizing others with
  | nil =>
    obtain rfl : others = [] := List.map_eq_nil_iff.mp h.symm
    rfl
  | cons word words ih =>
    cases others with
    | nil => cases h
    | cons other others =>
      obtain ⟨hother, hothers⟩ := List.forall_mem_cons.mp hothers
      obtain ⟨hsame, hrest⟩ := List.cons.inj h
      rw [List.flatMap_cons, List.flatMap_cons, Text.capitalize_congr hsame hother.ascii,
        ih hothers hrest]

theorem flatMap_capitalize_eq_iff (hwords : ∀ word ∈ words, IsWord word)
    (hothers : ∀ word ∈ others, IsWord word) :
    words.flatMap Text.capitalize = others.flatMap Text.capitalize ↔
      words.map folded = others.map folded :=
  ⟨map_folded_of_flatMap_capitalize_eq hwords hothers, flatMap_capitalize_congr hothers⟩

/-- A segment stands for the name that its words make. -/
theorem ofSegments_of_isSpelling {segment : List Char} (h : IsSpelling words segment)
    (hwords : ∀ word ∈ words, IsWord word) (module : List Char) :
    ofSegments module segment =
      ⟨String.ofList (Text.collapse false module),
        String.ofList (words.flatMap Text.capitalize)⟩ := by
  obtain ⟨plain, hspells, hstrewn⟩ := h
  rw [ofSegments, hstrewn.filter_eq (hspells.not_isControl hwords), hspells.camelCase_eq hwords]

/-- Segments name entities by the words that they spell, and by nothing else. Behind one and the
same module, two segments stand for the same entity exactly if the words that they spell are the
same up to the case of letters, whatever else there is between, around and among the letters. -/
theorem ofSegments_eq_iff_same_words {segment segment' : List Char}
    (hwords : ∀ word ∈ words, IsWord word) (hothers : ∀ word ∈ others, IsWord word)
    (hsegment : IsSpelling words segment) (hsegment' : IsSpelling others segment')
    (module : List Char) :
    ofSegments module segment = ofSegments module segment' ↔
      words.map folded = others.map folded := by
  rw [ofSegments_of_isSpelling hsegment hwords, ofSegments_of_isSpelling hsegment' hothers,
    EntityId.mk.injEq, and_iff_right rfl, String.ofList_inj]
  exact flatMap_capitalize_eq_iff hwords hothers

/-- Two spellings of `my` and `b2`, one of them with a bell in it, and one of `myb2`. -/
theorem myB2_spellings :
    (∀ word ∈ [['m', 'y'], ['b', '2']], IsWord word) ∧ IsWord ['m', 'y', 'b', '2'] ∧
    IsSpelling [['m', 'y'], ['b', '2']] ['-', 'M', '\x07', 'y', '_', '-', 'B', '2'] ∧
    IsSpelling [['m', 'y'], ['b', '2']] ['m', 'y', '-', 'b', '2', '_'] ∧
    IsSpelling [['m', 'y', 'b', '2']] ['m', 'y', 'b', '2'] ∧
    ofSegments ['s'] ['-', 'M', '\x07', 'y', '_', '-', 'B', '2'] =
      ofSegments ['s'] ['m', 'y', '-', 'b', '2', '_'] ∧
    ofSegments ['s'] ['-', 'M', '\x07', 'y', '_', '-', 'B', '2'] ≠
      ofSegments ['s'] ['m', 'y', 'b', '2'] := by
  have hjoined : IsWord ['m', 'y', 'b', '2'] := .mk (by simp) (by simp)
  have hwords : ∀ word ∈ [['m', 'y'], ['b', '2']], IsWord word := by
    simp only [List.forall_mem_cons]
    exact ⟨.mk (by simp) (by simp), .mk (by simp) (by simp), by simp⟩
  have hloud : IsSpelling [['m', 'y'], ['b', '2']]
      ['-', 'M', '\x07', 'y', '_', '-', 'B', '2'] := by
    have hlast : Spells [['b', '2']] (['_', '-'] ++ ['B', '2'] ++ []) :=
      .word (by simp [isGap]) rfl (by simp) (.ends (by simp))
    have hboth : Spells [['m', 'y'], ['b', '2']] (['-'] ++ ['M', 'y'] ++ ['_', '-', 'B', '2']) :=
      .word (by simp [isGap]) rfl (fun _ => ⟨_, _, rfl, rfl⟩) hlast
    exact ⟨_, hboth, .keep _ (.keep _ (.control rfl (strewn_self _)))⟩
  have hquiet : IsSpelling [['m', 'y'], ['b', '2']] ['m', 'y', '-', 'b', '2', '_'] := by
    have hlast : Spells [['b', '2']] (['-'] ++ ['b', '2'] ++ ['_']) :=
      .word (by simp [isGap]) rfl (by simp) (.ends (by simp [isGap]))
    have hboth : Spells [['m', 'y'], ['b', '2']] ([] ++ ['m', 'y'] ++ ['-', 'b', '2', '_']) :=
      .word (by simp) rfl (fun _ => ⟨_, _, rfl, rfl⟩) hlast
    exact ⟨_, hboth, strewn_self _⟩
  have hother : IsSpelling [['m', 'y', 'b', '2']] ['m', 'y', 'b', '2'] := by
    have hword : Spells [['m', 'y', 'b', '2']] ([] ++ ['m', 'y', 'b', '2'] ++ []) :=
      .word (by simp) rfl (by simp) (.ends (by simp))
    exact ⟨_, hword, strewn_self _⟩
  exact ⟨hwords, hjoined, hloud, hquiet, hother,
    (ofSegments_eq_iff_same_words hwords hwords hloud hquiet ['s']).mpr rfl,
    mt (ofSegments_eq_iff_same_words hwords (by simpa using hjoined) hloud hother ['s']).mp
      (by decide)⟩

end EntityId

end PathCall
