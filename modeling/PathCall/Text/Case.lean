import PathCall.Text.CaseTable

/-!
Case conversion. A character has one lower-case and one upper-case form, each of one or more
characters. Only the lower-casing of a whole text looks at context, for the final sigma.
-/

namespace PathCall.Text

private def convert (special : List (Nat × List Nat)) (runs : List MappedRun) (c : Char) :
    List Char :=
  match special.lookup c.toNat with
  | some points => points.map Char.ofNat
  | none =>
    match MappedRun.find? runs c.toNat with
    | some point => [Char.ofNat point]
    | none => [c]

def lower (c : Char) : List Char :=
  if c.toNat < 128 then [c.toLower] else convert lowerSpecial lowerRuns c

def upper (c : Char) : List Char :=
  if c.toNat < 128 then [c.toUpper] else convert upperSpecial upperRuns c

def isCased (c : Char) : Bool :=
  if c.toNat < 128 then c.isAlpha else casedRanges.contains c.toNat

/-- Characters that may stand inside a word without ending it. -/
def isCaseIgnorable (c : Char) : Bool :=
  if c.toNat < 128 then c ∈ ['\x27', '.', ':', '^', '\x60']
  else caseIgnorableRanges.contains c.toNat

/-- Whether the first character that is not case-ignorable has case. -/
def meetsCased (text : List Char) : Bool :=
  match text.dropWhile isCaseIgnorable with
  | [] => false
  | c :: _ => isCased c

/-- Lower-cases `rest`, which stands behind the reversed text `before`. A capital sigma becomes
a final sigma exactly when a cased letter precedes it and none follows. -/
def lowerAfter (before : List Char) : List Char → List Char
  | [] => []
  | c :: rest =>
    let form :=
      if c = 'Σ' then
        if meetsCased before && !meetsCased rest then ['ς'] else ['σ']
      else lower c
    form ++ lowerAfter (c :: before) rest

def lowercase (text : String) : String :=
  String.ofList (lowerAfter [] text.toList)

/-- The first character in upper case, the others in lower case without regard to context. -/
def capitalize : List Char → List Char
  | [] => []
  | c :: rest => upper c ++ rest.flatMap lower

def sameIgnoringAsciiCase (a b : String) : Bool :=
  a.toList.map Char.toLower == b.toList.map Char.toLower

/-- What holds of all ASCII characters, told one by one. -/
theorem forall_ascii {p : Char → Prop} (h : ∀ n < 128, p (Char.ofNat n)) {c : Char}
    (hc : c.toNat < 128) : p c := by
  have hp := h c.toNat hc
  rwa [Char.ofNat_toNat] at hp

/-- In ASCII there is no context to look at. -/
theorem lowerAfter_of_ascii {rest : List Char} (h : ∀ c ∈ rest, c.toNat < 128)
    (before : List Char) : lowerAfter before rest = rest.map Char.toLower := by
  induction rest generalizing before with
  | nil => rfl
  | cons c rest ih =>
    obtain ⟨hc, hrest⟩ := List.forall_mem_cons.mp h
    have hsigma : c ≠ 'Σ' := by
      rintro rfl
      revert hc
      decide
    rw [lowerAfter, if_neg hsigma, lower, if_pos hc, ih hrest]
    rfl

theorem lowercase_of_ascii {text : String} (h : ∀ c ∈ text.toList, c.toNat < 128) :
    lowercase text = String.ofList (text.toList.map Char.toLower) := by
  rw [lowercase, lowerAfter_of_ascii h]

theorem toLower_lt_of_lt {c : Char} (h : c.toNat < 128) : c.toLower.toNat < 128 :=
  forall_ascii (p := fun c => c.toLower.toNat < 128) (by decide) h

theorem eq_of_ofNat_eq_point {n : Nat} (h : Char.ofNat n = '.') : n = 46 := by
  by_cases hvalid : n.isValidChar
  · have hval : (Char.ofNat n).toNat = n := by
      rw [Char.ofNat, dif_pos hvalid]
      rfl
    rw [← hval, h]
    rfl
  · rw [Char.ofNat, dif_neg hvalid] at h
    cases h

/-- A table that leads to no point does not make one. -/
private theorem eq_point_of_mem_convert {special : List (Nat × List Nat)} {runs : List MappedRun}
    (hspecial : (special.all fun entry => !entry.2.contains 46) = true)
    (hruns : (runs.all fun run => 46 < run.target) = true) {c : Char}
    (h : '.' ∈ convert special runs c) : c = '.' := by
  unfold convert at h
  split at h
  · rename_i points hlookup
    obtain ⟨front, back, hentry, -⟩ := List.lookup_eq_some_iff.mp hlookup
    obtain ⟨point, hpoint, heq⟩ := List.mem_map.mp h
    have hnone := List.all_eq_true.mp hspecial (c.toNat, points) (by simp [hentry])
    simp [← eq_of_ofNat_eq_point heq, hpoint] at hnone
  · split at h
    · rename_i image himage
      obtain ⟨run, hrun, hle⟩ := MappedRun.exists_target_le himage
      have heq := eq_of_ofNat_eq_point (List.mem_singleton.mp h).symm
      have hlt := List.all_eq_true.mp hruns run hrun
      simp only [decide_eq_true_eq] at hlt
      omega
    · exact (List.mem_singleton.mp h).symm

/-- Only a point has a point in its lower-case form. -/
theorem mem_lower_point_iff {c : Char} : '.' ∈ lower c ↔ c = '.' := by
  refine ⟨fun h => ?_, by rintro rfl; decide⟩
  by_cases hascii : c.toNat < 128
  · exact forall_ascii (p := fun c => '.' ∈ lower c → c = '.') (by decide) hascii h
  · rw [lower, if_neg hascii] at h
    exact eq_point_of_mem_convert (by decide +kernel) (by decide +kernel) h

/-- Only a point has a point in its upper-case form. -/
theorem mem_upper_point_iff {c : Char} : '.' ∈ upper c ↔ c = '.' := by
  refine ⟨fun h => ?_, by rintro rfl; decide⟩
  by_cases hascii : c.toNat < 128
  · exact forall_ascii (p := fun c => '.' ∈ upper c → c = '.') (by decide) hascii h
  · rw [upper, if_neg hascii] at h
    exact eq_point_of_mem_convert (by decide +kernel) (by decide +kernel) h

/-- Capitals change nothing about where a text has points. -/
theorem mem_capitalize_point_iff {word : List Char} : '.' ∈ capitalize word ↔ '.' ∈ word := by
  cases word with
  | nil => rfl
  | cons c rest => simp [capitalize, mem_lower_point_iff, mem_upper_point_iff, eq_comm]

end PathCall.Text
