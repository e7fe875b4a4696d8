import PathCall.Text.WordTable

/-!
Word characters, and names made safe by replacing what lies between words. `sanitize` writes one
underscore for every maximal run of other characters, so its result holds word characters only.
-/

namespace PathCall.Text

/-- Letters, marks, decimal digits, connector punctuation and join controls. -/
def isWord (c : Char) : Bool :=
  if c.toNat < 128 then c.isAlphanum || c == '_' else wordRanges.contains c.toNat

/-- Replaces each maximal run of other characters by one underscore. `inGap` tells that the
character before belonged to a run whose underscore is already written. -/
def collapse (inGap : Bool) : List Char → List Char
  | [] => []
  | c :: rest =>
    if isWord c then c :: collapse false rest
    else if inGap then collapse true rest
    else '_' :: collapse true rest

def sanitize (text : String) : String :=
  String.ofList (collapse false text.toList)

theorem isWord_underscore : isWord '_' = true := by decide

/-- Nothing but word characters remains. -/
theorem isWord_of_mem_collapse {c : Char} {inGap : Bool} {text : List Char}
    (h : c ∈ collapse inGap text) : isWord c = true := by
  induction text generalizing inGap with
  | nil => simp [collapse] at h
  | cons d rest ih =>
    by_cases hd : isWord d
    · simp only [collapse, hd, if_true, List.mem_cons] at h
      rcases h with rfl | h
      · exact hd
      · exact ih h
    · cases inGap with
      | true =>
        simp only [collapse, hd, if_true, Bool.false_eq_true, if_false] at h
        exact ih h
      | false =>
        simp only [collapse, hd, Bool.false_eq_true, if_false, List.mem_cons] at h
        rcases h with rfl | h
        · exact isWord_underscore
        · exact ih h

end PathCall.Text
