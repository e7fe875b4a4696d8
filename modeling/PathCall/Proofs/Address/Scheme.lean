import Mathlib
import PathCall.Address.Locator

/-!
Which text of an address is its scheme. A URL does not count what stands at its ends and some
characters anywhere; of what counts, the text in front of the first colon is the scheme, in lower
case. The path of an address is taken from behind its first mark `://` instead. The main theorem
says when both read the address the same way: the text in front of the mark is the scheme exactly
if no colon stands in it.
-/

namespace PathCall

namespace Address

def leading (text : List Char) : List Char :=
  (text.dropWhile isEdge).filter fun c => !isIgnored c

theorem isIgnored_of_not_isEdge {c : Char} (h : isEdge c = false) : isIgnored c = false := by
  refine Bool.eq_false_iff.mpr fun hignored => ?_
  simp only [isIgnored, Bool.or_eq_true, beq_iff_eq] at hignored
  rcases hignored with (rfl | rfl) | rfl <;> cases h

/-- What ends with something else than an edge loses nothing at its end but edges behind it. -/
theorem reverse_dropWhile_reverse_append {p : Char → Bool} {c : Char} (hc : p c = false)
    (front tail : List Char) :
    ∃ rest, ((front ++ c :: tail).reverse.dropWhile p).reverse = front ++ c :: rest := by
  have hreverse : (front ++ c :: tail).reverse = tail.reverse ++ c :: front.reverse := by simp
  rw [hreverse, List.dropWhile_append]
  split
  · refine ⟨[], ?_⟩
    simp [hc]
  · refine ⟨(tail.reverse.dropWhile p).reverse, ?_⟩
    simp

theorem dropWhile_append_cons {p : Char → Bool} {c : Char} (hc : p c = false)
    (front tail : List Char) :
    (front ++ c :: tail).dropWhile p = front.dropWhile p ++ c :: tail := by
  rw [List.dropWhile_append]
  split
  · rename_i hempty
    simp [List.isEmpty_iff.mp hempty, hc]
  · rfl

theorem leading_eq_self {text : List Char} (h : ∀ c ∈ text, isEdge c = false) :
    leading text = text := by
  have hstart : text.dropWhile isEdge = text := by
    cases text with
    | nil => rfl
    | cons c text => exact List.dropWhile_cons_of_neg (by simp [h c])
  rw [leading, hstart]
  exact List.filter_eq_self.mpr fun c hc => by simp [isIgnored_of_not_isEdge (h c hc)]

/-- In front of a character that is no edge the text counts as it does by itself. -/
theorem exists_significant_append {c : Char} (hc : isEdge c = false) (front tail : List Char) :
    ∃ rest, significant (front ++ c :: tail) = leading front ++ c :: rest := by
  obtain ⟨rest, hrest⟩ := reverse_dropWhile_reverse_append hc (front.dropWhile isEdge) tail
  refine ⟨rest.filter fun c => !isIgnored c, ?_⟩
  rw [significant, dropWhile_append_cons hc, hrest, List.filter_append, List.filter_cons,
    if_pos (by simp [isIgnored_of_not_isEdge hc])]
  rfl

/-- A letter, and behind it letters, digits, plus signs, hyphens and points. -/
def isScheme (text : List Char) : Bool := text.head?.any Char.isAlpha && text.all isSchemeChar

theorem isSchemeChar_of_isAlpha {c : Char} (h : c.isAlpha = true) : isSchemeChar c = true := by
  simp [isSchemeChar, Char.isAlphanum, h]

/-- The characters of a scheme are visible and in ASCII. -/
theorem bounds_of_isSchemeChar {c : Char} (h : isSchemeChar c = true) :
    32 < c.toNat ∧ c.toNat < 128 := by
  simp only [isSchemeChar, Char.isAlphanum, Char.isAlpha, Char.isUpper, Char.isLower,
    Char.isDigit, Bool.or_eq_true, Bool.and_eq_true, decide_eq_true_eq, beq_iff_eq,
    UInt32.le_iff_toNat_le] at h
  rcases h with ((h | rfl) | rfl) | rfl
  · have hranges : (65 ≤ c.toNat ∧ c.toNat ≤ 90 ∨ 97 ≤ c.toNat ∧ c.toNat ≤ 122) ∨
        48 ≤ c.toNat ∧ c.toNat ≤ 57 := by simpa using h
    omega
  all_goals decide

/-- No character of a scheme is one that a URL does not count. -/
theorem isEdge_of_isSchemeChar {c : Char} (h : isSchemeChar c = true) : isEdge c = false := by
  simpa [isEdge] using (bounds_of_isSchemeChar h).1

theorem colon_notMem_of_isScheme {name : List Char} (h : isScheme name = true) : ':' ∉ name := by
  intro hcolon
  have hchar := List.all_eq_true.mp (Bool.and_eq_true_iff.mp h).2 ':' hcolon
  revert hchar
  decide

/-- The text in front of the first colon of a text that has one. -/
theorem takeWhile_append_colon (front tail : List Char) :
    (front ++ ':' :: tail).takeWhile (· != ':') = front.takeWhile (· != ':') := by
  rw [List.takeWhile_append]
  split
  · rename_i hlength
    have hall := (List.takeWhile_prefix (· != ':')).eq_of_length hlength
    simp [hall]
  · rfl

theorem takeWhile_eq_self_of_colon_notMem {text : List Char} (h : ':' ∉ text) :
    text.takeWhile (· != ':') = text :=
  List.takeWhile_eq_self_iff.mpr fun c hc => by simpa using ne_of_mem_of_not_mem hc h

/-- A scheme is read up to the colon behind it. -/
theorem span_scheme {name : List Char} (h : isScheme name = true) (rest : List Char) :
    (name ++ ':' :: rest).takeWhile isSchemeChar = name ∧
      (name ++ ':' :: rest).dropWhile isSchemeChar = ':' :: rest := by
  have hchars : ∀ c ∈ name, isSchemeChar c = true :=
    List.all_eq_true.mp (Bool.and_eq_true_iff.mp h).2
  have hcolon : isSchemeChar ':' = false := by decide
  rw [List.takeWhile_append_of_pos hchars, List.dropWhile_append_of_pos hchars]
  simp [hcolon]

/-- A text is split exactly if a scheme stands in front of a colon of it. -/
theorem splitScheme?_eq_some_iff {text scheme rest : List Char} :
    splitScheme? text = some (scheme, rest) ↔
      ∃ name, isScheme name = true ∧ text = name ++ ':' :: rest ∧
        scheme = name.map Char.toLower := by
  constructor
  · intro h
    unfold splitScheme? at h
    split at h
    · cases h
    · rename_i c tail
      split at h
      · cases h
      · rename_i hletter
        have hletter : c.isAlpha = true := by simpa using hletter
        split at h
        · rename_i hdrop
          cases h
          refine ⟨(c :: tail).takeWhile isSchemeChar, ?_, ?_, rfl⟩
          · rw [isScheme, List.takeWhile_cons_of_pos (isSchemeChar_of_isAlpha hletter)]
            simp [hletter, isSchemeChar_of_isAlpha hletter]
          · rw [← hdrop, List.takeWhile_append_dropWhile]
        · cases h
  · rintro ⟨name, hname, rfl, rfl⟩
    obtain ⟨htake, hdrop⟩ := span_scheme hname rest
    cases name with
    | nil => cases hname
    | cons c name =>
      have hletter : c.isAlpha = true := (Bool.and_eq_true_iff.mp hname).1
      rw [List.cons_append] at htake hdrop ⊢
      simp [splitScheme?, hletter, htake, hdrop]

theorem eq_of_check_eq_ok {check : Except Fault Unit} {scheme result : String}
    (h : (do check; return scheme) = .ok result) : result = scheme := by
  cases check with
  | error fault => cases h
  | ok => exact (Except.ok.inj h).symm

/-- The scheme of a URL stands in front of the first colon of what counts. -/
theorem exists_scheme_of_schemeOf_eq_ok {text scheme : String} (h : schemeOf text = .ok scheme) :
    ∃ name rest, isScheme name = true ∧ significant text.toList = name ++ ':' :: rest ∧
      scheme = String.ofList (name.map Char.toLower) := by
  unfold schemeOf at h
  split at h
  · cases h
  · rename_i lowered rest hsplit
    obtain ⟨name, hname, htext, rfl⟩ := splitScheme?_eq_some_iff.mp hsplit
    refine ⟨name, rest, hname, htext, ?_⟩
    dsimp only at h
    split at h
    · exact eq_of_check_eq_ok h
    · exact eq_of_check_eq_ok h
    · split at h
      · exact eq_of_check_eq_ok h
      · exact (Except.ok.inj h).symm

/-- The scheme of a URL that holds a colon is what counts in front of its first colon. -/
theorem scheme_of_schemeOf_append {before after : List Char} {scheme : String}
    (h : schemeOf (String.ofList (before ++ ':' :: after)) = .ok scheme) :
    let name := (leading before).takeWhile (· != ':')
    isScheme name = true ∧ scheme = String.ofList (name.map Char.toLower) := by
  obtain ⟨written, rest, hwritten, hsplit, hlowered⟩ := exists_scheme_of_schemeOf_eq_ok h
  rw [String.toList_ofList] at hsplit
  obtain ⟨tail, htail⟩ := exists_significant_append (c := ':') (by decide) before after
  intro name
  have hname : name = written := by
    calc name = (leading before ++ ':' :: tail).takeWhile (· != ':') :=
          (takeWhile_append_colon (leading before) tail).symm
      _ = (written ++ ':' :: rest).takeWhile (· != ':') := by rw [← htail, hsplit]
      _ = written.takeWhile (· != ':') := takeWhile_append_colon written rest
      _ = written := takeWhile_eq_self_of_colon_notMem (colon_notMem_of_isScheme hwritten)
  exact ⟨hname ▸ hwritten, hname ▸ hlowered⟩

theorem isSchemeChar_of_toLower {c : Char} (h : isSchemeChar c.toLower = true) :
    isSchemeChar c = true := by
  by_cases hupper : c.isUpper = true
  · exact isSchemeChar_of_isAlpha (by simp [Char.isAlpha, hupper])
  · rwa [Char.toLower_eq_of_not_isUpper hupper] at h

end Address

namespace Locator

variable {raw : String} {locator : Locator}

theorem schemeOf_of_parse_eq_ok (h : parse raw = .ok locator) :
    Address.schemeOf (complete raw) = .ok locator.scheme := by
  unfold parse at h
  split at h
  · rename_i hscheme
    cases h
    exact hscheme
  · cases h

theorem complete_of_splitOnce {pair : List Char × List Char}
    (h : Text.splitOnce schemeMark raw.toList = some pair) : complete raw = raw := by
  simp [complete, h]

theorem path_of_parse_eq_ok (h : parse raw = .ok locator) :
    locator.path = String.ofList (rooted (rawPath raw.toList)) := by
  unfold parse at h
  split at h
  · cases h
    rfl
  · cases h

/-- What follows an authority is empty or begins with what ended it, so a path that is taken from it
needs no slash in front. -/
theorem rooted_rawPath_of_splitOnce {raw before after : List Char}
    (h : Text.splitOnce schemeMark raw = some (before, after)) :
    rooted (rawPath raw) =
      (after.dropWhile fun c => !(c == '/' || c == '?' || c == '#')).takeWhile
        fun c => !(c == '?' || c == '#') := by
  simp only [rawPath, h]
  cases hrest : after.dropWhile fun c => !(c == '/' || c == '?' || c == '#') with
  | nil => rfl
  | cons c rest =>
    have hend := List.head?_dropWhile_not (fun c => !(c == '/' || c == '?' || c == '#')) after
    rw [hrest] at hend
    obtain rfl | rfl | rfl : c = '/' ∨ c = '?' ∨ c = '#' := by
      simpa [or_iff_not_imp_left] using hend
    all_goals rfl

/-- The scheme of an address and its path are taken from the same place exactly if no colon stands
in front of the first mark. The path of every address that holds a mark is taken from behind it,
where the authority ends. Its scheme is the text in front of its first colon, without what does not
count and in lower case. So the whole text in front of the mark is a scheme, and the scheme of the
address, exactly if it has no colon. -/
theorem scheme_precedes_mark_iff (hparse : parse raw = .ok locator) {before after : List Char}
    (hmark : Text.splitOnce schemeMark raw.toList = some (before, after)) :
    let front := Address.leading before
    let name := front.takeWhile (· != ':')
    locator.path = String.ofList
        ((after.dropWhile fun c => !(c == '/' || c == '?' || c == '#')).takeWhile
          fun c => !(c == '?' || c == '#')) ∧
      Address.isScheme name = true ∧ locator.scheme = String.ofList (name.map Char.toLower) ∧
      ((Address.isScheme front = true ∧ locator.scheme = String.ofList (front.map Char.toLower)) ↔
        ':' ∉ front) := by
  have hraw : raw.toList = before ++ ':' :: ('/' :: '/' :: after) := by
    simpa [schemeMark] using Text.eq_append_of_splitOnce_eq_some hmark
  have hscheme := schemeOf_of_parse_eq_ok hparse
  rw [complete_of_splitOnce hmark, ← String.ofList_toList (s := raw), hraw] at hscheme
  obtain ⟨hname, hlowered⟩ := Address.scheme_of_schemeOf_append hscheme
  refine ⟨?_, hname, hlowered, fun hfront => ?_, fun hcolon => ?_⟩
  · rw [path_of_parse_eq_ok hparse, rooted_rawPath_of_splitOnce hmark]
  · exact Address.colon_notMem_of_isScheme hfront.1
  · rw [Address.takeWhile_eq_self_of_colon_notMem hcolon] at hname hlowered
    exact ⟨hname, hlowered⟩

/-- An address with an authority. Its scheme is what stands in front of its mark. -/
theorem hostedAddress_scheme :
    let raw := "\tX-In-Process://host/memo/notes?a=b"
    let before := "\tX-In-Process".toList
    parse raw = .ok ⟨raw, "x-in-process", "/memo/notes"⟩ ∧
      Text.splitOnce schemeMark raw.toList = some (before, "host/memo/notes?a=b".toList) ∧
      Address.isScheme (Address.leading before) = true ∧
      "x-in-process" = String.ofList ((Address.leading before).map Char.toLower) := by
  intro raw before
  have hparse : parse raw = .ok ⟨raw, "x-in-process", "/memo/notes"⟩ := by decide
  have hmark : Text.splitOnce schemeMark raw.toList =
      some (before, "host/memo/notes?a=b".toList) := by decide
  exact ⟨hparse, hmark, (scheme_precedes_mark_iff hparse hmark).2.2.2.mpr (by decide)⟩

/-- An address whose only mark stands in its query. What stands in front of the mark is no scheme,
and the path that is taken from behind it names another entity. -/
theorem queryMark_path :
    let raw := "x-in-process:/shop/widgets?next=http://host/memo/notes"
    let before := "x-in-process:/shop/widgets?next=http".toList
    parse raw = .ok ⟨raw, "x-in-process", "/memo/notes"⟩ ∧
      Text.splitOnce schemeMark raw.toList = some (before, "host/memo/notes".toList) ∧
      Address.isScheme (Address.leading before) = false := by
  decide

end Locator

end PathCall
