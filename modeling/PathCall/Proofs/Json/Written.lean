import Mathlib.Data.List.TakeWhile
import PathCall.Error
import PathCall.Json.Printer
import PathCall.Proofs.Json.Remainder

/-!
The texts that write a value. A value is written with a sequence of tokens; the rendered text has
them one right behind the other, and JSON allows blanks before and behind each of them. Readers
pass over the blanks, and undo the escapes of the strings. So the main theorem: an error is read
back from every text that writes it, whatever characters its message has.
-/

namespace PathCall

namespace Json

/-! ### Tokens -/

mutual
/-- The tokens that a value is written with. A value that nests no others is one token. -/
def tokens : Json → List (List Char)
  | .arr items => ['['] :: (itemTokens items ++ [[']']])
  | .obj members => ['\x7b'] :: (memberTokens members ++ [['\x7d']])
  | value => [value.render.toList]
def itemTokens : List Json → List (List Char)
  | [] => []
  | [item] => item.tokens
  | item :: items => item.tokens ++ [','] :: itemTokens items
def memberTokens : List (String × Json) → List (List Char)
  | [] => []
  | [(name, value)] => (quote name).toList :: [':'] :: value.tokens
  | (name, value) :: members =>
    (quote name).toList :: [':'] :: (value.tokens ++ [','] :: memberTokens members)
end

/-- The text has the tokens in their order, and else only blanks. -/
inductive Spaced : (tokens : List (List Char)) → (text : List Char) → Prop where
  | blanks {blanks : List Char} : blanks.all isBlank = true → Spaced [] blanks
  | token {blanks token text : List Char} {tokens : List (List Char)} :
      blanks.all isBlank = true → Spaced tokens text →
      Spaced (token :: tokens) (blanks ++ token ++ text)

/-- The text writes the value, with any blanks around its tokens. -/
def Writes (text : String) (value : Json) : Prop := Spaced value.tokens text.toList

theorem flatten_itemTokens {items : List Json}
    (h : ∀ item ∈ items, item.tokens.flatten = item.render.toList) :
    (itemTokens items).flatten = (renderItems items).toList := by
  induction items with
  | nil => rfl
  | cons item items ih =>
    have hitem := h item (by simp)
    cases items with
    | nil => simpa [itemTokens, renderItems] using hitem
    | cons next items =>
      have hitems := ih fun other hother => h other (List.mem_cons_of_mem _ hother)
      simp [itemTokens, renderItems, hitem, hitems]

theorem flatten_memberTokens {members : List (String × Json)}
    (h : ∀ member ∈ members, member.2.tokens.flatten = member.2.render.toList) :
    (memberTokens members).flatten = (renderMembers members).toList := by
  induction members with
  | nil => rfl
  | cons member members ih =>
    have hmember := h member (by simp)
    cases members with
    | nil => simp [memberTokens, renderMembers, hmember]
    | cons next members =>
      have hmembers := ih fun other hother => h other (List.mem_cons_of_mem _ hother)
      simp [memberTokens, renderMembers, hmember, hmembers]

/-- A value is rendered as its tokens, without blanks. -/
theorem flatten_tokens (value : Json) : value.tokens.flatten = value.render.toList := by
  induction value using nestedInduction with
  | scalar value hscalar =>
    cases value with
    | arr items => cases hscalar
    | obj members => cases hscalar
    | _ => simp [tokens]
  | arr items ih => simp [tokens, render, flatten_itemTokens ih]
  | obj members ih => simp [tokens, render, flatten_memberTokens ih]

theorem spaced_flatten (tokens : List (List Char)) : Spaced tokens tokens.flatten := by
  induction tokens with
  | nil => exact .blanks rfl
  | cons token tokens ih =>
    have hnone : [].all isBlank = true := rfl
    exact .token hnone ih

theorem writes_render (value : Json) : Writes value.render value := by
  rw [Writes, ← flatten_tokens]
  exact spaced_flatten _

/-! ### Blanks -/

variable {text token rest : List Char} {tokens : List (List Char)} {c : Char}

theorem skipBlank_append {blanks : List Char} (h : blanks.all isBlank = true) :
    skipBlank (blanks ++ text) = skipBlank text :=
  List.dropWhile_append_of_pos (List.all_eq_true.mp h)

/-- Behind the blanks stands the first token. -/
theorem Spaced.exists_skipBlank_eq (h : Spaced ((c :: token) :: tokens) text)
    (hc : isBlank c = false) :
    ∃ rest, skipBlank text = c :: (token ++ rest) ∧ Spaced tokens rest := by
  cases h with
  | @token blanks _ rest _ hblanks hrest =>
    refine ⟨rest, ?_, hrest⟩
    rw [List.append_assoc, skipBlank_append hblanks]
    exact List.dropWhile_cons_of_neg (by simp [hc])

theorem Spaced.skipBlank_eq_nil (h : Spaced [] text) : skipBlank text = [] := by
  cases h with
  | blanks hblanks => exact List.dropWhile_eq_nil_iff.mpr (List.all_eq_true.mp hblanks)

/-! ### Escapes -/

def readBehind (c : Char) (rest : List Char) : Except Fault (List Char × List Char) := do
  let (contents, rest) ← readContents .plain rest
  .ok (c :: contents, rest)

theorem hexValue?_digitChar {digit : Nat} (h : digit < 16) :
    hexValue? (Nat.digitChar digit) = some digit := by
  decide +revert

theorem utf8Size_digitChar {digit : Nat} (h : digit < 16) :
    (Nat.digitChar digit).utf8Size = 1 := by
  decide +revert

/-- A digit of four is added to the value of those before. -/
theorem readContents_digit {seen value digit : Nat} (hseen : seen < 3) (hdigit : digit < 16) :
    readContents (.hex none seen (some value)) (Nat.digitChar digit :: rest) =
      readContents (.hex none (seen + 1) (some (value * 16 + digit))) rest := by
  have hmore : seen + 1 < 4 := by omega
  simp only [readContents, utf8Size_digitChar hdigit, hexValue?_digitChar hdigit, if_pos hmore]
  rfl

/-- The last of four digits completes a character, unless it would be a surrogate. -/
theorem readContents_lastDigit {value digit : Nat} (hdigit : digit < 16)
    (hunit : value * 16 + digit < 0xD800) :
    readContents (.hex none 3 (some value)) (Nat.digitChar digit :: rest) =
      readBehind (Char.ofNat (value * 16 + digit)) rest := by
  have hlow : isLowSurrogate (value * 16 + digit) = false := by
    simp [isLowSurrogate]
    omega
  have hhigh : isHighSurrogate (value * 16 + digit) = false := by
    simp [isHighSurrogate]
    omega
  simp [readContents, utf8Size_digitChar hdigit, hexValue?_digitChar hdigit, hlow, hhigh,
    readBehind]

/-- The four digits of a control character are read as that character. -/
theorem readContents_control (h : c.toNat < 32) :
    readContents (.hex none 0 (some 0)) ('0' :: '0' :: Nat.digitChar (c.toNat / 16 % 16) ::
      Nat.digitChar (c.toNat % 16) :: rest) = readBehind c rest := by
  have hunit : c.toNat / 16 % 16 * 16 + c.toNat % 16 = c.toNat := by omega
  rw [show '0' = Nat.digitChar 0 from rfl, readContents_digit (by omega) (by omega),
    readContents_digit (by omega) (by omega), readContents_digit (by omega) (by omega)]
  simp only [Nat.zero_mul, Nat.zero_add]
  rw [readContents_lastDigit (by omega) (by omega), hunit, Char.ofNat_toNat]

/-- Escaped or not, a character is read as itself. -/
theorem readContents_escape (c : Char) (rest : List Char) :
    readContents .plain (escape c ++ rest) = readBehind c rest := by
  -- Seven characters have an escape of one letter; the other control characters take four digits.
  fun_cases escape c with
  | case1 | case2 | case3 | case4 | case5 | case6 | case7 =>
    subst_vars
    rfl
  | case8 _ _ _ _ _ _ _ hcontrol => exact readContents_control hcontrol
  | case9 hquote hbackslash _ _ _ _ _ hcontrol =>
    rw [List.singleton_append, readContents, if_neg hquote, if_neg hbackslash, if_neg hcontrol]
    rfl

/-- String contents are read up to the quote behind them. -/
theorem readContents_flatMap_escape (contents rest : List Char) :
    readContents .plain (contents.flatMap escape ++ '"' :: rest) = .ok (contents, rest) := by
  induction contents with
  | nil => rfl
  | cons c contents ih =>
    rw [List.flatMap_cons, List.append_assoc, readContents_escape, readBehind, ih]
    rfl

/-! ### Readers -/

theorem toList_quote (text : String) :
    (quote text).toList = '"' :: (text.toList.flatMap escape ++ ['"']) := by
  simp [quote]

theorem Spaced.exists_quote {string : String} (h : Spaced ((quote string).toList :: tokens) text) :
    ∃ quoted rest, skipBlank text = '"' :: quoted ∧ readString quoted = .ok (string, rest) ∧
      Spaced tokens rest := by
  rw [toList_quote] at h
  obtain ⟨rest, hskip, hrest⟩ := h.exists_skipBlank_eq (by decide)
  refine ⟨_, rest, hskip, ?_, hrest⟩
  rw [readString, List.append_assoc, List.singleton_append, readContents_flatMap_escape]
  simp [bind, Except.bind]

theorem Spaced.exists_readText {string : String}
    (h : Spaced ((quote string).toList :: tokens) text) :
    ∃ rest, readText text = .ok (string, rest) ∧ Spaced tokens rest := by
  obtain ⟨quoted, rest, hskip, hread, hrest⟩ := h.exists_quote
  refine ⟨rest, ?_, hrest⟩
  rw [readText, hskip]
  exact hread

theorem Spaced.exists_readColon (h : Spaced ([':'] :: tokens) text) :
    ∃ rest, readColon text = .ok ((), rest) ∧ Spaced tokens rest := by
  obtain ⟨rest, hskip, hrest⟩ := h.exists_skipBlank_eq (by decide)
  refine ⟨rest, ?_, hrest⟩
  rw [readColon, hskip]
  rfl

/-- An object whose only member is a variant with its payload is read as what the payload is. -/
theorem Spaced.exists_readVariant {α : Type} {variants : List String}
    {bare : String → Except Cause α} {payload : String → Reader α} {variant : String}
    {content : Json} {value : α} (hvariant : variant ∈ variants)
    (hpayload : ∀ {tokens : List (List Char)} {text : List Char},
      Spaced (content.tokens ++ tokens) text →
        ∃ rest, payload variant text = .ok (value, rest) ∧ Spaced tokens rest)
    (h : Spaced (Json.obj [(variant, content)]).tokens text) :
    ∃ rest, readVariant variants bare payload text = .ok (value, rest) ∧ Spaced [] rest := by
  simp only [Json.tokens, memberTokens, List.cons_append] at h
  -- From brace to brace, each token stands in front of what the one before leaves.
  obtain ⟨inner, hopening, hinner⟩ := h.exists_skipBlank_eq (by decide)
  obtain ⟨quoted, named, hquote, hname, hnamed⟩ := hinner.exists_quote
  obtain ⟨valued, hcolon, hvalued⟩ := hnamed.exists_readColon
  obtain ⟨behind, hvalue, hbehind⟩ := hpayload hvalued
  obtain ⟨rest, hclosing, hrest⟩ := hbehind.exists_skipBlank_eq (by decide)
  refine ⟨rest, ?_, hrest⟩
  simp only [readVariant, hopening, List.nil_append, hquote, hname, bind, Except.bind,
    if_pos hvariant, hcolon, hvalue, hclosing]

end Json

/-! ### Errors -/

namespace Error

theorem reader_of_spaced {error : Error} {text : List Char}
    (h : Json.Spaced error.toJson.tokens text) :
    ∃ rest, reader text = .ok (error, rest) ∧ Json.Spaced [] rest := by
  have hkind : error.kind.name ∈ ErrorKind.all.map ErrorKind.name := by
    cases error.kind <;> decide
  refine Json.Spaced.exists_readVariant hkind ?_ h
  intro tokens text hmessage
  obtain ⟨rest, hread, hrest⟩ := Json.Spaced.exists_readText hmessage
  refine ⟨rest, ?_, hrest⟩
  rw [hread, ErrorKind.ofName?_name]
  rfl

/-- Errors survive the wire. The rendered form of an error is its kind with its message, as the
only member of an object; reading that text gives the error back, and so does reading the same
tokens with any blanks before, between and behind them. -/
theorem parse_written (error : Error) :
    error.toJson.render =
        "\x7b" ++ Json.quote error.kind.name ++ ":" ++ Json.quote error.message ++ "\x7d" ∧
      parse error.toJson.render = .ok error ∧
      ∀ text : String, Json.Writes text error.toJson → parse text = .ok error := by
  have hparse (text : String) (h : Json.Writes text error.toJson) : parse text = .ok error := by
    obtain ⟨rest, hread, hrest⟩ := reader_of_spaced h
    rw [parse, Json.decode_of_reader hread hrest.skipBlank_eq_nil]
    rfl
  refine ⟨?_, hparse _ (Json.writes_render _), hparse⟩
  simp [toJson, Json.render, Json.renderMembers, String.append_assoc]

/-- A message with a quote, a backslash, two control characters and a character beyond U+FFFF, in a
text with blanks around its tokens. -/
theorem parse_written_with_blanks :
    parse " \x7b\"NothingMatched\"\t:\n\"\\\"\\\\\\n\\u0001𝄞é\" \x7d\r\n" =
      .ok ⟨.nothingMatched, "\"\\\n\x01𝄞é"⟩ := by
  refine (parse_written ⟨.nothingMatched, "\"\\\n\x01𝄞é"⟩).2.2 _ ?_
  simp only [Json.Writes, toJson, Json.tokens, Json.memberTokens, Json.render, Json.toList_quote,
    String.reduceToList]
  exact
    .token (rfl : [' '].all Json.isBlank = true) <|
    .token (rfl : [].all Json.isBlank = true) <|
    .token (rfl : ['\t'].all Json.isBlank = true) <|
    .token (rfl : ['\n'].all Json.isBlank = true) <|
    .token (rfl : [' '].all Json.isBlank = true) <|
    .blanks (rfl : ['\r', '\n'].all Json.isBlank = true)

end Error

end PathCall
