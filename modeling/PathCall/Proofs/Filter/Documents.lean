import Mathlib.Data.List.Induction
import Mathlib.Data.List.TakeWhile
import PathCall.Proofs.Filter.Caching
import PathCall.Proofs.Filter.Tree
import PathCall.Proofs.Json.Remainder

/-!
Which documents a parser of objects and arrays accepts. Before a document is decoded its first and
its last character are looked at, each by itself. That check refuses no document that decodes to an
object or an array, and no other value passes it; so a document is accepted exactly if it is empty
or decodes to one of these two, and they shape the root of its tree.
-/

namespace PathCall

namespace Text

theorem eq_false_of_head?_trimBy {p : Char → Bool} {text : List Char} {c : Char}
    (h : (trimBy p text).head? = some c) : p c = false := by
  have hfront : trimBy p text <+: text.dropWhile p := by
    have hend : (text.dropWhile p).reverse.dropWhile p <:+ (text.dropWhile p).reverse :=
      List.dropWhile_suffix p
    simpa [trimBy] using List.reverse_prefix.mpr hend
  obtain ⟨rest, hrest⟩ := hfront
  have hhead : (text.dropWhile p).head? = some c := by
    rw [← hrest, List.head?_append, h, Option.some_or]
  have hnot := List.head?_dropWhile_not p text
  rwa [hhead] at hnot

theorem eq_false_of_getLast?_trimBy {p : Char → Bool} {text : List Char} {c : Char}
    (h : (trimBy p text).getLast? = some c) : p c = false := by
  rw [trimBy, List.getLast?_reverse] at h
  have hnot := List.head?_dropWhile_not p (text.dropWhile p).reverse
  rwa [h] at hnot

end Text

namespace Json

/-- The blanks of JSON are white space. -/
theorem isBlank_le {c : Char} (h : isBlank c = true) : Text.isBlank c = true := by
  simp only [isBlank, Bool.or_eq_true, beq_iff_eq] at h
  rcases h with ((rfl | rfl) | rfl) | rfl <;> decide

structure IsTrimmed (text : List Char) : Prop where
  first : ∀ c, text.head? = some c → isBlank c = false
  last : ∀ c, text.getLast? = some c → isBlank c = false

theorem isTrimmed_trim (text : String) : IsTrimmed (Text.trim text).toList where
  first c h := by
    rw [Text.trim, String.toList_ofList] at h
    exact Bool.eq_false_iff.mpr fun hblank =>
      absurd (isBlank_le hblank) (by simp [Text.eq_false_of_head?_trimBy h])
  last c h := by
    rw [Text.trim, String.toList_ofList] at h
    exact Bool.eq_false_iff.mpr fun hblank =>
      absurd (isBlank_le hblank) (by simp [Text.eq_false_of_getLast?_trimBy h])

theorem IsTrimmed.skipBlank_eq {text : List Char} (h : IsTrimmed text) : skipBlank text = text := by
  cases text with
  | nil => rfl
  | cons c rest => simp [skipBlank, h.first c rfl]

/-- What ends a trimmed text and is all blank is nothing. -/
theorem IsTrimmed.eq_nil_of_suffix {text rest : List Char} (h : IsTrimmed text)
    (hsuffix : rest <:+ text) (hblank : skipBlank rest = []) : rest = [] := by
  rcases List.eq_nil_or_concat rest with rfl | ⟨front, c, rfl⟩
  · rfl
  · obtain ⟨before, rfl⟩ := hsuffix
    have hlast : isBlank c = false := h.last c (by simp [List.getLast?_append])
    have hall : isBlank c = true := List.dropWhile_eq_nil_iff.mp hblank c (by simp)
    rw [hlast] at hall
    cases hall

/-- A trimmed text is read up to its end. -/
theorem IsTrimmed.readFrom {document : String} (h : IsTrimmed document.toList) {value : Json}
    (hvalue : parse document = .ok value) : ReadFrom maxNesting document.toList value [] := by
  obtain ⟨rest, hread, hblank⟩ := exists_of_decode_eq_ok hvalue
  obtain rfl := h.eq_nil_of_suffix (readValue_suffix _ hread) hblank
  exact h.skipBlank_eq ▸ readFrom_of_readValue hread

end Json

namespace Filter

def opens (text : List Char) : Bool := text.head?.any fun c => c == '[' || c == '\x7b'

def closes (text : List Char) : Bool := text.getLast?.any fun c => c == ']' || c == '\x7d'

theorem not_opens_of_readScalar {text rest : List Char} {value : Json}
    (h : Json.readScalar text = .ok (value, rest)) : opens text = false := by
  cases text with
  | nil => rfl
  | cons c text =>
    refine Bool.eq_false_iff.mpr fun hopens => ?_
    simp only [opens, List.head?_cons, Option.any_some, Bool.or_eq_true, beq_iff_eq] at hopens
    rcases hopens with rfl | rfl <;> cases h

/-- Arrays and objects pass the look at the first and the last character. -/
theorem opens_closes_of_readFrom {room : Nat} {text : List Char} {value : Json}
    (h : Json.ReadFrom room text value []) (hnested : value.isNested = true) :
    opens text = true ∧ closes text = true := by
  cases value with
  | arr items =>
    obtain ⟨inner, rfl, front, rfl⟩ := h.bracketed rfl
    refine ⟨rfl, ?_⟩
    rw [closes, ← List.cons_append, List.getLast?_concat]
    rfl
  | obj members =>
    obtain ⟨inner, rfl, front, rfl⟩ := h.bracketed rfl
    refine ⟨rfl, ?_⟩
    rw [closes, ← List.cons_append, List.getLast?_concat]
    rfl
  | _ => cases hnested

/-- No other value passes it. -/
theorem not_opens_of_readFrom {room : Nat} {text rest : List Char} {value : Json}
    (h : Json.ReadFrom room text value rest) (hplain : value.isNested = false) :
    opens text = false := by
  cases h with
  | scalar hscalar => exact not_opens_of_readScalar hscalar
  | arr => cases hplain
  | obj => cases hplain

/-- A trimmed document that decodes to an array or an object has the tree of that value, unless the
dialect refuses the alternatives in it. -/
theorem parseDocument_eq_accept {dialect : Dialect} (hconjunctions : dialect.conjunctions = true)
    {keys : Blacklist} {document : String} {value : Json}
    (htrimmed : Json.IsTrimmed document.toList) (hvalue : Json.parse document = .ok value)
    (hnested : value.isNested = true) :
    parseDocument dialect keys document =
      dialect.accept (treeOf keys none value).hasAlternatives (treeOf keys none value) := by
  obtain ⟨hopens, hcloses⟩ := opens_closes_of_readFrom (htrimmed.readFrom hvalue) hnested
  unfold opens at hopens
  unfold closes at hcloses
  have hparse : parse dialect keys none value =
      dialect.accept (treeOf keys none value).hasAlternatives (some (treeOf keys none value)) :=
    parse_eq_accept hconjunctions none value
  simp only [parseDocument, parseDocumentWith, hopens, hcloses, hvalue, hparse, Bool.not_true, Bool.or_self,
    Bool.false_eq_true, if_false]
  unfold Dialect.accept
  split <;> rfl

theorem parseDocument_of_isNested {keys : Blacklist} {document : String} {value : Json}
    (htrimmed : Json.IsTrimmed document.toList) (hvalue : Json.parse document = .ok value)
    (hnested : value.isNested = true) :
    parseDocument .tree keys document = .ok (treeOf keys none value) :=
  parseDocument_eq_accept rfl htrimmed hvalue hnested

/-- How a document is refused: before or while it is decoded, and never for want of a tree. -/
def Refused (result : Except Error Node) : Prop :=
  ∃ error, result = .error error ∧ error.kind = .inputValidation ∧
    error.message ≠ "Failed to parse filter definition given"

theorem Refused.ne_ok {result : Except Error Node} (h : Refused result) (node : Node) :
    result ≠ .ok node := by
  obtain ⟨error, rfl, -⟩ := h
  simp

/-- A message that names the decoder's is none about a missing tree. -/
theorem decodeMessage_ne (message : String) :
    "Failed to decode filter definition given: " ++ message ≠
      "Failed to parse filter definition given" := by
  intro h
  have hchars := congrArg (fun text : String => text.toList[10]?) h
  simp at hchars

/-- Every other document is refused. -/
theorem refused_of_not_isNested {keys : Blacklist} {document : String}
    (htrimmed : Json.IsTrimmed document.toList)
    (h : ∀ value, Json.parse document = .ok value → value.isNested = false) :
    Refused (parseDocument .tree keys document) := by
  cases hshape : opens document.toList && closes document.toList with
  | false =>
    have hcheck : (!opens document.toList || !closes document.toList) = true := by
      rw [← Bool.not_and, hshape]
      rfl
    exact ⟨_, if_pos hcheck, rfl, by decide⟩
  | true =>
    obtain ⟨hopens, hcloses⟩ := Bool.and_eq_true_iff.mp hshape
    cases hparse : Json.parse document with
    | ok value =>
      have hnot := not_opens_of_readFrom (htrimmed.readFrom hparse) (h value hparse)
      rw [hopens] at hnot
      cases hnot
    | error message =>
      have hcheck : ¬(!opens document.toList || !closes document.toList) = true := by
        simp [hopens, hcloses]
      have hdecode : parseDocument .tree keys document = .error ⟨.inputValidation,
          "Failed to decode filter definition given: " ++ message⟩ :=
        (if_neg hcheck).trans (by rw [hparse]; rfl)
      exact ⟨_, hdecode, rfl, decodeMessage_ne message⟩

namespace Parser

/-- The parser after it was asked for its filter under each of the lists. -/
def asked (parser : Parser) (earlier : List Blacklist) : Parser :=
  earlier.foldl (fun parser keys => (parser.filter keys).2) parser

/-- Asking changes a parser only by a tree that it yielded on the way. -/
theorem asked_cases (parser : Parser) (earlier : List Blacklist) :
    parser.asked earlier = parser ∨
      ∃ keys node, (parser.filter keys).1 = .ok node ∧
        parser.asked earlier = { parser with cached := some node } := by
  induction earlier using List.reverseRecOn with
  | nil => exact .inl rfl
  | append_singleton earlier keys ih =>
    have hlast : parser.asked (earlier ++ [keys]) = ((parser.asked earlier).filter keys).2 := by
      rw [asked, List.foldl_append]
      rfl
    rw [hlast]
    rcases ih with hsame | ⟨before, node, hnode, hremembers⟩
    · rw [hsame]
      rcases parser.filter_cases keys with ⟨node, hfilter⟩ | ⟨error, hfilter⟩
      · exact .inr ⟨keys, node, by rw [hfilter], by rw [hfilter]⟩
      · exact .inl (by rw [hfilter])
    · refine .inr ⟨before, node, hnode, ?_⟩
      rw [hremembers, filter_of_cached rfl]

end Parser

/-- A document without its white space that stands for a condition tree. -/
def Accepted (document : String) : Prop :=
  document = "" ∨ ∃ value, Json.parse document = .ok value ∧ value.isNested = true

/-- The root that a document gives its tree: conditions that all hold for an empty document and for
an object, alternatives without a key for an array. -/
inductive Roots (document : String) : Node → Prop where
  | empty {conditions : List (String × Option Node)} :
      document = "" → Roots document (.all conditions)
  | obj {members : List (String × Json)} {conditions : List (String × Option Node)} :
      Json.parse document = .ok (.obj members) → Roots document (.all conditions)
  | arr {items : List Json} {alternatives : List Node} :
      Json.parse document = .ok (.arr items) → Roots document (.any none alternatives)

theorem roots_treeOf {keys : Blacklist} {document : String} {value : Json}
    (hvalue : Json.parse document = .ok value) (hnested : value.isNested = true) :
    Roots document (treeOf keys none value) := by
  cases value with
  | arr items => exact .arr hvalue
  | obj members => exact .obj hvalue
  | _ => cases hnested

namespace Parser

theorem filter_made_of_accepted {text : String} (h : Accepted (Text.trim text))
    (keys : Blacklist) :
    ∃ node, ((made .tree text).filter keys).1 = .ok node ∧ Roots (Text.trim text) node := by
  rw [filter_made]
  by_cases hempty : Text.trim text = ""
  · exact ⟨.empty, by simp [hempty], .empty hempty⟩
  · obtain ⟨value, hvalue, hnested⟩ := h.resolve_left hempty
    refine ⟨treeOf keys none value, ?_, roots_treeOf hvalue hnested⟩
    rw [if_neg (by simpa using hempty)]
    exact parseDocument_of_isNested (Json.isTrimmed_trim text) hvalue hnested

theorem filter_made_of_not_accepted {text : String} (h : ¬Accepted (Text.trim text))
    (keys : Blacklist) : Refused ((made .tree text).filter keys).1 := by
  obtain ⟨hempty, hplain⟩ := not_or.mp h
  rw [filter_made, if_neg (by simpa using hempty)]
  refine refused_of_not_isNested (Json.isTrimmed_trim text) fun value hvalue => ?_
  exact Bool.eq_false_iff.mpr fun hnested => hplain ⟨value, hvalue, hnested⟩

/-- Which documents a parser of objects and arrays accepts. It can be made for every text. Whenever
it is asked for its filter, under whatever list and after whatever it was asked before, it has one
exactly if the text without the white space around it is empty or decodes to an object or an array,
and the root of the filter is as these say. Every other document is refused as invalid input, but
never because its value would have no tree. -/
theorem accepts_objects_and_arrays (text : String) :
    ∃ parser, Parser.create .tree text = .ok parser ∧
      ∀ (earlier : List Blacklist) (keys : Blacklist),
        let document := Text.trim text
        let result := ((parser.asked earlier).filter keys).1
        ((∃ node, result = .ok node) ↔ Accepted document) ∧
        (∀ node, result = .ok node → Roots document node) ∧
        (¬Accepted document → Refused result) := by
  refine ⟨made .tree text, create_kind .tree text, fun earlier keys => ?_⟩
  -- A tree that was yielded on the way counts as the answer under the list of that moment.
  obtain ⟨moment, hmoment⟩ : ∃ moment,
      (((made .tree text).asked earlier).filter keys).1 = ((made .tree text).filter moment).1 := by
    rcases asked_cases (made .tree text) earlier with hsame | ⟨before, node, hnode, hremembers⟩
    · exact ⟨keys, by rw [hsame]⟩
    · exact ⟨before, by rw [hremembers, filter_of_cached rfl, hnode]⟩
  intro document result
  have hresult : result = ((made .tree text).filter moment).1 := hmoment
  by_cases haccepted : Accepted document
  · obtain ⟨node, hnode, hroots⟩ := filter_made_of_accepted haccepted moment
    rw [← hresult] at hnode
    refine ⟨⟨fun _ => haccepted, fun _ => ⟨node, hnode⟩⟩, fun other hother => ?_,
      fun hnot => absurd haccepted hnot⟩
    rw [hnode] at hother
    exact Except.ok.inj hother ▸ hroots
  · have hrefused : Refused result := hresult ▸ filter_made_of_not_accepted haccepted moment
    exact ⟨⟨fun ⟨node, hnode⟩ => absurd hnode (hrefused.ne_ok node), fun h => absurd h haccepted⟩,
      fun node hnode => absurd hnode (hrefused.ne_ok node), fun _ => hrefused⟩

end Parser

end Filter

end PathCall
