import PathCall.Json.Typed
import PathCall.Proofs.Json.Remainder

/-!
Reading a text straight into a wanted shape, beside reading it as a value of any kind. Wherever a
value can be read, the reader of texts takes the text that the value is and leaves the same rest,
and it refuses a value that is no text. What so holds of a reader holds of reading arrays with it.
-/

namespace PathCall.Json

variable {α : Type}

/-- The outcome of a reader in front of a value: what is shown of the value, with `rest` left, or a
fault if nothing is shown. -/
inductive Shows (rest : List Char) : Option α → Except Fault (α × List Char) → Prop where
  | shown (value : α) : Shows rest (some value) (.ok (value, rest))
  | refused (fault : Fault) : Shows rest none (.error fault)

/-- Wherever a value can be read, the reader takes what the view shows of it. -/
def ReadsView (room : Nat) (reader : Reader α) (view? : Json → Option α) : Prop :=
  ∀ {text : List Char} {value : Json} {rest : List Char},
    readValue room text = .ok (value, rest) → Shows rest (view? value) (reader text)

/-! ### Texts -/

def isNumber : Json → Bool
  | .int _ | .float _ => true
  | _ => false

theorem text?_of_isNumber {value : Json} (h : value.isNumber = true) : value.text? = none := by
  cases value <;> first | rfl | cases h

theorem floatOf_isNumber {negative : Bool} {significand : Nat} {exponent : Int}
    {text rest : List Char} {value : Json}
    (h : floatOf negative significand exponent text = .ok (value, rest)) :
    value.isNumber = true := by
  unfold floatOf at h
  split at h
  · cases h
    rfl
  · cases h

theorem readExponent_isNumber {negative : Bool} {significand : Nat} {exponent : Int}
    {text rest : List Char} {value : Json}
    (h : readExponent negative significand exponent text = .ok (value, rest)) :
    value.isNumber = true := by
  revert h
  fun_cases readExponent negative significand exponent text with
  | case1 | case2 =>
    intro h
    cases h
  | case3 =>
    intro h
    rename_i hexponent hsign hspan
    cases hspan
    simp only [hexponent] at h
    exact floatOf_isNumber h
  | case4 =>
    intro h
    rename_i hexponent hrange hsign hspan
    cases hspan
    simp only [hexponent, if_pos hrange] at h
    cases h
  | case5 =>
    intro h
    rename_i hexponent hrange hsign hspan
    cases hspan
    simp only [hexponent, if_neg hrange] at h
    exact floatOf_isNumber h

theorem readFraction_isNumber {negative : Bool} {digits text rest : List Char} {value : Json}
    (h : readFraction negative digits text = .ok (value, rest)) : value.isNumber = true := by
  revert h
  fun_cases readFraction negative digits text with
  | case1 | case2 =>
    intro h
    cases h
  | case3 | case4 | case6 | case7 => exact readExponent_isNumber
  | case5 | case8 | case10 => exact floatOf_isNumber
  | case9 | case11 =>
    intro h
    cases h
    rfl

theorem readNumber_isNumber {negative : Bool} {text rest : List Char} {value : Json}
    (h : readNumber negative text = .ok (value, rest)) : value.isNumber = true := by
  revert h
  fun_cases readNumber negative text with
  | case1 | case3 | case5 =>
    intro h
    cases h
  | case2 | case4 | case6 => exact readFraction_isNumber

theorem eq_of_readLiteral {literal : Json} {word text rest : List Char} {value : Json}
    (h : readLiteral literal word text = .ok (value, rest)) : value = literal := by
  fun_induction readLiteral literal word text with
  | case1 =>
    cases h
    rfl
  | case3 _ _ _ ih => exact ih h
  | case2 | case4 => cases h

/-- A value that does not begin with a quote is no text. -/
theorem text?_of_readScalar {text rest : List Char} {value : Json}
    (h : readScalar text = .ok (value, rest)) (hquote : ∀ contents, text ≠ '"' :: contents) :
    value.text? = none := by
  revert h
  fun_cases readScalar text with
  | case1 | case8 =>
    intro h
    cases h
  | case2 | case3 | case4 =>
    intro h
    rw [eq_of_readLiteral h]
    rfl
  | case5 contents => exact absurd rfl (hquote contents)
  | case6 | case7 => exact fun h => text?_of_isNumber (readNumber_isNumber h)

theorem shows_refuse {rest : List Char} (expected : String) (text : List Char) :
    Shows rest (none : Option α) (refuse expected text) := by
  unfold refuse
  split
  · exact .refused _
  · exact .refused _
  · cases readScalar text with
    | error fault => exact .refused fault
    | ok read => exact .refused _

theorem readText_readsView (room : Nat) : ReadsView room readText text? := by
  intro text value rest h
  have hread := readFrom_of_readValue h
  unfold readText
  generalize skipBlank text = shown at *
  cases hread with
  | scalar hscalar =>
    split
    · cases hscalar
    · obtain ⟨⟨contents, left⟩, hstring, hresult⟩ := exists_of_bind_eq_ok hscalar
      cases hresult
      rw [hstring]
      exact .shown contents
    · rename_i hquote
      rw [text?_of_readScalar hscalar hquote]
      exact shows_refuse _ _
  | arr hitems => exact shows_refuse _ _
  | obj hmembers => exact shows_refuse _ _

/-! ### Arrays -/

theorem Shows.cons {behind rest : List Char} {seen : Option α} {views : Option (List α)}
    {read : Except Fault (α × List Char)} {next : Reader (List α)} (hfirst : Shows behind seen read)
    (hothers : Shows rest views (next behind)) :
    Shows rest (do return (← seen) :: (← views))
      (do
        let (value, text) ← read
        let (values, text) ← next text
        .ok (value :: values, text)) := by
  cases hfirst with
  | refused fault => exact .refused fault
  | shown value =>
    change Shows rest _ (next behind >>= _)
    generalize next behind = reads at hothers
    cases hothers with
    | refused fault => exact .refused fault
    | shown values => exact .shown (value :: values)

/-- If a reader takes what a view shows of the values, then it takes the elements of an array so. -/
theorem readElements_shows {room : Nat} {reader : Reader α} {view? : Json → Option α}
    (hview : ReadsView room reader view?) {fuel : Nat} {first : Bool} {text rest : List Char}
    {items : List Json} (h : readElements (readValue room) fuel first text = .ok (items, rest)) :
    Shows rest (items.mapM view?) (readElements reader fuel first text) := by
  induction fuel generalizing first text items with
  | zero => cases h
  | succ fuel ih =>
    obtain ⟨step, hstep, hnext⟩ := exists_of_bind_eq_ok h
    rw [readElements, hstep]
    cases step with
    | closed left =>
      cases hnext
      exact .shown []
    | element text =>
      obtain ⟨⟨value, behind⟩, hvalue, hmore⟩ := exists_of_bind_eq_ok hnext
      obtain ⟨⟨others, left⟩, hothers, hresult⟩ := exists_of_bind_eq_ok hmore
      cases hresult
      rw [List.mapM_cons]
      exact (hview hvalue).cons (ih hothers)

end PathCall.Json
