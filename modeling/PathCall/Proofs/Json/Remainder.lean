import PathCall.Json.Reader

/-!
What the readers of JSON texts leave unread. A reader only takes from the front, so what it leaves
is the end of what it was given. Behind an array or an object that end begins right after the
closing bracket, which is what ties the last character of a text to the value that it holds.
-/

namespace PathCall.Json

variable {α β : Type}

/-- A computation that goes on has a result only if its first part has one. -/
theorem exists_of_bind_eq_ok {first : Except Fault α} {next : α → Except Fault β} {result : β}
    (h : (first >>= next) = .ok result) : ∃ value, first = .ok value ∧ next value = .ok result := by
  cases first with
  | error fault => cases h
  | ok value => exact ⟨value, rfl, h⟩

/-- What the reader leaves unread is the end of what it was given. -/
def LeavesEnd (reader : Reader α) : Prop :=
  ∀ {text : List Char} {value : α} {rest : List Char},
    reader text = .ok (value, rest) → rest <:+ text

theorem skipBlank_suffix {text rest : List Char} (h : skipBlank text = rest) : rest <:+ text := by
  rw [← h]
  exact List.dropWhile_suffix isBlank

/-! ### Whole texts -/

theorem exists_of_decode_eq_ok {reader : Reader α} {text : String} {result : α}
    (h : decode reader text = .ok result) :
    ∃ rest, reader text.toList = .ok (result, rest) ∧ skipBlank rest = [] := by
  unfold decode at h
  split at h
  · rename_i hwhole
    cases h
    obtain ⟨⟨read, rest⟩, hread, hend⟩ := exists_of_bind_eq_ok hwhole
    dsimp only at hend
    split at hend
    · cases hend
      exact ⟨rest, hread, ‹_›⟩
    · cases hend
  · cases h

theorem decode_of_reader {reader : Reader α} {text : String} {rest : List Char} {result : α}
    (h : reader text.toList = .ok (result, rest)) (hrest : skipBlank rest = []) :
    decode reader text = .ok result := by
  have hwhole : readWhole reader text.toList = .ok result := by
    rw [readWhole, h]
    simp only [bind, Except.bind, hrest]
  rw [decode, hwhole]

theorem decode_of_reader_error {reader : Reader α} {text : String} {fault : Fault}
    (h : reader text.toList = .error fault) : ∃ message, decode reader text = .error message := by
  have hwhole : readWhole reader text.toList = .error fault := by
    rw [readWhole, h]
    rfl
  exact ⟨_, by rw [decode, hwhole]⟩

/-! ### Strings -/

/-- Putting a character in front of what was read does not touch what was left. -/
theorem suffix_of_prepended {c : Char} {read : Except Fault (List Char × List Char)}
    {text contents rest : List Char}
    (hread : ∀ {contents}, read = .ok (contents, rest) → rest <:+ text)
    (h : (do let (contents, rest) ← read; .ok (c :: contents, rest)) = .ok (contents, rest)) :
    rest <:+ text := by
  obtain ⟨⟨more, left⟩, hmore, hresult⟩ := exists_of_bind_eq_ok h
  cases hresult
  exact hread hmore

theorem readContents_suffix {state : StringState} {text contents rest : List Char}
    (h : readContents state text = .ok (contents, rest)) : rest <:+ text := by
  -- A character ends the string or makes it fail, leads to another state, or adds to the contents.
  fun_induction readContents state text generalizing contents with
  | case2 =>
    cases h
    exact List.suffix_cons _ _
  | case1 | case4 | case8 | case10 | case11 | case15 | case17 | case19 => cases h
  | case3 | case6 | case9 | case12 | case16 | case18 =>
    rename_i ih
    exact (ih h).trans (List.suffix_cons _ _)
  | case5 | case7 | case13 | case14 =>
    rename_i ih
    exact (suffix_of_prepended ih h).trans (List.suffix_cons _ _)

theorem readString_suffix : LeavesEnd readString := by
  intro text value rest h
  obtain ⟨⟨contents, left⟩, hcontents, hresult⟩ := exists_of_bind_eq_ok h
  cases hresult
  exact readContents_suffix hcontents

/-! ### Values that nest no others -/

/-- A reader took a value that nests no others, and left the end of the text. -/
structure ScalarRead (text : List Char) (value : Json) (rest : List Char) : Prop where
  plain : value.isNested = false
  suffix : rest <:+ text

theorem ScalarRead.of_suffix {text shorter rest : List Char} {value : Json}
    (h : ScalarRead shorter value rest) (hshorter : shorter <:+ text) :
    ScalarRead text value rest :=
  ⟨h.plain, h.suffix.trans hshorter⟩

theorem readLiteral_scalarRead {literal : Json} (hliteral : literal.isNested = false)
    {word text rest : List Char} {value : Json}
    (h : readLiteral literal word text = .ok (value, rest)) : ScalarRead text value rest := by
  fun_induction readLiteral literal word text with
  | case1 =>
    cases h
    exact ⟨hliteral, List.suffix_rfl⟩
  | case3 _ _ _ ih => exact (ih h).of_suffix (List.suffix_cons _ _)
  | case2 | case4 => cases h

theorem floatOf_scalarRead {negative : Bool} {significand : Nat} {exponent : Int}
    {text rest : List Char} {value : Json}
    (h : floatOf negative significand exponent text = .ok (value, rest)) :
    ScalarRead text value rest := by
  unfold floatOf at h
  split at h
  · cases h
    exact ⟨rfl, List.suffix_rfl⟩
  · cases h

theorem suffix_of_sign {text digits : List Char} {down : Bool}
    (h : (match text with
      | '+' :: rest => (false, rest)
      | '-' :: rest => (true, rest)
      | text => (false, text)) = (down, digits)) : digits <:+ text := by
  split at h
  all_goals
    cases h
    simp

theorem spanDigits_suffix {text digits rest : List Char} (h : spanDigits text = (digits, rest)) :
    rest <:+ text := by
  cases h
  exact List.dropWhile_suffix _

theorem readExponent_scalarRead {negative : Bool} {significand : Nat} {exponent : Int}
    {text rest : List Char} {value : Json}
    (h : readExponent negative significand exponent text = .ok (value, rest)) :
    ScalarRead text value rest := by
  revert h
  fun_cases readExponent negative significand exponent text with
  | case1 | case2 =>
    intro h
    cases h
  | case3 =>
    intro h
    rename_i hexponent hsign hspan
    have hdigits := (spanDigits_suffix hspan).trans (suffix_of_sign hsign)
    cases hspan
    simp only [hexponent] at h
    exact (floatOf_scalarRead h).of_suffix hdigits
  | case4 =>
    intro h
    rename_i hexponent hrange hsign hspan
    cases hspan
    simp only [hexponent, if_pos hrange] at h
    cases h
  | case5 =>
    intro h
    rename_i hexponent hrange hsign hspan
    have hdigits := (spanDigits_suffix hspan).trans (suffix_of_sign hsign)
    cases hspan
    simp only [hexponent, if_neg hrange] at h
    exact (floatOf_scalarRead h).of_suffix hdigits

theorem readFraction_scalarRead {negative : Bool} {digits text rest : List Char} {value : Json}
    (h : readFraction negative digits text = .ok (value, rest)) : ScalarRead text value rest := by
  revert h
  fun_cases readFraction negative digits text with
  | case1 | case2 =>
    intro h
    cases h
  | case3 | case4 =>
    intro h
    rename_i hspan
    have hexponent := (List.suffix_cons _ _).trans (spanDigits_suffix hspan)
    exact (readExponent_scalarRead h).of_suffix (hexponent.trans (List.suffix_cons _ _))
  | case5 =>
    intro h
    rename_i hspan
    exact (floatOf_scalarRead h).of_suffix
      ((spanDigits_suffix hspan).trans (List.suffix_cons _ _))
  | case6 | case7 => exact fun h => (readExponent_scalarRead h).of_suffix (List.suffix_cons _ _)
  | case8 | case10 => exact floatOf_scalarRead
  | case9 | case11 =>
    intro h
    cases h
    exact ⟨rfl, List.suffix_rfl⟩

theorem readNumber_scalarRead {negative : Bool} {text rest : List Char} {value : Json}
    (h : readNumber negative text = .ok (value, rest)) : ScalarRead text value rest := by
  revert h
  fun_cases readNumber negative text with
  | case1 | case3 | case5 =>
    intro h
    cases h
  | case2 | case4 => exact fun h => (readFraction_scalarRead h).of_suffix (List.suffix_cons _ _)
  | case6 =>
    intro h
    rename_i hspan
    exact (readFraction_scalarRead h).of_suffix
      ((spanDigits_suffix hspan).trans (List.suffix_cons _ _))

theorem readScalar_scalarRead {text rest : List Char} {value : Json}
    (h : readScalar text = .ok (value, rest)) : ScalarRead text value rest := by
  revert h
  fun_cases readScalar text with
  | case1 | case8 =>
    intro h
    cases h
  | case2 | case3 | case4 =>
    exact fun h => (readLiteral_scalarRead rfl h).of_suffix (List.suffix_cons _ _)
  | case5 =>
    intro h
    obtain ⟨⟨contents, left⟩, hstring, hresult⟩ := exists_of_bind_eq_ok h
    cases hresult
    exact ⟨rfl, (readString_suffix hstring).trans (List.suffix_cons _ _)⟩
  | case6 => exact fun h => (readNumber_scalarRead h).of_suffix (List.suffix_cons _ _)
  | case7 => exact readNumber_scalarRead

/-! ### Arrays and objects -/

def ArrayStep.unread : ArrayStep → List Char
  | .closed rest => ']' :: rest
  | .element text => text

def ObjectStep.unread : ObjectStep → List Char
  | .closed rest => '\x7d' :: rest
  | .member text => '"' :: text

theorem nextElement_suffix {first : Bool} {text : List Char} {step : ArrayStep}
    (h : nextElement first text = .ok step) : step.unread <:+ text := by
  revert h
  fun_cases nextElement first text with
  | case1 | case4 | case5 | case7 =>
    intro h
    cases h
  | case2 =>
    intro h
    rename_i hclosed
    cases h
    exact skipBlank_suffix hclosed
  | case3 =>
    intro h
    cases h
    exact skipBlank_suffix rfl
  | case6 rest hcomma =>
    intro h
    cases h
    have hrest : rest <:+ text := (List.suffix_cons ',' rest).trans (skipBlank_suffix hcomma)
    exact (skipBlank_suffix rfl).trans hrest

theorem nextMember_suffix {first : Bool} {text : List Char} {step : ObjectStep}
    (h : nextMember first text = .ok step) : step.unread <:+ text := by
  revert h
  fun_cases nextMember first text with
  | case1 | case4 | case5 | case7 | case8 | case9 =>
    intro h
    cases h
  | case2 | case3 =>
    intro h
    rename_i hstep
    cases h
    exact skipBlank_suffix hstep
  | case6 rest hcomma name hname =>
    intro h
    cases h
    have hrest : rest <:+ text := (List.suffix_cons ',' rest).trans (skipBlank_suffix hcomma)
    exact (skipBlank_suffix hname).trans hrest

/-- What is left behind the elements begins behind the closing bracket. -/
theorem readElements_suffix {element : Reader α} (helement : LeavesEnd element) {fuel : Nat}
    {first : Bool} {text rest : List Char} {values : List α}
    (h : readElements element fuel first text = .ok (values, rest)) : ']' :: rest <:+ text := by
  induction fuel generalizing first text values with
  | zero => cases h
  | succ fuel ih =>
    obtain ⟨step, hstep, hnext⟩ := exists_of_bind_eq_ok h
    have hsuffix := nextElement_suffix hstep
    cases step with
    | closed rest =>
      cases hnext
      exact hsuffix
    | element text =>
      obtain ⟨⟨value, behind⟩, hvalue, hmore⟩ := exists_of_bind_eq_ok hnext
      obtain ⟨⟨others, left⟩, hothers, hresult⟩ := exists_of_bind_eq_ok hmore
      cases hresult
      exact (ih hothers).trans ((helement hvalue).trans hsuffix)

/-- What is left behind the members begins behind the closing brace. -/
theorem readMembers_suffix {member : α → String → Reader α}
    (hmember : ∀ before name, LeavesEnd (member before name)) {fuel : Nat} {first : Bool}
    {text rest : List Char} {before after : α}
    (h : readMembers member fuel first before text = .ok (after, rest)) :
    '\x7d' :: rest <:+ text := by
  induction fuel generalizing first text before with
  | zero => cases h
  | succ fuel ih =>
    obtain ⟨step, hstep, hnext⟩ := exists_of_bind_eq_ok h
    have hsuffix := nextMember_suffix hstep
    cases step with
    | closed rest =>
      cases hnext
      exact hsuffix
    | member text =>
      obtain ⟨⟨name, behind⟩, hname, hmore⟩ := exists_of_bind_eq_ok hnext
      obtain ⟨⟨between, left⟩, hvalue, hothers⟩ := exists_of_bind_eq_ok hmore
      have htext := (List.suffix_cons '"' text).trans hsuffix
      exact (ih hothers).trans ((hmember _ _ hvalue).trans ((readString_suffix hname).trans htext))

theorem readColon_suffix : LeavesEnd readColon := by
  intro text value rest h
  unfold readColon at h
  split at h
  · cases h
  · rename_i hcolon
    cases h
    exact (List.suffix_cons ':' rest).trans (skipBlank_suffix hcolon)
  · cases h

/-! ### Values -/

def readMember (room : Nat) (before : KeyMap String Json) (name : String) :
    Reader (KeyMap String Json) := fun text => do
  let (_, text) ← readColon text
  let (value, text) ← readValue room text
  .ok (KeyMap.insert name value before, text)

/-- How a value that may nest `room` further arrays and objects is read from its first character
on. -/
inductive ReadFrom : (room : Nat) → List Char → Json → List Char → Prop where
  | scalar {room : Nat} {text rest : List Char} {value : Json} :
      readScalar text = .ok (value, rest) → ReadFrom room text value rest
  | arr {room : Nat} {text rest : List Char} {items : List Json} :
      readArray (readValue room) text = .ok (items, rest) →
      ReadFrom (room + 1) ('[' :: text) (.arr items) rest
  | obj {room : Nat} {text rest : List Char} {members : KeyMap String Json} :
      readObject (readMember room) [] text = .ok (members, rest) →
      ReadFrom (room + 1) ('\x7b' :: text) (.obj members) rest

theorem readFrom_of_readValue {room : Nat} {text rest : List Char} {value : Json}
    (h : readValue room text = .ok (value, rest)) : ReadFrom room (skipBlank text) value rest := by
  revert h
  fun_cases readValue room text with
  | case1 | case2 =>
    intro h
    cases h
  | case3 =>
    intro h
    rename_i hopening
    obtain ⟨⟨items, left⟩, hitems, hresult⟩ := exists_of_bind_eq_ok h
    cases hresult
    rw [hopening]
    exact .arr hitems
  | case4 =>
    intro h
    rename_i hopening
    obtain ⟨⟨members, left⟩, hmembers, hresult⟩ := exists_of_bind_eq_ok h
    cases hresult
    rw [hopening]
    exact .obj hmembers
  | case5 => exact .scalar

theorem readMember_suffix {room : Nat} (hvalue : LeavesEnd (readValue room))
    (before : KeyMap String Json) (name : String) : LeavesEnd (readMember room before name) := by
  intro text after rest h
  obtain ⟨⟨⟨⟩, behind⟩, hcolon, hmore⟩ := exists_of_bind_eq_ok h
  obtain ⟨⟨value, left⟩, hread, hresult⟩ := exists_of_bind_eq_ok hmore
  cases hresult
  exact (hvalue hread).trans (readColon_suffix hcolon)

theorem readValue_suffix (room : Nat) : LeavesEnd (readValue room) := by
  induction room using Nat.strongRecOn with
  | ind room ih =>
    intro text value rest h
    generalize hfirst : skipBlank text = shown at *
    refine List.IsSuffix.trans ?_ (skipBlank_suffix hfirst)
    cases hfirst ▸ readFrom_of_readValue h with
    | scalar hscalar => exact (readScalar_scalarRead hscalar).suffix
    | arr hitems =>
      have hclosed := readElements_suffix (ih _ (Nat.lt_succ_self _)) hitems
      exact (List.suffix_cons _ rest).trans (hclosed.trans (List.suffix_cons _ _))
    | obj hmembers =>
      have hclosed := readMembers_suffix (readMember_suffix (ih _ (Nat.lt_succ_self _))) hmembers
      exact (List.suffix_cons _ rest).trans (hclosed.trans (List.suffix_cons _ _))

def brackets? : Json → Option (Char × Char)
  | .arr _ => some ('[', ']')
  | .obj _ => some ('\x7b', '\x7d')
  | _ => none

/-- An array or an object is read between its brackets. -/
theorem ReadFrom.bracketed {room : Nat} {text rest : List Char} {value : Json}
    (h : ReadFrom room text value rest) {opening closing : Char}
    (hbrackets : value.brackets? = some (opening, closing)) :
    ∃ inner, text = opening :: inner ∧ closing :: rest <:+ inner := by
  cases h with
  | scalar hscalar =>
    have hplain := (readScalar_scalarRead hscalar).plain
    cases value with
    | arr items => cases hplain
    | obj members => cases hplain
    | _ => cases hbrackets
  | arr hitems =>
    cases hbrackets
    exact ⟨_, rfl, readElements_suffix (readValue_suffix _) hitems⟩
  | obj hmembers =>
    cases hbrackets
    exact ⟨_, rfl, readMembers_suffix (readMember_suffix (readValue_suffix _)) hmembers⟩

end PathCall.Json
