import PathCall.Proofs.Json.Remainder

/-!
Objects whose members are looked at as they are written. Decoding keeps the last value of a name, so
it does not tell how often the name was written; reading an object for the names of its members
does. A text that decodes to an object with one member, and in which one name is written, has that
member between its braces and nothing else but blanks.
-/

namespace PathCall.Json

/-- Reads a member of an object, of which only the name is kept, behind the names before. -/
def readMemberName (names : List String) (name : String) : Reader (List String) := fun text => do
  let (_, text) ← readColon text
  let (_, text) ← readValue (maxNesting - 1) text
  .ok (names ++ [name], text)

/-- Reads an object for the names of its members, in the order in which they are written, each as
often as it is written. -/
def readNames : Reader (List String) := fun text =>
  match skipBlank text with
  | '\x7b' :: rest => readObject readMemberName [] rest
  | text => failOn .expectedValue text

/-- How an object with one member is written behind its opening brace. -/
structure SoleMember (inner : List Char) (name : String) (value : Json) (rest : List Char) where
  /-- The text behind the quote that opens the name. -/
  quoted : List Char
  /-- The text behind the name. -/
  named : List Char
  /-- The text behind the colon. -/
  valued : List Char
  /-- The text behind the value. -/
  behind : List Char
  opened : nextMember true inner = .ok (.member quoted)
  name_read : readString quoted = .ok (name, named)
  colon_read : readColon named = .ok ((), valued)
  value_read : readValue (maxNesting - 1) valued = .ok (value, behind)
  closed : nextMember false behind = .ok (.closed rest)

variable {α : Type} {text inner rest : List Char} {name : String} {value : Json}

theorem SoleMember.readObject_eq (h : SoleMember inner name value rest)
    (member : α → String → Reader α) (start : α) :
    readObject member start inner = (do
      let (after, text) ← member start name h.named
      readMembers member inner.length false after text) := by
  rw [readObject, readMembers, h.opened]
  change (readString h.quoted >>= _) = _
  rw [h.name_read]
  rfl

theorem SoleMember.readMembers_behind (h : SoleMember inner name value rest)
    (member : α → String → Reader α) (after : α) :
    readMembers member inner.length false after h.behind = .ok (after, rest) := by
  cases inner with
  | nil => cases h.opened
  | cons c inner =>
    rw [List.length_cons, readMembers, h.closed]
    rfl

theorem of_readMemberName {names names' : List String}
    (h : readMemberName names name text = .ok (names', rest)) :
    names' = names ++ [name] ∧ ∃ valued value, readColon text = .ok ((), valued) ∧
      readValue (maxNesting - 1) valued = .ok (value, rest) := by
  obtain ⟨⟨⟨⟩, valued⟩, hcolon, hmore⟩ := exists_of_bind_eq_ok h
  obtain ⟨⟨value, behind⟩, hvalue, hresult⟩ := exists_of_bind_eq_ok hmore
  cases hresult
  exact ⟨rfl, valued, value, hcolon, hvalue⟩

/-- An object ends, or names are added to those before. -/
theorem closed_or_length_lt {fuel : Nat} {first : Bool} {names names' : List String}
    (h : readMembers readMemberName fuel first names text = .ok (names', rest)) :
    (names' = names ∧ nextMember first text = .ok (.closed rest)) ∨
      names.length < names'.length := by
  induction fuel generalizing first names text with
  | zero => cases h
  | succ fuel ih =>
    obtain ⟨step, hstep, hnext⟩ := exists_of_bind_eq_ok h
    cases step with
    | closed left =>
      cases hnext
      exact .inl ⟨rfl, hstep⟩
    | member text =>
      obtain ⟨⟨name, named⟩, -, hmember⟩ := exists_of_bind_eq_ok hnext
      obtain ⟨⟨between, behind⟩, hread, hothers⟩ := exists_of_bind_eq_ok hmember
      obtain ⟨rfl, -⟩ := of_readMemberName hread
      have hlt : names.length < (names ++ [name]).length := by simp
      obtain ⟨rfl, -⟩ | hmore := ih hothers
      · exact .inr hlt
      · exact .inr (Nat.lt_trans hlt hmore)

/-- An object in which one name is written has one member. -/
theorem exists_soleMember (h : readObject readMemberName [] inner = .ok ([name], rest)) :
    ∃ value, Nonempty (SoleMember inner name value rest) := by
  obtain ⟨step, hstep, hnext⟩ := exists_of_bind_eq_ok h
  cases step with
  | closed left => cases hnext
  | member quoted =>
    obtain ⟨⟨first, named⟩, hname, hmember⟩ := exists_of_bind_eq_ok hnext
    obtain ⟨⟨between, behind⟩, hread, hothers⟩ := exists_of_bind_eq_ok hmember
    obtain ⟨rfl, valued, value, hcolon, hvalue⟩ := of_readMemberName hread
    obtain ⟨hnames, hclosed⟩ | hmore := closed_or_length_lt hothers
    · obtain rfl : name = first := List.singleton_inj.mp hnames
      exact ⟨value, ⟨quoted, named, valued, behind, hstep, hname, hcolon, hvalue, hclosed⟩⟩
    · exact absurd hmore (Nat.lt_irrefl _)

/-- An object with one member is read as the value of that member under its name. -/
theorem SoleMember.readObject_readMember (h : SoleMember inner name value rest) :
    readObject (readMember (maxNesting - 1)) [] inner = .ok ([(name, value)], rest) := by
  have hmember : readMember (maxNesting - 1) [] name h.named =
      .ok ([(name, value)], h.behind) := by
    rw [readMember, h.colon_read]
    change (readValue (maxNesting - 1) h.valued >>= _) = _
    rw [h.value_read]
    rfl
  rw [h.readObject_eq, hmember]
  exact h.readMembers_behind _ _

/-- The text is an object whose only member has this name and value, and is written once. -/
structure IsSoleMember (text : String) (name : String) (value : Json) : Prop where
  parsed : parse text = .ok (.obj [(name, value)])
  written : decode readNames text = .ok [name]

theorem IsSoleMember.exists_soleMember {text : String} (h : IsSoleMember text name value) :
    ∃ inner rest, skipBlank text.toList = '\x7b' :: inner ∧ skipBlank rest = [] ∧
      Nonempty (SoleMember inner name value rest) := by
  obtain ⟨rest, hnames, hrest⟩ := exists_of_decode_eq_ok h.written
  obtain ⟨rest', hvalue, -⟩ := exists_of_decode_eq_ok h.parsed
  have hread : ReadFrom (maxNesting - 1 + 1) (skipBlank text.toList) (.obj [(name, value)]) rest' :=
    readFrom_of_readValue hvalue
  generalize hshown : skipBlank text.toList = shown at hread
  cases hread with
  | scalar hscalar => cases (readScalar_scalarRead hscalar).plain
  | @obj _ inner _ _ hmembers =>
    have hinner : readObject readMemberName [] inner = .ok ([name], rest) := by
      rw [readNames, hshown] at hnames
      exact hnames
    obtain ⟨other, ⟨hsole⟩⟩ := Json.exists_soleMember hinner
    have hboth := hmembers.symm.trans hsole.readObject_readMember
    cases hboth
    exact ⟨inner, rest, rfl, hrest, ⟨hsole⟩⟩

end PathCall.Json
