import PathCall.Proofs.Access.DenyList
import PathCall.Proofs.Json.Members
import PathCall.Proofs.Json.Views

/-!
Configurations of deny lists. The text of a configuration is read straight into the names that it
denies, without a JSON value in between. The main theorem compares this with decoding the text and
setting the list from the value of its member: both ways accept the same texts, lead to the same
list, and refuse all others as invalid input.
-/

namespace PathCall.DenyList

open Json (SoleMember IsSoleMember)

variable {inner rest : List Char} {value : Json}

theorem readTexts_readsView (room : Nat) : Json.ReadsView room Json.readTexts namesOf? := by
  intro text value rest h
  have hread := Json.readFrom_of_readValue h
  unfold Json.readTexts
  generalize Json.skipBlank text = shown at *
  cases hread with
  | arr hitems => exact Json.readElements_shows (Json.readText_readsView _) hitems
  | obj hmembers => exact Json.shows_refuse _ _
  | scalar hscalar =>
    have hnone : namesOf? value = none := by
      have hplain := (Json.readScalar_scalarRead hscalar).plain
      cases value with
      | arr items => cases hplain
      | _ => rfl
    rw [hnone]
    split
    · cases hscalar
    · cases hscalar
    · exact Json.shows_refuse _ _

/-- A configuration is read as the names in the value of its member. -/
theorem configReader_shows {text : List Char} (hopening : Json.skipBlank text = '\x7b' :: inner)
    (hsole : SoleMember inner "blacklisted_operations" value rest) :
    Json.Shows rest (namesOf? value) (configReader text) := by
  have hmember : configShape.readMember [] "blacklisted_operations" hsole.named = (do
      let (names, text) ← Json.readTexts hsole.valued
      .ok ([("blacklisted_operations", names)], text)) := by
    rw [Json.RecordShape.readMember, hsole.colon_read]
    rfl
  have hshows : Json.Shows hsole.behind (namesOf? value) (Json.readTexts hsole.valued) :=
    readTexts_readsView _ hsole.value_read
  simp only [configReader, Json.RecordShape.read, hopening, hsole.readObject_eq, hmember]
  generalize Json.readTexts hsole.valued = names, namesOf? value = seen at hshows
  cases hshows with
  | refused fault => exact .refused fault
  | shown names =>
    have hmembers := hsole.readMembers_behind configShape.readMember
      [("blacklisted_operations", names)]
    simp only [bind, Except.bind, hmembers]
    exact .shown names

/-- Loading a configuration and setting the list from a value agree. Of a text that decodes to an
object whose only member, written once, is the list of denied operations, a configuration can be
loaded exactly if the value of that member can be set on an empty list; then both lists are the
same. Otherwise both are refused as invalid input. -/
theorem load_agrees_with_set {text : String} {value : Json}
    (h : IsSoleMember text "blacklisted_operations" value) :
    (∃ list : DenyList, load text = .ok list ∧ apply [] (.set value) = (.ok (), list)) ∨
      ∃ loading setting : Error, load text = .error loading ∧
        apply [] (.set value) = (.error setting, []) ∧
        loading.kind = .inputValidation ∧ setting.kind = .inputValidation := by
  obtain ⟨inner, rest, hopening, hrest, ⟨hsole⟩⟩ := h.exists_soleMember
  have hshows := configReader_shows hopening hsole
  obtain ⟨names, rfl, hset⟩ | ⟨hnot, setting, hkind, hset⟩ := apply_set_cases [] value
  · have hnames : namesOf? (jsonOf names) = some names := namesOf?_eq_some_iff.mpr rfl
    rw [hnames] at hshows
    generalize hread : configReader text.toList = read at hshows
    cases hshows with
    | shown =>
      have hdecode := Json.decode_of_reader hread hrest
      refine .inl ⟨names.eraseDups, ?_, hset⟩
      rw [load, parseConfig, hdecode, ← ofNames_eq_eraseDups]
      rfl
  · rw [namesOf?_eq_none_iff.mpr hnot] at hshows
    generalize hread : configReader text.toList = read at hshows
    cases hshows with
    | refused fault =>
      obtain ⟨message, hdecode⟩ := Json.decode_of_reader_error hread
      refine .inr ⟨⟨.inputValidation, message⟩, setting, ?_, hset, rfl, hkind⟩
      rw [load, parseConfig, hdecode]
      rfl

def escapedConfiguration : String :=
  "\n\x7b \"blacklisted\\u005foperations\" : [\"del\\u0065te\", \"get\", \"delete\"] \x7d "

/-- It denies what the same names denied as a value. -/
theorem escapedConfiguration_loads :
    IsSoleMember escapedConfiguration "blacklisted_operations"
        (jsonOf ["delete", "get", "delete"]) ∧
      load escapedConfiguration = .ok ["delete", "get"] := by
  have hsole : IsSoleMember escapedConfiguration "blacklisted_operations"
      (jsonOf ["delete", "get", "delete"]) := ⟨by rfl, by rfl⟩
  refine ⟨hsole, ?_⟩
  obtain ⟨list, hload, hset⟩ | ⟨loading, setting, -, hset, -⟩ := load_agrees_with_set hsole
  · cases hset
    exact hload
  · cases hset

end PathCall.DenyList
