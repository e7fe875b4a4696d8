import Mathlib.Data.List.Induction
import Mathlib.Data.List.Nodup
import PathCall.DenyList

/-!
Deny lists over whole runs. An action replaces the list, adds a name to it or is refused, and says
so in its answer. After a run the list therefore holds the names of the last replacement that
succeeded and the names denied since, each at the place of its first occurrence; a replacement that
was refused has left no trace.
-/

namespace PathCall.DenyList

def jsonOf (names : List String) : Json := .arr (names.map .str)

/-- The action succeeds and puts these names in the place of the list. -/
inductive Action.Replaces : Action → List String → Prop where
  | replace (names : List String) : Replaces (.replace names) names
  | set (names : List String) : Replaces (.set (jsonOf names)) names

def ReplacesNever (actions : List Action) : Prop :=
  ∀ action ∈ actions, ∀ names, ¬action.Replaces names

/-- The names that the last replacement which succeeded put on the list, none if there was no such
replacement, and the actions since then. -/
inductive LastReplaced : List Action → List String → List Action → Prop where
  | never {actions : List Action} : ReplacesNever actions → LastReplaced actions [] actions
  | last (before : List Action) {since : List Action} {replacement : Action}
      {names : List String} : replacement.Replaces names → ReplacesNever since →
      LastReplaced (before ++ replacement :: since) names since

def Action.denied? : Action → Option String
  | .deny operation => some operation
  | _ => none

def denied (actions : List Action) : List String := actions.filterMap Action.denied?

variable {list : DenyList} {names : List String} {value : Json}

/-! ### One action -/

theorem nodup_deny (h : list.Nodup) (operation : String) : (deny operation list).Nodup := by
  unfold deny
  split
  · exact h
  · rename_i hnew
    have hnotMem : operation ∉ list := by simpa using hnew
    simpa using h.concat hnotMem

/-- To deny one more name is to see it behind the others. -/
theorem deny_eraseDups (operation : String) (names : List String) :
    deny operation names.eraseDups = (names ++ [operation]).eraseDups := by
  rw [List.eraseDups_append]
  by_cases hmem : operation ∈ names
  · have hnone : [operation].removeAll names = [] := by simp [List.removeAll, hmem]
    rw [hnone, deny, if_pos (by simpa using hmem)]
    simp
  · have hall : [operation].removeAll names = [operation] := by simp [List.removeAll, hmem]
    rw [hall, deny, if_neg (by simpa using hmem)]
    rfl

theorem ofNames_concat (names : List String) (operation : String) :
    ofNames (names ++ [operation]) = deny operation (ofNames names) := by
  rw [ofNames, List.foldl_append]
  rfl

theorem ofNames_eq_eraseDups (names : List String) : ofNames names = names.eraseDups := by
  induction names using List.reverseRecOn with
  | nil => rfl
  | append_singleton names operation ih => rw [ofNames_concat, ih, deny_eraseDups]

theorem nodup_ofNames (names : List String) : (ofNames names).Nodup := by
  induction names using List.reverseRecOn with
  | nil => exact List.nodup_nil
  | append_singleton names operation ih =>
    rw [ofNames_concat]
    exact nodup_deny ih operation

theorem nodup_eraseDups (names : List String) : names.eraseDups.Nodup :=
  ofNames_eq_eraseDups names ▸ nodup_ofNames names

theorem mapM_text?_eq_some_iff {items : List Json} :
    items.mapM Json.text? = some names ↔ items = names.map .str := by
  induction items generalizing names with
  | nil => cases names <;> simp
  | cons item items ih =>
    cases item with
    | str text =>
      cases names with
      | nil => simp [List.mapM_cons, Json.text?, Option.bind_eq_some_iff]
      | cons name names =>
        simp [List.mapM_cons, Json.text?, Option.bind_eq_some_iff, ← ih, and_comm]
    | _ => cases names <;> simp [List.mapM_cons, Json.text?]

theorem namesOf?_eq_some_iff : namesOf? value = some names ↔ value = jsonOf names := by
  cases value with
  | arr items => simp [namesOf?, jsonOf, mapM_text?_eq_some_iff]
  | _ => simp [namesOf?, jsonOf]

theorem namesOf?_eq_none_iff :
    namesOf? value = none ↔ ∀ names, value ≠ jsonOf names := by
  simp only [Option.eq_none_iff_forall_ne_some, ne_eq, namesOf?_eq_some_iff]

theorem apply_of_replaces {action : Action} (h : action.Replaces names) (list : DenyList) :
    list.apply action = (.ok (), names.eraseDups) := by
  cases h with
  | replace names => rw [apply, ofNames_eq_eraseDups]
  | set names => simp [apply, ofJson, namesOf?_eq_some_iff.mpr rfl, ofNames_eq_eraseDups]

/-- A value replaces the list if it is an array of texts, and is refused otherwise. -/
theorem apply_set_cases (list : DenyList) (value : Json) :
    (∃ names, value = jsonOf names ∧ list.apply (.set value) = (.ok (), names.eraseDups)) ∨
      ((∀ names, value ≠ jsonOf names) ∧
        ∃ error, error.kind = .inputValidation ∧
          list.apply (.set value) = (.error error, list)) := by
  by_cases htexts : ∃ names, value = jsonOf names
  · obtain ⟨names, rfl⟩ := htexts
    exact .inl ⟨names, rfl, apply_of_replaces (.set names) list⟩
  · have hnot : ∀ names, value ≠ jsonOf names := not_exists.mp htexts
    have hnone : namesOf? value = none := namesOf?_eq_none_iff.mpr hnot
    refine .inr ⟨hnot, ⟨.inputValidation, "List of blacklisted operations given is invalid"⟩,
      rfl, ?_⟩
    simp [apply, ofJson, hnone]

/-- All that an action can do: replace the list, add one name to it, or be refused and leave it. -/
theorem apply_cases (list : DenyList) (action : Action) :
    (∃ names, action.Replaces names ∧ list.apply action = (.ok (), names.eraseDups)) ∨
      (∃ operation, action = .deny operation ∧
        list.apply action = (.ok (), deny operation list)) ∨
      ∃ value error, action = .set value ∧ list.apply action = (.error error, list) := by
  cases action with
  | replace names =>
    have hreplaces : (Action.replace names).Replaces names := .replace names
    exact .inl ⟨names, hreplaces, apply_of_replaces hreplaces list⟩
  | deny operation => exact .inr (.inl ⟨operation, rfl, rfl⟩)
  | set value =>
    obtain ⟨names, rfl, happly⟩ | ⟨-, error, -, happly⟩ := apply_set_cases list value
    · exact .inl ⟨names, .set names, happly⟩
    · exact .inr (.inr ⟨value, error, rfl, happly⟩)

theorem validate_eq_ok_iff {operation : String} :
    validate list operation = .ok () ↔ operation ∉ list := by
  unfold validate
  split
  · rename_i hdenied
    simpa using hdenied
  · rename_i hallowed
    simpa using hallowed

/-! ### Runs -/

theorem run_concat (list : DenyList) (actions : List Action) (action : Action) :
    run list (actions ++ [action]) = ((run list actions).apply action).2 := by
  rw [run, List.foldl_append]
  rfl

theorem denied_concat (actions : List Action) (action : Action) :
    denied (actions ++ [action]) = denied actions ++ action.denied?.toList := by
  rw [denied, List.filterMap_append]
  cases action <;> rfl

theorem nodup_run (h : list.Nodup) (actions : List Action) : (run list actions).Nodup := by
  induction actions using List.reverseRecOn with
  | nil => exact h
  | append_singleton actions action ih =>
    rw [run_concat]
    obtain ⟨names, -, happly⟩ | ⟨operation, -, happly⟩ | ⟨value, error, -, happly⟩ :=
      apply_cases (run list actions) action
    · rw [happly]
      exact nodup_eraseDups names
    · rw [happly]
      exact nodup_deny ih operation
    · rwa [happly]

/-- Actions that never replace the list only add the names that they deny. -/
theorem run_of_replacesNever {since : List Action} (h : ReplacesNever since)
    (names : List String) :
    run names.eraseDups since = (names ++ denied since).eraseDups := by
  induction since using List.reverseRecOn with
  | nil => simp [run, denied]
  | append_singleton since action ih =>
    have hsince : ReplacesNever since := fun earlier hearlier =>
      h earlier (List.mem_append_left _ hearlier)
    have haction : ∀ names, ¬action.Replaces names := h action (by simp)
    rw [run_concat, ih hsince, denied_concat]
    obtain ⟨names, hreplaces, -⟩ | ⟨operation, rfl, happly⟩ | ⟨value, error, rfl, happly⟩ :=
      apply_cases (names ++ denied since).eraseDups action
    · exact absurd hreplaces (haction names)
    · rw [happly, deny_eraseDups, List.append_assoc]
      rfl
    · have hnone : (Action.set value).denied? = none := rfl
      rw [happly, hnone, Option.toList_none, List.append_nil]

theorem run_of_lastReplaced {actions since : List Action}
    (h : LastReplaced actions names since) :
    run [] actions = (names ++ denied since).eraseDups := by
  cases h with
  | never hnever => exact run_of_replacesNever hnever []
  | last before hreplaces hsince =>
    rename_i replacement
    have hstart : run [] (before ++ replacement :: since) = run names.eraseDups since := by
      rw [run, List.foldl_append, List.foldl_cons, apply_of_replaces hreplaces]
      rfl
    rw [hstart, run_of_replacesNever hsince]

theorem exists_lastReplaced (actions : List Action) :
    ∃ names since, LastReplaced actions names since := by
  induction actions with
  | nil => exact ⟨[], [], .never (by simp [ReplacesNever])⟩
  | cons action actions ih =>
    obtain ⟨names, since, hlater⟩ := ih
    cases hlater with
    | last before hreplaces hsince =>
      exact ⟨names, since, .last (action :: before) hreplaces hsince⟩
    | never hnever =>
      by_cases hreplaces : ∃ names, action.Replaces names
      · obtain ⟨names, hreplaces⟩ := hreplaces
        exact ⟨names, actions, .last [] hreplaces hnever⟩
      · refine ⟨[], action :: actions, .never fun other hother => ?_⟩
        rcases List.mem_cons.mp hother with rfl | hother
        · exact not_exists.mp hreplaces
        · exact hnever other hother

/-- What a deny list is after any run from the empty list: no name twice, the names of the last
replacement that succeeded and then those denied since, each where it stood first. A JSON value
replaces it exactly if it is an array of texts, and every other value, at whichever item it goes
wrong, is refused as invalid input and leaves the list as it was. Allowed is exactly what the list
does not hold. -/
theorem run_follows_last_replacement (actions : List Action) :
    (run [] actions).Nodup ∧
    (∃ names since, LastReplaced actions names since ∧
      run [] actions = (names ++ denied since).eraseDups) ∧
    (∀ value : Json,
      (∃ names, value = jsonOf names ∧
        (run [] actions).apply (.set value) = (.ok (), names.eraseDups)) ∨
      ((∀ names, value ≠ jsonOf names) ∧
        ∃ error, error.kind = .inputValidation ∧
          (run [] actions).apply (.set value) = (.error error, run [] actions))) ∧
    ∀ operation, validate (run [] actions) operation = .ok () ↔ operation ∉ run [] actions := by
  refine ⟨nodup_run List.nodup_nil actions, ?_, apply_set_cases _,
    fun operation => validate_eq_ok_iff⟩
  obtain ⟨names, since, hlast⟩ := exists_lastReplaced actions
  exact ⟨names, since, hlast, run_of_lastReplaced hlast⟩

/-- An array that goes wrong at its last item changes nothing. -/
example :
    run [] [.set (.arr [.str "delete", .str "update", .str "delete"]), .deny "get",
      .set (.arr [.str "select", .int 5]), .deny "update"] = ["delete", "update", "get"] := by
  decide

end PathCall.DenyList
