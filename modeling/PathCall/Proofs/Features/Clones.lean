import Mathlib.Data.List.Induction
import PathCall.Features

/-!
Feature sets that are changed, cloned and asked over whole runs. A set answers by its own history,
which for a clone begins with that of its original up to the cloning: what was set there last under
a name is what the name stands for. Clones share the state that their probes look at, and nothing
else.
-/

namespace PathCall.Features.Shelf

variable {σ : Type}

/-- The action puts this feature under the name into the set of the handle. -/
inductive Action.Sets : Action σ → Nat → String → Feature σ → Prop where
  | flag (handle : Nat) (name : String) (value : Bool) :
      Sets (.setFlag handle name value) handle name (.flag value)
  | probe (handle : Nat) (name : String) (read : σ → Bool) :
      Sets (.setProbe handle name read) handle name (.probe read)

def Action.changed (state : σ) : Action σ → σ
  | .change next => next state
  | .setFlag .. | .setProbe .. | .clone _ => state

def Action.isClone : Action σ → Bool
  | .clone _ => true
  | .setFlag .. | .setProbe .. | .change _ => false

/-- The number of handles behind the actions: every clone has one of its own. -/
def handlesAfter (actions : List (Action σ)) : Nat := actions.countP Action.isClone + 1

/-- In a run, this feature is what was set last under the name on a handle or, before the handle
was cloned, on the one that it was cloned from. -/
inductive LastSet (name : String) (feature : Feature σ) : List (Action σ) → Nat → Prop where
  | set {actions : List (Action σ)} {action : Action σ} {handle : Nat} :
      action.Sets handle name feature → handle < handlesAfter actions →
      LastSet name feature (actions ++ [action]) handle
  | cloned {actions : List (Action σ)} {source : Nat} :
      LastSet name feature actions source →
      LastSet name feature (actions ++ [.clone source]) (handlesAfter actions)
  | kept {actions : List (Action σ)} {action : Action σ} {handle : Nat} :
      (∀ other, ¬action.Sets handle name other) → LastSet name feature actions handle →
      LastSet name feature (actions ++ [action]) handle

variable {actions : List (Action σ)} {action : Action σ} {handle other source : Nat}
  {name : String} {feature : Feature σ} {shelf : Shelf σ}

/-! ### Histories -/

theorem handlesAfter_concat (actions : List (Action σ)) (action : Action σ) :
    handlesAfter (actions ++ [action]) =
      if action.isClone then handlesAfter actions + 1 else handlesAfter actions := by
  rw [handlesAfter, List.countP_append, List.countP_singleton]
  split <;> rfl

theorem handlesAfter_le_concat (actions : List (Action σ)) (action : Action σ) :
    handlesAfter actions ≤ handlesAfter (actions ++ [action]) := by
  rw [handlesAfter_concat]
  split <;> omega

theorem LastSet.lt_handlesAfter (h : LastSet name feature actions handle) :
    handle < handlesAfter actions := by
  induction h with
  | set hsets hlt => exact Nat.lt_of_lt_of_le hlt (handlesAfter_le_concat _ _)
  | cloned hlast ih => simp [handlesAfter_concat, Action.isClone]
  | kept hnot hlast ih => exact Nat.lt_of_lt_of_le ih (handlesAfter_le_concat _ _)

theorem LastSet.ne_nil (h : LastSet name feature actions handle) : actions ≠ [] := by
  cases h <;> simp

/-- One more action sets the feature, hands it on to a clone, or leaves it. -/
theorem lastSet_concat_iff :
    LastSet name feature (actions ++ [action]) handle ↔
      (action.Sets handle name feature ∧ handle < handlesAfter actions) ∨
      (∃ source, action = .clone source ∧ handle = handlesAfter actions ∧
        LastSet name feature actions source) ∨
      ((∀ other, ¬action.Sets handle name other) ∧ LastSet name feature actions handle) := by
  constructor
  · generalize hall : actions ++ [action] = all
    intro h
    cases h with
    | set hsets hlt =>
      obtain ⟨rfl, hlast⟩ := List.append_inj' hall rfl
      cases hlast
      exact .inl ⟨hsets, hlt⟩
    | @cloned _ source hlast =>
      obtain ⟨rfl, haction⟩ := List.append_inj' hall rfl
      cases haction
      exact .inr (.inl ⟨source, rfl, rfl, hlast⟩)
    | kept hnot hlast =>
      obtain ⟨rfl, haction⟩ := List.append_inj' hall rfl
      cases haction
      exact .inr (.inr ⟨hnot, hlast⟩)
  · rintro (⟨hsets, hlt⟩ | ⟨source, rfl, rfl, hlast⟩ | ⟨hnot, hlast⟩)
    · exact .set hsets hlt
    · exact .cloned hlast
    · exact .kept hnot hlast

/-! ### Runs -/

theorem run_concat (shelf : Shelf σ) (actions : List (Action σ)) (action : Action σ) :
    shelf.run (actions ++ [action]) = (shelf.run actions).apply action := by
  rw [run, List.foldl_append]
  rfl

theorem state_run (shelf : Shelf σ) (actions : List (Action σ)) :
    (shelf.run actions).state = actions.foldl Action.changed shelf.state := by
  induction actions generalizing shelf with
  | nil => rfl
  | cons action actions ih =>
    have hstate : (shelf.apply action).state = action.changed shelf.state := by
      cases action <;> rfl
    rw [List.foldl_cons, ← hstate]
    exact ih (shelf.apply action)

theorem length_handles_run (state : σ) (actions : List (Action σ)) :
    ((start state).run actions).handles.length = handlesAfter actions := by
  induction actions using List.reverseRecOn with
  | nil => rfl
  | append_singleton actions action ih =>
    rw [run_concat, handlesAfter_concat, ← ih]
    cases action <;> simp [apply, Action.isClone]

def features (shelf : Shelf σ) (handle : Nat) : Features σ := (shelf.handles[handle]?).getD []

theorem Action.Sets.features_apply (h : action.Sets handle name feature)
    (hlt : handle < shelf.handles.length) :
    (shelf.apply action).features handle = KeyMap.insert name feature (shelf.features handle) := by
  cases h with
  | flag value =>
    simp only [features, apply, List.getElem?_modify_eq, List.getElem?_eq_getElem hlt]
    rfl
  | probe read =>
    simp only [features, apply, List.getElem?_modify_eq, List.getElem?_eq_getElem hlt]
    rfl

theorem Action.Sets.unique (h : action.Sets handle name feature) {feature' : Feature σ}
    (h' : action.Sets handle name feature') : feature = feature' := by
  cases h <;> cases h' <;> rfl

/-- What is set on another handle leaves a set as it is. -/
theorem Action.Sets.features_apply_of_ne (h : action.Sets other name feature)
    (hne : other ≠ handle) (shelf : Shelf σ) :
    (shelf.apply action).features handle = shelf.features handle := by
  cases h <;> simp [features, apply, hne]

theorem features_apply_of_not_sets (hlt : handle < shelf.handles.length)
    (h : ∀ name feature, ¬action.Sets handle name feature) :
    (shelf.apply action).features handle = shelf.features handle := by
  have hother {other : Nat} {name : String} {feature : Feature σ}
      (hsets : action.Sets other name feature) :
      (shelf.apply action).features handle = shelf.features handle := by
    refine hsets.features_apply_of_ne ?_ shelf
    rintro rfl
    exact h name feature hsets
  cases action with
  | setFlag other name value => exact hother (.flag other name value)
  | setProbe other name read => exact hother (.probe other name read)
  | change next => rfl
  | clone source => simp [features, apply, List.getElem?_append_left hlt]

/-- What is set under other names leaves a name as it is. -/
theorem find?_features_apply (hlt : handle < shelf.handles.length)
    (h : ∀ feature, ¬action.Sets handle name feature) :
    KeyMap.find? name ((shelf.apply action).features handle) =
      KeyMap.find? name (shelf.features handle) := by
  by_cases hsets : ∃ other feature, action.Sets handle other feature
  · obtain ⟨other, feature, hsets⟩ := hsets
    have hne : name ≠ other := by
      rintro rfl
      exact h feature hsets
    rw [hsets.features_apply hlt, KeyMap.find?_insert_of_ne hne]
  · have hnot : ∀ other feature, ¬action.Sets handle other feature := fun other feature hother =>
      hsets ⟨other, feature, hother⟩
    rw [features_apply_of_not_sets hlt hnot]

theorem features_clone (shelf : Shelf σ) (source : Nat) :
    (shelf.apply (.clone source)).features shelf.handles.length = shelf.features source := by
  simp [features, apply]

theorem features_of_length_le (h : shelf.handles.length ≤ handle) : shelf.features handle = [] := by
  rw [features, List.getElem?_eq_none h]
  rfl

theorem supports_eq (shelf : Shelf σ) (handle : Nat) (name : String) :
    shelf.supports handle name = Features.supports (shelf.features handle) shelf.state name := rfl

theorem supports_of_find? (h : KeyMap.find? name (shelf.features handle) = some feature) :
    shelf.supports handle name = feature.holds shelf.state := by
  rw [supports_eq, Features.supports, h]

theorem supports_of_find?_eq_none (h : KeyMap.find? name (shelf.features handle) = none) :
    shelf.supports handle name = false := by
  rw [supports_eq, Features.supports, h]

/-- What is set on another handle changes no answer of a set. -/
theorem Action.Sets.answers_apply_of_ne {set : String} (h : action.Sets other set feature)
    (hne : other ≠ handle) (shelf : Shelf σ) (name : String) :
    (shelf.apply action).contains handle name = shelf.contains handle name ∧
      (shelf.apply action).supports handle name = shelf.supports handle name := by
  have hfeatures := h.features_apply_of_ne hne shelf
  have hstate : (shelf.apply action).state = shelf.state := by
    cases h <;> rfl
  constructor
  · exact congrArg (KeyMap.contains name) hfeatures
  · rw [supports_eq, supports_eq, hfeatures, hstate]

theorem exists_clone_of_not_lt (hlt : handle < handlesAfter (actions ++ [action]))
    (hnew : ¬handle < handlesAfter actions) :
    ∃ source, action = .clone source ∧ handle = handlesAfter actions := by
  rw [handlesAfter_concat] at hlt
  cases action with
  | clone source =>
    simp only [Action.isClone, if_true] at hlt
    exact ⟨source, rfl, by omega⟩
  | setFlag | setProbe | change => exact absurd hlt hnew

/-- One more action on a set that was there and has what was set there last. -/
theorem find?_features_apply_iff (hlt : handle < handlesAfter actions)
    (hlength : shelf.handles.length = handlesAfter actions)
    (h : KeyMap.find? name (shelf.features handle) = some feature ↔
      LastSet name feature actions handle) :
    KeyMap.find? name ((shelf.apply action).features handle) = some feature ↔
      LastSet name feature (actions ++ [action]) handle := by
  have hhandle : handle < shelf.handles.length := hlength ▸ hlt
  rw [lastSet_concat_iff]
  by_cases hsets : ∃ other, action.Sets handle name other
  · obtain ⟨other, hother⟩ := hsets
    rw [hother.features_apply hhandle, KeyMap.find?_insert_self, Option.some.injEq]
    constructor
    · rintro rfl
      exact .inl ⟨hother, hlt⟩
    · rintro (⟨hsets, -⟩ | ⟨source, rfl, -, -⟩ | ⟨hnot, -⟩)
      · exact hother.unique hsets
      · cases hother
      · exact absurd hother (hnot other)
  · have hnot : ∀ other, ¬action.Sets handle name other := not_exists.mp hsets
    rw [find?_features_apply hhandle hnot, h]
    constructor
    · exact fun hlast => .inr (.inr ⟨hnot, hlast⟩)
    · rintro (⟨hsets, -⟩ | ⟨source, -, hnew, -⟩ | ⟨-, hlast⟩)
      · exact absurd hsets (hnot feature)
      · omega
      · exact hlast

/-- A new clone has what its original has. -/
theorem lastSet_clone_iff :
    LastSet name feature (actions ++ [.clone source]) (handlesAfter actions) ↔
      LastSet name feature actions source := by
  rw [lastSet_concat_iff]
  constructor
  · rintro (⟨hsets, -⟩ | ⟨other, hclone, -, hlast⟩ | ⟨-, hlast⟩)
    · cases hsets
    · cases hclone
      exact hlast
    · exact absurd hlast.lt_handlesAfter (Nat.lt_irrefl _)
  · exact fun hlast => .inr (.inl ⟨source, rfl, rfl, hlast⟩)

/-- A set has under a name what was set there last. -/
theorem find?_features_iff_lastSet (state : σ) (actions : List (Action σ)) (handle : Nat)
    (name : String) (feature : Feature σ) :
    KeyMap.find? name (((start state).run actions).features handle) = some feature ↔
      LastSet name feature actions handle := by
  induction actions using List.reverseRecOn generalizing handle with
  | nil =>
    have hempty : ((start state).run []).features handle = [] := by
      cases handle <;> rfl
    rw [hempty]
    exact iff_of_false (by simp [KeyMap.find?]) fun hlast => hlast.ne_nil rfl
  | append_singleton actions action ih =>
    have hlength := length_handles_run state actions
    by_cases hlt : handle < handlesAfter actions
    · rw [run_concat]
      exact find?_features_apply_iff hlt hlength (ih handle)
    · by_cases hmade : handle < handlesAfter (actions ++ [action])
      · obtain ⟨source, rfl, rfl⟩ := exists_clone_of_not_lt hmade hlt
        rw [run_concat, lastSet_clone_iff, ← hlength, features_clone, ih]
      · -- There is no such handle.
        have hnone : ((start state).run (actions ++ [action])).features handle = [] := by
          refine features_of_length_le ?_
          rw [length_handles_run]
          exact Nat.not_lt.mp hmade
        rw [hnone]
        exact iff_of_false (by simp [KeyMap.find?]) fun hlast => hmade hlast.lt_handlesAfter

/-- How the sets of clones answer after any run. A handle has a name exactly if something was set
under it on the handle or, before it was cloned, on the one that it was cloned from. The name
stands for what was set there last: for a flag, or for what a probe finds in the state of the
moment, which for all handles is the one behind all changes made so far; a name that was never set
there is not supported. Setting something on one handle does not change what another one answers,
for any name. -/
theorem answers_follow_history (state : σ) (actions : List (Action σ)) (handle : Nat)
    (name : String) :
    let shelf := (start state).run actions
    (shelf.contains handle name = true ↔ ∃ feature, LastSet name feature actions handle) ∧
    (∀ value, LastSet name (.flag value) actions handle → shelf.supports handle name = value) ∧
    (∀ read, LastSet name (.probe read) actions handle →
      shelf.supports handle name = read (actions.foldl Action.changed state)) ∧
    ((∀ feature, ¬LastSet name feature actions handle) → shelf.supports handle name = false) ∧
    ∀ (action : Action σ) other set feature, other ≠ handle → action.Sets other set feature →
      (shelf.apply action).contains handle name = shelf.contains handle name ∧
        (shelf.apply action).supports handle name = shelf.supports handle name := by
  intro shelf
  have hfind (feature : Feature σ) :
      KeyMap.find? name (shelf.features handle) = some feature ↔
        LastSet name feature actions handle := find?_features_iff_lastSet ..
  have hstate : shelf.state = actions.foldl Action.changed state := state_run ..
  refine ⟨?contains, ?flag, ?probe, ?unset, ?others⟩
  case contains =>
    exact KeyMap.contains_eq_true_iff.trans (exists_congr hfind)
  case flag =>
    intro value hlast
    exact supports_of_find? ((hfind _).mpr hlast)
  case probe =>
    intro read hlast
    rw [← hstate]
    exact supports_of_find? ((hfind _).mpr hlast)
  case unset =>
    intro hnever
    have hnone : KeyMap.find? name (shelf.features handle) = none :=
      Option.eq_none_iff_forall_ne_some.mpr fun feature hfeature =>
        hnever feature ((hfind feature).mp hfeature)
    exact supports_of_find?_eq_none hnone
  case others =>
    intro action other set feature hne hsets
    exact hsets.answers_apply_of_ne hne shelf name

/-- A flag becomes a probe, is cloned, and becomes a flag again on the original. -/
def reviewed : List (Action Nat) := [
  .setFlag 0 "reviewed" true,
  .setProbe 0 "reviewed" (· ≥ 2),
  .clone 0,
  .setFlag 0 "reviewed" true,
  .change (· + 1),
  .setFlag 0 "archived" true,
  .change (· + 1)]

/-- The clone still looks at the state, and has nothing of what was set later. -/
theorem reviewed_answers :
    LastSet "reviewed" (.probe (· ≥ 2)) reviewed 1 ∧
      ((start 0).run reviewed).supports 1 "reviewed" = true ∧
      ((start 0).run reviewed).contains 1 "archived" = false ∧
      (((start 0).run reviewed).apply (.setFlag 0 "reviewed" false)).supports 1 "reviewed" =
        true := by
  obtain ⟨-, -, hprobe, -, hothers⟩ := answers_follow_history 0 reviewed 1 "reviewed"
  have hlast : LastSet "reviewed" (.probe (· ≥ 2)) reviewed 1 :=
    (find?_features_iff_lastSet 0 reviewed 1 "reviewed" _).mp rfl
  have hsupports := hprobe _ hlast
  refine ⟨hlast, hsupports, rfl, ?_⟩
  rw [(hothers _ 0 "reviewed" _ (by decide) (.flag 0 "reviewed" false)).2]
  exact hsupports

end PathCall.Features.Shelf
