import PathCall.Proofs.CallStack.Segmentation
import PathCall.Proofs.Registry.Registrations

/-!
Registries beside each other over whole runs: the one that the process shares, others that were
made new, and copies of any of them. Each keeps a record of its own, which for a copy begins with
the record of its original. The main theorem says that every registry answers by its record, that
only registrations made in it change it, and that a copy is what its original was.
-/

namespace PathCall.RegistryShelf

variable {Ω : Type}

def recordAction (records : List (List (Registration Ω))) :
    Action Ω → List (List (Registration Ω))
  | .registerEntity place id factory => records.modify place (· ++ [.entity id factory])
  | .registerProtocol place scheme factory =>
    records.modify place (· ++ [.protocol scheme factory])
  | .clone place => records ++ [(records[place]?).getD [.initial]]
  | .create => records ++ [[.initial]]

def records (actions : List (Action Ω)) : List (List (Registration Ω)) :=
  actions.foldl recordAction [[.initial]]

def Action.RegistersAt (place : Nat) : Action Ω → Prop
  | .registerEntity other _ _ | .registerProtocol other _ _ => other = place
  | .clone _ | .create => False

variable {actions later : List (Action Ω)} {place : Nat} {registry : Registry Ω}

theorem records_concat (actions : List (Action Ω)) (action : Action Ω) :
    records (actions ++ [action]) = recordAction (records actions) action := by
  rw [records, List.foldl_append]
  rfl

theorem run_append (shelf : RegistryShelf Ω) (actions later : List (Action Ω)) :
    run shelf (actions ++ later) = run (run shelf actions) later :=
  List.foldl_append

theorem initial_mem_recordAction {records : List (List (Registration Ω))}
    (h : ∀ record ∈ records, .initial ∈ record) (action : Action Ω) :
    ∀ record ∈ recordAction records action, .initial ∈ record := by
  have hmodify (place : Nat) (registration : Registration Ω) :
      ∀ record ∈ records.modify place (· ++ [registration]), .initial ∈ record := by
    intro record hrecord
    obtain ⟨index, hindex⟩ := List.mem_iff_getElem?.mp hrecord
    rw [List.getElem?_modify] at hindex
    obtain ⟨old, hold, rfl⟩ := Option.map_eq_some_iff.mp hindex
    have hinitial := h old (List.mem_iff_getElem?.mpr ⟨index, hold⟩)
    split
    · exact List.mem_append_left _ hinitial
    · exact hinitial
  cases action with
  | registerEntity place id factory => exact hmodify place _
  | registerProtocol place scheme factory => exact hmodify place _
  | clone place =>
    intro record hrecord
    rcases List.mem_append.mp hrecord with hold | hnew
    · exact h record hold
    · rw [List.mem_singleton.mp hnew]
      cases hplace : records[place]? with
      | none => simp
      | some original => exact h original (List.mem_of_getElem? hplace)
  | create =>
    intro record hrecord
    rcases List.mem_append.mp hrecord with hold | hnew
    · exact h record hold
    · simp [List.mem_singleton.mp hnew]

/-- A record begins with what every registry begins with. -/
theorem initial_mem_records (actions : List (Action Ω)) :
    ∀ record ∈ records actions, .initial ∈ record := by
  induction actions using List.reverseRecOn with
  | nil => simp [records]
  | append_singleton actions action ih =>
    rw [records_concat]
    exact initial_mem_recordAction ih action

/-- To register something and to copy are the same for registries and for their records. -/
theorem apply_map_ofRecord (records : List (List (Registration Ω))) (action : Action Ω) :
    apply (records.map Registry.ofRecord) action =
      (recordAction records action).map Registry.ofRecord := by
  have hmodify (place : Nat) (registration : Registration Ω) :
      (records.map Registry.ofRecord).modify place (·.register registration) =
        (records.modify place (· ++ [registration])).map Registry.ofRecord := by
    apply List.ext_getElem?
    intro index
    rw [List.getElem?_modify, List.getElem?_map, List.getElem?_map, List.getElem?_modify]
    cases records[index]? with
    | none => rfl
    | some record =>
      by_cases hindex : place = index <;> simp [hindex, Registry.ofRecord_concat]
  cases action with
  | registerEntity place id factory => exact hmodify place (.entity id factory)
  | registerProtocol place scheme factory => exact hmodify place (.protocol scheme factory)
  | clone place =>
    rw [apply, recordAction, List.map_append, List.getElem?_map]
    cases records[place]? <;> rfl
  | create => rw [apply, recordAction, List.map_append]; rfl

/-- The registries after a run are given by their records. -/
theorem run_start (actions : List (Action Ω)) :
    run start actions = (records actions).map Registry.ofRecord := by
  induction actions using List.reverseRecOn with
  | nil => exact congrArg (fun registry => [registry]) Registry.ofRecord_initial.symm
  | append_singleton actions action ih =>
    rw [run_append, ih, records_concat, ← apply_map_ofRecord]
    rfl

theorem exists_record (h : (run start actions)[place]? = some registry) :
    ∃ record, (records actions)[place]? = some record ∧ registry = Registry.ofRecord record ∧
      registry.AnswersBy record := by
  rw [run_start, List.getElem?_map] at h
  obtain ⟨record, hrecord, rfl⟩ := Option.map_eq_some_iff.mp h
  have hinitial := initial_mem_records actions record (List.mem_of_getElem? hrecord)
  exact ⟨record, hrecord, rfl, Registry.answersBy_ofRecord hinitial⟩

/-- What is registered elsewhere, and copies, leave a registry as it is. -/
theorem getElem?_apply {shelf : RegistryShelf Ω} (h : shelf[place]? = some registry)
    {action : Action Ω} (haction : ¬action.RegistersAt place) :
    (apply shelf action)[place]? = some registry := by
  have hmodify {other : Nat} (hne : other ≠ place) (change : Registry Ω → Registry Ω) :
      (shelf.modify other change)[place]? = some registry := by
    rw [List.getElem?_modify, h]
    simp [hne]
  have happend (added : Registry Ω) : (shelf ++ [added])[place]? = some registry := by
    rw [List.getElem?_append_left (List.getElem?_eq_some_iff.mp h).1, h]
  cases action with
  | registerEntity other id factory => exact hmodify haction _
  | registerProtocol other scheme factory => exact hmodify haction _
  | clone source => exact happend _
  | create => exact happend _

theorem getElem?_run {shelf : RegistryShelf Ω} (h : shelf[place]? = some registry)
    (hlater : ∀ action ∈ later, ¬action.RegistersAt place) :
    (run shelf later)[place]? = some registry := by
  induction later generalizing shelf with
  | nil => exact h
  | cons action later ih =>
    obtain ⟨haction, hlater⟩ := List.forall_mem_cons.mp hlater
    exact ih (getElem?_apply h haction) hlater

/-- Registries answer by their own registrations, whatever run led to them. Each of them makes
instances of an entity with the factory that was registered last for exactly this entity, in it or,
before it was copied, in its original, and refuses entities without one; it has exactly the entities
that were registered so, and lists each of them once, in increasing order; and it serves the process.
Later actions that register nothing in a registry leave it as it is, so what is registered in one
does not show in copies that were made before, nor in any other one. A copy is the same registry as
its original at the time. -/
theorem answers_follow_registrations (actions : List (Action Ω)) :
    (∀ (place : Nat) (registry : Registry Ω), (run start actions)[place]? = some registry →
      ∃ record, (records actions)[place]? = some record ∧
        registry = Registry.ofRecord record ∧ registry.AnswersBy record) ∧
    (∀ (place : Nat) (registry : Registry Ω) (later : List (Action Ω)),
      (run start actions)[place]? = some registry →
      (∀ action ∈ later, ¬action.RegistersAt place) →
      (run start (actions ++ later))[place]? = some registry) ∧
    ∀ (source : Nat) (registry : Registry Ω), (run start actions)[source]? = some registry →
      run start (actions ++ [.clone source]) = run start actions ++ [registry] := by
  refine ⟨fun place registry hregistry => exists_record hregistry, ?_, ?_⟩
  · intro place registry later hregistry hlater
    rw [run_append]
    exact getElem?_run hregistry hlater
  · intro source registry hregistry
    rw [run_append]
    change apply (run start actions) (.clone source) = _
    rw [apply, hregistry, Option.getD_some]

/-- An entity is registered in the shared registry, a snapshot is taken, and the factory is
replaced. -/
def replacement : List (Action Unit) := [
  .registerEntity 0 ⟨"shop", "Widgets"⟩ Instance.orderShop.create,
  .clone 0,
  .registerEntity 0 ⟨"shop", "Widgets"⟩ (Act.fail Error.accessDenied),
  .create]

/-- The snapshot still makes instances as before, and a new registry makes none. -/
theorem replacement_answers :
    ∃ shared snapshot fresh, run start replacement = [shared, snapshot, fresh] ∧
      shared.instantiate ⟨"shop", "Widgets"⟩ = Act.fail Error.accessDenied ∧
      snapshot.instantiate ⟨"shop", "Widgets"⟩ = Instance.orderShop.create ∧
      snapshot.entityIds = [⟨"shop", "Widgets"⟩] ∧
      fresh.instantiate ⟨"shop", "Widgets"⟩ = Act.fail ⟨.operationNotSupported,
        "CRUD entity 'shop.Widgets' is not registered"⟩ := by
  obtain ⟨hanswers, -, -⟩ := answers_follow_registrations replacement
  obtain ⟨record, hshared, -, shared⟩ := hanswers 0 _ rfl
  obtain ⟨record', hsnapshot, -, snapshot⟩ := hanswers 1 _ rfl
  obtain ⟨record'', hfresh, -, fresh⟩ := hanswers 2 _ rfl
  refine ⟨_, _, _, rfl, ?_, ?_, List.mergeSort_singleton _, ?_⟩
  · exact shared.instantiate_last _ [.initial, .entity _ Instance.orderShop.create] _ []
      (Option.some.inj hshared).symm (by simp)
  · exact snapshot.instantiate_last _ [.initial] _ [] (Option.some.inj hsnapshot).symm (by simp)
  · refine fresh.instantiate_unknown _ fun factory => ?_
    rw [← Option.some.inj hfresh]
    simp [Registration.initial]

end PathCall.RegistryShelf
