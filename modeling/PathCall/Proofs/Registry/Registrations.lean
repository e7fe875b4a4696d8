import Mathlib.Data.List.Induction
import PathCall.Registry

/-!
What a registry holds of what it has been told. A registry is given by the list of its
registrations, from the one that every registry begins with. Of registrations for one entity, or
under one key of a scheme, the last one decides.
-/

namespace PathCall

variable {Ω : Type}

inductive Registration (Ω : Type) where
  | entity (id : EntityId) (factory : Act (World Ω) (Instance Ω))
  | protocol (scheme : String) (factory : ProtocolFactory Ω)

namespace Registration

/-- Every registry begins with the protocol for entities in the process. -/
def initial : Registration Ω := .protocol Locator.defaultScheme Registry.inProcess

def entity? : Registration Ω → Option (EntityId × Act (World Ω) (Instance Ω))
  | .entity id factory => some (id, factory)
  | .protocol .. => none

/-- A protocol goes by the key of its scheme. -/
def protocol? : Registration Ω → Option (String × ProtocolFactory Ω)
  | .entity .. => none
  | .protocol scheme factory => some (Registry.protocolKey scheme, factory)

variable {registration : Registration Ω} {record : List (Registration Ω)} {id : EntityId}
  {key : String}

theorem entity?_eq_some_iff {factory : Act (World Ω) (Instance Ω)} :
    registration.entity? = some (id, factory) ↔ registration = .entity id factory := by
  cases registration <;> simp [entity?]

theorem protocol?_eq_some_iff {factory : ProtocolFactory Ω} :
    registration.protocol? = some (key, factory) ↔
      ∃ scheme, registration = .protocol scheme factory ∧ Registry.protocolKey scheme = key := by
  cases registration <;> simp [protocol?, and_comm]

theorem mem_keys_entities_iff :
    id ∈ KeyMap.keys (record.filterMap entity?) ↔ ∃ factory, .entity id factory ∈ record := by
  simp [KeyMap.keys, entity?_eq_some_iff]

theorem mem_keys_protocols_iff :
    key ∈ KeyMap.keys (record.filterMap protocol?) ↔
      ∃ scheme factory, .protocol scheme factory ∈ record ∧
        Registry.protocolKey scheme = key := by
  simp only [KeyMap.keys, List.mem_map, List.mem_filterMap, Prod.exists, protocol?_eq_some_iff]
  constructor
  · rintro ⟨_, factory, ⟨_, hmem, scheme, rfl, rfl⟩, rfl⟩
    exact ⟨scheme, factory, hmem, rfl⟩
  · rintro ⟨scheme, factory, hmem, rfl⟩
    exact ⟨_, factory, ⟨_, hmem, scheme, rfl, rfl⟩, rfl⟩

end Registration

namespace Registry

open Registration (entity? protocol?)

def register (registry : Registry Ω) : Registration Ω → Registry Ω
  | .entity id factory => registry.registerEntity id factory
  | .protocol scheme factory => registry.registerProtocol scheme factory

/-- The registry that has been told all this, the last one last. -/
def ofRecord (record : List (Registration Ω)) : Registry Ω := record.foldl register ⟨[], []⟩

variable {record before after : List (Registration Ω)} {id : EntityId} {key : String}

theorem ofRecord_initial : ofRecord [.initial] = (start : Registry Ω) := rfl

theorem ofRecord_concat (record : List (Registration Ω)) (registration : Registration Ω) :
    ofRecord (record ++ [registration]) = (ofRecord record).register registration := by
  rw [ofRecord, List.foldl_append]
  rfl

/-- Both maps of a registry at once: registrations of one sort leave the other map alone. -/
theorem ofRecord_eq (record : List (Registration Ω)) :
    ofRecord record =
      ⟨KeyMap.ofList (record.filterMap entity?), KeyMap.ofList (record.filterMap protocol?)⟩ := by
  induction record using List.reverseRecOn with
  | nil => rfl
  | append_singleton record registration ih =>
    rw [ofRecord_concat, ih, List.filterMap_append, List.filterMap_append]
    cases registration with
    | entity id factory =>
      have hentities : [Registration.entity id factory].filterMap entity? = [(id, factory)] := rfl
      have hprotocols : [Registration.entity id factory].filterMap protocol? = [] := rfl
      rw [hentities, hprotocols, KeyMap.ofList_concat, List.append_nil]
      rfl
    | protocol scheme factory =>
      have hentities : [Registration.protocol scheme factory].filterMap entity? = [] := rfl
      have hprotocols : [Registration.protocol scheme factory].filterMap protocol? =
          [(protocolKey scheme, factory)] := rfl
      rw [hentities, hprotocols, KeyMap.ofList_concat, List.append_nil]
      rfl

theorem entities_ofRecord (record : List (Registration Ω)) :
    (ofRecord record).entities = KeyMap.ofList (record.filterMap entity?) := by
  rw [ofRecord_eq]

theorem protocols_ofRecord (record : List (Registration Ω)) :
    (ofRecord record).protocols = KeyMap.ofList (record.filterMap protocol?) := by
  rw [ofRecord_eq]

theorem find?_entities_of_last (h : ∀ other, .entity id other ∉ after)
    (factory : Act (World Ω) (Instance Ω)) :
    KeyMap.find? id (ofRecord (before ++ .entity id factory :: after)).entities =
      some factory := by
  rw [entities_ofRecord, List.filterMap_append]
  refine KeyMap.find?_ofList_of_last ?_ factory _
  rw [Registration.mem_keys_entities_iff]
  rintro ⟨other, hmem⟩
  exact h other hmem

theorem find?_entities_eq_none (h : ∀ factory, .entity id factory ∉ record) :
    KeyMap.find? id (ofRecord record).entities = none := by
  rw [entities_ofRecord]
  refine KeyMap.find?_ofList_eq_none ?_
  rw [Registration.mem_keys_entities_iff]
  rintro ⟨factory, hmem⟩
  exact h factory hmem

theorem mem_entityIds_ofRecord_iff :
    id ∈ (ofRecord record).entityIds ↔ ∃ factory, .entity id factory ∈ record := by
  rw [entityIds, KeyMap.mem_sortedKeys, entities_ofRecord, KeyMap.mem_keys_ofList,
    Registration.mem_keys_entities_iff]

theorem nodup_entities (record : List (Registration Ω)) :
    (KeyMap.keys (ofRecord record).entities).Nodup := by
  rw [entities_ofRecord]
  exact KeyMap.nodup_keys_of_ordered (KeyMap.ordered_ofList _)

theorem find?_protocols_of_last {scheme : String}
    (h : ∀ other replacement, .protocol other replacement ∈ after →
      protocolKey other ≠ protocolKey scheme) (factory : ProtocolFactory Ω) :
    KeyMap.find? (protocolKey scheme)
      (ofRecord (before ++ .protocol scheme factory :: after)).protocols = some factory := by
  rw [protocols_ofRecord, List.filterMap_append]
  refine KeyMap.find?_ofList_of_last ?_ factory _
  rw [Registration.mem_keys_protocols_iff]
  rintro ⟨other, replacement, hmem, heq⟩
  exact h other replacement hmem heq

theorem find?_protocols_eq_none
    (h : ∀ scheme factory, .protocol scheme factory ∈ record → protocolKey scheme ≠ key) :
    KeyMap.find? key (ofRecord record).protocols = none := by
  rw [protocols_ofRecord]
  refine KeyMap.find?_ofList_eq_none ?_
  rw [Registration.mem_keys_protocols_iff]
  rintro ⟨scheme, factory, hmem, heq⟩
  exact h scheme factory hmem heq

theorem contains_protocols_of_mem {scheme : String} {factory : ProtocolFactory Ω}
    (h : .protocol scheme factory ∈ record) :
    KeyMap.contains (protocolKey scheme) (ofRecord record).protocols = true := by
  rw [KeyMap.contains_iff_mem_keys, protocols_ofRecord, KeyMap.mem_keys_ofList,
    Registration.mem_keys_protocols_iff]
  exact ⟨scheme, factory, h, rfl⟩

structure AnswersBy (registry : Registry Ω) (record : List (Registration Ω)) : Prop where
  /-- Of the factories registered for exactly this entity, the last one is used. -/
  instantiate_last : ∀ id before factory after, record = before ++ .entity id factory :: after →
    (∀ other, .entity id other ∉ after) → registry.instantiate id = factory
  instantiate_unknown : ∀ id, (∀ factory, .entity id factory ∉ record) →
    registry.instantiate id = Act.fail ⟨.operationNotSupported,
      "CRUD entity '" ++ id.display ++ "' is not registered"⟩
  hasEntity_iff : ∀ id, registry.hasEntity id = true ↔ ∃ factory, .entity id factory ∈ record
  mem_entityIds_iff : ∀ id, id ∈ registry.entityIds ↔ ∃ factory, .entity id factory ∈ record
  increasing : registry.entityIds.Pairwise (· < ·)
  nodup : registry.entityIds.Nodup
  servesInProcess :
    KeyMap.contains (protocolKey Locator.defaultScheme) registry.protocols = true

theorem answersBy_ofRecord (h : .initial ∈ record) : (ofRecord record).AnswersBy record where
  instantiate_last := by
    rintro id before factory after rfl hlast
    rw [instantiate, Directory.instantiate, find?_entities_of_last hlast]
  instantiate_unknown := by
    intro id hunknown
    rw [instantiate, Directory.instantiate, find?_entities_eq_none hunknown]
  hasEntity_iff := fun id => by
    rw [hasEntity, KeyMap.contains_iff_mem_keys, ← KeyMap.mem_sortedKeys]
    exact mem_entityIds_ofRecord_iff
  mem_entityIds_iff := fun id => mem_entityIds_ofRecord_iff
  increasing := KeyMap.sortedKeys_increasing (nodup_entities record)
  nodup := (KeyMap.perm_sortedKeys _).nodup_iff.mpr (nodup_entities record)
  servesInProcess := contains_protocols_of_mem h

end Registry

end PathCall
