import Mathlib.Data.List.Induction
import Mathlib.Data.List.Nodup
import PathCall.Filter.Blacklist

/-!
What a history of changes leaves on a blacklist. Every change is made through a handle, and only
those through certain handles concern the list. A key is on the list if the last change of it adds
it, and the keys stand in the order in which they last came onto the list: an addition of a key that
is there already does not move it.
-/

namespace PathCall.Filter.Blacklist

structure Change where
  handle : Nat
  key : String
  /-- Whether the key is added; otherwise it is removed. -/
  adds : Bool

section History

variable (own : Nat → Prop) (changes : List Change)

/-- Of the changes of a key through these handles the last one adds it. -/
def LastAdded (key : String) : Prop :=
  ∃ before handle after, changes = before ++ ⟨handle, key, true⟩ :: after ∧ own handle ∧
    ∀ change ∈ after, own change.handle → change.key ≠ key

/-- The change at a place takes effect as an insertion: it adds the key, which is not there. -/
structure InsertedAt (place : Nat) (key : String) : Prop where
  added : ∃ handle, own handle ∧ changes[place]? = some ⟨handle, key, true⟩
  absent : ¬LastAdded own (changes.take place) key

/-- The key is inserted at this place and at no later one. -/
structure LastInsertedAt (place : Nat) (key : String) : Prop where
  inserted : InsertedAt own changes place key
  latest : ∀ later, InsertedAt own changes later key → later ≤ place

/-- The keys are those that the changes through these handles leave, in the order of their latest
insertions. -/
structure Reflects (keys : Blacklist) : Prop where
  nodup : keys.Nodup
  mem_iff : ∀ key, key ∈ keys ↔ LastAdded own changes key
  inserted : ∀ key ∈ keys, ∃ place, LastInsertedAt own changes place key
  inOrder : keys.Pairwise fun first second => ∀ place later,
    LastInsertedAt own changes place first → LastInsertedAt own changes later second →
      place < later

end History

/-- A list after a change, which counts if its handle does. -/
def replay (own : Nat → Prop) [DecidablePred own] (keys : Blacklist) (change : Change) :
    Blacklist :=
  if own change.handle then
    if change.adds then add change.key keys else remove change.key keys
  else keys

variable {own : Nat → Prop} {changes : List Change} {change : Change} {keys : Blacklist}
  {key : String} {place later : Nat}

/-! ### One more change -/

/-- Where a history with one more change is taken apart: at that change, or before it. -/
theorem eq_or_exists_of_concat_eq {last : Change} {before after : List Change}
    (h : changes ++ [last] = before ++ change :: after) :
    (changes = before ∧ last = change ∧ after = []) ∨
      ∃ front, changes = before ++ change :: front ∧ after = front ++ [last] := by
  rcases List.eq_nil_or_concat' after with rfl | ⟨front, other, rfl⟩
  · obtain ⟨hchanges, hlast⟩ := List.append_inj' h rfl
    exact .inl ⟨hchanges, List.singleton_inj.mp hlast, rfl⟩
  · have hsplit : changes ++ [last] = (before ++ change :: front) ++ [other] := by simp [h]
    obtain ⟨hchanges, hlast⟩ := List.append_inj' hsplit rfl
    exact .inr ⟨front, hchanges, by rw [hlast]⟩

theorem lastAdded_concat_self (h : own change.handle) :
    LastAdded own (changes ++ [change]) change.key ↔ change.adds = true := by
  constructor
  · rintro ⟨before, handle, after, hsplit, -, hafter⟩
    obtain ⟨-, hlast, -⟩ | ⟨front, -, rfl⟩ := eq_or_exists_of_concat_eq hsplit
    · rw [hlast]
    · exact absurd rfl (hafter change (by simp) h)
  · intro hadds
    refine ⟨changes, change.handle, [], ?_, h, by simp⟩
    rw [← hadds]

theorem lastAdded_concat_of_ne (h : own change.handle → change.key ≠ key) :
    LastAdded own (changes ++ [change]) key ↔ LastAdded own changes key := by
  constructor
  · rintro ⟨before, handle, after, hsplit, hhandle, hafter⟩
    obtain ⟨-, rfl, -⟩ | ⟨front, hchanges, rfl⟩ := eq_or_exists_of_concat_eq hsplit
    · exact absurd rfl (h hhandle)
    · exact ⟨before, handle, front, hchanges, hhandle, fun other hother =>
        hafter other (List.mem_append_left _ hother)⟩
  · rintro ⟨before, handle, after, rfl, hhandle, hafter⟩
    refine ⟨before, handle, after ++ [change], by simp, hhandle, fun other hother => ?_⟩
    rcases List.mem_append.mp hother with hother | hother
    · exact hafter other hother
    · exact List.mem_singleton.mp hother ▸ h

theorem InsertedAt.lt_length (h : InsertedAt own changes place key) : place < changes.length := by
  obtain ⟨handle, -, hplace⟩ := h.added
  exact (List.getElem?_eq_some_iff.mp hplace).1

def Inserts (own : Nat → Prop) (changes : List Change) (change : Change) (key : String) : Prop :=
  own change.handle ∧ change.key = key ∧ change.adds = true ∧ ¬LastAdded own changes key

theorem insertedAt_concat_iff :
    InsertedAt own (changes ++ [change]) place key ↔
      InsertedAt own changes place key ∨
        place = changes.length ∧ Inserts own changes change key := by
  rcases Nat.lt_trichotomy place changes.length with hlt | rfl | hgt
  · have hget : (changes ++ [change])[place]? = changes[place]? :=
      List.getElem?_append_left hlt
    have htake : (changes ++ [change]).take place = changes.take place :=
      List.take_append_of_le_length (Nat.le_of_lt hlt)
    constructor
    · rintro ⟨hadded, habsent⟩
      exact .inl ⟨hget ▸ hadded, htake ▸ habsent⟩
    · rintro (⟨hadded, habsent⟩ | ⟨heq, -⟩)
      · exact ⟨hget ▸ hadded, htake ▸ habsent⟩
      · omega
  · have hget : (changes ++ [change])[changes.length]? = some change :=
      List.getElem?_concat_length
    have htake : (changes ++ [change]).take changes.length = changes := List.take_left
    constructor
    · rintro ⟨⟨handle, hhandle, hadded⟩, habsent⟩
      cases hget.symm.trans hadded
      exact .inr ⟨rfl, hhandle, rfl, rfl, htake ▸ habsent⟩
    · rintro (hinserted | ⟨-, hhandle, rfl, hadds, habsent⟩)
      · exact absurd hinserted.lt_length (Nat.lt_irrefl _)
      · refine ⟨⟨change.handle, hhandle, ?_⟩, htake.symm ▸ habsent⟩
        rw [hget, ← hadds]
  · constructor
    · intro hinserted
      have hlt := hinserted.lt_length
      simp only [List.length_append, List.length_singleton] at hlt
      omega
    · rintro (hinserted | ⟨heq, -⟩)
      · exact absurd hinserted.lt_length (by omega)
      · omega

theorem lastInsertedAt_concat_of_not (h : ¬Inserts own changes change key) :
    LastInsertedAt own (changes ++ [change]) place key ↔ LastInsertedAt own changes place key := by
  have hsame : ∀ place, InsertedAt own (changes ++ [change]) place key ↔
      InsertedAt own changes place key := fun place => by
    rw [insertedAt_concat_iff]
    simp [h]
  constructor
  · exact fun ⟨hinserted, hlatest⟩ =>
      ⟨(hsame place).mp hinserted, fun later hlater => hlatest later ((hsame later).mpr hlater)⟩
  · exact fun ⟨hinserted, hlatest⟩ =>
      ⟨(hsame place).mpr hinserted, fun later hlater => hlatest later ((hsame later).mp hlater)⟩

theorem lastInsertedAt_concat_self (h : Inserts own changes change key) :
    LastInsertedAt own (changes ++ [change]) changes.length key where
  inserted := insertedAt_concat_iff.mpr (.inr ⟨rfl, h⟩)
  latest later hlater := by
    rcases insertedAt_concat_iff.mp hlater with hearlier | ⟨rfl, -⟩
    · exact Nat.le_of_lt hearlier.lt_length
    · exact Nat.le_refl _

/-! ### Lists that reflect their changes -/

theorem reflects_nil (own : Nat → Prop) : Reflects own [] [] where
  nodup := List.nodup_nil
  mem_iff key := by simp [LastAdded]
  inserted := by simp
  inOrder := List.Pairwise.nil

section Kept

variable {kept : Blacklist}

theorem Reflects.inserted_concat (h : Reflects own changes keys) (hsub : kept.Sublist keys)
    (hnot : ∀ key ∈ kept, ¬Inserts own changes change key) :
    ∀ key ∈ kept, ∃ place, LastInsertedAt own (changes ++ [change]) place key := by
  intro key hkey
  obtain ⟨place, hplace⟩ := h.inserted key (hsub.mem hkey)
  exact ⟨place, (lastInsertedAt_concat_of_not (hnot key hkey)).mpr hplace⟩

/-- Keys that are not inserted again stand where they stood. -/
theorem Reflects.inOrder_concat (h : Reflects own changes keys) (hsub : kept.Sublist keys)
    (hnot : ∀ key ∈ kept, ¬Inserts own changes change key) :
    kept.Pairwise fun first second => ∀ place later,
      LastInsertedAt own (changes ++ [change]) place first →
      LastInsertedAt own (changes ++ [change]) later second → place < later := by
  refine (h.inOrder.sublist hsub).imp_of_mem ?_
  intro first second hfirst hsecond hlt place later hplace hlater
  rw [lastInsertedAt_concat_of_not (hnot first hfirst)] at hplace
  rw [lastInsertedAt_concat_of_not (hnot second hsecond)] at hlater
  exact hlt place later hplace hlater

theorem Reflects.of_kept (h : Reflects own changes keys) (hsub : kept.Sublist keys)
    (hnot : ∀ key ∈ kept, ¬Inserts own changes change key)
    (hmem : ∀ key, key ∈ kept ↔ LastAdded own (changes ++ [change]) key) :
    Reflects own (changes ++ [change]) kept where
  nodup := h.nodup.sublist hsub
  mem_iff := hmem
  inserted := h.inserted_concat hsub hnot
  inOrder := h.inOrder_concat hsub hnot

end Kept

/-- A key that was not there comes behind all others. -/
theorem Reflects.inserting (h : Reflects own changes keys)
    (hinserts : Inserts own changes change key) :
    Reflects own (changes ++ [change]) (keys ++ [key]) := by
  have hlast := lastInsertedAt_concat_self hinserts
  obtain ⟨hown, rfl, hadds, habsent⟩ := hinserts
  have hnotMem : change.key ∉ keys := mt (h.mem_iff _).mp habsent
  have hnot : ∀ other ∈ keys, ¬Inserts own changes change other := by
    rintro other hother ⟨-, rfl, -⟩
    exact hnotMem hother
  have hsub : keys.Sublist keys := List.Sublist.refl keys
  refine ⟨?nodup, ?mem_iff, ?inserted, ?inOrder⟩
  case nodup => simpa using h.nodup.concat hnotMem
  case mem_iff =>
    intro other
    by_cases hother : change.key = other
    · subst hother
      simp [lastAdded_concat_self hown, hadds]
    · rw [lastAdded_concat_of_ne fun _ => hother, ← h.mem_iff]
      simp [Ne.symm hother]
  case inserted =>
    intro other hother
    rcases List.mem_append.mp hother with hother | hother
    · exact h.inserted_concat hsub hnot other hother
    · obtain rfl := List.mem_singleton.mp hother
      exact ⟨changes.length, hlast⟩
  case inOrder =>
    refine List.pairwise_append.mpr ⟨h.inOrder_concat hsub hnot, List.pairwise_singleton .., ?_⟩
    intro other hother last hkey place later hplace hlater
    obtain rfl := List.mem_singleton.mp hkey
    rw [lastInsertedAt_concat_of_not (hnot other hother)] at hplace
    exact Nat.lt_of_lt_of_le hplace.inserted.lt_length (hlater.latest _ hlast.inserted)

/-- An addition of a key that is there changes nothing. -/
theorem Reflects.present (h : Reflects own changes keys) (hown : own change.handle)
    (hadds : change.adds = true) (hmem : change.key ∈ keys) :
    Reflects own (changes ++ [change]) keys := by
  refine h.of_kept (List.Sublist.refl _) ?_ fun other => ?_
  · rintro other hother ⟨-, -, -, habsent⟩
    exact habsent ((h.mem_iff other).mp hother)
  · by_cases hother : change.key = other
    · subst hother
      simp [hmem, lastAdded_concat_self hown, hadds]
    · rw [lastAdded_concat_of_ne fun _ => hother, h.mem_iff]

theorem Reflects.removing (h : Reflects own changes keys) (hown : own change.handle)
    (hremoves : change.adds = false) :
    Reflects own (changes ++ [change]) (remove change.key keys) := by
  refine h.of_kept List.filter_sublist ?_ fun other => ?_
  · rintro other - ⟨-, -, hadds, -⟩
    rw [hremoves] at hadds
    cases hadds
  · by_cases hother : change.key = other
    · subst hother
      simp [remove, lastAdded_concat_self hown, hremoves]
    · rw [lastAdded_concat_of_ne fun _ => hother, ← h.mem_iff]
      simp [remove, Ne.symm hother]

/-- A change through another handle changes nothing. -/
theorem Reflects.unconcerned (h : Reflects own changes keys) (hown : ¬own change.handle) :
    Reflects own (changes ++ [change]) keys := by
  refine h.of_kept (List.Sublist.refl _) (fun other _ hinserts => hown hinserts.1) fun other => ?_
  rw [lastAdded_concat_of_ne fun hother => absurd hother hown, h.mem_iff]

theorem Reflects.replay [DecidablePred own] (h : Reflects own changes keys) (change : Change) :
    Reflects own (changes ++ [change]) (Blacklist.replay own keys change) := by
  by_cases hown : own change.handle
  · cases hadds : change.adds with
    | true =>
      by_cases hmem : change.key ∈ keys
      · have hkeys : Blacklist.replay own keys change = keys := by
          simp [Blacklist.replay, hown, hadds, add, hmem]
        rw [hkeys]
        exact h.present hown hadds hmem
      · have hkeys : Blacklist.replay own keys change = keys ++ [change.key] := by
          simp [Blacklist.replay, hown, hadds, add, hmem]
        rw [hkeys]
        exact h.inserting ⟨hown, rfl, hadds, mt (h.mem_iff _).mpr hmem⟩
    | false =>
      have hkeys : Blacklist.replay own keys change = remove change.key keys := by
        simp [Blacklist.replay, hown, hadds]
      rw [hkeys]
      exact h.removing hown hadds
  · have hkeys : Blacklist.replay own keys change = keys := if_neg hown
    rw [hkeys]
    exact h.unconcerned hown

theorem reflects_foldl_replay (own : Nat → Prop) [DecidablePred own] (changes : List Change) :
    Reflects own changes (changes.foldl (Blacklist.replay own) []) := by
  induction changes using List.reverseRecOn with
  | nil => exact reflects_nil own
  | append_singleton changes change ih =>
    rw [List.foldl_append]
    exact ih.replay change

end PathCall.Filter.Blacklist
