import Mathlib.Logic.Relation
import PathCall.Proofs.Filter.KeyHistory

/-!
Blacklists that are shared by many handles, over whole runs. A run makes one history of changes,
each through a handle. The handles that were cloned, directly or indirectly, from one origin show
one list, and it is what the changes through these handles leave; changes through all others do
not touch it.
-/

namespace PathCall.Filter.Blacklist

/-- The changes that an action makes on a shelf. The keys that a list is made with are added to it
in order, through its first handle. -/
def Action.changes (shelf : Shelf) : Action → List Change
  | .create keys => keys.map fun key => ⟨shelf.handles.length, key, true⟩
  | .share _ => []
  | .add handle key => if handle < shelf.handles.length then [⟨handle, key, true⟩] else []
  | .remove handle key => if handle < shelf.handles.length then [⟨handle, key, false⟩] else []

def Shelf.changes (shelf : Shelf) : List Action → List Change
  | [] => []
  | action :: actions => action.changes shelf ++ (shelf.apply action).changes actions

def ClonedIn (actions : List Action) (source clone : Nat) : Prop :=
  ∃ before after, actions = before ++ .share source :: after ∧
    source < (Shelf.empty.run before).handles.length ∧
    clone = (Shelf.empty.run before).handles.length

/-- The handles were cloned, directly or indirectly, from one origin. -/
def SameOrigin (actions : List Action) : Nat → Nat → Prop := Relation.EqvGen (ClonedIn actions)

def Action.handle? : Action → Option Nat
  | .add handle _ | .remove handle _ => some handle
  | .create _ | .share _ => none

namespace Shelf

def Complete (shelf : Shelf) : Prop :=
  ∀ (handle origin : Nat), shelf.handles[handle]? = some origin → origin < shelf.lists.length

variable {shelf : Shelf} {action : Action} {actions : List Action} {handle other origin : Nat}

theorem run_cons (shelf : Shelf) (action : Action) (actions : List Action) :
    shelf.run (action :: actions) = (shelf.apply action).run actions := rfl

theorem run_concat (shelf : Shelf) (actions : List Action) (action : Action) :
    shelf.run (actions ++ [action]) = (shelf.run actions).apply action := by
  rw [run, List.foldl_append]
  rfl

theorem handles_modify (shelf : Shelf) (handle : Nat) (change : Blacklist → Blacklist) :
    (shelf.modify handle change).handles = shelf.handles := by
  unfold modify
  split <;> rfl

theorem length_lists_modify (shelf : Shelf) (handle : Nat) (change : Blacklist → Blacklist) :
    (shelf.modify handle change).lists.length = shelf.lists.length := by
  unfold modify
  split <;> simp

/-- What an action does to the handles: it makes one on a new list, or one on the list of another
handle, or none. -/
theorem handles_apply_cases (shelf : Shelf) (action : Action) :
    (∃ keys, action = .create keys ∧
      (shelf.apply action).handles = shelf.handles ++ [shelf.lists.length]) ∨
    (∃ source origin, action = .share source ∧ shelf.handles[source]? = some origin ∧
      (shelf.apply action).handles = shelf.handles ++ [origin]) ∨
    (shelf.apply action).handles = shelf.handles := by
  cases action with
  | create keys => exact .inl ⟨keys, rfl, rfl⟩
  | share source =>
    cases hsource : shelf.handles[source]? with
    | some origin =>
      exact .inr (.inl ⟨source, origin, rfl, hsource, by simp [apply, share, hsource]⟩)
    | none => exact .inr (.inr (by simp [apply, share, hsource]))
  | add handle key => exact .inr (.inr (handles_modify ..))
  | remove handle key => exact .inr (.inr (handles_modify ..))

theorem getElem?_concat_eq_some_iff {origins : List Nat} {added : Nat} :
    (origins ++ [added])[handle]? = some origin ↔
      origins[handle]? = some origin ∨ handle = origins.length ∧ added = origin := by
  rw [List.getElem?_append]
  split
  · rename_i hlt
    simp [Nat.ne_of_lt hlt]
  · rename_i hge
    have hnone : origins[handle]? = none := List.getElem?_eq_none (Nat.not_lt.mp hge)
    simp only [hnone, reduceCtorEq, false_or, List.getElem?_singleton]
    split <;> simp <;> omega

theorem handles_prefix_apply (shelf : Shelf) (action : Action) :
    shelf.handles <+: (shelf.apply action).handles := by
  obtain ⟨_, -, hhandles⟩ | ⟨_, _, -, -, hhandles⟩ | hhandles := handles_apply_cases shelf action
  · rw [hhandles]
    exact List.prefix_append _ _
  · rw [hhandles]
    exact List.prefix_append _ _
  · exact hhandles ▸ List.prefix_rfl

theorem handles_prefix_run (shelf : Shelf) (actions : List Action) :
    shelf.handles <+: (shelf.run actions).handles := by
  induction actions generalizing shelf with
  | nil => exact List.prefix_rfl
  | cons action actions ih =>
    exact (handles_prefix_apply shelf action).trans (ih (shelf.apply action))

theorem getElem?_handles_run (h : shelf.handles[handle]? = some origin) (actions : List Action) :
    (shelf.run actions).handles[handle]? = some origin := by
  obtain ⟨added, hadded⟩ := handles_prefix_run shelf actions
  rw [← hadded, List.getElem?_append_left (List.getElem?_eq_some_iff.mp h).1, h]

theorem length_lists_le_apply (shelf : Shelf) (action : Action) :
    shelf.lists.length ≤ (shelf.apply action).lists.length := by
  cases action with
  | create keys => simp [apply, create]
  | share source =>
    simp only [apply, share]
    split <;> exact Nat.le_refl _
  | add handle key => exact Nat.le_of_eq (length_lists_modify ..).symm
  | remove handle key => exact Nat.le_of_eq (length_lists_modify ..).symm

theorem Complete.apply (h : shelf.Complete) (action : Action) : (shelf.apply action).Complete := by
  intro handle origin horigin
  have hkept : ∀ handle : Nat, shelf.handles[handle]? = some origin →
      origin < (shelf.apply action).lists.length := fun handle hhandle =>
    Nat.lt_of_lt_of_le (h handle origin hhandle) (length_lists_le_apply shelf action)
  obtain ⟨keys, rfl, hhandles⟩ | ⟨source, shared, rfl, hsource, hhandles⟩ | hhandles :=
    handles_apply_cases shelf action
  · rw [hhandles, getElem?_concat_eq_some_iff] at horigin
    obtain hhandle | ⟨-, rfl⟩ := horigin
    · exact hkept handle hhandle
    · simp [Shelf.apply, create]
  · rw [hhandles, getElem?_concat_eq_some_iff] at horigin
    obtain hhandle | ⟨-, rfl⟩ := horigin
    · exact hkept handle hhandle
    · exact hkept source hsource
  · exact hkept handle (hhandles ▸ horigin)

theorem complete_run (actions : List Action) : (empty.run actions).Complete := by
  induction actions using List.reverseRecOn with
  | nil =>
    intro handle origin horigin
    cases horigin
  | append_singleton actions action ih =>
    rw [run_concat]
    exact ih.apply action

/-! ### The list of an origin -/

/-- The list that the handles of an origin show. -/
def listAt (shelf : Shelf) (origin : Nat) : Blacklist := (shelf.lists[origin]?).getD []

theorem get_eq_listAt (h : shelf.handles[handle]? = some origin) :
    shelf.get handle = shelf.listAt origin := by
  rw [get, h]
  rfl

theorem listAt_modify (h : shelf.Complete) {place : Nat}
    (hplace : shelf.handles[handle]? = some place) (change : Blacklist → Blacklist)
    (origin : Nat) :
    (shelf.modify handle change).listAt origin =
      if place = origin then change (shelf.listAt origin) else shelf.listAt origin := by
  have hlt : place < shelf.lists.length := h handle place hplace
  simp only [modify, hplace, listAt, List.getElem?_modify]
  by_cases horigin : place = origin
  · subst horigin
    simp [List.getElem?_eq_getElem hlt]
  · simp [horigin]

theorem foldl_replay_of_not {own : Nat → Prop} [DecidablePred own] {changes : List Change}
    (h : ∀ change ∈ changes, ¬own change.handle) (keys : Blacklist) :
    changes.foldl (replay own) keys = keys := by
  induction changes with
  | nil => rfl
  | cons change changes ih =>
    obtain ⟨hchange, hchanges⟩ := List.forall_mem_cons.mp h
    rw [List.foldl_cons, replay, if_neg hchange]
    exact ih hchanges

theorem foldl_replay_added {own : Nat → Prop} [DecidablePred own] (h : own handle)
    (keys : List String) :
    (keys.map fun key => (⟨handle, key, true⟩ : Change)).foldl (replay own) [] = ofKeys keys := by
  simp [List.foldl_map, ofKeys, replay, h]

/-- A change through a handle is replayed on the list of an origin. -/
theorem listAt_modify_eq_foldl (h : shelf.Complete) {own : Nat → Prop} [DecidablePred own]
    (hown : ∀ place, shelf.handles[handle]? = some place → (own handle ↔ place = origin))
    (key : String) (adds : Bool) :
    (shelf.modify handle (if adds then add key else remove key)).listAt origin =
      (if handle < shelf.handles.length then [(⟨handle, key, adds⟩ : Change)] else []).foldl
        (replay own) (shelf.listAt origin) := by
  cases hplace : shelf.handles[handle]? with
  | none =>
    have hnone : ¬handle < shelf.handles.length :=
      Nat.not_lt.mpr (List.getElem?_eq_none_iff.mp hplace)
    simp [modify, hnone]
  | some place =>
    have hlt : handle < shelf.handles.length := (List.getElem?_eq_some_iff.mp hplace).1
    have howns := hown place hplace
    rw [listAt_modify h hplace, if_pos hlt, List.foldl_cons, List.foldl_nil, replay]
    cases adds <;> simp [howns]

/-- An action replays its changes on the list of an origin. -/
theorem listAt_apply (h : shelf.Complete) (action : Action) {own : Nat → Prop} [DecidablePred own]
    (hown : ∀ (handle place : Nat), (shelf.apply action).handles[handle]? = some place →
      (own handle ↔ place = origin)) :
    (shelf.apply action).listAt origin =
      (action.changes shelf).foldl (replay own) (shelf.listAt origin) := by
  have hmodify (handle : Nat) (key : String) (adds : Bool)
      (hhandles : (shelf.apply action).handles = shelf.handles) :=
    listAt_modify_eq_foldl h (fun place hplace => hown handle place (hhandles ▸ hplace)) key adds
  cases action with
  | create keys =>
    have hnew := hown shelf.handles.length shelf.lists.length List.getElem?_concat_length
    by_cases horigin : shelf.lists.length = origin
    · subst horigin
      have hnone : shelf.listAt shelf.lists.length = [] := by simp [listAt]
      rw [hnone, Action.changes, foldl_replay_added (hnew.mpr rfl)]
      simp [Shelf.apply, create, listAt]
    · have hnot : ∀ change ∈ (Action.create keys).changes shelf, ¬own change.handle := by
        intro change hchange
        obtain ⟨key, -, rfl⟩ := List.mem_map.mp hchange
        exact mt hnew.mp horigin
      rw [foldl_replay_of_not hnot]
      simp only [Shelf.apply, create, listAt]
      rcases Nat.lt_or_gt_of_ne horigin with hgt | hlt
      · rw [List.getElem?_eq_none (by simp; omega), List.getElem?_eq_none (by omega)]
      · rw [List.getElem?_append_left hlt]
  | share source =>
    simp only [Shelf.apply, Action.changes, List.foldl_nil, share]
    split <;> rfl
  | add handle key => exact hmodify handle key true (handles_modify ..)
  | remove handle key => exact hmodify handle key false (handles_modify ..)

/-- The changes of an action are made through the first handle of its new list, or through the
handle that it names. -/
theorem handle_of_mem_changes {change : Change} (h : change ∈ action.changes shelf) :
    (∃ keys, action = .create keys ∧ change.handle = shelf.handles.length) ∨
      (action.handle? = some change.handle ∧ (shelf.apply action).handles = shelf.handles) := by
  cases action with
  | create keys =>
    obtain ⟨key, -, rfl⟩ := List.mem_map.mp h
    exact .inl ⟨keys, rfl, rfl⟩
  | share source => cases h
  | add handle key | remove handle key =>
    simp only [Action.changes, List.mem_ite_nil_right, List.mem_singleton] at h
    obtain ⟨-, rfl⟩ := h
    exact .inr ⟨rfl, handles_modify ..⟩

/-- A run replays its changes on the list of an origin. -/
theorem listAt_run (h : shelf.Complete) (actions : List Action) (origin : Nat) :
    (shelf.run actions).listAt origin =
      (shelf.changes actions).foldl
        (replay fun handle => (shelf.run actions).handles[handle]? = some origin)
        (shelf.listAt origin) := by
  induction actions generalizing shelf with
  | nil => rfl
  | cons action actions ih =>
    rw [run_cons, ih (h.apply action), changes, List.foldl_append]
    congr 1
    refine listAt_apply h action fun handle place hplace => ?_
    rw [getElem?_handles_run hplace actions, Option.some.injEq]

/-- Only changes through a handle of an origin change the list that the origin's handles show. -/
theorem get_apply_of_ne (h : shelf.Complete) (horigin : shelf.handles[handle]? = some origin)
    (hother : ∀ other, action.handle? = some other → shelf.handles[other]? ≠ some origin) :
    (shelf.apply action).get handle = shelf.get handle := by
  have hkept : (shelf.apply action).handles[handle]? = some origin :=
    getElem?_handles_run horigin [action]
  have hnot : ∀ change ∈ action.changes shelf,
      (shelf.apply action).handles[change.handle]? ≠ some origin := by
    intro change hchange
    obtain ⟨keys, rfl, hhandle⟩ | ⟨hhandle, hhandles⟩ := handle_of_mem_changes hchange
    · -- The handle of a new list is on no list that was there.
      have hlt : origin < shelf.lists.length := h handle origin horigin
      simp only [hhandle, Shelf.apply, create, List.getElem?_concat_length, ne_eq,
        Option.some.injEq]
      exact Nat.ne_of_gt hlt
    · rw [hhandles]
      exact hother _ hhandle
  have hlist : (shelf.apply action).listAt origin = (action.changes shelf).foldl
      (replay fun place => (shelf.apply action).handles[place]? = some origin)
      (shelf.listAt origin) :=
    listAt_apply h action fun place other hplace => by rw [hplace, Option.some.injEq]
  rw [get_eq_listAt hkept, get_eq_listAt horigin, hlist]
  exact foldl_replay_of_not hnot _

end Shelf

/-! ### Handles of one origin -/

open Blacklist.Shelf (empty)

variable {actions : List Action} {action : Action} {handle other origin source clone : Nat}

theorem ClonedIn.concat (h : ClonedIn actions source clone) (action : Action) :
    ClonedIn (actions ++ [action]) source clone := by
  obtain ⟨before, after, rfl, hsource, hclone⟩ := h
  exact ⟨before, after ++ [action], by simp, hsource, hclone⟩

theorem SameOrigin.concat (h : SameOrigin actions handle other) (action : Action) :
    SameOrigin (actions ++ [action]) handle other :=
  Relation.EqvGen.mono (fun _ _ hcloned => ClonedIn.concat hcloned action) _ _ h

theorem ClonedIn.handles_eq (h : ClonedIn actions source clone) :
    (empty.run actions).handles[source]? = (empty.run actions).handles[clone]? := by
  obtain ⟨before, after, rfl, hsource, rfl⟩ := h
  obtain ⟨origin, horigin⟩ : ∃ origin, (empty.run before).handles[source]? = some origin :=
    ⟨_, List.getElem?_eq_getElem hsource⟩
  have hclone : ((empty.run before).apply (.share source)).handles[
      (empty.run before).handles.length]? = some origin := by
    simp [Shelf.apply, Shelf.share, horigin]
  have hrun : empty.run (before ++ .share source :: after) =
      ((empty.run before).apply (.share source)).run after := by
    rw [Shelf.run, List.foldl_append]
    rfl
  obtain ⟨added, hadded⟩ := Shelf.handles_prefix_apply (empty.run before) (.share source)
  have hkept : ((empty.run before).apply (.share source)).handles[source]? = some origin := by
    rw [← hadded, List.getElem?_append_left hsource, horigin]
  rw [hrun, Shelf.getElem?_handles_run hkept, Shelf.getElem?_handles_run hclone]

theorem SameOrigin.handles_eq (h : SameOrigin actions handle other) :
    (empty.run actions).handles[handle]? = (empty.run actions).handles[other]? := by
  induction h with
  | rel _ _ hcloned => exact hcloned.handles_eq
  | refl => rfl
  | symm _ _ _ ih => exact ih.symm
  | trans _ _ _ _ _ ih ih' => exact ih.trans ih'

/-- Handles on one list go back to one origin. -/
theorem sameOrigin_of_handles (hhandle : (empty.run actions).handles[handle]? = some origin)
    (hother : (empty.run actions).handles[other]? = some origin) :
    SameOrigin actions handle other := by
  induction actions using List.reverseRecOn generalizing handle other origin with
  | nil => cases hhandle
  | append_singleton actions action ih =>
    rw [Shelf.run_concat] at hhandle hother
    obtain ⟨keys, rfl, hhandles⟩ | ⟨source, shared, rfl, hsource, hhandles⟩ | hhandles :=
      Shelf.handles_apply_cases (empty.run actions) action
    · -- Nothing else is on the list that was just made.
      have hnew : ∀ place : Nat, (empty.run actions).handles[place]? ≠
          some (empty.run actions).lists.length := fun place hplace =>
        Nat.lt_irrefl _ (Shelf.complete_run actions place _ hplace)
      rw [hhandles, Shelf.getElem?_concat_eq_some_iff] at hhandle hother
      obtain hhandle | ⟨rfl, rfl⟩ := hhandle
      · obtain hother | ⟨rfl, rfl⟩ := hother
        · exact (ih hhandle hother).concat _
        · exact absurd hhandle (hnew handle)
      · obtain hother | ⟨rfl, -⟩ := hother
        · exact absurd hother (hnew other)
        · exact .refl _
    · have hclone : ∀ place : Nat, (empty.run actions).handles[place]? = some shared →
          SameOrigin (actions ++ [.share source]) place (empty.run actions).handles.length := by
        intro place hplace
        have hcloned : ClonedIn (actions ++ [.share source]) source
            (empty.run actions).handles.length :=
          ⟨actions, [], rfl, (List.getElem?_eq_some_iff.mp hsource).1, rfl⟩
        exact ((ih hplace hsource).concat _).trans _ _ _ (.rel _ _ hcloned)
      rw [hhandles, Shelf.getElem?_concat_eq_some_iff] at hhandle hother
      obtain hhandle | ⟨rfl, rfl⟩ := hhandle
      · obtain hother | ⟨rfl, rfl⟩ := hother
        · exact (ih hhandle hother).concat _
        · exact hclone handle hhandle
      · obtain hother | ⟨rfl, -⟩ := hother
        · exact (hclone other hother).symm
        · exact .refl _
    · rw [hhandles] at hhandle hother
      exact (ih hhandle hother).concat action

theorem sameOrigin_iff (h : (empty.run actions).handles[handle]? = some origin) (other : Nat) :
    SameOrigin actions handle other ↔ (empty.run actions).handles[other]? = some origin := by
  constructor
  · intro hsame
    rw [← hsame.handles_eq, h]
  · exact sameOrigin_of_handles h

/-- What handles show after any run. The keys of a handle are free of duplicates; they are those
that were added last, of all additions and removals through handles that were cloned, directly or
indirectly, from the same origin, and they stand in the order of their latest insertions. Handles of
one origin show the same keys. No action changes the keys of a handle, unless it adds or removes a
key through a handle of the same origin. -/
theorem handles_reflect_shared_changes (actions : List Action) :
    (∀ handle < (empty.run actions).handles.length,
      Reflects (SameOrigin actions handle) (empty.changes actions)
        ((empty.run actions).get handle)) ∧
    (∀ handle other, SameOrigin actions handle other →
      (empty.run actions).get handle = (empty.run actions).get other) ∧
    ∀ handle < (empty.run actions).handles.length, ∀ action : Action,
      (∀ other, action.handle? = some other → ¬SameOrigin actions handle other) →
        ((empty.run actions).apply action).get handle = (empty.run actions).get handle := by
  have hcomplete := Shelf.complete_run actions
  refine ⟨?reflects, ?agree, ?others⟩
  case reflects =>
    intro handle hhandle
    have horigin := List.getElem?_eq_getElem hhandle
    have hown : SameOrigin actions handle = fun other =>
        (empty.run actions).handles[other]? = some (empty.run actions).handles[handle] :=
      funext fun other => propext (sameOrigin_iff horigin other)
    have hempty : empty.Complete := Shelf.complete_run []
    rw [Shelf.get_eq_listAt horigin, Shelf.listAt_run hempty actions, hown]
    exact reflects_foldl_replay _ _
  case agree =>
    intro handle other hsame
    rw [Shelf.get, Shelf.get, hsame.handles_eq]
  case others =>
    intro handle hhandle action hothers
    have horigin := List.getElem?_eq_getElem hhandle
    refine Shelf.get_apply_of_ne hcomplete horigin fun other hother => ?_
    exact mt (sameOrigin_iff horigin other).mpr (hothers other hother)

/-- A key is removed through a clone and added again through its original, beside another list. -/
def ownerMoved : List Action := [
  .create ["owner", "id", "owner"],
  .share 0,
  .create ["owner"],
  .remove 1 "owner",
  .add 0 "owner",
  .add 1 "id"]

/-- Original and clone show the key at its new place, whatever happens to the other list. -/
theorem ownerMoved_reflected :
    Reflects (SameOrigin ownerMoved 0) (empty.changes ownerMoved) ["id", "owner"] ∧
      (empty.run ownerMoved).get 1 = ["id", "owner"] ∧
      ((empty.run ownerMoved).apply (.remove 2 "owner")).get 0 = ["id", "owner"] := by
  obtain ⟨hreflects, hagree, hothers⟩ := handles_reflect_shared_changes ownerMoved
  have hkeys : (empty.run ownerMoved).get 0 = ["id", "owner"] := by decide
  have hcloned : ClonedIn ownerMoved 0 1 := ⟨[_], _, rfl, by decide, rfl⟩
  have hother : ¬SameOrigin ownerMoved 0 2 := fun hsame => absurd hsame.handles_eq (by decide)
  refine ⟨hkeys ▸ hreflects 0 (by decide), ?_, ?_⟩
  · rw [← hagree 0 1 (.rel _ _ hcloned), hkeys]
  · rw [← hkeys]
    refine hothers 0 (by decide) (.remove 2 "owner") fun handle hhandle => ?_
    cases hhandle
    exact hother

end PathCall.Filter.Blacklist
