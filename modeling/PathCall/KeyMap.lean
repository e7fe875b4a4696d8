/-!
Maps kept as lists of pairs in increasing order of their keys. Objects, method tables, feature
sets and registries are such maps, so their contents always come in one order.
-/

namespace PathCall

abbrev KeyMap (κ ν : Type) := List (κ × ν)

namespace KeyMap

variable {κ ν : Type} [LT κ] [DecidableLT κ] [DecidableEq κ]

/-- Puts the pair in its place, replacing the value of an equal key. -/
def insert (key : κ) (value : ν) : KeyMap κ ν → KeyMap κ ν
  | [] => [(key, value)]
  | (k, v) :: rest =>
    if key = k then (key, value) :: rest
    else if key < k then (key, value) :: (k, v) :: rest
    else (k, v) :: insert key value rest

def find? (key : κ) : KeyMap κ ν → Option ν
  | [] => none
  | (k, v) :: rest => if key = k then some v else find? key rest

def contains (key : κ) (map : KeyMap κ ν) : Bool :=
  (find? key map).isSome

def keys (map : KeyMap κ ν) : List κ := map.map (·.1)

/-- The keys in increasing order, however the map lists them. -/
def sortedKeys (map : KeyMap κ ν) : List κ := (keys map).mergeSort fun a b => !decide (b < a)

/-- Later pairs replace earlier ones of the same key. -/
def ofList (pairs : List (κ × ν)) : KeyMap κ ν :=
  pairs.foldl (fun map pair => insert pair.1 pair.2 map) []

def Ordered (map : KeyMap κ ν) : Prop := (keys map).Pairwise (· < ·)

theorem find?_insert_self (key : κ) (value : ν) (map : KeyMap κ ν) :
    find? key (insert key value map) = some value := by
  induction map with
  | nil => simp [insert, find?]
  | cons pair rest ih =>
    obtain ⟨k, v⟩ := pair
    simp only [insert]
    split
    · simp [find?]
    · rename_i hne
      split
      · simp [find?]
      · simp [find?, hne, ih]

theorem find?_insert_of_ne {key other : κ} (h : other ≠ key) (value : ν) (map : KeyMap κ ν) :
    find? other (insert key value map) = find? other map := by
  induction map with
  | nil => simp [insert, find?, h]
  | cons pair rest ih =>
    obtain ⟨k, v⟩ := pair
    simp only [insert]
    split
    · rename_i heq
      subst heq
      simp [find?, h]
    · split
      · simp [find?, h]
      · simp [find?, ih]

theorem find?_insert (key other : κ) (value : ν) (map : KeyMap κ ν) :
    find? other (insert key value map) = if other = key then some value else find? other map := by
  by_cases h : other = key
  · subst h
    simp [find?_insert_self]
  · simp [h, find?_insert_of_ne h]

theorem contains_insert (key other : κ) (value : ν) (map : KeyMap κ ν) :
    contains other (insert key value map) = (decide (other = key) || contains other map) := by
  simp only [contains, find?_insert]
  by_cases h : other = key <;> simp [h]

omit [LT κ] [DecidableLT κ] in
theorem contains_eq_true_iff {key : κ} {map : KeyMap κ ν} :
    contains key map = true ↔ ∃ value, find? key map = some value :=
  Option.isSome_iff_exists

omit [LT κ] [DecidableLT κ] in
theorem contains_eq_false_iff {key : κ} {map : KeyMap κ ν} :
    contains key map = false ↔ find? key map = none :=
  Option.isSome_eq_false_iff.trans Option.isNone_iff_eq_none

omit [LT κ] [DecidableLT κ] in
theorem contains_iff_mem_keys (key : κ) (map : KeyMap κ ν) :
    contains key map = true ↔ key ∈ keys map := by
  induction map with
  | nil => simp [contains, find?, keys]
  | cons pair rest ih =>
    obtain ⟨k, v⟩ := pair
    simp only [contains, keys] at ih
    by_cases h : key = k
    · simp [contains, find?, keys, h]
    · simp [contains, find?, keys, h, ih]

theorem mem_keys_insert {key other : κ} {value : ν} {map : KeyMap κ ν} :
    other ∈ keys (insert key value map) ↔ other = key ∨ other ∈ keys map := by
  rw [← contains_iff_mem_keys, ← contains_iff_mem_keys, contains_insert, Bool.or_eq_true,
    decide_eq_true_eq]

theorem eq_or_mem_of_mem_insert {key : κ} {value : ν} {map : KeyMap κ ν} {pair : κ × ν}
    (h : pair ∈ insert key value map) : pair = (key, value) ∨ pair ∈ map := by
  induction map with
  | nil => exact .inl (List.mem_singleton.mp h)
  | cons first rest ih =>
    simp only [insert] at h
    split at h
    · exact (List.mem_cons.mp h).imp_right (List.mem_cons_of_mem first)
    · split at h
      · exact List.mem_cons.mp h
      · rcases List.mem_cons.mp h with rfl | h
        · exact .inr List.mem_cons_self
        · exact (ih h).imp_right (List.mem_cons_of_mem first)

/-- A key is put between the smaller and the greater ones. -/
theorem ordered_insert [Trans (α := κ) (· < ·) (· < ·) (· < ·)]
    [Std.Trichotomous (α := κ) (· < ·)] {map : KeyMap κ ν} (h : Ordered map) (key : κ)
    (value : ν) : Ordered (insert key value map) := by
  induction map with
  | nil => exact List.pairwise_singleton ..
  | cons pair rest ih =>
    obtain ⟨k, v⟩ := pair
    obtain ⟨hfirst, hrest⟩ := List.pairwise_cons.mp h
    simp only [insert]
    split
    · rename_i heq
      subst heq
      exact h
    · rename_i hne
      split
      · rename_i hlt
        refine List.pairwise_cons.mpr ⟨fun other hother => ?_, h⟩
        rcases List.mem_cons.mp hother with rfl | hother
        · exact hlt
        · exact Trans.trans hlt (hfirst other hother)
      · rename_i hnotlt
        refine List.pairwise_cons.mpr ⟨fun other hother => ?_, ih hrest⟩
        rcases mem_keys_insert.mp hother with rfl | hother
        · exact Decidable.byContradiction fun hnotgt =>
            hne (Std.Trichotomous.trichotomous _ _ hnotlt hnotgt)
        · exact hfirst other hother

omit [LT κ] [DecidableLT κ] in
theorem mem_of_find?_eq_some {key : κ} {value : ν} {map : KeyMap κ ν}
    (h : find? key map = some value) : (key, value) ∈ map := by
  induction map with
  | nil => cases h
  | cons pair rest ih =>
    obtain ⟨k, v⟩ := pair
    simp only [find?] at h
    split at h
    · rename_i hkey
      cases h
      exact hkey ▸ List.mem_cons_self
    · exact List.mem_cons_of_mem _ (ih h)

omit [LT κ] [DecidableLT κ] in
/-- What a filter on the keys keeps is found, and nothing else. -/
theorem find?_filter (p : κ → Bool) (key : κ) (map : KeyMap κ ν) :
    find? key (map.filter fun entry => p entry.1) = if p key then find? key map else none := by
  induction map with
  | nil => simp [find?]
  | cons pair rest ih =>
    obtain ⟨k, v⟩ := pair
    by_cases hkey : key = k
    · subst hkey
      cases hp : p key <;> simp_all [find?]
    · cases hp : p k <;> simp_all [find?]

theorem find?_foldl_insert_of_notMem {key : κ} {pairs : List (κ × ν)} (h : key ∉ keys pairs)
    (map : KeyMap κ ν) :
    find? key (pairs.foldl (fun map pair => insert pair.1 pair.2 map) map) = find? key map := by
  induction pairs generalizing map with
  | nil => rfl
  | cons pair rest ih =>
    obtain ⟨hne, hrest⟩ := not_or.mp (mt List.mem_cons.mpr h)
    rw [List.foldl_cons, ih hrest, find?_insert_of_ne hne]

theorem ofList_concat (pairs : List (κ × ν)) (key : κ) (value : ν) :
    ofList (pairs ++ [(key, value)]) = insert key value (ofList pairs) := by
  rw [ofList, List.foldl_append]
  rfl

/-- The last pair of a key decides. -/
theorem find?_ofList_of_last {key : κ} {after : List (κ × ν)} (h : key ∉ keys after) (value : ν)
    (before : List (κ × ν)) :
    find? key (ofList (before ++ (key, value) :: after)) = some value := by
  rw [ofList, List.foldl_append, List.foldl_cons, find?_foldl_insert_of_notMem h,
    find?_insert_self]

theorem mem_keys_foldl_insert {key : κ} {pairs : List (κ × ν)} {map : KeyMap κ ν} :
    key ∈ keys (pairs.foldl (fun map pair => insert pair.1 pair.2 map) map) ↔
      key ∈ keys pairs ∨ key ∈ keys map := by
  induction pairs generalizing map with
  | nil => simp [keys]
  | cons pair rest ih =>
    have hcons : key ∈ keys (pair :: rest) ↔ key = pair.1 ∨ key ∈ keys rest := List.mem_cons
    rw [List.foldl_cons, ih, mem_keys_insert, hcons, or_assoc, or_left_comm]

theorem mem_keys_ofList {key : κ} {pairs : List (κ × ν)} :
    key ∈ keys (ofList pairs) ↔ key ∈ keys pairs :=
  mem_keys_foldl_insert.trans (or_iff_left List.not_mem_nil)

theorem find?_ofList_eq_none {key : κ} {pairs : List (κ × ν)} (h : key ∉ keys pairs) :
    find? key (ofList pairs) = none :=
  find?_foldl_insert_of_notMem h []

theorem ordered_ofList [Trans (α := κ) (· < ·) (· < ·) (· < ·)]
    [Std.Trichotomous (α := κ) (· < ·)] (pairs : List (κ × ν)) : Ordered (ofList pairs) := by
  suffices hfold : ∀ map : KeyMap κ ν, Ordered map →
      Ordered (pairs.foldl (fun map pair => insert pair.1 pair.2 map) map) from
    hfold [] List.Pairwise.nil
  induction pairs with
  | nil => exact fun map hmap => hmap
  | cons pair rest ih => exact fun map hmap => ih _ (ordered_insert hmap pair.1 pair.2)

omit [DecidableLT κ] [DecidableEq κ] in
theorem nodup_keys_of_ordered [Std.Asymm (α := κ) (· < ·)] {map : KeyMap κ ν} (h : Ordered map) :
    (keys map).Nodup := by
  refine List.Pairwise.imp (fun {a b} hlt heq => ?_) h
  subst heq
  exact Std.Asymm.asymm a a hlt hlt

omit [DecidableEq κ] in
theorem perm_sortedKeys (map : KeyMap κ ν) : (sortedKeys map).Perm (keys map) :=
  List.mergeSort_perm _ _

omit [DecidableEq κ] in
theorem mem_sortedKeys {key : κ} {map : KeyMap κ ν} : key ∈ sortedKeys map ↔ key ∈ keys map :=
  (perm_sortedKeys map).mem_iff

section

variable [Trans (α := κ) (· < ·) (· < ·) (· < ·)] [Std.Trichotomous (α := κ) (· < ·)]
  [Std.Asymm (α := κ) (· < ·)]

omit [DecidableLT κ] [DecidableEq κ] [Std.Asymm (α := κ) (· < ·)] in
theorem not_lt_trans {a b c : κ} (hab : ¬b < a) (hbc : ¬c < b) : ¬c < a := by
  intro hca
  by_cases hlt : a < b
  · exact hbc (Trans.trans hca hlt)
  · exact hbc (Std.Trichotomous.trichotomous a b hlt hab ▸ hca)

omit [DecidableEq κ] in
theorem pairwise_sortedKeys (map : KeyMap κ ν) : (sortedKeys map).Pairwise fun a b => ¬b < a := by
  have hsorted : (sortedKeys map).Pairwise fun a b => (!decide (b < a)) = true := by
    refine List.pairwise_mergeSort (fun a b c hab hbc => ?_) (fun a b => ?_) _
    · simp only [Bool.not_eq_true', decide_eq_false_iff_not] at hab hbc ⊢
      exact not_lt_trans hab hbc
    · by_cases hlt : a < b
      · simp [Std.Asymm.asymm a b hlt]
      · simp [hlt]
  simpa using hsorted

omit [DecidableEq κ] in
/-- Distinct keys come out in increasing order. -/
theorem sortedKeys_increasing {map : KeyMap κ ν} (h : (keys map).Nodup) :
    (sortedKeys map).Pairwise (· < ·) :=
  ((pairwise_sortedKeys map).and ((perm_sortedKeys map).nodup_iff.mpr h)).imp
    fun {a b} ⟨hnotgt, hne⟩ => Decidable.byContradiction fun hnotlt =>
      hne (Std.Trichotomous.trichotomous a b hnotlt hnotgt)

omit [DecidableEq κ] in
/-- The order in which a map lists its keys does not show. -/
theorem sortedKeys_eq_of_perm {map other : KeyMap κ ν} (h : (keys map).Perm (keys other)) :
    sortedKeys map = sortedKeys other :=
  List.Perm.eq_of_pairwise
    (fun a b _ _ hnotgt hnotlt =>
      Std.Trichotomous.trichotomous (r := (· < ·)) a b hnotlt hnotgt)
    (pairwise_sortedKeys map) (pairwise_sortedKeys other)
    ((perm_sortedKeys map).trans (h.trans (perm_sortedKeys other).symm))

end

end KeyMap

end PathCall
