/-!
Sets and mappings of characters given by ranges of code points. Tables use them beyond ASCII; below
U+0080 every class is decided by its own rule.
-/

namespace PathCall.Text

/-- Inclusive ranges of code points in increasing order. -/
abbrev Ranges := List (Nat × Nat)

def Ranges.contains (ranges : Ranges) (point : Nat) : Bool :=
  match ranges with
  | [] => false
  | (first, last) :: rest =>
    if point < first then false else point ≤ last || Ranges.contains rest point

/-- Every `step`-th code point from `first` to `last` maps to the point at the same distance from
`target`. -/
structure MappedRun where
  first : Nat
  last : Nat
  step : Nat
  target : Nat

def MappedRun.find? (runs : List MappedRun) (point : Nat) : Option Nat :=
  match runs with
  | [] => none
  | run :: rest =>
    if point < run.first then none
    else if point ≤ run.last && (point - run.first) % run.step == 0 then
      some (run.target + (point - run.first))
    else MappedRun.find? rest point

/-- Images lie at the target of a run or behind it. -/
theorem MappedRun.exists_target_le {runs : List MappedRun} {point image : Nat}
    (h : find? runs point = some image) : ∃ run ∈ runs, run.target ≤ image := by
  induction runs with
  | nil => cases h
  | cons run rest ih =>
    rw [find?] at h
    split at h
    · cases h
    · split at h
      · cases h
        exact ⟨run, List.mem_cons_self, Nat.le_add_right ..⟩
      · obtain ⟨other, hother, hle⟩ := ih h
        exact ⟨other, List.mem_cons_of_mem run hother, hle⟩

end PathCall.Text
