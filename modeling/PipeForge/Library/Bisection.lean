import Mathlib

/-!
# Binary search for a partition point

The loop behind `std::partition_point`, `lower_bound` and `upper_bound`: halve the
range of candidates until it is empty. On a range that is partitioned by the
predicate, the elements that satisfy it first, the loop ends at the split, which is
how a specification says where it ends.
-/

namespace PipeForge.Library.Bisection

universe u
variable {α : Type u}

/-- Search `count` positions from `first` on. -/
def search (p : α → Bool) (range : List α) (first count : Nat) : Nat :=
  if count = 0 then first
  else
    let half := count / 2
    match range[first + half]? with
    | none => first
    | some middle =>
      if p middle then search p range (first + half + 1) (count - half - 1)
      else search p range first half
termination_by count
decreasing_by
  · omega
  · omega

def partitionPoint (p : α → Bool) (range : List α) : Nat := search p range 0 range.length

/-- No element that satisfies `p` follows one that does not. -/
def Partitioned (p : α → Bool) (range : List α) : Prop :=
  range.Pairwise fun a b => p b = true → p a = true

section
variable {p : α → Bool} {range : List α}

/-- In a partitioned range a position is before the split exactly if its element
satisfies the predicate. -/
theorem split_iff (partitioned : Partitioned p range) {i : Nat} {x : α}
    (found : range[i]? = some x) : p x = true ↔ i < (range.takeWhile p).length := by
  induction range generalizing i with
  | nil => cases found
  | cons head tail ih =>
    obtain ⟨earlier, later⟩ := List.pairwise_cons.mp partitioned
    by_cases first : p head = true
    · rw [List.takeWhile_cons_of_pos first, List.length_cons]
      cases i with
      | zero =>
        cases found
        exact iff_of_true first (Nat.succ_pos _)
      | succ i =>
        rw [ih later (by simpa using found)]
        omega
    · rw [List.takeWhile_cons_of_neg first, List.length_nil]
      refine iff_of_false (fun holds => ?_) (Nat.not_lt_zero _)
      cases i with
      | zero =>
        cases found
        exact first holds
      | succ i =>
        have member : x ∈ tail := List.mem_of_getElem? (by simpa using found)
        exact first (earlier x member holds)

/-- The loop keeps the split within its candidates. -/
theorem search_eq (partitioned : Partitioned p range) (first count : Nat)
    (low : first ≤ (range.takeWhile p).length) (high : (range.takeWhile p).length ≤ first + count)
    (inside : first + count ≤ range.length) :
    search p range first count = (range.takeWhile p).length := by
  induction count using Nat.strong_induction_on generalizing first with
  | h count ih =>
    unfold search
    split
    · omega
    · rename_i more
      have present : first + count / 2 < range.length := by omega
      have found := List.getElem?_eq_getElem present
      have side := split_iff partitioned found
      simp only [found]
      split
      · rename_i holds
        have before := side.mp holds
        apply ih
        · omega
        · omega
        · omega
        · omega
      · rename_i fails
        have behind : ¬ first + count / 2 < (range.takeWhile p).length :=
          fun before => fails (side.mpr before)
        apply ih
        · omega
        · omega
        · omega
        · omega

theorem partitionPoint_eq (partitioned : Partitioned p range) :
    partitionPoint p range = (range.takeWhile p).length := by
  have part : (range.takeWhile p).length ≤ range.length :=
    (List.takeWhile_sublist p).length_le
  apply search_eq partitioned
  · exact Nat.zero_le _
  · omega
  · omega

theorem take_partitionPoint (partitioned : Partitioned p range) :
    range.take (partitionPoint p range) = range.takeWhile p := by
  calc range.take (partitionPoint p range)
      = (range.takeWhile p ++ range.dropWhile p).take (range.takeWhile p).length := by
        rw [partitionPoint_eq partitioned, List.takeWhile_append_dropWhile]
    _ = range.takeWhile p := List.take_left

theorem drop_partitionPoint (partitioned : Partitioned p range) :
    range.drop (partitionPoint p range) = range.dropWhile p := by
  calc range.drop (partitionPoint p range)
      = (range.takeWhile p ++ range.dropWhile p).drop (range.takeWhile p).length := by
        rw [partitionPoint_eq partitioned, List.takeWhile_append_dropWhile]
    _ = range.dropWhile p := List.drop_left

end

end PipeForge.Library.Bisection
