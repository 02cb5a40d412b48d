import Mathlib

/-!
# One-to-one matching of lists

Two lists line up when some permutation of the first is related to the second
element by element. For the relation "same image" this is equality of the images up
to order, and a list of distinct images is matched as soon as each of them is found
in a list of the same length: there is no room for anything else.
-/

namespace PipeForge.Library.Matching

universe u v w
variable {α : Type u} {β : Type v} {γ : Type w}

def LinesUp (r : α → β → Prop) (xs : List α) (ys : List β) : Prop :=
  ∃ lined, lined.Perm xs ∧ List.Forall₂ r lined ys

/-- Lists line up by equal images exactly if the images are permutations of each other. -/
theorem linesUp_iff_perm (f : α → γ) (g : β → γ) (xs : List α) (ys : List β) :
    LinesUp (fun x y => f x = g y) xs ys ↔ (xs.map f).Perm (ys.map g) := by
  constructor
  · intro given
    obtain ⟨lined, same, related⟩ := given
    have images : lined.map f = ys.map g := by
      rw [← List.forall₂_eq_eq_eq, List.forall₂_map_left_iff, List.forall₂_map_right_iff]
      exact related
    rw [← images]
    exact (same.map f).symm
  · intro same
    have images : List.Forall₂ (fun (c : γ) (x : α) => f x = c) (xs.map f) xs := by
      rw [List.forall₂_map_left_iff]
      exact List.forall₂_same.mpr fun x _ => rfl
    obtain ⟨lined, related, reordered⟩ := List.perm_comp_forall₂ same.symm images
    refine ⟨lined, reordered, ?_⟩
    rw [List.forall₂_map_left_iff] at related
    exact related.flip

/-- Distinct elements that are all found among as many are all there is. -/
theorem perm_of_found {xs ys : List γ} (distinct : ys.Nodup) (found : ∀ y ∈ ys, y ∈ xs)
    (size : xs.length = ys.length) : xs.Perm ys :=
  ((List.subperm_of_subset distinct found).perm_of_length_le (Nat.le_of_eq size)).symm

/-- Where names are distinct, a scan for a name finds the element of that name. -/
theorem find_iff [DecidableEq γ] (name : α → γ) {xs : List α} (distinct : (xs.map name).Nodup)
    (n : γ) (x : α) :
    xs.find? (fun y => decide (name y = n)) = some x ↔ x ∈ xs ∧ name x = n := by
  constructor
  · intro found
    exact ⟨List.mem_of_find?_eq_some found, by simpa using List.find?_some found⟩
  · intro given
    obtain ⟨member, named⟩ := given
    cases found : xs.find? fun y => decide (name y = n) with
    | none =>
      have absent := List.find?_eq_none.mp found x member
      exact absurd (decide_eq_true named) absent
    | some other =>
      have same : name other = n := by simpa using List.find?_some found
      have first := List.mem_of_find?_eq_some found
      rw [List.inj_on_of_nodup_map distinct first member (same.trans named.symm)]

end PipeForge.Library.Matching
