import PipeForge.Library.OrderedMap

/-!
# Ordered maps under a renaming of keys

Two maps correspond when their entries match one by one, keys up to a relation
and mapped values exactly. If the relation keeps the order of the keys, every
operation takes corresponding maps to corresponding maps and every observation of
one is an observation of the other.
-/

set_option linter.unusedSectionVars false

namespace PipeForge.Library

universe u

/-- A relation between keys that preserves and reflects their order. -/
def Aligned {κ : Type} [LT κ] (r : κ → κ → Prop) : Prop :=
  ∀ a a' b b', r a a' → r b b' → (a < b ↔ a' < b')

namespace OrderedMap

def Corresponds {κ : Type} {α : Type u} [LT κ] (r : κ → κ → Prop) (m m' : OrderedMap κ α) : Prop :=
  List.Forall₂ (fun e e' => r e.1 e'.1 ∧ e.2 = e'.2) m.entries m'.entries

section
variable {κ : Type} {α : Type u} [LT κ] [LE κ] [DecidableEq κ] [DecidableLT κ]
  [Std.IsLinearOrder κ] [Std.LawfulOrderLT κ] {r : κ → κ → Prop} {m m' : OrderedMap κ α}

theorem aligned_eq_iff (aligned : Aligned r) {a a' b b' : κ} (first : r a a') (second : r b b') :
    a = b ↔ a' = b' := by
  have forward := aligned a a' b b' first second
  have backward := aligned b b' a a' second first
  constructor
  · intro same
    subst same
    have irrefl : ¬ a < a := by grind
    have below : ¬ a' < b' := fun less => irrefl (forward.mpr less)
    have above : ¬ b' < a' := fun less => irrefl (backward.mpr less)
    grind
  · intro same
    subst same
    have irrefl : ¬ a' < a' := by grind
    have below : ¬ a < b := fun less => irrefl (forward.mp less)
    have above : ¬ b < a := fun less => irrefl (backward.mp less)
    grind

namespace Corresponds

theorem mono {r' : κ → κ → Prop} (corresponds : Corresponds r m m')
    (wider : ∀ a a', r a a' → r' a a') : Corresponds r' m m' :=
  List.Forall₂.imp (fun _ _ entry => ⟨wider _ _ entry.1, entry.2⟩) corresponds

theorem empty : Corresponds r (OrderedMap.empty : OrderedMap κ α) .empty := .nil

theorem size_eq (corresponds : Corresponds r m m') : m.size = m'.size :=
  List.Forall₂.length_eq corresponds

/-- Corresponding keys find the same value. -/
theorem find_eq (aligned : Aligned r) (corresponds : Corresponds r m m') {k k' : κ}
    (renamed : r k k') : m.find k = m'.find k' := by
  rcases m with ⟨entries, sorted⟩
  rcases m' with ⟨entries', sorted'⟩
  simp only [Corresponds, find] at corresponds ⊢
  clear sorted sorted'
  induction corresponds with
  | nil => rfl
  | @cons e e' _ _ entry _ ih =>
    have same := aligned_eq_iff aligned entry.1 renamed
    by_cases equal : e.1 = k
    · have equal' := same.mp equal
      rw [List.find?_cons_of_pos (by simpa using equal), List.find?_cons_of_pos (by simpa using equal')]
      exact congrArg some entry.2
    · have other := fun equal' => equal (same.mpr equal')
      rw [List.find?_cons_of_neg (by simpa using equal), List.find?_cons_of_neg (by simpa using other)]
      exact ih

/-- Filters that agree on corresponding keys keep corresponding entries. -/
theorem filter {entries entries' : List (κ × α)}
    (matched : List.Forall₂ (fun e e' => r e.1 e'.1 ∧ e.2 = e'.2) entries entries')
    (p q : κ → Bool) (same : ∀ a a', r a a' → p a = q a') :
    List.Forall₂ (fun e e' => r e.1 e'.1 ∧ e.2 = e'.2)
      (entries.filter fun e => p e.1) (entries'.filter fun e => q e.1) := by
  refine List.rel_filter (p := fun e : κ × α => p e.1) (q := fun e : κ × α => q e.1) ?_ matched
  intro e e' entry
  dsimp only
  rw [same e.1 e'.1 entry.1]

/-- Behind corresponding keys lie corresponding entries. -/
theorem after (aligned : Aligned r) (corresponds : Corresponds r m m') {k k' : κ}
    (renamed : r k k') :
    List.Forall₂ (fun e e' => r e.1 e'.1 ∧ e.2 = e'.2) (m.after k) (m'.after k') :=
  filter corresponds _ _ fun a a' entry => decide_eq_decide.mpr (aligned k k' a a' renamed entry)

theorem erase (aligned : Aligned r) (corresponds : Corresponds r m m') {k k' : κ}
    (renamed : r k k') : Corresponds r (m.erase k) (m'.erase k') :=
  filter corresponds _ _ fun _ _ entry =>
    decide_eq_decide.mpr (not_congr (aligned_eq_iff aligned entry renamed))

theorem assign (aligned : Aligned r) (corresponds : Corresponds r m m') {k k' : κ}
    (renamed : r k k') (v : α) : Corresponds r (m.assign k v) (m'.assign k' v) := by
  refine List.rel_map ?_ corresponds
  intro e e' entry
  have same := aligned_eq_iff aligned entry.1 renamed
  dsimp only
  by_cases equal : e.1 = k
  · rw [if_pos equal, if_pos (same.mp equal)]
    exact ⟨entry.1, rfl⟩
  · rw [if_neg equal, if_neg fun equal' => equal (same.mpr equal')]
    exact entry

/-- Inserting under corresponding keys keeps the correspondence, since they take the same place.
-/
theorem emplace (aligned : Aligned r) (corresponds : Corresponds r m m') {k k' : κ}
    (renamed : r k k') (v : α) : Corresponds r (m.emplace k v) (m'.emplace k' v) := by
  have present : m.contains k = m'.contains k' := by
    rw [contains, contains, corresponds.find_eq aligned renamed]
  by_cases held : m.contains k = true
  · rw [OrderedMap.emplace, if_pos held, OrderedMap.emplace, if_pos (present ▸ held)]
    exact corresponds
  · rw [OrderedMap.emplace, if_neg held, OrderedMap.emplace, if_neg (present ▸ held)]
    refine List.rel_append ?_ (.cons ⟨renamed, rfl⟩ ?_)
    · exact filter corresponds (fun a => decide (a < k)) (fun a => decide (a < k')) fun a a' entry =>
        decide_eq_decide.mpr (aligned a a' k k' entry renamed)
    · exact filter corresponds (fun a => decide (k < a)) (fun a => decide (k' < a)) fun a a' entry =>
        decide_eq_decide.mpr (aligned k k' a a' renamed entry)

end Corresponds

end

end OrderedMap

end PipeForge.Library
