import Mathlib

/-!
# Ordered maps

An ordered map is its list of entries in strictly increasing key order, which is
the order an iterator visits them in. The order is a field of the structure, so
a map with a repeated or misplaced key cannot be built.

`emplace` inserts only an absent key, `assign` overwrites the mapped value of a
present one and `erase` removes a key. Each operation has one lookup equation and
one equation for `total`, a sum over the mapped values.
-/

set_option linter.unusedSectionVars false

namespace PipeForge.Library

universe u

structure OrderedMap (κ : Type) (α : Type u) [LT κ] where
  entries : List (κ × α)
  sorted : entries.Pairwise (fun a b => a.1 < b.1)

namespace OrderedMap

section Definitions
variable {κ : Type} {α : Type u} [LT κ]

@[ext] theorem ext {m n : OrderedMap κ α} (h : m.entries = n.entries) : m = n := by
  cases m
  cases n
  cases h
  rfl

def empty : OrderedMap κ α := ⟨[], .nil⟩

def size (m : OrderedMap κ α) : Nat := m.entries.length

def keys (m : OrderedMap κ α) : List κ := m.entries.map (·.1)

/-- Sum of a natural-number charge over the mapped values. -/
def total (charge : α → Nat) (m : OrderedMap κ α) : Nat :=
  (m.entries.map fun e => charge e.2).sum

def find [DecidableEq κ] (m : OrderedMap κ α) (k : κ) : Option α :=
  (m.entries.find? fun e => decide (e.1 = k)).map (·.2)

def contains [DecidableEq κ] (m : OrderedMap κ α) (k : κ) : Bool := (m.find k).isSome

def erase [DecidableEq κ] (m : OrderedMap κ α) (k : κ) : OrderedMap κ α :=
  ⟨m.entries.filter fun e => decide (e.1 ≠ k), m.sorted.filter _⟩

/-- The entries from `upper_bound k` to the end. -/
def after [DecidableLT κ] (m : OrderedMap κ α) (k : κ) : List (κ × α) :=
  m.entries.filter fun e => decide (k < e.1)

theorem sorted_assign [DecidableEq κ] (entries : List (κ × α)) (k : κ) (v : α)
    (sorted : entries.Pairwise (fun a b => a.1 < b.1)) :
    (entries.map fun e => if e.1 = k then (e.1, v) else e).Pairwise (fun a b => a.1 < b.1) := by
  refine List.Pairwise.map _ ?_ sorted
  intro a b less
  split <;> split <;> simpa using less

/-- Overwrite the mapped value of `k`, leaving an absent key absent. -/
def assign [DecidableEq κ] (m : OrderedMap κ α) (k : κ) (v : α) : OrderedMap κ α :=
  ⟨m.entries.map fun e => if e.1 = k then (e.1, v) else e, sorted_assign m.entries k v m.sorted⟩

end Definitions

variable {κ : Type} {α : Type u} [LT κ] [LE κ] [DecidableEq κ] [DecidableLT κ]
  [Std.IsLinearOrder κ] [Std.LawfulOrderLT κ]

/-- A new key takes its place between the smaller and the larger ones. -/
theorem sorted_around (entries : List (κ × α)) (k : κ) (v : α)
    (sorted : entries.Pairwise (fun a b => a.1 < b.1)) :
    ((entries.filter fun e => decide (e.1 < k)) ++ (k, v) ::
      (entries.filter fun e => decide (k < e.1))).Pairwise (fun a b => a.1 < b.1) := by
  rw [List.pairwise_append, List.pairwise_cons]
  refine ⟨sorted.filter _, ⟨?_, sorted.filter _⟩, ?_⟩
  · intro e he
    simpa using (List.mem_filter.mp he).2
  · intro a ha b hb
    have below : a.1 < k := by simpa using (List.mem_filter.mp ha).2
    rcases List.mem_cons.mp hb with rfl | hb
    · exact below
    · have above : k < b.1 := by simpa using (List.mem_filter.mp hb).2
      grind

/-- Insert at the ordered position unless the key is already present. -/
def emplace (m : OrderedMap κ α) (k : κ) (v : α) : OrderedMap κ α :=
  if m.contains k then m
  else ⟨(m.entries.filter fun e => decide (e.1 < k)) ++ (k, v) ::
    (m.entries.filter fun e => decide (k < e.1)), sorted_around m.entries k v m.sorted⟩

/-! ## Lookup -/

@[simp] theorem size_empty : (empty : OrderedMap κ α).size = 0 := rfl

@[simp] theorem find_empty (k : κ) : (empty : OrderedMap κ α).find k = none := rfl

/-- Keys are unique, so a lookup returns exactly the entries of the list. -/
theorem find_eq_some_iff (m : OrderedMap κ α) (k : κ) (v : α) :
    m.find k = some v ↔ (k, v) ∈ m.entries := by
  rcases m with ⟨entries, sorted⟩
  simp only [find]
  induction entries with
  | nil => simp
  | cons e rest ih =>
    obtain ⟨above, tail⟩ := List.pairwise_cons.mp sorted
    by_cases same : e.1 = k
    · have absent : (k, v) ∉ rest := by
        intro member
        have := above _ member
        grind
      have here : (k, v) = e ↔ e.2 = v := by
        rcases e with ⟨key, value⟩
        grind
      simp [same, absent, here]
    · have other : (k, v) ≠ e := by
        rintro rfl
        exact same rfl
      simpa [List.find?_cons, same, other] using ih tail

theorem find_eq_none_iff (m : OrderedMap κ α) (k : κ) :
    m.find k = none ↔ k ∉ m.keys := by
  constructor
  · intro absent member
    obtain ⟨⟨key, v⟩, he, rfl⟩ := List.mem_map.mp member
    rw [(find_eq_some_iff m key v).mpr he] at absent
    cases absent
  · intro absent
    cases found : m.find k with
    | none => rfl
    | some v =>
      have member := (find_eq_some_iff m k v).mp found
      exact absurd (List.mem_map.mpr ⟨_, member, rfl⟩) absent

theorem entries_emplace (m : OrderedMap κ α) (k : κ) (v : α) (absent : m.find k = none) :
    (m.emplace k v).entries = (m.entries.filter fun e => decide (e.1 < k)) ++ (k, v) ::
      (m.entries.filter fun e => decide (k < e.1)) := by
  simp [emplace, contains, absent]

/-- A key above all others goes to the end. -/
theorem entries_emplace_last (m : OrderedMap κ α) (k : κ) (v : α) (above : ∀ e ∈ m.entries, e.1 < k) :
    (m.emplace k v).entries = m.entries ++ [(k, v)] := by
  have absent : m.find k = none := by
    rw [find_eq_none_iff]
    intro member
    obtain ⟨e, listed, same⟩ := List.mem_map.mp member
    have less := above e listed
    grind
  have front : (m.entries.filter fun e => decide (e.1 < k)) = m.entries :=
    List.filter_eq_self.mpr fun e listed => decide_eq_true (above e listed)
  have back : (m.entries.filter fun e => decide (k < e.1)) = [] := by
    rw [List.filter_eq_nil_iff]
    intro e listed later
    have less := above e listed
    have more := of_decide_eq_true later
    grind
  rw [entries_emplace m k v absent, front, back]

/-- An inserted entry is found, and the others as before. -/
theorem find_emplace (m : OrderedMap κ α) (k k' : κ) (v : α) (absent : m.find k = none) :
    (m.emplace k v).find k' = if k' = k then some v else m.find k' := by
  apply Option.ext
  intro w
  have missing := (find_eq_none_iff m k).mp absent
  by_cases same : k' = k
  · subst same
    have unlisted : (k', w) ∉ m.entries := fun he => missing (List.mem_map.mpr ⟨_, he, rfl⟩)
    rw [if_pos rfl, find_eq_some_iff, entries_emplace m k' v absent]
    simp [unlisted, eq_comm]
  · have apart : k' < k ∨ k < k' := by grind
    rw [if_neg same, find_eq_some_iff, find_eq_some_iff, entries_emplace m k v absent]
    simp only [List.mem_append, List.mem_cons, List.mem_filter, decide_eq_true_eq, Prod.mk.injEq,
      same, false_and, false_or, ← and_or_left, apart, and_true]

/-- An erased entry is gone, and the others are found as before. -/
theorem find_erase (m : OrderedMap κ α) (k k' : κ) :
    (m.erase k).find k' = if k' = k then none else m.find k' := by
  apply Option.ext
  intro w
  simp only [find_eq_some_iff, erase, List.mem_filter, decide_eq_true_eq]
  by_cases same : k' = k
  · simp [same]
  · simp [same, find_eq_some_iff]

theorem find_assign (m : OrderedMap κ α) (k k' : κ) (v : α) (present : (m.find k).isSome) :
    (m.assign k v).find k' = if k' = k then some v else m.find k' := by
  obtain ⟨old, found⟩ := Option.isSome_iff_exists.mp present
  have member := (find_eq_some_iff m k old).mp found
  apply Option.ext
  intro w
  simp only [find_eq_some_iff, assign, List.mem_map]
  by_cases same : k' = k
  · subst same
    simp only [if_pos, Option.some.injEq]
    constructor
    · rintro ⟨⟨key, value⟩, -, eq⟩
      split at eq <;> grind
    · rintro rfl
      exact ⟨_, member, by simp⟩
  · simp only [if_neg same, find_eq_some_iff]
    constructor
    · rintro ⟨⟨key, value⟩, he, eq⟩
      split at eq <;> grind
    · intro he
      exact ⟨_, he, by simp [same]⟩

/-! ## Ranges -/

/-- In a list sorted by `key`, resuming after an element of a range leaves what
follows that element. -/
theorem filter_resume {β : Type u} (key : β → κ) {entries front back : List β} {k : κ} {e : β}
    (sorted : entries.Pairwise fun a b => key a < key b)
    (split : (entries.filter fun x => decide (k < key x)) = front ++ e :: back) :
    (entries.filter fun x => decide (key e < key x)) = back := by
  have part : (front ++ e :: back).Pairwise fun a b => key a < key b := split ▸ sorted.filter _
  obtain ⟨-, behind, before⟩ := List.pairwise_append.mp part
  have above := (List.pairwise_cons.mp behind).1
  have passed : k < key e := by
    have listed : e ∈ entries.filter fun x => decide (k < key x) := by simp [split]
    exact of_decide_eq_true (List.mem_filter.mp listed).2
  have narrowed : (entries.filter fun x => decide (key e < key x)) =
      (entries.filter fun x => decide (k < key x)).filter fun x => decide (key e < key x) := by
    rw [List.filter_filter]
    apply List.filter_congr
    intro x _
    by_cases later : key e < key x
    · have : k < key x := by grind
      simp [later, this]
    · simp [later]
  have skipped : (front.filter fun x => decide (key e < key x)) = [] := by
    rw [List.filter_eq_nil_iff]
    intro x listed later
    have less := before x listed e List.mem_cons_self
    have more := of_decide_eq_true later
    grind
  have kept : (back.filter fun x => decide (key e < key x)) = back :=
    List.filter_eq_self.mpr fun x listed => decide_eq_true (above x listed)
  have irrefl : ¬ key e < key e := by grind
  rw [narrowed, split, List.filter_append, skipped, List.nil_append,
    List.filter_cons_of_neg (by simpa using irrefl), kept]

/-- What follows an entry in the listing is what lies behind its key. -/
theorem after_resume (m : OrderedMap κ α) (k k' : κ) (v : α) (front back : List (κ × α))
    (split : m.after k = front ++ (k', v) :: back) : m.after k' = back :=
  filter_resume Prod.fst m.sorted split

/-- New entries beyond a key extend the range after it. -/
theorem after_append (m m' : OrderedMap κ α) (k : κ) (more : List (κ × α))
    (grown : m'.entries = m.entries ++ more) (above : ∀ e ∈ more, k < e.1) :
    m'.after k = m.after k ++ more := by
  rw [after, after, grown, List.filter_append]
  rw [List.filter_eq_self.mpr fun e listed => decide_eq_true (above e listed)]

/-! ## Size and totals -/

/-- Splitting the entries around an absent key loses none of them. -/
theorem perm_around (m : OrderedMap κ α) (k : κ) (absent : m.find k = none) :
    ((m.entries.filter fun e => decide (e.1 < k)) ++
      (m.entries.filter fun e => decide (k < e.1))).Perm m.entries := by
  have missing := (find_eq_none_iff m k).mp absent
  have complement : (m.entries.filter fun e => decide (k < e.1)) =
      m.entries.filter fun e => !decide (e.1 < k) := by
    apply List.filter_congr
    intro e he
    have other : e.1 ≠ k := fun same => missing (List.mem_map.mpr ⟨e, he, same⟩)
    by_cases below : e.1 < k
    · have : ¬ k < e.1 := by grind
      simp [below, this]
    · have : k < e.1 := by grind
      simp [below, this]
  rw [complement]
  exact List.filter_append_perm _ _

theorem perm_emplace (m : OrderedMap κ α) (k : κ) (v : α) (absent : m.find k = none) :
    (m.emplace k v).entries.Perm ((k, v) :: m.entries) := by
  rw [entries_emplace m k v absent]
  exact List.perm_middle.trans ((perm_around m k absent).cons _)

theorem size_emplace (m : OrderedMap κ α) (k : κ) (v : α) (absent : m.find k = none) :
    (m.emplace k v).size = m.size + 1 :=
  (perm_emplace m k v absent).length_eq

theorem total_emplace (charge : α → Nat) (m : OrderedMap κ α) (k : κ) (v : α)
    (absent : m.find k = none) :
    (m.emplace k v).total charge = m.total charge + charge v := by
  have perm := (perm_emplace m k v absent).map fun e => charge e.2
  simp only [total, perm.sum_eq, List.map_cons, List.sum_cons]
  omega

/-- A key occurs once in a list ordered by it. -/
theorem filter_unique {β : Type u} (key : β → κ) {list : List β}
    (sorted : list.Pairwise fun a b => key a < key b) {element : β} (member : element ∈ list) :
    (list.filter fun other => decide (key other = key element)) = [element] := by
  induction list with
  | nil => cases member
  | cons head rest ih =>
    obtain ⟨above, tail⟩ := List.pairwise_cons.mp sorted
    rcases List.mem_cons.mp member with rfl | later
    · rw [List.filter_cons_of_pos (by simp), List.filter_eq_nil_iff.mpr]
      intro other listed same
      have less := above other listed
      rw [of_decide_eq_true same] at less
      grind
    · have less := above element later
      rw [List.filter_cons_of_neg]
      · exact ih tail later
      · intro same
        rw [of_decide_eq_true same] at less
        grind

theorem filter_key (m : OrderedMap κ α) (k : κ) (v : α) (found : m.find k = some v) :
    (m.entries.filter fun e => decide (e.1 = k)) = [(k, v)] :=
  filter_unique Prod.fst m.sorted ((find_eq_some_iff m k v).mp found)

theorem perm_erase (m : OrderedMap κ α) (k : κ) (v : α) (found : m.find k = some v) :
    m.entries.Perm ((k, v) :: (m.erase k).entries) := by
  have split := List.filter_append_perm (fun e : κ × α => decide (e.1 = k)) m.entries
  rw [filter_key m k v found] at split
  simpa [erase] using split.symm

theorem size_erase (m : OrderedMap κ α) (k : κ) (v : α) (found : m.find k = some v) :
    (m.erase k).size + 1 = m.size := by
  simpa [size] using (perm_erase m k v found).length_eq.symm

theorem total_erase (charge : α → Nat) (m : OrderedMap κ α) (k : κ) (v : α)
    (found : m.find k = some v) :
    (m.erase k).total charge + charge v = m.total charge := by
  have perm := (perm_erase m k v found).map fun e => charge e.2
  simp only [total, perm.sum_eq, List.map_cons, List.sum_cons]
  omega

@[simp] theorem size_assign (m : OrderedMap κ α) (k : κ) (v : α) :
    (m.assign k v).size = m.size := by
  simp [size, assign]

/-- Overwriting replaces one summand by another. -/
theorem total_assign (charge : α → Nat) (m : OrderedMap κ α) (k : κ) (old v : α)
    (found : m.find k = some old) :
    (m.assign k v).total charge + charge old = m.total charge + charge v := by
  have erased : (m.assign k v).erase k = m.erase k := by
    apply OrderedMap.ext
    simp only [erase, assign, List.filter_map]
    have : (m.entries.filter ((fun e : κ × α => decide (e.1 ≠ k)) ∘
        fun e => if e.1 = k then (e.1, v) else e)) =
        m.entries.filter fun e => decide (e.1 ≠ k) := by
      apply List.filter_congr
      intro e _
      by_cases same : e.1 = k <;> simp [same]
    rw [this]
    conv => rhs; rw [← List.map_id (m.entries.filter fun e => decide (e.1 ≠ k))]
    apply List.map_congr_left
    intro e he
    have other : e.1 ≠ k := by simpa using (List.mem_filter.mp he).2
    simp [other]
  have now : (m.assign k v).find k = some v := by
    rw [find_assign m k k v (by simp [found])]
    simp
  have before := total_erase charge m k old found
  have afterwards := total_erase charge (m.assign k v) k v now
  rw [erased] at afterwards
  omega

theorem total_congr (charge charge' : α → Nat) (m : OrderedMap κ α)
    (same : ∀ e ∈ m.entries, charge e.2 = charge' e.2) : m.total charge = m.total charge' := by
  simp only [total]
  rw [List.map_congr_left same]

end OrderedMap

end PipeForge.Library
