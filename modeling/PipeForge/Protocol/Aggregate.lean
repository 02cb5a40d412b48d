import PipeForge.Library.Proto3Tree
import PipeForge.Protocol.Limits
import PipeForge.Protocol.RoundTrip

/-!
# Aggregate validation, for whole trees

`validate_message` against a statement about all nodes of a message at once:
`WithinLimits` counts nodes, unknown fields and entries over the whole tree and
mentions neither budgets nor an order of the walk (`passes_iff_withinLimits`). So
the verdict is the same for every order of fields and children.

The budgets are natural numbers in the model of the walk. `spend` repeats it over
unbounded integers and records every value the two budgets are given; none of them
leaves the range from zero to the initial budget, so nothing is lost in `std::size_t`
and `int`.
-/

namespace PipeForge.Protocol
open Contracts Library Proto3

/-- Every limit, for the tree as a whole. -/
structure WithinLimits (m : Message) : Prop where
  nodes : m.tree.length ≤ maxMessageNodes
  unknowns : (m.tree.map fun node =>
    (node.unknown.sets.map fun set => set.2.fieldCount).sum).sum ≤ maxUnknownFields
  nesting : ∀ node ∈ m.tree, ∀ set ∈ node.unknown.sets, set.1 ≤ maxRecursionDepth
  delimited : ∀ node ∈ m.tree, ∀ set ∈ node.unknown.sets, ∀ bytes,
    .lengthDelimited bytes ∈ set.2.leaves → bytes.length ≤ maxStringBytes
  strings : ∀ node ∈ m.tree, ∀ bytes, .text bytes ∈ node.scalars →
    bytes.length ≤ maxStringBytes ∧ Utf8.isStructurallyValid bytes = true
  entries : ∀ node ∈ m.tree, ∀ number, node.count number ≤ maxEntries

/-! ## Unknown sets -/

/-- The groups of a set hold between them the fields below its top level. -/
theorem groups_fields (depth : Nat) (u : UnknownSet) :
    ((u.groups depth).map fun set => set.2.fieldCount).sum = innerFields u := by
  induction u generalizing depth with
  | nil => rfl
  | leaf number value rest ih => exact ih depth
  | group number inner rest innerIh ih =>
    simp only [UnknownSet.groups, List.map_cons, List.map_append, List.sum_cons, List.sum_append,
      innerIh, ih, innerFields, Nat.add_assoc]

/-- No group lies deeper than the limit exactly if the deepest does not. -/
theorem groups_depth {depth : Nat} (u : UnknownSet) (within : depth ≤ maxRecursionDepth) :
    (∀ set ∈ u.groups depth, set.1 ≤ maxRecursionDepth) ↔
      depth + groupDepth u ≤ maxRecursionDepth := by
  induction u generalizing depth with
  | nil =>
    refine iff_of_true ?_ within
    intro set member
    cases member
  | leaf number value rest ih => exact ih within
  | group number inner rest innerIh ih =>
    simp only [UnknownSet.groups, List.forall_mem_cons, List.forall_mem_append, groupDepth,
      ih within]
    constructor
    · intro given
      obtain ⟨entered, deeper, later⟩ := given
      have nested := (innerIh entered).mp deeper
      omega
    · intro given
      have entered : depth + 1 ≤ maxRecursionDepth := by omega
      exact ⟨entered, (innerIh entered).mpr (by omega), by omega⟩

theorem shortLeaf_iff (leaf : Leaf) :
    shortLeaf leaf = true ↔
      ∀ bytes, leaf = .lengthDelimited bytes → bytes.length ≤ maxStringBytes := by
  cases leaf <;> simp [shortLeaf]

/-- Leaves are short throughout exactly if they are in each group. -/
theorem shortLeaves_iff (depth : Nat) (u : UnknownSet) :
    shortLeaves u = true ↔ (∀ leaf ∈ u.leaves, shortLeaf leaf = true) ∧
      ∀ set ∈ u.groups depth, ∀ leaf ∈ set.2.leaves, shortLeaf leaf = true := by
  induction u generalizing depth with
  | nil => simp [shortLeaves, UnknownSet.leaves, UnknownSet.groups]
  | leaf number value rest ih =>
    simp only [shortLeaves, UnknownSet.leaves, UnknownSet.groups, Bool.and_eq_true,
      List.forall_mem_cons, ih depth, and_assoc]
  | group number inner rest innerIh ih =>
    simp only [shortLeaves, UnknownSet.leaves, UnknownSet.groups, Bool.and_eq_true,
      List.forall_mem_cons, List.forall_mem_append, innerIh (depth + 1), ih depth]
    tauto

/-- The verdict on the unknown set of one node, without recursion. -/
theorem acceptableUnknown_iff (u : UnknownSet) :
    acceptableUnknown u ↔ (∀ set ∈ u.sets, set.1 ≤ maxRecursionDepth) ∧
      ∀ set ∈ u.sets, ∀ bytes, .lengthDelimited bytes ∈ set.2.leaves →
        bytes.length ≤ maxStringBytes := by
  have zero : (0 : Nat) ≤ maxRecursionDepth := Nat.zero_le _
  have short : ∀ set : UnknownSet, (∀ leaf ∈ set.leaves, shortLeaf leaf = true) ↔
      ∀ bytes, .lengthDelimited bytes ∈ set.leaves → bytes.length ≤ maxStringBytes := by
    intro set
    simp only [shortLeaf_iff]
    constructor
    · intro given bytes member
      exact given _ member bytes rfl
    · intro given leaf member bytes same
      exact given bytes (same ▸ member)
  unfold acceptableUnknown UnknownSet.sets
  rw [shortLeaves_iff 0 u, ← Nat.zero_add (groupDepth u), ← groups_depth u zero]
  simp only [List.forall_mem_cons, short]
  tauto

/-! ## Messages -/

/-- The unknown fields of a message, summed over the nodes of its tree. -/
theorem unknowns_tree (m : Message) :
    (m.tree.map fun node => (node.unknown.sets.map fun set => set.2.fieldCount).sum).sum =
      unknownFields m := by
  have own : ∀ u : UnknownSet, (u.sets.map fun set => set.2.fieldCount).sum =
      u.fieldCount + innerFields u := by
    intro u
    rw [UnknownSet.sets, List.map_cons, List.sum_cons, groups_fields]
  simp only [own, Message.tree, List.map_cons, List.sum_cons]
  induction m with
  | done unknown => rfl
  | scalar number value rest ih => exact ih
  | nested number child rest childIh ih =>
    simp only [Message.unknown, Message.descendants, List.map_cons, List.map_append, List.sum_cons,
      List.sum_append, unknownFields] at childIh ih ⊢
    omega

/-- What is asked of unknown fields is asked of each node. -/
theorem acceptableUnknowns_tree (m : Message) :
    acceptableUnknowns m ↔ ∀ node ∈ m.tree, acceptableUnknown node.unknown := by
  simp only [Message.tree, List.forall_mem_cons]
  induction m with
  | done unknown => simp [acceptableUnknowns, Message.unknown, Message.descendants]
  | scalar number value rest ih => exact ih
  | nested number child rest childIh ih =>
    simp only [acceptableUnknowns, Message.unknown, Message.descendants, List.forall_mem_cons,
      List.forall_mem_append, childIh, ih]
    tauto

/-- What is asked of scalars is asked of each node. -/
theorem allScalars_tree (p : Scalar → Bool) (m : Message) :
    m.allScalars p = true ↔ ∀ node ∈ m.tree, ∀ value ∈ node.scalars, p value = true := by
  simp only [Message.tree, List.forall_mem_cons]
  induction m with
  | done unknown => simp [Message.allScalars, Message.scalars, Message.descendants]
  | scalar number value rest ih =>
    simp only [Message.allScalars, Message.scalars, Message.descendants, Bool.and_eq_true,
      List.forall_mem_cons, ih, and_assoc]
  | nested number child rest childIh ih =>
    simp only [Message.allScalars, Message.scalars, Message.descendants, Bool.and_eq_true,
      List.forall_mem_cons, List.forall_mem_append, childIh, ih]
    tauto

theorem validString_iff (value : Scalar) :
    validString value = true ↔ ∀ bytes, value = .text bytes →
      bytes.length ≤ maxStringBytes ∧ Utf8.isStructurallyValid bytes = true := by
  cases value with
  | text bytes =>
    rw [validString_text]
    exact ⟨fun valid other same => by cases same; exact valid, fun given => given bytes rfl⟩
  | _ => exact iff_of_true rfl nofun

/-! ## Entries of a field -/

/-- Where the entries of a field are adjacent, the run that follows is all of them. -/
theorem runLength_eq_count {number : Nat} {m : Message} (grouped : m.Grouped)
    (adjacent : number ∈ m.numbers → m.numbers.head? = some number) :
    runLength number m = m.count number := by
  induction m with
  | done unknown => rfl
  | scalar other value rest ih =>
    by_cases same : other = number
    · subst same
      rw [runLength, Message.count, if_pos rfl, if_pos rfl, ih grouped.2 grouped.1, Nat.add_comm]
    · have absent : number ∉ (Message.scalar other value rest).numbers :=
        fun member => same (Option.some.inj (adjacent member))
      rw [runLength, if_neg same, Message.count_absent absent]
  | nested other child rest _ ih =>
    by_cases same : other = number
    · subst same
      rw [runLength, Message.count, if_pos rfl, if_pos rfl, ih grouped.2.2 grouped.1,
        Nat.add_comm]
    · have absent : number ∉ (Message.nested other child rest).numbers :=
        fun member => same (Option.some.inj (adjacent member))
      rw [runLength, if_neg same, Message.count_absent absent]

/-- One entry more of a field. -/
theorem counts_cons (number : Nat) (rest : Message) :
    (∀ other, (if number = other then 1 else 0) + rest.count other ≤ maxEntries) ↔
      rest.count number < maxEntries ∧ ∀ other, rest.count other ≤ maxEntries := by
  constructor
  · intro given
    constructor
    · have own := given number
      rw [if_pos rfl] at own
      omega
    · intro other
      have bound := given other
      omega
  · intro given other
    obtain ⟨own, others⟩ := given
    split
    · rename_i same
      subst same
      omega
    · have bound := others other
      omega

/-- The check of adjacent runs counts whole fields, because a reflected message lists each field
in one run. -/
theorem shortRuns_tree {m : Message} (grouped : m.Grouped) :
    shortRuns m ↔ ∀ node ∈ m.tree, ∀ number, node.count number ≤ maxEntries := by
  simp only [Message.tree, List.forall_mem_cons]
  induction m with
  | done unknown => simp [shortRuns, Message.count, Message.descendants]
  | scalar number value rest ih =>
    simp only [shortRuns, Message.count, Message.descendants, counts_cons,
      runLength_eq_count grouped.2 grouped.1, ih grouped.2, and_assoc]
  | nested number child rest childIh ih =>
    simp only [shortRuns, Message.count, Message.descendants, counts_cons,
      runLength_eq_count grouped.2.2 grouped.1, childIh grouped.2.1, ih grouped.2.2,
      List.forall_mem_cons, List.forall_mem_append]
    tauto

/-! ## The verdict -/

/-- `validate_message` started with both budgets reports no error. -/
def Passes (m : Message) : Prop :=
  ∃ left, validateMessage m maxMessageNodes maxUnknownFields = .ok left

/-- The walk of the code, with full budgets, as one condition. -/
theorem passes_iff (m : Message) :
    Passes m ↔ shortRuns m ∧ m.allScalars validString = true ∧ acceptableUnknowns m ∧
      m.nodes ≤ maxMessageNodes ∧ unknownFields m ≤ maxUnknownFields := by
  constructor
  · intro given
    obtain ⟨⟨nodes, unknowns⟩, accepted⟩ := given
    obtain ⟨runs, texts, unknown, visited, counted⟩ := validateMessage_ok_iff.mp accepted
    exact ⟨runs, texts, unknown, by omega, by omega⟩
  · intro given
    obtain ⟨runs, texts, unknown, visited, counted⟩ := given
    refine ⟨(maxMessageNodes - m.nodes, maxUnknownFields - unknownFields m), ?_⟩
    exact validateMessage_ok_iff.mpr ⟨runs, texts, unknown, by omega, by omega⟩

/-- The walk accepts what is within the limits as a whole tree, where no order of visits occurs.
-/
theorem passes_iff_withinLimits {m : Message} (grouped : m.Grouped) :
    Passes m ↔ WithinLimits m := by
  rw [passes_iff, shortRuns_tree grouped, allScalars_tree, acceptableUnknowns_tree,
    ← Message.length_tree, ← unknowns_tree]
  simp only [acceptableUnknown_iff, validString_iff]
  constructor
  · intro given
    obtain ⟨entries, strings, unknown, nodes, unknowns⟩ := given
    exact {
      nodes, unknowns, entries
      nesting := fun node member => (unknown node member).1
      delimited := fun node member => (unknown node member).2
      strings := fun node member bytes listed => strings node member _ listed bytes rfl }
  · intro limits
    refine ⟨limits.entries, ?_, ?_, limits.nodes, limits.unknowns⟩
    · intro node member value listed bytes same
      exact limits.strings node member bytes (same ▸ listed)
    · exact fun node member => ⟨limits.nesting node member, limits.delimited node member⟩

/-! ## Order -/

theorem innerFields_reordered {u v : UnknownSet} (same : u.Reordered v) :
    innerFields u = innerFields v := by
  induction same with
  | nil => rfl
  | leaf number value later ih => exact ih
  | group number within later withinIh ih =>
    simp only [innerFields, UnknownSet.fieldCount_reordered within, withinIh, ih]
  | swap a b rest =>
    cases a <;> cases b <;> simp only [UnknownField.onto, innerFields]
    omega
  | trans first second firstIh secondIh => exact firstIh.trans secondIh

/-- No limit looks at the order of unknown fields. -/
theorem shortLeaves_reordered {u v : UnknownSet} (same : u.Reordered v) :
    shortLeaves u = shortLeaves v := by
  induction same with
  | nil => rfl
  | leaf number value later ih => simp only [shortLeaves, ih]
  | group number within later withinIh ih => simp only [shortLeaves, withinIh, ih]
  | swap a b rest =>
    cases a <;> cases b <;> simp only [UnknownField.onto, shortLeaves] <;>
      rw [Bool.and_left_comm]
  | trans first second firstIh secondIh => exact firstIh.trans secondIh

theorem groupDepth_reordered {u v : UnknownSet} (same : u.Reordered v) :
    groupDepth u = groupDepth v := by
  induction same with
  | nil => rfl
  | leaf number value later ih => exact ih
  | group number within later withinIh ih => simp only [groupDepth, withinIh, ih]
  | swap a b rest =>
    cases a <;> cases b <;> simp only [UnknownField.onto, groupDepth]
    omega
  | trans first second firstIh secondIh => exact firstIh.trans secondIh

theorem acceptableUnknown_reordered {u v : UnknownSet} (same : u.Reordered v) :
    acceptableUnknown u ↔ acceptableUnknown v := by
  rw [acceptableUnknown, acceptableUnknown, shortLeaves_reordered same, groupDepth_reordered same]

theorem unknownFields_reordered {m n : Message} (same : m.Reordered n) :
    unknownFields m = unknownFields n := by
  induction same with
  | done same =>
    simp only [unknownFields, UnknownSet.fieldCount_reordered same, innerFields_reordered same]
  | scalar number value later ih => exact ih
  | nested number within later withinIh ih => simp only [unknownFields, withinIh, ih]
  | swap a b rest =>
    cases a <;> cases b <;> simp only [Entry.onto, unknownFields]
    omega
  | trans first second firstIh secondIh => exact firstIh.trans secondIh

theorem acceptableUnknowns_reordered {m n : Message} (same : m.Reordered n) :
    acceptableUnknowns m ↔ acceptableUnknowns n := by
  induction same with
  | done same => exact acceptableUnknown_reordered same
  | scalar number value later ih => exact ih
  | nested number within later withinIh ih => simp only [acceptableUnknowns, withinIh, ih]
  | swap a b rest =>
    cases a <;> cases b <;> simp only [Entry.onto, acceptableUnknowns]
    tauto
  | trans first second firstIh secondIh => exact firstIh.trans secondIh

/-- Accepting a message does not depend on the order in which its fields are visited. -/
theorem passes_reordered {m n : Message} (first : m.Grouped) (second : n.Grouped)
    (same : m.Reordered n) : Passes m ↔ Passes n := by
  have counts : ∀ a b : Message, a.Reordered b →
      ((∀ number, a.count number ≤ maxEntries) ↔ ∀ number, b.count number ≤ maxEntries) := by
    intro a b reordered
    simp only [Message.count_reordered reordered]
  rw [passes_iff, passes_iff, shortRuns_tree first, shortRuns_tree second,
    Message.allScalars_reordered _ same, acceptableUnknowns_reordered same,
    Message.nodes_reordered same, unknownFields_reordered same]
  simp only [Message.tree, List.forall_mem_cons, counts m n same,
    Message.descendants_reordered counts same]

/-! ## Budgets -/

/-- The loop of `bounded_unknowns` over unbounded integers: the values `remaining` is
given on the way, and what is left. -/
def spendGroups (depth : Nat) : UnknownSet → Int → List Int × Option Int
  | .nil, remaining => ([], some remaining)
  | .leaf _ value rest, remaining =>
    if shortLeaf value then spendGroups depth rest remaining else ([], none)
  | .group _ inner rest, remaining =>
    if depth + 1 > maxRecursionDepth ∨ (inner.fieldCount : Int) > remaining then ([], none)
    else
      let left := remaining - inner.fieldCount
      let within := spendGroups (depth + 1) inner left
      match within.2 with
      | none => (left :: within.1, none)
      | some remaining =>
        let later := spendGroups depth rest remaining
        (left :: (within.1 ++ later.1), later.2)

def spendUnknowns (unknown : UnknownSet) (remaining : Int) : List Int × Option Int :=
  if (unknown.fieldCount : Int) > remaining then ([], none)
  else
    let left := remaining - unknown.fieldCount
    let within := spendGroups 0 unknown left
    (left :: within.1, within.2)

/-- The values of both budgets on the way, and what `validate_message` leaves. -/
structure Spent where
  nodes : List Int
  unknowns : List Int
  outcome : Except FailureCode (Int × Int)

def spendFields : Message → Int → Int → Spent
  | .done _, nodes, unknowns => ⟨[], [], .ok (nodes, unknowns)⟩
  | .scalar number value rest, nodes, unknowns =>
    if runLength number rest + 1 > maxEntries then ⟨[], [], .error .limitExceeded⟩
    else
      match validateText value with
      | some error => ⟨[], [], .error error⟩
      | none => spendFields rest nodes unknowns
  | .nested number child rest, nodes, unknowns =>
    if runLength number rest + 1 > maxEntries then ⟨[], [], .error .limitExceeded⟩
    else if nodes = 0 then ⟨[], [], .error .limitExceeded⟩
    else
      let charged := spendUnknowns child.unknown unknowns
      match charged.2 with
      | none => ⟨[nodes - 1], charged.1, .error .limitExceeded⟩
      | some unknowns =>
        let inner := spendFields child (nodes - 1) unknowns
        match inner.outcome with
        | .error error => ⟨(nodes - 1) :: inner.nodes, charged.1 ++ inner.unknowns, .error error⟩
        | .ok (nodes', unknowns) =>
          let later := spendFields rest nodes' unknowns
          ⟨(nodes - 1) :: (inner.nodes ++ later.nodes),
            charged.1 ++ inner.unknowns ++ later.unknowns, later.outcome⟩

def spendMessage (message : Message) (nodes unknowns : Int) : Spent :=
  if nodes = 0 then ⟨[], [], .error .limitExceeded⟩
  else
    let charged := spendUnknowns message.unknown unknowns
    match charged.2 with
    | none => ⟨[nodes - 1], charged.1, .error .limitExceeded⟩
    | some unknowns =>
      let inner := spendFields message (nodes - 1) unknowns
      ⟨(nodes - 1) :: inner.nodes, charged.1 ++ inner.unknowns, inner.outcome⟩

/-- A value a budget can have. -/
def InBudget (budget : Nat) (value : Int) : Prop := 0 ≤ value ∧ value ≤ budget

/-- Spending from natural budgets stays within them and leaves what the walk over
natural numbers leaves. -/
structure UnknownsWithin (remaining : Nat) (spent : List Int × Option Int) (left : Option Nat) :
    Prop where
  values : ∀ value ∈ spent.1, InBudget remaining value
  same : spent.2 = left.map Int.ofNat
  less : ∀ rest, left = some rest → rest ≤ remaining

theorem UnknownsWithin.mono {remaining more : Nat} (less : remaining ≤ more)
    {spent : List Int × Option Int} {left : Option Nat}
    (within : UnknownsWithin remaining spent left) : UnknownsWithin more spent left where
  values value member := by
    obtain ⟨low, high⟩ := within.values value member
    exact ⟨low, by omega⟩
  same := within.same
  less rest found := Nat.le_trans (within.less rest found) less

theorem UnknownsWithin.refused (remaining : Nat) : UnknownsWithin remaining ([], none) none where
  values value member := by cases member
  same := rfl
  less := nofun

/-- The budget of unknown fields never goes below zero on the way through nested groups. -/
theorem spendGroups_within (depth : Nat) (u : UnknownSet) (remaining : Nat) :
    UnknownsWithin remaining (spendGroups depth u remaining) (boundedFields depth u remaining) := by
  induction u generalizing depth remaining with
  | nil =>
    refine ⟨?_, rfl, ?_⟩
    · intro value member
      cases member
    · intro rest found
      cases found
      exact Nat.le_refl _
  | leaf number value rest ih =>
    rw [spendGroups, boundedFields_leaf]
    split
    · exact ih depth remaining
    · exact .refused remaining
  | group number inner rest innerIh ih =>
    by_cases refused : depth + 1 > maxRecursionDepth ∨ inner.fieldCount > remaining
    · have refused' : depth + 1 > maxRecursionDepth ∨ (inner.fieldCount : Int) > remaining := by
        omega
      rw [spendGroups, boundedFields, if_pos refused, if_pos refused']
      exact .refused remaining
    · have allowed : ¬ (depth + 1 > maxRecursionDepth ∨ (inner.fieldCount : Int) > remaining) := by
        omega
      have left : (remaining : Int) - inner.fieldCount =
          ((remaining - inner.fieldCount : Nat) : Int) := by
        omega
      have within := innerIh (depth + 1) (remaining - inner.fieldCount)
      rw [spendGroups, boundedFields, if_neg refused, if_neg allowed, left]
      dsimp only
      generalize spendGroups (depth + 1) inner _ = spent at within
      generalize boundedFields (depth + 1) inner _ = ended at within
      obtain ⟨values, out⟩ := spent
      obtain ⟨inside, same, less⟩ := within
      have first : InBudget remaining ((remaining - inner.fieldCount : Nat) : Int) := by
        unfold InBudget
        omega
      have nested : ∀ value ∈ values, InBudget remaining value := by
        intro value member
        obtain ⟨low, high⟩ := inside value member
        exact ⟨low, by omega⟩
      cases ended with
      | none =>
        cases same
        refine ⟨?_, rfl, ?_⟩
        · exact List.forall_mem_cons.mpr ⟨first, nested⟩
        · intro rest found
          cases found
      | some middle =>
        cases same
        have smaller := less middle rfl
        have later := (ih depth middle).mono (by omega : middle ≤ remaining)
        refine ⟨?_, later.same, later.less⟩
        exact List.forall_mem_cons.mpr ⟨first, List.forall_mem_append.mpr ⟨nested, later.values⟩⟩

theorem spendUnknowns_within (u : UnknownSet) (remaining : Nat) :
    UnknownsWithin remaining (spendUnknowns u remaining) (boundedUnknowns u remaining 0) := by
  unfold spendUnknowns boundedUnknowns
  by_cases refused : u.fieldCount > remaining
  · rw [if_pos (Or.inr refused), if_pos (by omega)]
    exact .refused remaining
  · have left : (remaining : Int) - u.fieldCount = ((remaining - u.fieldCount : Nat) : Int) := by
      omega
    rw [if_neg (by omega), if_neg (by omega), left]
    have within := (spendGroups_within 0 u (remaining - u.fieldCount)).mono (Nat.sub_le _ _)
    refine ⟨List.forall_mem_cons.mpr ⟨?_, within.values⟩, within.same, within.less⟩
    unfold InBudget
    omega

structure SpentWithin (nodes unknowns : Nat) (spent : Spent)
    (outcome : Except FailureCode (Nat × Nat)) : Prop where
  visited : ∀ value ∈ spent.nodes, InBudget nodes value
  charged : ∀ value ∈ spent.unknowns, InBudget unknowns value
  same : spent.outcome = outcome.map fun left => ((left.1 : Int), (left.2 : Int))
  less : ∀ left, outcome = .ok left → left.1 ≤ nodes ∧ left.2 ≤ unknowns

section
variable {nodes unknowns : Nat} {spent : Spent} {outcome : Except FailureCode (Nat × Nat)}

theorem SpentWithin.mono {moreNodes moreUnknowns : Nat} (first : nodes ≤ moreNodes)
    (second : unknowns ≤ moreUnknowns) (within : SpentWithin nodes unknowns spent outcome) :
    SpentWithin moreNodes moreUnknowns spent outcome where
  visited value member := by
    obtain ⟨low, high⟩ := within.visited value member
    exact ⟨low, by omega⟩
  charged value member := by
    obtain ⟨low, high⟩ := within.charged value member
    exact ⟨low, by omega⟩
  same := within.same
  less left found := by
    obtain ⟨fewer, less⟩ := within.less left found
    exact ⟨by omega, by omega⟩

theorem SpentWithin.failed (nodes unknowns : Nat) (error : FailureCode) :
    SpentWithin nodes unknowns ⟨[], [], .error error⟩ (.error error) where
  visited value member := by cases member
  charged value member := by cases member
  same := rfl
  less := nofun

end

/-- A message spends one node before its fields, and the check for it comes first. -/
theorem spendMessage_within {m : Message}
    (fields : ∀ nodes unknowns : Nat,
      SpentWithin nodes unknowns (spendFields m nodes unknowns) (validateFields m nodes unknowns))
    (nodes unknowns : Nat) :
    SpentWithin nodes unknowns (spendMessage m nodes unknowns)
      (validateMessage m nodes unknowns) := by
  unfold spendMessage validateMessage
  by_cases spent : nodes = 0
  · rw [if_pos spent, if_pos (by omega)]
    exact .failed ..
  · have left : (nodes : Int) - 1 = ((nodes - 1 : Nat) : Int) := by omega
    have visited : InBudget nodes ((nodes - 1 : Nat) : Int) := by
      unfold InBudget
      omega
    rw [if_neg spent, if_neg (by omega), left]
    have own := spendUnknowns_within m.unknown unknowns
    generalize spendUnknowns m.unknown unknowns = charged at own
    generalize boundedUnknowns m.unknown unknowns 0 = ended at own
    obtain ⟨values, out⟩ := charged
    obtain ⟨inside, same, less⟩ := own
    cases ended with
    | none =>
      cases same
      refine ⟨?_, inside, rfl, ?_⟩
      · exact List.forall_mem_singleton.mpr visited
      · intro left found
        cases found
    | some remaining =>
      cases same
      have within := (fields (nodes - 1) remaining).mono (Nat.sub_le _ _) (less remaining rfl)
      refine ⟨?_, ?_, within.same, within.less⟩
      · exact List.forall_mem_cons.mpr ⟨visited, within.visited⟩
      · exact List.forall_mem_append.mpr ⟨inside, within.charged⟩

theorem spendFields_nested (number : Nat) (child rest : Message) (nodes unknowns : Int) :
    spendFields (.nested number child rest) nodes unknowns =
      if runLength number rest + 1 > maxEntries then ⟨[], [], .error .limitExceeded⟩
      else
        let inner := spendMessage child nodes unknowns
        match inner.outcome with
        | .error error => ⟨inner.nodes, inner.unknowns, .error error⟩
        | .ok (nodes, unknowns) =>
          let later := spendFields rest nodes unknowns
          ⟨inner.nodes ++ later.nodes, inner.unknowns ++ later.unknowns, later.outcome⟩ := by
  rw [spendFields, spendMessage]
  split
  · rfl
  · split
    · rfl
    · obtain ⟨values, out⟩ := spendUnknowns child.unknown unknowns
      cases out with
      | none => rfl
      | some remaining => rfl

/-- Neither budget goes below zero at any point of the walk, also where it ends in a failure. -/
theorem spendFields_within (m : Message) (nodes unknowns : Nat) :
    SpentWithin nodes unknowns (spendFields m nodes unknowns)
      (validateFields m nodes unknowns) := by
  induction m generalizing nodes unknowns with
  | done unknown =>
    refine ⟨?_, ?_, rfl, ?_⟩
    · intro value member
      cases member
    · intro value member
      cases member
    · intro left found
      cases found
      exact ⟨Nat.le_refl _, Nat.le_refl _⟩
  | scalar number value rest ih =>
    rw [spendFields, validateFields]
    split
    · exact .failed ..
    · cases validateText value with
      | some error => exact .failed ..
      | none => exact ih nodes unknowns
  | nested number child rest childIh ih =>
    rw [spendFields_nested, validateFields_nested]
    split
    · exact .failed ..
    · have inner := spendMessage_within childIh nodes unknowns
      generalize spendMessage child nodes unknowns = spent at inner
      generalize validateMessage child nodes unknowns = outcome at inner
      obtain ⟨visited, charged, result⟩ := spent
      obtain ⟨inside, within, same, less⟩ := inner
      cases outcome with
      | error error =>
        cases same
        refine ⟨inside, within, rfl, ?_⟩
        intro left found
        cases found
      | ok left =>
        cases same
        obtain ⟨fewer, smaller⟩ := less left rfl
        have later := (ih left.1 left.2).mono fewer smaller
        refine ⟨?_, ?_, later.same, later.less⟩
        · exact List.forall_mem_append.mpr ⟨inside, later.visited⟩
        · exact List.forall_mem_append.mpr ⟨within, later.charged⟩

/-! ## The envelopes are such trees -/

namespace Pb

theorem listed_value (m : Value) : m.reflect.Listed 0 := by
  rcases m with ⟨data, unknown⟩
  cases data with
  | notSet => trivial
  | text bytes => exact ⟨Nat.zero_le _, trivial⟩
  | integer n => exact ⟨Nat.zero_le _, trivial⟩
  | real bits => exact ⟨Nat.zero_le _, trivial⟩

theorem listed_optionalValue (value : Option Value) :
    ∀ child ∈ value.map Value.reflect, child.Listed 0 := by
  intro child present
  obtain ⟨m, -, rfl⟩ := Option.map_eq_some_iff.mp present
  exact listed_value m

/-- What holds of every element holds of a repeated field. -/
theorem listed_list {α : Type} {reflect : α → Message} (each : ∀ m, (reflect m).Listed 0)
    (list : List α) : ∀ child ∈ list.map reflect, child.Listed 0 := by
  intro child member
  obtain ⟨m, -, rfl⟩ := List.mem_map.mp member
  exact each m

theorem listed_namedValue (m : NamedValue) : m.reflect.Listed 0 := by
  apply Message.listed_implicit (by omega)
  exact Message.listed_submessage (by omega) (listed_optionalValue m.value) trivial

theorem listed_valueRecord (m : ValueRecord) : m.reflect.Listed 0 := by
  apply Message.listed_implicit (by omega)
  exact Message.listed_submessage (by omega) (listed_optionalValue m.value) trivial

theorem listed_parameter (m : Parameter) : m.reflect.Listed 0 := by
  apply Message.listed_implicit (by omega)
  exact Message.listed_implicit (by omega) trivial

theorem listed_attribute (m : Attribute) : m.reflect.Listed 0 := by
  apply Message.listed_implicit (by omega)
  apply Message.listed_implicit (by omega)
  exact Message.listed_implicit (by omega) trivial

theorem listed_method (m : Method) : m.reflect.Listed 0 := by
  apply Message.listed_implicit (by omega)
  apply Message.listed_repeatedMessage (by omega) (listed_list listed_parameter m.parameters)
  exact Message.listed_implicit (by omega) trivial

theorem listed_description (m : ClassDescription) : m.reflect.Listed 0 := by
  apply Message.listed_implicit (by omega)
  apply Message.listed_repeatedMessage (by omega) (listed_list listed_attribute m.attributes)
  apply Message.listed_repeatedMessage (by omega) (listed_list listed_method m.methods)
  exact Message.listed_repeatedMessage (by omega)
    (listed_list listed_parameter m.constructorParameters) trivial

/-- Whatever the operation, its field comes after the two of the envelope. -/
theorem listed_operation (m : OperationCase) (unknown : UnknownSet) :
    (m.reflect (.done unknown)).Listed 2 := by
  cases m with
  | notSet => trivial
  | listClasses m =>
    refine ⟨by omega, ?_, trivial⟩
    apply Message.listed_implicit (by omega)
    exact Message.listed_implicit (by omega) trivial
  | describeClass m =>
    refine ⟨by omega, ?_, trivial⟩
    exact Message.listed_implicit (by omega) trivial
  | putValue m =>
    refine ⟨by omega, ?_, trivial⟩
    exact Message.listed_submessage (by omega) (listed_optionalValue m.value) trivial
  | getValue m =>
    refine ⟨by omega, ?_, trivial⟩
    exact Message.listed_implicit (by omega) trivial
  | listValues m =>
    refine ⟨by omega, ?_, trivial⟩
    apply Message.listed_implicit (by omega)
    exact Message.listed_implicit (by omega) trivial
  | createObject m =>
    refine ⟨by omega, ?_, trivial⟩
    apply Message.listed_implicit (by omega)
    exact Message.listed_repeatedMessage (by omega) (listed_list listed_namedValue m.arguments)
      trivial
  | getObject m =>
    refine ⟨by omega, ?_, trivial⟩
    exact Message.listed_implicit (by omega) trivial
  | releaseObject m =>
    refine ⟨by omega, ?_, trivial⟩
    exact Message.listed_implicit (by omega) trivial
  | getAttribute m =>
    refine ⟨by omega, ?_, trivial⟩
    apply Message.listed_implicit (by omega)
    exact Message.listed_implicit (by omega) trivial
  | invokeMethod m =>
    refine ⟨by omega, ?_, trivial⟩
    apply Message.listed_implicit (by omega)
    apply Message.listed_implicit (by omega)
    exact Message.listed_repeatedMessage (by omega) (listed_list listed_namedValue m.arguments)
      trivial

/-- Whatever the outcome, its field comes after the two of the envelope. -/
theorem listed_outcome (m : OutcomeCase) (unknown : UnknownSet) :
    (m.reflect (.done unknown)).Listed 2 := by
  cases m with
  | notSet => trivial
  | classes m =>
    refine ⟨by omega, ?_, trivial⟩
    apply Message.listed_repeatedScalar (by omega)
    exact Message.listed_implicit (by omega) trivial
  | description m => exact ⟨by omega, listed_description m, trivial⟩
  | valueRecord m => exact ⟨by omega, listed_valueRecord m, trivial⟩
  | values m =>
    refine ⟨by omega, ?_, trivial⟩
    apply Message.listed_repeatedMessage (by omega) (listed_list listed_valueRecord m.values)
    exact Message.listed_implicit (by omega) trivial
  | object m =>
    refine ⟨by omega, ?_, trivial⟩
    apply Message.listed_implicit (by omega)
    apply Message.listed_implicit (by omega)
    exact Message.listed_repeatedMessage (by omega) (listed_list listed_namedValue m.state) trivial
  | released m => exact ⟨by omega, trivial, trivial⟩
  | value m => exact ⟨by omega, listed_value m, trivial⟩
  | error m =>
    refine ⟨by omega, ?_, trivial⟩
    apply Message.listed_implicit (by omega)
    exact Message.listed_implicit (by omega) trivial

theorem listed_request (m : Request) : m.reflect.Listed 0 := by
  apply Message.listed_optional (by omega)
  exact Message.listed_implicit (by omega) (listed_operation m.operation m.unknown)

theorem listed_response (m : Response) : m.reflect.Listed 0 := by
  apply Message.listed_optional (by omega)
  exact Message.listed_implicit (by omega) (listed_outcome m.outcome m.unknown)

end Pb

/-- `validate_envelope` is exact: identifier, version and limits, and no more. -/
theorem validateEnvelope_iff {ε : Type} {envelope : Pb.Envelope ε} {message : ε}
    (grouped : (envelope.reflect message).Grouped) :
    validateEnvelope envelope message = none ↔
      envelope.requestId message ≠ 0 ∧ envelope.version message = some version ∧
        WithinLimits (envelope.reflect message) := by
  constructor
  · intro accepted
    obtain ⟨id, supported, walked⟩ := validateEnvelope_none_iff.mp accepted
    exact ⟨id, supported, (passes_iff_withinLimits grouped).mp walked⟩
  · intro given
    obtain ⟨id, supported, within⟩ := given
    apply validateEnvelope_none_iff.mpr
    exact ⟨id, supported, (passes_iff_withinLimits grouped).mpr within⟩

theorem validateRequest_iff (m : Pb.Request) :
    validateEnvelope Pb.requestEnvelope m = none ↔
      m.requestId ≠ 0 ∧ m.version = some version ∧ WithinLimits m.reflect :=
  validateEnvelope_iff (Message.listed_grouped (Pb.listed_request m))

theorem validateResponse_iff (m : Pb.Response) :
    validateEnvelope Pb.responseEnvelope m = none ↔
      m.requestId ≠ 0 ∧ m.version = some version ∧ WithinLimits m.reflect :=
  validateEnvelope_iff (Message.listed_grouped (Pb.listed_response m))

/-- The verdict on a tree is the conjunction of the limits, the same for every order of
its fields and children, and the budgets stay between zero and their initial values. The
walk over a request or response that was parsed is one over such a tree, so an envelope is
accepted just when its own fields are right and its tree is within the limits. -/
theorem aggregate_validation_exact (tree : MessageTree) :
    (Passes tree.message ↔ WithinLimits tree.message) ∧
      (∀ other : MessageTree, tree.message.Reordered other.message →
        (Passes tree.message ↔ Passes other.message)) ∧
      SpentWithin maxMessageNodes maxUnknownFields
        (spendMessage tree.message maxMessageNodes maxUnknownFields)
        (validateMessage tree.message maxMessageNodes maxUnknownFields) ∧
      (∀ m : Pb.Request, validateEnvelope Pb.requestEnvelope m = none ↔
        m.requestId ≠ 0 ∧ m.version = some version ∧ WithinLimits m.reflect) ∧
      ∀ m : Pb.Response, validateEnvelope Pb.responseEnvelope m = none ↔
        m.requestId ≠ 0 ∧ m.version = some version ∧ WithinLimits m.reflect := by
  refine ⟨passes_iff_withinLimits tree.grouped, ?_, ?_, validateRequest_iff, validateResponse_iff⟩
  · intro other same
    exact passes_reordered tree.grouped other.grouped same
  · exact spendMessage_within (spendFields_within tree.message) maxMessageNodes maxUnknownFields

end PipeForge.Protocol
