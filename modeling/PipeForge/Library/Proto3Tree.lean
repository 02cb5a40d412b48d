import PipeForge.Library.Proto3RoundTrip

/-!
# Messages as trees

The nodes of a message and the unknown sets of a node as lists, so that a limit on a
message can be said of all of them at once. A `MessageTree` lists the entries of a
field next to each other, as reflection does; `Reordered` relates messages that
differ in the order of fields, of children and of unknown fields, at any depth.
-/

namespace PipeForge.Library.Proto3

namespace UnknownSet

/-- The groups inside a set, with the number of groups around each. -/
def groups (depth : Nat) : UnknownSet → List (Nat × UnknownSet)
  | nil => []
  | leaf _ _ rest => rest.groups depth
  | group _ inner rest => (depth + 1, inner) :: (inner.groups (depth + 1) ++ rest.groups depth)

/-- The set of a message node and every set inside it. -/
def sets (unknown : UnknownSet) : List (Nat × UnknownSet) := (0, unknown) :: unknown.groups 0

/-- The fields of the set itself that are no groups. -/
def leaves : UnknownSet → List Leaf
  | nil => []
  | leaf _ value rest => value :: rest.leaves
  | group _ _ rest => rest.leaves

end UnknownSet

namespace Message

/-- The scalar entries of the node itself. -/
def scalars : Message → List Scalar
  | done _ => []
  | scalar _ value rest => value :: rest.scalars
  | nested _ _ rest => rest.scalars

/-- Entries of a field of the node itself. -/
def count (number : Nat) : Message → Nat
  | done _ => 0
  | scalar other _ rest => (if other = number then 1 else 0) + rest.count number
  | nested other _ rest => (if other = number then 1 else 0) + rest.count number

/-- Every node below the root. -/
def descendants : Message → List Message
  | done _ => []
  | scalar _ _ rest => rest.descendants
  | nested _ child rest => child :: (child.descendants ++ rest.descendants)

def tree (m : Message) : List Message := m :: m.descendants

/-- At every node, the entries of a field follow each other. -/
def Grouped : Message → Prop
  | done _ => True
  | scalar number _ rest =>
    (number ∈ rest.numbers → rest.numbers.head? = some number) ∧ rest.Grouped
  | nested number child rest =>
    (number ∈ rest.numbers → rest.numbers.head? = some number) ∧ child.Grouped ∧ rest.Grouped

/-- At every node, the fields are listed by number, from `low` on at the root. -/
def Listed (low : Nat) : Message → Prop
  | done _ => True
  | scalar number _ rest => low ≤ number ∧ rest.Listed number
  | nested number child rest => low ≤ number ∧ child.Listed 0 ∧ rest.Listed number

end Message

/-- A message as reflection lists it: the elements of one field come together. -/
structure MessageTree where
  message : Message
  grouped : message.Grouped

/-! ## Order -/

/-- A single unknown field. -/
inductive UnknownField where
  | leaf (number : Nat) (value : Leaf)
  | group (number : Nat) (inner : UnknownSet)

def UnknownField.onto (rest : UnknownSet) : UnknownField → UnknownSet
  | .leaf number value => .leaf number value rest
  | .group number inner => .group number inner rest

inductive UnknownSet.Reordered : UnknownSet → UnknownSet → Prop
  | nil : Reordered .nil .nil
  | leaf (number : Nat) (value : Leaf) {rest rest' : UnknownSet} (later : Reordered rest rest') :
      Reordered (.leaf number value rest) (.leaf number value rest')
  | group (number : Nat) {inner inner' rest rest' : UnknownSet} (within : Reordered inner inner')
      (later : Reordered rest rest') :
      Reordered (.group number inner rest) (.group number inner' rest')
  | swap (a b : UnknownField) (rest : UnknownSet) :
      Reordered (a.onto (b.onto rest)) (b.onto (a.onto rest))
  | trans {u v w : UnknownSet} (first : Reordered u v) (second : Reordered v w) : Reordered u w

/-- A single entry of a node. -/
inductive Entry where
  | scalar (number : Nat) (value : Scalar)
  | nested (number : Nat) (child : Message)

def Entry.onto (rest : Message) : Entry → Message
  | .scalar number value => .scalar number value rest
  | .nested number child => .nested number child rest

inductive Message.Reordered : Message → Message → Prop
  | done {unknown unknown' : UnknownSet} (same : unknown.Reordered unknown') :
      Reordered (.done unknown) (.done unknown')
  | scalar (number : Nat) (value : Scalar) {rest rest' : Message} (later : Reordered rest rest') :
      Reordered (.scalar number value rest) (.scalar number value rest')
  | nested (number : Nat) {child child' rest rest' : Message} (within : Reordered child child')
      (later : Reordered rest rest') :
      Reordered (.nested number child rest) (.nested number child' rest')
  | swap (a b : Entry) (rest : Message) : Reordered (a.onto (b.onto rest)) (b.onto (a.onto rest))
  | trans {l m n : Message} (first : Reordered l m) (second : Reordered m n) : Reordered l n

theorem UnknownSet.fieldCount_reordered {u v : UnknownSet} (same : u.Reordered v) :
    u.fieldCount = v.fieldCount := by
  induction same with
  | nil => rfl
  | leaf number value later ih => simp only [fieldCount, ih]
  | group number within later _ ih => simp only [fieldCount, ih]
  | swap a b rest => cases a <;> cases b <;> rfl
  | trans first second firstIh secondIh => exact firstIh.trans secondIh

theorem Message.count_reordered {m n : Message} (same : m.Reordered n) (number : Nat) :
    m.count number = n.count number := by
  induction same with
  | done same => rfl
  | scalar other value later ih => simp only [count, ih]
  | nested other within later _ ih => simp only [count, ih]
  | swap a b rest =>
    cases a <;> cases b <;> simp only [Entry.onto, count] <;> omega
  | trans first second firstIh secondIh => exact firstIh.trans secondIh

theorem Message.nodes_reordered {m n : Message} (same : m.Reordered n) : m.nodes = n.nodes := by
  induction same with
  | done same => rfl
  | scalar other value later ih => exact ih
  | nested other within later withinIh ih => simp only [nodes, withinIh, ih]
  | swap a b rest =>
    cases a <;> cases b <;> simp only [Entry.onto, nodes]
    omega
  | trans first second firstIh secondIh => exact firstIh.trans secondIh

theorem Message.allScalars_reordered (p : Scalar → Bool) {m n : Message} (same : m.Reordered n) :
    m.allScalars p = n.allScalars p := by
  induction same with
  | done same => rfl
  | scalar other value later ih => simp only [allScalars, ih]
  | nested other within later withinIh ih => simp only [allScalars, withinIh, ih]
  | swap a b rest =>
    cases a <;> cases b <;> simp only [Entry.onto, allScalars] <;> rw [Bool.and_left_comm]
  | trans first second firstIh secondIh => exact firstIh.trans secondIh

/-- What is said of every node survives a reordering if it does at a single node. -/
theorem Message.descendants_reordered {P : Message → Prop}
    (respects : ∀ a b : Message, a.Reordered b → (P a ↔ P b)) {m n : Message}
    (same : m.Reordered n) : (∀ node ∈ m.descendants, P node) ↔ ∀ node ∈ n.descendants, P node := by
  induction same with
  | done same => exact Iff.rfl
  | scalar other value later ih => exact ih
  | nested other within later withinIh ih =>
    simp only [descendants, List.forall_mem_cons, List.forall_mem_append]
    rw [respects _ _ within, withinIh, ih]
  | swap a b rest =>
    cases a <;> cases b <;>
      simp only [Entry.onto, descendants, List.forall_mem_cons, List.forall_mem_append]
    tauto
  | trans first second firstIh secondIh => exact firstIh.trans secondIh

/-! ## Counting -/

namespace Message

/-- The tree has as many nodes as the message counts. -/
theorem length_tree (m : Message) : m.tree.length = m.nodes := by
  unfold tree
  induction m with
  | done unknown => rfl
  | scalar number value rest ih => exact ih
  | nested number child rest childIh ih =>
    simp only [descendants, nodes, List.length_cons, List.length_append] at childIh ih ⊢
    omega

theorem count_absent {number : Nat} {m : Message} (absent : number ∉ m.numbers) :
    m.count number = 0 := by
  induction m with
  | done unknown => rfl
  | scalar other value rest ih =>
    rw [numbers, List.mem_cons, not_or] at absent
    rw [count, if_neg (Ne.symm absent.1), ih absent.2]
  | nested other child rest _ ih =>
    rw [numbers, List.mem_cons, not_or] at absent
    rw [count, if_neg (Ne.symm absent.1), ih absent.2]

/-! ## Fields by number -/

theorem listed_ge {low : Nat} {m : Message} (listed : m.Listed low) :
    ∀ number ∈ m.numbers, low ≤ number := by
  induction m generalizing low with
  | done unknown =>
    intro number member
    cases member
  | scalar first value rest ih =>
    intro number member
    rcases List.mem_cons.mp member with rfl | later
    · exact listed.1
    · exact Nat.le_trans listed.1 (ih listed.2 number later)
  | nested first child rest _ ih =>
    intro number member
    rcases List.mem_cons.mp member with rfl | later
    · exact listed.1
    · exact Nat.le_trans listed.1 (ih listed.2.2 number later)

theorem listed_mono {low lower : Nat} (less : lower ≤ low) {m : Message} (listed : m.Listed low) :
    m.Listed lower := by
  cases m with
  | done unknown => trivial
  | scalar number value rest => exact ⟨Nat.le_trans less listed.1, listed.2⟩
  | nested number child rest => exact ⟨Nat.le_trans less listed.1, listed.2⟩

/-- A field that comes again does so at once. -/
theorem listed_head {low : Nat} {m : Message} (listed : m.Listed low) (member : low ∈ m.numbers) :
    m.numbers.head? = some low := by
  cases m with
  | done unknown => cases member
  | scalar number value rest =>
    have whole : (scalar number value rest).Listed number := ⟨Nat.le_refl _, listed.2⟩
    have above := listed_ge whole low member
    rw [numbers, List.head?_cons, Nat.le_antisymm above listed.1]
  | nested number child rest =>
    have whole : (nested number child rest).Listed number := ⟨Nat.le_refl _, listed.2⟩
    have above := listed_ge whole low member
    rw [numbers, List.head?_cons, Nat.le_antisymm above listed.1]

theorem listed_grouped {low : Nat} {m : Message} (listed : m.Listed low) : m.Grouped := by
  induction m generalizing low with
  | done unknown => trivial
  | scalar number value rest ih => exact ⟨listed_head listed.2, ih listed.2⟩
  | nested number child rest childIh ih =>
    exact ⟨listed_head listed.2.2, childIh listed.2.1, ih listed.2.2⟩

section
variable {low number : Nat} {rest : Message}

theorem listed_implicit {value : Scalar} (order : low ≤ number) (later : rest.Listed number) :
    (implicit number value rest).Listed low := by
  unfold implicit
  split
  · exact listed_mono order later
  · exact ⟨order, later⟩

theorem listed_optional {value : Option Scalar} (order : low ≤ number)
    (later : rest.Listed number) : (optional number value rest).Listed low := by
  cases value with
  | none => exact listed_mono order later
  | some value => exact ⟨order, later⟩

theorem listed_submessage {inner : Option Message} (order : low ≤ number)
    (children : ∀ child ∈ inner, child.Listed 0) (later : rest.Listed number) :
    (submessage number inner rest).Listed low := by
  cases inner with
  | none => exact listed_mono order later
  | some child => exact ⟨order, children child rfl, later⟩

theorem listed_repeatedScalar {values : List Scalar} (order : low ≤ number)
    (later : rest.Listed number) : (repeatedScalar number values rest).Listed low := by
  induction values generalizing low with
  | nil => exact listed_mono order later
  | cons value values ih => exact ⟨order, ih (Nat.le_refl _)⟩

/-- The elements of a repeated field stand together. -/
theorem listed_repeatedMessage {inner : List Message} (order : low ≤ number)
    (children : ∀ child ∈ inner, child.Listed 0) (later : rest.Listed number) :
    (repeatedMessage number inner rest).Listed low := by
  induction inner generalizing low with
  | nil => exact listed_mono order later
  | cons child inner ih =>
    exact ⟨order, children child List.mem_cons_self, ih (Nat.le_refl _)
      fun other member => children other (List.mem_cons_of_mem _ member)⟩

end

end Message

end PipeForge.Library.Proto3
