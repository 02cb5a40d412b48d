import PipeForge.Protocol.Readable

/-!
# Aggregate limits, stated without budgets

`validate_message` spends two shared budgets while it walks a message. Here its
verdict is restated as counts over the whole message: nodes, unknown fields
including those inside groups, group nesting, entries of each repeated field, and
the strings (`validateMessage_ok_iff`). Messages without unknown fields need only
the node, entry and string conditions (`validateMessage_plain`).
-/

namespace PipeForge.Protocol
open Contracts Library Proto3

/-! ## Unknown fields -/

/-- Fields inside groups, at any depth. -/
def innerFields : UnknownSet → Nat
  | .nil => 0
  | .leaf _ _ rest => innerFields rest
  | .group _ inner rest => inner.fieldCount + innerFields inner + innerFields rest

/-- Groups around the innermost field. -/
def groupDepth : UnknownSet → Nat
  | .nil => 0
  | .leaf _ _ rest => groupDepth rest
  | .group _ inner rest => max (groupDepth inner + 1) (groupDepth rest)

def shortLeaf : Leaf → Bool
  | .lengthDelimited bytes => decide (bytes.length ≤ maxStringBytes)
  | _ => true

def shortLeaves : UnknownSet → Bool
  | .nil => true
  | .leaf _ value rest => shortLeaf value && shortLeaves rest
  | .group _ inner rest => shortLeaves inner && shortLeaves rest

theorem boundedFields_leaf (depth number : Nat) (value : Leaf) (rest : UnknownSet)
    (remaining : Nat) :
    boundedFields depth (.leaf number value rest) remaining =
      if shortLeaf value then boundedFields depth rest remaining else none := by
  cases value with
  | lengthDelimited bytes =>
    by_cases short : bytes.length ≤ maxStringBytes
    · simp [boundedFields, shortLeaf, short, Nat.not_lt.mpr short]
    · simp [boundedFields, shortLeaf, short, Nat.lt_of_not_le short]
  | _ => rfl

/-- Counting nested fields succeeds exactly if every leaf is short, no group too deep and the
budget large enough; what is left is what was not used. -/
theorem boundedFields_some_iff {depth : Nat} (u : UnknownSet) (remaining left : Nat)
    (within : depth ≤ maxRecursionDepth) :
    boundedFields depth u remaining = some left ↔
      shortLeaves u = true ∧ depth + groupDepth u ≤ maxRecursionDepth ∧
        left + innerFields u = remaining := by
  induction u generalizing depth remaining left with
  | nil =>
    simp only [boundedFields, Option.some.injEq, shortLeaves, groupDepth, innerFields, true_and]
    omega
  | leaf number value rest ih =>
    rw [boundedFields_leaf]
    cases short : shortLeaf value with
    | false => simp [shortLeaves, short]
    | true => simp only [if_true, ih _ _ within, shortLeaves, short, Bool.true_and, groupDepth,
        innerFields]
  | group number inner rest innerIh ih =>
    simp only [boundedFields, shortLeaves, groupDepth, innerFields, Bool.and_eq_true]
    split
    · rename_i refused
      simp only [reduceCtorEq, false_iff, not_and]
      omega
    · rename_i allowed
      simp only [not_or, Nat.not_lt] at allowed
      split
      · rename_i failed
        -- The group itself is refused: no budget could have been left.
        simp only [reduceCtorEq, false_iff]
        intro given
        obtain ⟨⟨short, -⟩, nested, counted⟩ := given
        have passes := (innerIh (remaining - inner.fieldCount)
          (remaining - inner.fieldCount - innerFields inner) allowed.1).mpr
            ⟨short, by omega, by omega⟩
        rw [failed] at passes
        cases passes
      · rename_i middle passed
        obtain ⟨short, nested, counted⟩ := (innerIh _ _ allowed.1).mp passed
        rw [ih _ _ within]
        simp only [short, true_and]
        constructor
        · intro given
          obtain ⟨later, shallow, total⟩ := given
          exact ⟨later, by omega, by omega⟩
        · intro given
          obtain ⟨later, shallow, total⟩ := given
          exact ⟨later, by omega, by omega⟩

/-- An unknown set the codec tolerates, the count apart. -/
def acceptableUnknown (u : UnknownSet) : Prop :=
  shortLeaves u = true ∧ groupDepth u ≤ maxRecursionDepth

theorem boundedUnknowns_some_iff (u : UnknownSet) (remaining left : Nat) :
    boundedUnknowns u remaining 0 = some left ↔
      acceptableUnknown u ∧ left + (u.fieldCount + innerFields u) = remaining := by
  have zero : (0 : Nat) ≤ maxRecursionDepth := Nat.zero_le _
  unfold boundedUnknowns acceptableUnknown
  split
  · rename_i refused
    simp only [reduceCtorEq, false_iff, not_and]
    omega
  · rename_i allowed
    simp only [not_or, Nat.not_lt] at allowed
    rw [boundedFields_some_iff u _ _ zero, Nat.zero_add]
    constructor
    · intro given
      obtain ⟨short, nested, counted⟩ := given
      exact ⟨⟨short, nested⟩, by omega⟩
    · intro given
      obtain ⟨⟨short, nested⟩, counted⟩ := given
      exact ⟨short, nested, by omega⟩

/-! ## Messages -/

/-- Unknown fields of all nodes. -/
def unknownFields : Message → Nat
  | .done unknown => unknown.fieldCount + innerFields unknown
  | .scalar _ _ rest => unknownFields rest
  | .nested _ child rest => unknownFields child + unknownFields rest

/-- Every node's unknown set is tolerated. -/
def acceptableUnknowns : Message → Prop
  | .done unknown => acceptableUnknown unknown
  | .scalar _ _ rest => acceptableUnknowns rest
  | .nested _ child rest => acceptableUnknowns child ∧ acceptableUnknowns rest

/-- Every repeated field, of every node, has at most `maxEntries` elements. -/
def shortRuns : Message → Prop
  | .done _ => True
  | .scalar number _ rest => runLength number rest < maxEntries ∧ shortRuns rest
  | .nested number child rest => runLength number rest < maxEntries ∧ shortRuns child ∧ shortRuns rest

def validString (value : Scalar) : Bool := (validateText value).isNone

theorem validateText_none_iff {value : Scalar} :
    validateText value = none ↔ validString value = true := by
  rw [validString, Option.isNone_iff_eq_none]

theorem validString_text (bytes : Bytes) :
    validString (.text bytes) = true ↔
      bytes.length ≤ maxStringBytes ∧ Utf8.isStructurallyValid bytes = true := by
  rw [← validateText_none_iff, validateText]
  by_cases long : bytes.length > maxStringBytes
  · have refused : ¬ bytes.length ≤ maxStringBytes := by omega
    simp [long, refused]
  · have short : bytes.length ≤ maxStringBytes := by omega
    simp [long, short]

theorem nodes_pos (m : Message) : 0 < m.nodes := by
  induction m with
  | done unknown => exact Nat.one_pos
  | scalar number value rest ih => exact ih
  | nested number child rest _ ih =>
    rw [Message.nodes]
    omega

/-- The unknown fields of a message are at least those of its first node. -/
theorem unknownFields_ge (m : Message) :
    m.unknown.fieldCount + innerFields m.unknown ≤ unknownFields m := by
  induction m with
  | done unknown => exact Nat.le_refl _
  | scalar number value rest ih => exact ih
  | nested number child rest _ ih =>
    rw [Message.unknown, unknownFields]
    omega

/-- The unknown sets below the root, whose own set its caller charges. -/
def acceptableChildren : Message → Prop
  | .done _ => True
  | .scalar _ _ rest => acceptableChildren rest
  | .nested _ child rest => acceptableUnknowns child ∧ acceptableChildren rest

/-- A message is acceptable if its own unknown fields are and its children are. -/
theorem acceptableUnknowns_iff (m : Message) :
    acceptableUnknowns m ↔ acceptableUnknown m.unknown ∧ acceptableChildren m := by
  induction m with
  | done unknown => simp [acceptableUnknowns, acceptableChildren, Message.unknown]
  | scalar number value rest ih => exact ih
  | nested number child rest _ ih =>
    simp only [acceptableUnknowns, acceptableChildren, Message.unknown, ih]
    tauto

/-- A child is validated as a message of its own, then the fields after it. -/
theorem validateFields_nested (number : Nat) (child rest : Message) (nodes unknowns : Nat) :
    validateFields (.nested number child rest) nodes unknowns =
      if runLength number rest + 1 > maxEntries then .error .limitExceeded
      else
        match validateMessage child nodes unknowns with
        | .error error => .error error
        | .ok (nodes, unknowns) => validateFields rest nodes unknowns := by
  rw [validateFields, validateMessage]
  split
  · rfl
  · split
    · rfl
    · cases boundedUnknowns child.unknown unknowns 0 with
      | none => rfl
      | some remaining => rfl

/-- What the fields of a message come to, beside the message's own node and unknown set. -/
def FieldsExact (m : Message) : Prop :=
  ∀ nodes unknowns nodesLeft unknownsLeft : Nat,
    validateFields m nodes unknowns = .ok (nodesLeft, unknownsLeft) ↔
      shortRuns m ∧ m.allScalars validString = true ∧ acceptableChildren m ∧
        nodesLeft + m.nodes = nodes + 1 ∧
        unknownsLeft + unknownFields m =
          unknowns + (m.unknown.fieldCount + innerFields m.unknown)

/-- From the fields to the whole message: one node more, and the unknown fields of its own. -/
theorem FieldsExact.message {m : Message} (fields : FieldsExact m)
    {nodes unknowns nodesLeft unknownsLeft : Nat} :
    validateMessage m nodes unknowns = .ok (nodesLeft, unknownsLeft) ↔
      shortRuns m ∧ m.allScalars validString = true ∧ acceptableUnknowns m ∧
        nodesLeft + m.nodes = nodes ∧ unknownsLeft + unknownFields m = unknowns := by
  have root := nodes_pos m
  have below := unknownFields_ge m
  rw [acceptableUnknowns_iff m]
  unfold validateMessage
  split
  · rename_i spent
    simp only [reduceCtorEq, false_iff, not_and]
    omega
  · split
    · rename_i refused
      -- Were everything else right, the message's own unknown set would pass.
      simp only [reduceCtorEq, false_iff]
      intro given
      obtain ⟨-, -, ⟨own, -⟩, -, counted⟩ := given
      have passes := (boundedUnknowns_some_iff m.unknown unknowns
        (unknowns - (m.unknown.fieldCount + innerFields m.unknown))).mpr ⟨own, by omega⟩
      rw [refused] at passes
      cases passes
    · rename_i remaining passed
      obtain ⟨own, charged⟩ := (boundedUnknowns_some_iff _ _ _).mp passed
      rw [fields]
      constructor
      · intro given
        obtain ⟨runs, texts, children, visited, counted⟩ := given
        exact ⟨runs, texts, ⟨own, children⟩, by omega, by omega⟩
      · intro given
        obtain ⟨runs, texts, ⟨-, children⟩, visited, counted⟩ := given
        exact ⟨runs, texts, children, by omega, by omega⟩

theorem FieldsExact.scalar {rest : Message} (ih : FieldsExact rest) (number : Nat)
    (value : Scalar) : FieldsExact (.scalar number value rest) := by
  intro nodes unknowns nodesLeft unknownsLeft
  simp only [validateFields, shortRuns, Message.allScalars, acceptableChildren, Message.nodes,
    unknownFields, Message.unknown, Bool.and_eq_true]
  split
  · rename_i long
    simp only [reduceCtorEq, false_iff, not_and]
    omega
  · rename_i short
    have short : runLength number rest < maxEntries := by omega
    split
    · rename_i refused
      have invalid : ¬ validString value = true := by
        rw [← validateText_none_iff, refused]
        exact Option.some_ne_none _
      simp [invalid]
    · rename_i valid
      rw [ih]
      simp only [short, validateText_none_iff.mp valid, true_and]

/-- A nested message takes from both budgets, and what it leaves is passed on. -/
theorem FieldsExact.nested {child rest : Message} (childIh : FieldsExact child)
    (ih : FieldsExact rest) (number : Nat) : FieldsExact (.nested number child rest) := by
  intro nodes unknowns nodesLeft unknownsLeft
  have last := nodes_pos rest
  have others := unknownFields_ge rest
  rw [validateFields_nested]
  simp only [shortRuns, Message.allScalars, acceptableChildren, Message.nodes, unknownFields,
    Message.unknown, Bool.and_eq_true]
  split
  · rename_i long
    simp only [reduceCtorEq, false_iff, not_and]
    omega
  · rename_i short
    have short : runLength number rest < maxEntries := by omega
    split
    · rename_i refused
      simp only [reduceCtorEq, false_iff]
      intro given
      obtain ⟨⟨-, runs, -⟩, ⟨texts, -⟩, ⟨inner, -⟩, visited, counted⟩ := given
      have passes : validateMessage child nodes unknowns =
          .ok (nodes - child.nodes, unknowns - unknownFields child) :=
        childIh.message.mpr ⟨runs, texts, inner, by omega, by omega⟩
      rw [refused] at passes
      cases passes
    · rename_i nodes' unknowns' passed
      obtain ⟨runs, texts, inner, visited, counted⟩ := childIh.message.mp passed
      rw [ih]
      simp only [short, runs, texts, inner, true_and]
      constructor
      · intro given
        obtain ⟨later, valid, accepted, left, fields⟩ := given
        exact ⟨later, valid, accepted, by omega, by omega⟩
      · intro given
        obtain ⟨later, valid, accepted, left, fields⟩ := given
        exact ⟨later, valid, accepted, by omega, by omega⟩

/-- The walk over the fields is exact in both budgets, by induction on the message. -/
theorem validateFields_ok_iff (m : Message) : FieldsExact m := by
  induction m with
  | done unknown =>
    intro nodes unknowns nodesLeft unknownsLeft
    simp only [validateFields, Except.ok.injEq, Prod.mk.injEq, shortRuns, Message.allScalars,
      acceptableChildren, Message.nodes, unknownFields, Message.unknown, true_and]
    omega
  | scalar number value rest ih => exact ih.scalar number value
  | nested number child rest childIh ih => exact childIh.nested ih number

/-- The whole check is exact: it fails for no other reason, and it counts each node and each
unknown field once. -/
theorem validateMessage_ok_iff {m : Message} {nodes unknowns nodesLeft unknownsLeft : Nat} :
    validateMessage m nodes unknowns = .ok (nodesLeft, unknownsLeft) ↔
      shortRuns m ∧ m.allScalars validString = true ∧ acceptableUnknowns m ∧
        nodesLeft + m.nodes = nodes ∧ unknownsLeft + unknownFields m = unknowns :=
  (validateFields_ok_iff m).message

/-- A message without unknown fields spends none of their budget. -/
theorem plain_unknowns {m : Message} (plain : m.plain = true) :
    acceptableUnknowns m ∧ unknownFields m = 0 := by
  induction m with
  | done unknown =>
    rw [Message.plain, decide_eq_true_eq] at plain
    subst plain
    exact ⟨⟨rfl, Nat.zero_le _⟩, rfl⟩
  | scalar number value rest ih => exact ih plain
  | nested number child rest childIh ih =>
    rw [Message.plain, Bool.and_eq_true] at plain
    obtain ⟨inner, none⟩ := childIh plain.1
    obtain ⟨later, zero⟩ := ih plain.2
    exact ⟨⟨inner, later⟩, by rw [unknownFields, none, zero]⟩

/-- A message without unknown fields is accepted on three conditions. -/
theorem validateMessage_plain {m : Message} (plain : m.plain = true) (runs : shortRuns m)
    (texts : m.allScalars validString = true) {nodes : Nat} (few : m.nodes ≤ nodes)
    (unknowns : Nat) : ∃ left, validateMessage m nodes unknowns = .ok left := by
  obtain ⟨accepted, none⟩ := plain_unknowns plain
  refine ⟨(nodes - m.nodes, unknowns), validateMessage_ok_iff.mpr ⟨runs, texts, accepted, ?_, ?_⟩⟩
  · omega
  · omega

/-! ## Listed records

The fields of a record are listed by increasing number, so the elements of a
repeated field are exactly one run. -/

section
variable {number other : Nat} {value : Scalar} {rest : Message}

@[simp] theorem runLength_done (unknown : UnknownSet) : runLength number (.done unknown) = 0 := by
  rw [runLength]

@[simp] theorem runLength_implicit (different : other ≠ number)
    (later : runLength number rest = 0) :
    runLength number (.implicit other value rest) = 0 := by
  unfold Message.implicit
  split
  · exact later
  · rw [runLength, if_neg different]

@[simp] theorem runLength_nested {child : Message} (different : other ≠ number) :
    runLength number (.nested other child rest) = 0 := by
  rw [runLength, if_neg different]

@[simp] theorem runLength_submessage {inner : Option Message} (different : other ≠ number)
    (later : runLength number rest = 0) :
    runLength number (.submessage other inner rest) = 0 := by
  cases inner with
  | none => exact later
  | some child => exact runLength_nested different

@[simp] theorem runLength_repeatedMessage {inner : List Message} (different : other ≠ number)
    (later : runLength number rest = 0) :
    runLength number (.repeatedMessage other inner rest) = 0 := by
  cases inner with
  | nil => exact later
  | cons child inner => exact runLength_nested different

@[simp] theorem shortRuns_done (unknown : UnknownSet) : shortRuns (.done unknown) := trivial

@[simp] theorem shortRuns_implicit (later : runLength number rest = 0) :
    shortRuns (.implicit number value rest) ↔ shortRuns rest := by
  unfold Message.implicit
  split
  · exact Iff.rfl
  · rw [shortRuns, later]
    exact and_iff_right (by decide)

@[simp] theorem shortRuns_optional {value : Option Scalar} (later : runLength number rest = 0) :
    shortRuns (.optional number value rest) ↔ shortRuns rest := by
  cases value with
  | none => exact Iff.rfl
  | some value =>
    rw [Message.optional, shortRuns, later]
    exact and_iff_right (by decide)

@[simp] theorem shortRuns_nested {child : Message} (later : runLength number rest = 0) :
    shortRuns (.nested number child rest) ↔ shortRuns child ∧ shortRuns rest := by
  rw [shortRuns, later]
  exact and_iff_right (by decide)

@[simp] theorem shortRuns_submessage {inner : Option Message} (later : runLength number rest = 0) :
    shortRuns (.submessage number inner rest) ↔
      (∀ child ∈ inner, shortRuns child) ∧ shortRuns rest := by
  cases inner with
  | none => simp [Message.submessage]
  | some child => simp [Message.submessage, later]

theorem runLength_repeated (inner : List Message) (later : runLength number rest = 0) :
    runLength number (.repeatedMessage number inner rest) = inner.length := by
  induction inner with
  | nil => exact later
  | cons child inner ih =>
    change (if number = number then _ else _) = _
    rw [if_pos rfl, List.length_cons]
    exact congrArg (· + 1) ih

theorem runLength_repeatedScalar (values : List Scalar) (later : runLength number rest = 0) :
    runLength number (.repeatedScalar number values rest) = values.length := by
  induction values with
  | nil => exact later
  | cons value values ih =>
    change (if number = number then _ else _) = _
    rw [if_pos rfl, List.length_cons]
    exact congrArg (· + 1) ih

@[simp] theorem shortRuns_repeatedMessage {inner : List Message}
    (later : runLength number rest = 0) :
    shortRuns (.repeatedMessage number inner rest) ↔
      inner.length ≤ maxEntries ∧ (∀ child ∈ inner, shortRuns child) ∧ shortRuns rest := by
  induction inner with
  | nil => simp [Message.repeatedMessage]
  | cons child inner ih =>
    change runLength number (.repeatedMessage number inner rest) < maxEntries ∧ shortRuns child ∧
      shortRuns (.repeatedMessage number inner rest) ↔ _
    rw [runLength_repeated inner later, ih, List.forall_mem_cons, List.length_cons]
    constructor
    · intro given
      obtain ⟨few, first, -, others, tail⟩ := given
      exact ⟨few, ⟨first, others⟩, tail⟩
    · intro given
      obtain ⟨few, ⟨first, others⟩, tail⟩ := given
      exact ⟨few, first, Nat.le_of_lt few, others, tail⟩

@[simp] theorem shortRuns_repeatedScalar {values : List Scalar}
    (later : runLength number rest = 0) :
    shortRuns (.repeatedScalar number values rest) ↔
      values.length ≤ maxEntries ∧ shortRuns rest := by
  induction values with
  | nil => simp [Message.repeatedScalar]
  | cons value values ih =>
    change runLength number (.repeatedScalar number values rest) < maxEntries ∧
      shortRuns (.repeatedScalar number values rest) ↔ _
    rw [runLength_repeatedScalar values later, ih, List.length_cons]
    constructor
    · intro given
      obtain ⟨few, -, tail⟩ := given
      exact ⟨few, tail⟩
    · intro given
      obtain ⟨few, tail⟩ := given
      exact ⟨few, Nat.le_of_lt few, tail⟩

end

end PipeForge.Protocol
