import PipeForge.Library.Proto3Scalar

/-!
# Protocol Buffers messages

A message is its list of present fields in field-number order, the elements of a
repeated field one after the other, followed by its unknown fields: what a
reflective traversal visits. A field without presence is listed only when it
differs from its default.

`parse` is the documented meaning of a byte string for a schema: records are
taken in any order, a scalar replaces an earlier one, an embedded message merges
into an earlier one, a repeated field appends, a oneof member replaces its
siblings, and a record of unknown number or unexpected wire type is kept aside.
It is liberal: lengths, nesting and text are not limited here.

`parse_footprint` is the reason re-encoding never grows: the known fields of what
was parsed fit in the bytes they were parsed from.
-/

namespace PipeForge.Library.Proto3

/-! ## Unknown fields -/

inductive Leaf where
  | varint (n : UInt64)
  | fixed64 (n : UInt64)
  | fixed32 (n : UInt32)
  | lengthDelimited (bytes : List UInt8)
  deriving DecidableEq, Repr

inductive UnknownSet where
  | nil
  | leaf (number : Nat) (value : Leaf) (rest : UnknownSet)
  | group (number : Nat) (inner rest : UnknownSet)
  deriving DecidableEq, Repr

namespace UnknownSet

def fieldCount : UnknownSet → Nat
  | nil => 0
  | leaf _ _ rest => rest.fieldCount + 1
  | group _ _ rest => rest.fieldCount + 1

def append : UnknownSet → UnknownSet → UnknownSet
  | nil, later => later
  | leaf number value rest, later => leaf number value (rest.append later)
  | group number inner rest, later => group number inner (rest.append later)

end UnknownSet

def tagSize (number wire : Nat) : Nat := Varint.size (number * 8 + wire)

def Leaf.byteSize (number : Nat) : Leaf → Nat
  | .varint n => tagSize number 0 + Varint.size n.toNat
  | .fixed64 _ => tagSize number 1 + 8
  | .fixed32 _ => tagSize number 5 + 4
  | .lengthDelimited bytes => tagSize number 2 + Varint.size bytes.length + bytes.length

def UnknownSet.byteSize : UnknownSet → Nat
  | .nil => 0
  | .leaf number value rest => value.byteSize number + rest.byteSize
  | .group number inner rest =>
    tagSize number 3 + inner.byteSize + tagSize number 4 + rest.byteSize

/-! ## Messages -/

inductive Message where
  | done (unknown : UnknownSet)
  | scalar (number : Nat) (value : Scalar) (rest : Message)
  | nested (number : Nat) (child rest : Message)
  deriving DecidableEq, Repr

namespace Message

def empty : Message := .done .nil

def unknown : Message → UnknownSet
  | done unknown => unknown
  | scalar _ _ rest => rest.unknown
  | nested _ _ rest => rest.unknown

/-- Serialized size. -/
def byteSize : Message → Nat
  | done unknown => unknown.byteSize
  | scalar number value rest => tagSize number value.type.wire + value.byteSize + rest.byteSize
  | nested number child rest =>
    tagSize number 2 + Varint.size child.byteSize + child.byteSize + rest.byteSize

/-- Size of the known fields alone, enumerators by their low word. -/
def footprint : Message → Nat
  | done _ => 0
  | scalar number value rest => tagSize number value.type.wire + value.footprint + rest.footprint
  | nested number child rest =>
    tagSize number 2 + Varint.size child.footprint + child.footprint + rest.footprint

/-- The message without any unknown field, at any depth. -/
def strip : Message → Message
  | done _ => done .nil
  | scalar number value rest => scalar number value rest.strip
  | nested number child rest => nested number child.strip rest.strip

/-- No unknown fields, at any depth. -/
def plain : Message → Bool
  | done unknown => decide (unknown = .nil)
  | scalar _ _ rest => rest.plain
  | nested _ child rest => child.plain && rest.plain

/-- Every scalar, at any depth, satisfies the predicate. -/
def allScalars (p : Scalar → Bool) : Message → Bool
  | done _ => true
  | scalar _ value rest => p value && rest.allScalars p
  | nested _ child rest => child.allScalars p && rest.allScalars p

/-- Message nodes, the root included. -/
def nodes : Message → Nat
  | done _ => 1
  | scalar _ _ rest => rest.nodes
  | nested _ child rest => child.nodes + rest.nodes

/-- Nesting of embedded messages, the root not counted. -/
def depth : Message → Nat
  | done _ => 0
  | scalar _ _ rest => rest.depth
  | nested _ child rest => max (child.depth + 1) rest.depth

/-- Drop the fields with the given numbers. -/
def remove (numbers : List Nat) : Message → Message
  | done unknown => done unknown
  | scalar number value rest =>
    if number ∈ numbers then rest.remove numbers else scalar number value (rest.remove numbers)
  | nested number child rest =>
    if number ∈ numbers then rest.remove numbers else nested number child (rest.remove numbers)

/-- Put an entry behind the fields with at most this number. -/
def place (number : Nat) (entry : Message → Message) : Message → Message
  | done unknown => entry (done unknown)
  | scalar other value rest =>
    if other ≤ number then scalar other value (rest.place number entry)
    else entry (scalar other value rest)
  | nested other child rest =>
    if other ≤ number then nested other child (rest.place number entry)
    else entry (nested other child rest)

/-- The embedded message of a singular field, or the default one. -/
def child (number : Nat) : Message → Message
  | done _ => empty
  | scalar _ _ rest => rest.child number
  | nested other inner rest => if other = number then inner else rest.child number

def addUnknown (added : UnknownSet) : Message → Message
  | done unknown => done (unknown.append added)
  | scalar number value rest => scalar number value (rest.addUnknown added)
  | nested number inner rest => nested number inner (rest.addUnknown added)

/-! ### Listing the fields of a record

The entry of a field is listed in front of the later ones. -/

/-- A field without presence. -/
def implicit (number : Nat) (value : Scalar) (rest : Message) : Message :=
  if value.isDefault then rest else scalar number value rest

/-- A field with explicit presence. -/
def optional (number : Nat) (value : Option Scalar) (rest : Message) : Message :=
  match value with
  | none => rest
  | some value => scalar number value rest

def submessage (number : Nat) (inner : Option Message) (rest : Message) : Message :=
  match inner with
  | none => rest
  | some inner => nested number inner rest

def repeatedScalar (number : Nat) (values : List Scalar) (rest : Message) : Message :=
  values.foldr (scalar number) rest

def repeatedMessage (number : Nat) (inner : List Message) (rest : Message) : Message :=
  inner.foldr (nested number) rest

@[simp] theorem unknown_implicit (number : Nat) (value : Scalar) (rest : Message) :
    (implicit number value rest).unknown = rest.unknown := by
  unfold implicit
  split <;> rfl

@[simp] theorem unknown_optional (number : Nat) (value : Option Scalar) (rest : Message) :
    (optional number value rest).unknown = rest.unknown := by
  cases value <;> rfl

@[simp] theorem unknown_submessage (number : Nat) (inner : Option Message) (rest : Message) :
    (submessage number inner rest).unknown = rest.unknown := by
  cases inner <;> rfl

@[simp] theorem unknown_repeatedScalar (number : Nat) (values : List Scalar) (rest : Message) :
    (repeatedScalar number values rest).unknown = rest.unknown := by
  induction values with
  | nil => rfl
  | cons value values ih => exact ih

@[simp] theorem unknown_repeatedMessage (number : Nat) (inner : List Message) (rest : Message) :
    (repeatedMessage number inner rest).unknown = rest.unknown := by
  induction inner with
  | nil => rfl
  | cons child inner ih => exact ih

@[simp] theorem plain_implicit (number : Nat) (value : Scalar) (rest : Message) :
    (implicit number value rest).plain = rest.plain := by
  unfold implicit
  split <;> rfl

@[simp] theorem plain_optional (number : Nat) (value : Option Scalar) (rest : Message) :
    (optional number value rest).plain = rest.plain := by
  cases value <;> rfl

@[simp] theorem plain_submessage (number : Nat) (inner : Option Message) (rest : Message) :
    (submessage number inner rest).plain = (inner.all plain && rest.plain) := by
  cases inner <;> rfl

@[simp] theorem plain_repeatedScalar (number : Nat) (values : List Scalar) (rest : Message) :
    (repeatedScalar number values rest).plain = rest.plain := by
  induction values with
  | nil => rfl
  | cons value values ih => exact ih

@[simp] theorem plain_repeatedMessage (number : Nat) (inner : List Message) (rest : Message) :
    (repeatedMessage number inner rest).plain = (inner.all plain && rest.plain) := by
  induction inner with
  | nil => rfl
  | cons child inner ih =>
    change (child.plain && (repeatedMessage number inner rest).plain) = _
    rw [ih, List.all_cons, Bool.and_assoc]

theorem depth_implicit (number : Nat) (value : Scalar) (rest : Message) :
    (implicit number value rest).depth = rest.depth := by
  unfold implicit
  split <;> rfl

theorem depth_optional (number : Nat) (value : Option Scalar) (rest : Message) :
    (optional number value rest).depth = rest.depth := by
  cases value <;> rfl

theorem depth_submessage_le {number bound : Nat} {inner : Option Message} {rest : Message}
    (children : ∀ child ∈ inner, child.depth + 1 ≤ bound) (later : rest.depth ≤ bound) :
    (submessage number inner rest).depth ≤ bound := by
  cases inner with
  | none => exact later
  | some child => exact Nat.max_le.mpr ⟨children child rfl, later⟩

theorem depth_repeatedScalar (number : Nat) (values : List Scalar) (rest : Message) :
    (repeatedScalar number values rest).depth = rest.depth := by
  induction values with
  | nil => rfl
  | cons value values ih => exact ih

theorem depth_repeatedMessage_le {number bound : Nat} {inner : List Message} {rest : Message}
    (children : ∀ child ∈ inner, child.depth + 1 ≤ bound) (later : rest.depth ≤ bound) :
    (repeatedMessage number inner rest).depth ≤ bound := by
  induction inner with
  | nil => exact later
  | cons child inner ih =>
    refine Nat.max_le.mpr ⟨children child (by simp), ih ?_⟩
    exact fun other member => children other (by simp [member])

@[simp] theorem strip_implicit (number : Nat) (value : Scalar) (rest : Message) :
    (implicit number value rest).strip = implicit number value rest.strip := by
  unfold implicit
  split <;> rfl

@[simp] theorem strip_optional (number : Nat) (value : Option Scalar) (rest : Message) :
    (optional number value rest).strip = optional number value rest.strip := by
  cases value <;> rfl

@[simp] theorem strip_submessage (number : Nat) (inner : Option Message) (rest : Message) :
    (submessage number inner rest).strip = submessage number (inner.map strip) rest.strip := by
  cases inner <;> rfl

@[simp] theorem strip_repeatedScalar (number : Nat) (values : List Scalar) (rest : Message) :
    (repeatedScalar number values rest).strip = repeatedScalar number values rest.strip := by
  induction values with
  | nil => rfl
  | cons value values ih =>
    change scalar number value (repeatedScalar number values rest).strip = _
    rw [ih]
    rfl

@[simp] theorem strip_repeatedMessage (number : Nat) (inner : List Message) (rest : Message) :
    (repeatedMessage number inner rest).strip =
      repeatedMessage number (inner.map strip) rest.strip := by
  induction inner with
  | nil => rfl
  | cons child inner ih =>
    change nested number child.strip (repeatedMessage number inner rest).strip = _
    rw [ih]
    rfl

@[simp] theorem nodes_implicit (number : Nat) (value : Scalar) (rest : Message) :
    (implicit number value rest).nodes = rest.nodes := by
  unfold implicit
  split <;> rfl

@[simp] theorem nodes_optional (number : Nat) (value : Option Scalar) (rest : Message) :
    (optional number value rest).nodes = rest.nodes := by
  cases value <;> rfl

@[simp] theorem nodes_submessage (number : Nat) (inner : Option Message) (rest : Message) :
    (submessage number inner rest).nodes = inner.elim 0 nodes + rest.nodes := by
  cases inner with
  | none => exact (Nat.zero_add _).symm
  | some child => rfl

@[simp] theorem nodes_repeatedScalar (number : Nat) (values : List Scalar) (rest : Message) :
    (repeatedScalar number values rest).nodes = rest.nodes := by
  induction values with
  | nil => rfl
  | cons value values ih => exact ih

@[simp] theorem nodes_repeatedMessage (number : Nat) (inner : List Message) (rest : Message) :
    (repeatedMessage number inner rest).nodes = (inner.map nodes).sum + rest.nodes := by
  induction inner with
  | nil => exact (Nat.zero_add _).symm
  | cons child inner ih =>
    change child.nodes + (repeatedMessage number inner rest).nodes = _
    rw [ih, List.map_cons, List.sum_cons, Nat.add_assoc]

section
variable (p : Scalar → Bool)

@[simp] theorem allScalars_implicit (number : Nat) (value : Scalar) (rest : Message) :
    (implicit number value rest).allScalars p =
      ((value.isDefault || p value) && rest.allScalars p) := by
  unfold implicit
  split <;> simp_all [allScalars]

@[simp] theorem allScalars_optional (number : Nat) (value : Option Scalar) (rest : Message) :
    (optional number value rest).allScalars p = (value.all p && rest.allScalars p) := by
  cases value <;> rfl

@[simp] theorem allScalars_submessage (number : Nat) (inner : Option Message) (rest : Message) :
    (submessage number inner rest).allScalars p =
      (inner.all (allScalars p) && rest.allScalars p) := by
  cases inner <;> rfl

@[simp] theorem allScalars_repeatedScalar (number : Nat) (values : List Scalar) (rest : Message) :
    (repeatedScalar number values rest).allScalars p = (values.all p && rest.allScalars p) := by
  induction values with
  | nil => rfl
  | cons value values ih =>
    change (p value && (repeatedScalar number values rest).allScalars p) = _
    rw [ih, List.all_cons, Bool.and_assoc]

@[simp] theorem allScalars_repeatedMessage (number : Nat) (inner : List Message)
    (rest : Message) :
    (repeatedMessage number inner rest).allScalars p =
      (inner.all (allScalars p) && rest.allScalars p) := by
  induction inner with
  | nil => rfl
  | cons child inner ih =>
    change (child.allScalars p && (repeatedMessage number inner rest).allScalars p) = _
    rw [ih, List.all_cons, Bool.and_assoc]

end

end Message

/-! ## Schemas -/

inductive Kind (τ : Type) where
  | scalar (type : ScalarType)
  | message (type : τ)
  deriving DecidableEq, Repr

/-- How a field is present: by differing from the default, explicitly, as a list,
or as the one member of a oneof. -/
inductive Label where
  | implicit
  | explicit
  | repeated
  | member (siblings : List Nat)
  deriving DecidableEq, Repr

structure FieldDescriptor (τ : Type) where
  number : Nat
  kind : Kind τ
  label : Label
  deriving DecidableEq, Repr

def Kind.wire {τ : Type} : Kind τ → Nat
  | .scalar type => type.wire
  | .message _ => 2

/-- Message types with their field lists. -/
abbrev Schema (τ : Type) := τ → List (FieldDescriptor τ)

section
variable {τ : Type}

/-- A record belongs to a field when number and wire type agree. -/
def Schema.find (schema : Schema τ) (type : τ) (number wire : Nat) :
    Option (FieldDescriptor τ) :=
  (schema type).find? fun field => decide (field.number = number ∧ field.kind.wire = wire)

/-- The fields a new value of this one replaces. -/
def FieldDescriptor.clears (field : FieldDescriptor τ) : List Nat :=
  match field.label with
  | .repeated => []
  | .member siblings => siblings
  | .implicit | .explicit => [field.number]

namespace Message

def store (field : FieldDescriptor τ) (value : Scalar) (m : Message) : Message :=
  if field.label = .implicit ∧ value.isDefault then m.remove field.clears
  else (m.remove field.clears).place field.number (.scalar field.number value)

/-- What an embedded message of this field merges into. -/
def initial (field : FieldDescriptor τ) (m : Message) : Message :=
  if field.label = .repeated then empty else m.child field.number

def attach (field : FieldDescriptor τ) (m inner : Message) : Message :=
  (m.remove field.clears).place field.number (.nested field.number inner)

end Message

/-! ## Parsing -/

/-- Field number and wire type; a tag is a 32-bit number and field 0 is illegal. -/
def readTag (input : List UInt8) : Option (Nat × Nat × List UInt8) :=
  match Varint.read input with
  | none => none
  | some (n, rest) =>
    let tag := n % 2 ^ 32
    if tag / 8 = 0 then none else some (tag / 8, tag % 8, rest)

def readLeaf (wire : Nat) (input : List UInt8) : Option (Leaf × List UInt8) :=
  match wire with
  | 0 => (Varint.read input).map fun found => (.varint (UInt64.ofNat found.1), found.2)
  | 1 => (readFixed 8 input).map fun found => (.fixed64 (UInt64.ofNat found.1), found.2)
  | 2 => (readDelimited input).map fun found => (.lengthDelimited found.1, found.2)
  | 5 => (readFixed 4 input).map fun found => (.fixed32 (UInt32.ofNat found.1), found.2)
  | _ => none

/-- The fields of a group up to its matching end tag. -/
def readGroup : Nat → Nat → List UInt8 → Option (UnknownSet × List UInt8)
  | 0, _, _ => none
  | fuel + 1, closing, input =>
    match readTag input with
    | none => none
    | some (number, wire, rest) =>
      if wire = 4 then if number = closing then some (.nil, rest) else none
      else if wire = 3 then
        match readGroup fuel number rest with
        | none => none
        | some (inner, rest) =>
          (readGroup fuel closing rest).map fun later => (.group number inner later.1, later.2)
      else
        match readLeaf wire rest with
        | none => none
        | some (value, rest) =>
          (readGroup fuel closing rest).map fun later => (.leaf number value later.1, later.2)

/-- One unknown record after its tag. -/
def readUnknown (number wire : Nat) (input : List UInt8) : Option (UnknownSet × List UInt8) :=
  if wire = 3 then
    (readGroup (input.length + 1) number input).map fun found =>
      (.group number found.1 .nil, found.2)
  else (readLeaf wire input).map fun found => (.leaf number found.1 .nil, found.2)

/-- Merge the records of `input` into a message. -/
def parseFields (schema : Schema τ) : Nat → τ → Message → List UInt8 → Option Message
  | 0, _, _, _ => none
  | _ + 1, _, m, [] => some m
  | fuel + 1, type, m, b :: bytes =>
    match readTag (b :: bytes) with
    | none => none
    | some (number, wire, rest) =>
      match schema.find type number wire with
      | none =>
        match readUnknown number wire rest with
        | none => none
        | some (added, rest) => parseFields schema fuel type (m.addUnknown added) rest
      | some field =>
        match field.kind with
        | .scalar scalarType =>
          match readScalar scalarType rest with
          | none => none
          | some (value, rest) => parseFields schema fuel type (m.store field value) rest
        | .message inner =>
          match readDelimited rest with
          | none => none
          | some (body, rest) =>
            match parseFields schema fuel inner (m.initial field) body with
            | none => none
            | some merged => parseFields schema fuel type (m.attach field merged) rest

/-- Every record takes at least one byte, so the length bounds the recursion. -/
def parse (schema : Schema τ) (type : τ) (input : List UInt8) : Option Message :=
  parseFields schema (input.length + 1) type .empty input

/-! ## Footprints -/

namespace Message

/-- Unknown fields do not count for the footprint. -/
theorem footprint_strip (m : Message) : m.strip.footprint = m.footprint := by
  induction m with
  | done unknown => rfl
  | scalar number value rest ih => simp only [strip, footprint, ih]
  | nested number inner rest innerIh ih => simp only [strip, footprint, innerIh, ih]

/-- Without unknown fields and negative enumerators nothing else is written. -/
theorem byteSize_eq_footprint {m : Message} (known : m.plain = true)
    (nonnegative : m.allScalars Scalar.nonnegative = true) : m.byteSize = m.footprint := by
  induction m with
  | done unknown =>
    rw [plain, decide_eq_true_eq] at known
    rw [known]
    rfl
  | scalar number value rest ih =>
    rw [allScalars, Bool.and_eq_true] at nonnegative
    rw [byteSize, footprint, ih known nonnegative.2, Scalar.footprint_eq nonnegative.1]
  | nested number inner rest innerIh ih =>
    rw [allScalars, Bool.and_eq_true] at nonnegative
    rw [plain, Bool.and_eq_true] at known
    rw [byteSize, footprint, ih known.2 nonnegative.2, innerIh known.1 nonnegative.1]

/-- An entry costs the same wherever it is placed. -/
theorem footprint_place (number cost : Nat) (entry : Message → Message)
    (adds : ∀ rest, (entry rest).footprint = cost + rest.footprint) (m : Message) :
    (m.place number entry).footprint = cost + m.footprint := by
  induction m with
  | done unknown => exact adds _
  | scalar other value rest ih =>
    unfold place
    split
    · simp only [footprint, ih]
      omega
    · exact adds _
  | nested other inner rest _ ih =>
    unfold place
    split
    · simp only [footprint, ih]
      omega
    · exact adds _

theorem footprint_remove_le (numbers : List Nat) (m : Message) :
    (m.remove numbers).footprint ≤ m.footprint := by
  induction m with
  | done unknown => exact Nat.le_refl _
  | scalar number value rest ih =>
    unfold remove
    split
    · simp only [footprint]
      omega
    · simp only [footprint]
      omega
  | nested number inner rest _ ih =>
    unfold remove
    split
    · simp only [footprint]
      omega
    · simp only [footprint]
      omega

theorem footprint_addUnknown (added : UnknownSet) (m : Message) :
    (m.addUnknown added).footprint = m.footprint := by
  induction m with
  | done unknown => rfl
  | scalar number value rest ih => simp only [addUnknown, footprint, ih]
  | nested number inner rest _ ih => simp only [addUnknown, footprint, ih]

/-- Replacing a child that grew by at most `growth` costs at most one more record
of that length: either the child was there and its old entry goes, or it was
empty. -/
theorem footprint_replace (number : Nat) (numbers : List Nat) (replaced : number ∈ numbers)
    (m inner : Message) (growth : Nat)
    (grown : inner.footprint ≤ (m.child number).footprint + growth) :
    tagSize number 2 + Varint.size inner.footprint + inner.footprint +
        (m.remove numbers).footprint ≤
      m.footprint + (tagSize number 2 + Varint.size growth + growth) := by
  induction m with
  | done unknown =>
    simp only [child, empty, footprint, Nat.zero_add] at grown
    have shorter := Varint.size_mono grown
    simp only [remove, footprint]
    omega
  | scalar other value rest ih =>
    have step := ih grown
    have removed := footprint_remove_le numbers rest
    unfold remove
    split <;> simp only [footprint] <;> omega
  | nested other former rest _ ih =>
    simp only [child] at grown
    split at grown
    · rename_i same
      subst same
      have shorter := Nat.le_trans (Varint.size_mono grown)
        (Varint.size_add_le former.footprint growth)
      have removed := footprint_remove_le numbers rest
      rw [remove, if_pos replaced]
      simp only [footprint]
      omega
    · have step := ih grown
      unfold remove
      split <;> simp only [footprint] <;> omega

/-- A field that is read costs at most what it took on the wire. -/
theorem footprint_store_le (field : FieldDescriptor τ) (value : Scalar) (m : Message) :
    (m.store field value).footprint ≤
      tagSize field.number value.type.wire + value.footprint + m.footprint := by
  have removed := footprint_remove_le field.clears m
  unfold store
  split
  · omega
  · rw [footprint_place field.number (tagSize field.number value.type.wire + value.footprint)]
    · omega
    · intro rest
      rfl

/-- A message that grows by merging grows its field by at most what was read for it. -/
theorem footprint_attach_le (field : FieldDescriptor τ) (inner m : Message) (growth : Nat)
    (lists : field.label = .repeated ∨ field.number ∈ field.clears)
    (grown : inner.footprint ≤ (m.initial field).footprint + growth) :
    (m.attach field inner).footprint ≤
      m.footprint + (tagSize field.number 2 + Varint.size growth + growth) := by
  have placed := footprint_place field.number
    (tagSize field.number 2 + Varint.size inner.footprint + inner.footprint)
    (.nested field.number inner) (fun rest => rfl) (m.remove field.clears)
  rw [attach, placed]
  rcases lists with repeated | replaced
  · rw [initial, if_pos repeated] at grown
    simp only [empty, footprint, Nat.zero_add] at grown
    have shorter := Varint.size_mono grown
    have removed := footprint_remove_le field.clears m
    omega
  · by_cases repeated : field.label = .repeated
    · simp only [FieldDescriptor.clears, repeated, List.not_mem_nil] at replaced
    · rw [initial, if_neg repeated] at grown
      exact footprint_replace field.number field.clears replaced m inner growth grown

end Message

/-- A tag is at least as long as its shortest form. -/
theorem readTag_size {input rest : List UInt8} {number wire : Nat}
    (success : readTag input = some (number, wire, rest)) :
    tagSize number wire + rest.length ≤ input.length := by
  unfold readTag at success
  split at success
  · cases success
  · rename_i n tail found
    dsimp only at success
    split at success
    · cases success
    · cases success
      have read := Varint.read_size found
      have whole : n % 2 ^ 32 / 8 * 8 + n % 2 ^ 32 % 8 = n % 2 ^ 32 := by omega
      have reduced := Varint.size_mono (Nat.mod_le n (2 ^ 32))
      rw [tagSize, whole]
      omega

theorem readLeaf_length {wire : Nat} {input rest : List UInt8} {value : Leaf}
    (success : readLeaf wire input = some (value, rest)) : rest.length ≤ input.length := by
  unfold readLeaf at success
  split at success
  · simp only [Option.map_eq_some_iff, Prod.mk.injEq] at success
    obtain ⟨⟨n, tail⟩, found, -, rfl⟩ := success
    have read := Varint.read_size found
    exact Nat.le_trans (Nat.le_add_left _ _) read
  · simp only [Option.map_eq_some_iff, Prod.mk.injEq] at success
    obtain ⟨⟨n, tail⟩, found, -, rfl⟩ := success
    exact Nat.le_trans (Nat.le_add_left _ _) (Nat.le_of_eq (readFixed_size found))
  · simp only [Option.map_eq_some_iff, Prod.mk.injEq] at success
    obtain ⟨⟨bytes, tail⟩, found, -, rfl⟩ := success
    exact Nat.le_trans (Nat.le_add_left _ _) (readDelimited_size found)
  · simp only [Option.map_eq_some_iff, Prod.mk.injEq] at success
    obtain ⟨⟨n, tail⟩, found, -, rfl⟩ := success
    exact Nat.le_trans (Nat.le_add_left _ _) (Nat.le_of_eq (readFixed_size found))
  · cases success

theorem readGroup_length (fuel closing : Nat) (input rest : List UInt8) (fields : UnknownSet)
    (success : readGroup fuel closing input = some (fields, rest)) :
    rest.length ≤ input.length := by
  induction fuel generalizing closing input rest fields with
  | zero => cases success
  | succ fuel ih =>
    unfold readGroup at success
    split at success
    · cases success
    · rename_i number wire tail tagged
      have tag := readTag_size tagged
      split at success
      · split at success
        · cases success
          omega
        · cases success
      · split at success
        · split at success
          · cases success
          · rename_i inner between opened
            simp only [Option.map_eq_some_iff, Prod.mk.injEq] at success
            obtain ⟨⟨later, final⟩, closed, -, rfl⟩ := success
            have first := ih _ _ _ _ opened
            have second := ih _ _ _ _ closed
            simp only at second ⊢
            omega
        · split at success
          · cases success
          · rename_i value between leaf
            simp only [Option.map_eq_some_iff, Prod.mk.injEq] at success
            obtain ⟨⟨later, final⟩, closed, -, rfl⟩ := success
            have first := readLeaf_length leaf
            have second := ih _ _ _ _ closed
            simp only at second ⊢
            omega

theorem readUnknown_length {number wire : Nat} {input rest : List UInt8} {added : UnknownSet}
    (success : readUnknown number wire input = some (added, rest)) :
    rest.length ≤ input.length := by
  unfold readUnknown at success
  split at success
  · simp only [Option.map_eq_some_iff, Prod.mk.injEq] at success
    obtain ⟨⟨inner, tail⟩, found, -, rfl⟩ := success
    exact readGroup_length _ _ _ _ _ found
  · simp only [Option.map_eq_some_iff, Prod.mk.injEq] at success
    obtain ⟨⟨value, tail⟩, found, -, rfl⟩ := success
    exact readLeaf_length found

/-- A field is found under its own number and wire type. -/
theorem Schema.find_spec {schema : Schema τ} {type : τ} {number wire : Nat}
    {field : FieldDescriptor τ} (found : schema.find type number wire = some field) :
    field ∈ schema type ∧ field.number = number ∧ field.kind.wire = wire := by
  have spec := List.find?_some found
  simp only [decide_eq_true_eq] at spec
  exact ⟨List.mem_of_find?_eq_some found, spec.1, spec.2⟩

/-- A oneof member is among its own siblings. -/
def Schema.Proper (schema : Schema τ) : Prop :=
  ∀ type, ∀ field ∈ schema type, field.label = .repeated ∨ field.number ∈ field.clears

/-- Merging adds at most as much as it reads. -/
theorem parseFields_footprint {schema : Schema τ} (proper : schema.Proper) (fuel : Nat) (type : τ)
    (m result : Message) (input : List UInt8)
    (success : parseFields schema fuel type m input = some result) :
    result.footprint ≤ m.footprint + input.length := by
  induction fuel generalizing type m input result with
  | zero => cases success
  | succ fuel ih =>
    cases input with
    | nil =>
      cases success
      exact Nat.le_refl _
    | cons b bytes =>
      unfold parseFields at success
      split at success
      · cases success
      · rename_i number wire rest tagged
        have tag := readTag_size tagged
        split at success
        · split at success
          · cases success
          · rename_i added tail unknown
            have taken := readUnknown_length unknown
            have later := ih _ _ _ _ success
            rw [Message.footprint_addUnknown] at later
            omega
        · rename_i field found
          obtain ⟨member, rfl, wires⟩ := Schema.find_spec found
          split at success
          · rename_i scalarType kind
            split at success
            · cases success
            · rename_i value tail scalar
              obtain ⟨typed, taken⟩ := readScalar_size scalar
              have stored := Message.footprint_store_le field value m
              have later := ih _ _ _ _ success
              rw [kind, Kind.wire] at wires
              rw [typed, wires] at stored
              omega
          · rename_i inner kind
            split at success
            · cases success
            · rename_i body tail delimited
              split at success
              · cases success
              · rename_i merged child
                have taken := readDelimited_size delimited
                have grown := ih _ _ _ _ child
                have attached := Message.footprint_attach_le field merged m body.length
                  (proper type field member) grown
                have later := ih _ _ _ _ success
                rw [kind, Kind.wire] at wires
                rw [← wires] at tag
                omega

/-- The known fields of a parsed message fit in the bytes it was parsed from. -/
theorem parse_footprint {schema : Schema τ} (proper : schema.Proper) {type : τ}
    {input : List UInt8} {result : Message} (success : parse schema type input = some result) :
    result.footprint ≤ input.length := by
  have bound := parseFields_footprint proper _ _ _ _ _ success
  simpa [Message.empty, Message.footprint] using bound

end

end PipeForge.Library.Proto3
