import PipeForge.Library.Proto3

/-!
# Parsing what was serialized

`encode` writes the known fields in field-number order with shortest varints.
`Ordered` says that a message lists fields of its schema in that order, one per
singular field and per oneof; such a message parses back to itself
(`parse_encode`).
-/

namespace PipeForge.Library.Proto3

namespace Message

def encode : Message → List UInt8
  | done _ => []
  | scalar number value rest =>
    Varint.encode (number * 8 + value.type.wire) ++ (value.encode ++ rest.encode)
  | nested number child rest =>
    Varint.encode (number * 8 + 2) ++ (delimited child.encode ++ rest.encode)

/-- Continue a message with further fields. -/
def append : Message → Message → Message
  | done _, later => later
  | scalar number value rest, later => scalar number value (rest.append later)
  | nested number child rest, later => nested number child (rest.append later)

def numbers : Message → List Nat
  | done _ => []
  | scalar number _ rest => number :: rest.numbers
  | nested number _ rest => number :: rest.numbers

end Message

section
variable {τ : Type}

/-- The next field keeps the order and clears nothing listed before. -/
structure FieldDescriptor.Follows (field : FieldDescriptor τ) (seen : List Nat) : Prop where
  positive : 0 < field.number
  small : field.number < 2 ^ 28
  ordered : ∀ number ∈ seen, number ≤ field.number ∧ number ∉ field.clears

instance (field : FieldDescriptor τ) (seen : List Nat) : Decidable (field.Follows seen) :=
  decidable_of_iff (0 < field.number ∧ field.number < 2 ^ 28 ∧
      ∀ number ∈ seen, number ≤ field.number ∧ number ∉ field.clears)
    ⟨fun h => ⟨h.1, h.2.1, h.2.2⟩, fun h => ⟨h.positive, h.small, h.ordered⟩⟩

def Ordered (schema : Schema τ) : τ → List Nat → Message → Prop
  | _, _, .done unknown => unknown = .nil
  | type, seen, .scalar number value rest =>
    (∃ field, schema.find type number value.type.wire = some field ∧
      field.kind = .scalar value.type ∧ ¬ (field.label = .implicit ∧ value.isDefault = true) ∧
      field.Follows seen) ∧ Ordered schema type (number :: seen) rest
  | type, seen, .nested number child rest =>
    (∃ field inner, schema.find type number 2 = some field ∧ field.kind = .message inner ∧
      field.Follows seen ∧ Ordered schema inner [] child) ∧
    Ordered schema type (number :: seen) rest

/-! ## Lengths -/

theorem tag_lt {number wire : Nat} (small : number < 2 ^ 28) (legal : wire < 8) :
    number * 8 + wire < 2 ^ 32 := by omega

theorem Scalar.encodable_of_size {value : Scalar} (fits : value.byteSize < 2 ^ 64) :
    value.Encodable := by
  cases value with
  | text bytes =>
    simp only [Scalar.byteSize] at fits
    exact Nat.lt_of_le_of_lt (Nat.le_add_left _ _) fits
  | _ => trivial

/-- An encoded message is as long as computed beforehand. -/
theorem Message.length_encode {schema : Schema τ} (m : Message) (type : τ) (seen : List Nat)
    (ordered : Ordered schema type seen m) (fits : m.byteSize < 2 ^ 64) :
    m.encode.length = m.byteSize := by
  induction m generalizing type seen with
  | done unknown =>
    simp only [Ordered] at ordered
    subst ordered
    rfl
  | scalar number value rest ih =>
    obtain ⟨⟨field, found, -, -, follows⟩, later⟩ := ordered
    obtain ⟨-, rfl, -⟩ := Schema.find_spec found
    simp only [Message.byteSize] at fits
    have tag : field.number * 8 + value.type.wire < 2 ^ 64 :=
      Nat.lt_trans (tag_lt follows.small value.type.wire_lt) (by decide)
    have encodable : value.Encodable := Scalar.encodable_of_size (by omega)
    simp only [Message.encode, Message.byteSize, List.length_append, Varint.length_encode tag,
      Scalar.length_encode encodable, ih _ _ later (by omega), tagSize]
    omega
  | nested number child rest childIh ih =>
    obtain ⟨⟨field, inner, found, -, follows, childOrdered⟩, later⟩ := ordered
    obtain ⟨-, rfl, -⟩ := Schema.find_spec found
    simp only [Message.byteSize] at fits
    have tag : field.number * 8 + 2 < 2 ^ 64 :=
      Nat.lt_trans (tag_lt follows.small (by decide)) (by decide)
    have childLength := childIh _ _ childOrdered (by omega)
    have bounded : child.encode.length < 2 ^ 64 := by omega
    simp only [Message.encode, Message.byteSize, List.length_append, Varint.length_encode tag,
      length_delimited bounded, childLength, ih _ _ later (by omega), tagSize]
    omega

/-! ## Appending at the end -/

namespace Message

theorem append_assoc (front middle back : Message) :
    (front.append middle).append back = front.append (middle.append back) := by
  induction front with
  | done unknown => rfl
  | scalar number value rest ih => simp only [append, ih]
  | nested number child rest _ ih => simp only [append, ih]

theorem append_done {front : Message} (plain : front.unknown = .nil) :
    front.append (.done .nil) = front := by
  induction front with
  | done unknown =>
    simp only [Message.unknown] at plain
    rw [append, plain]
  | scalar number value rest ih => simp only [append, ih plain]
  | nested number child rest _ ih => simp only [append, ih plain]

theorem unknown_append (front back : Message) : (front.append back).unknown = back.unknown := by
  induction front with
  | done unknown => rfl
  | scalar number value rest ih => exact ih
  | nested number child rest _ ih => exact ih

theorem numbers_append (front back : Message) :
    (front.append back).numbers = front.numbers ++ back.numbers := by
  induction front with
  | done unknown => rfl
  | scalar number value rest ih => simp only [append, numbers, ih, List.cons_append]
  | nested number child rest _ ih => simp only [append, numbers, ih, List.cons_append]

/-- Removing fields that are not there changes nothing. -/
theorem remove_absent (cleared : List Nat) (m : Message)
    (absent : ∀ number ∈ m.numbers, number ∉ cleared) : m.remove cleared = m := by
  induction m with
  | done unknown => rfl
  | scalar number value rest ih =>
    rw [remove, if_neg (absent number (by simp [numbers]))]
    rw [ih fun other member => absent other (by simp [numbers, member])]
  | nested number child rest _ ih =>
    rw [remove, if_neg (absent number (by simp [numbers]))]
    rw [ih fun other member => absent other (by simp [numbers, member])]

/-- A field behind all others is placed at the end. -/
theorem place_last (number : Nat) (entry : Message → Message) (m : Message)
    (plain : m.unknown = .nil) (order : ∀ other ∈ m.numbers, other ≤ number) :
    m.place number entry = m.append (entry empty) := by
  induction m with
  | done unknown =>
    simp only [Message.unknown] at plain
    rw [place, append, plain]
    rfl
  | scalar other value rest ih =>
    rw [place, if_pos (order other (by simp [numbers])), append]
    rw [ih plain fun number member => order number (by simp [numbers, member])]
  | nested other child rest _ ih =>
    rw [place, if_pos (order other (by simp [numbers])), append]
    rw [ih plain fun number member => order number (by simp [numbers, member])]

theorem child_absent (number : Nat) (m : Message) (absent : number ∉ m.numbers) :
    m.child number = empty := by
  induction m with
  | done unknown => rfl
  | scalar other value rest ih =>
    exact ih fun member => absent (by simp [numbers, member])
  | nested other inner rest _ ih =>
    have different : other ≠ number := by
      rintro rfl
      exact absent (by simp [numbers])
    rw [child, if_neg different]
    exact ih fun member => absent (by simp [numbers, member])

end Message

theorem readTag_encode {number wire : Nat} (positive : 0 < number) (small : number < 2 ^ 28)
    (legal : wire < 8) (rest : List UInt8) :
    readTag (Varint.encode (number * 8 + wire) ++ rest) = some (number, wire, rest) := by
  have tag := tag_lt small legal
  have quotient : (number * 8 + wire) / 8 = number := by omega
  have remainder : (number * 8 + wire) % 8 = wire := by omega
  rw [readTag, Varint.read_encode (Nat.lt_trans tag (by decide))]
  simp only [Nat.mod_eq_of_lt tag, quotient, remainder]
  rw [if_neg (by omega)]

/-- Folding `parseFields` once: a nonempty input starts with a tag. -/
theorem parseFields_record (schema : Schema τ) (fuel : Nat) (type : τ) (m : Message)
    {number wire : Nat} (positive : 0 < number) (small : number < 2 ^ 28) (legal : wire < 8)
    (rest : List UInt8) {field : FieldDescriptor τ}
    (found : schema.find type number wire = some field) :
    parseFields schema (fuel + 1) type m (Varint.encode (number * 8 + wire) ++ rest) =
      match field.kind with
      | .scalar scalarType =>
        match readScalar scalarType rest with
        | none => none
        | some (value, rest) => parseFields schema fuel type (m.store field value) rest
      | .message inner =>
        match readDelimited rest with
        | none => none
        | some (body, rest) =>
          match parseFields schema fuel inner (m.initial field) body with
          | none => none
          | some merged => parseFields schema fuel type (m.attach field merged) rest := by
  have tag := readTag_encode positive small legal rest
  cases input : Varint.encode (number * 8 + wire) ++ rest with
  | nil =>
    rw [input] at tag
    cases tag
  | cons b bytes =>
    rw [input] at tag
    rw [parseFields, tag]
    dsimp only
    generalize schema.find type number wire = entry at found
    subst found
    rfl

/-- Nothing listed so far is cleared, so the next field lands behind it all. -/
theorem FieldDescriptor.Follows.place {field : FieldDescriptor τ} {front : Message}
    (follows : field.Follows front.numbers.reverse) (plain : front.unknown = .nil)
    (entry : Message → Message) :
    (front.remove field.clears).place field.number entry = front.append (entry .empty) := by
  have listed : ∀ other ∈ front.numbers, other ≤ field.number ∧ other ∉ field.clears :=
    fun other member => follows.ordered other (List.mem_reverse.mpr member)
  rw [Message.remove_absent _ _ fun other member => (listed other member).2]
  exact Message.place_last _ _ _ plain fun other member => (listed other member).1

/-- An embedded message in order starts from the empty one: a singular field is new. -/
theorem FieldDescriptor.Follows.initial {field : FieldDescriptor τ} {front : Message}
    (follows : field.Follows front.numbers.reverse)
    (proper : field.label = .repeated ∨ field.number ∈ field.clears) :
    front.initial field = .empty := by
  rw [Message.initial]
  split
  · rfl
  · rename_i singular
    apply Message.child_absent
    intro listed
    rcases proper with repeated | cleared
    · exact singular repeated
    · exact (follows.ordered field.number (List.mem_reverse.mpr listed)).2 cleared

/-- Parsing what was encoded appends it to what was parsed before; the induction is on the
message, with the fields seen so far as its accumulator. -/
theorem parseFields_encode {schema : Schema τ} (proper : schema.Proper) (m : Message) (type : τ)
    (front : Message) (ordered : Ordered schema type front.numbers.reverse m)
    (plain : front.unknown = .nil) (fits : m.byteSize < 2 ^ 64) (fuel : Nat)
    (enough : m.byteSize < fuel) :
    parseFields schema fuel type front m.encode = some (front.append m) := by
  induction m generalizing type front fuel with
  | done unknown =>
    simp only [Ordered] at ordered
    subst ordered
    obtain ⟨fuel, rfl⟩ := Nat.exists_eq_add_of_lt enough
    rw [Message.append_done plain]
    simp only [Message.encode, parseFields]
  | scalar number value rest ih =>
    obtain ⟨⟨field, found, kind, kept, follows⟩, later⟩ := ordered
    obtain ⟨-, rfl, -⟩ := Schema.find_spec found
    simp only [Message.byteSize] at fits enough
    have encodable : value.Encodable := Scalar.encodable_of_size (by omega)
    have sizes := Varint.size_pos (field.number * 8 + value.type.wire)
    cases fuel with
    | zero => omega
    | succ fuel =>
      rw [Message.encode, parseFields_record schema fuel type front follows.positive follows.small
        value.type.wire_lt _ found, kind]
      simp only [readScalar_encode encodable]
      rw [Message.store, if_neg kept, follows.place plain]
      rw [ih type _ ?_ ?_ (by omega) fuel (by unfold tagSize at enough; omega)]
      · rw [Message.append_assoc]
        rfl
      · simpa [Message.numbers_append, Message.numbers, Message.empty] using later
      · rw [Message.unknown_append]
        rfl
  | nested number child rest childIh ih =>
    obtain ⟨⟨field, inner, found, kind, follows, childOrdered⟩, later⟩ := ordered
    obtain ⟨member, rfl, -⟩ := Schema.find_spec found
    have childLength := Message.length_encode child inner [] childOrdered
    simp only [Message.byteSize] at fits enough
    have bounded : child.encode.length < 2 ^ 64 := by
      rw [childLength (by omega)]
      omega
    have sizes := Varint.size_pos (field.number * 8 + 2)
    cases fuel with
    | zero => omega
    | succ fuel =>
      rw [Message.encode, parseFields_record schema fuel type front follows.positive follows.small
        (by decide) _ found, kind]
      simp only [readDelimited_delimited bounded]
      have parsed := childIh inner .empty childOrdered rfl (by omega) fuel
        (by unfold tagSize at enough; omega)
      have merged : Message.empty.append child = child := rfl
      rw [merged] at parsed
      simp only [follows.initial (proper type field member), parsed]
      rw [Message.attach, follows.place plain]
      rw [ih type _ ?_ ?_ (by omega) fuel (by unfold tagSize at enough; omega)]
      · rw [Message.append_assoc]
        rfl
      · simpa [Message.numbers_append, Message.numbers, Message.empty] using later
      · rw [Message.unknown_append]
        rfl

/-- An ordered message parses back to itself. -/
theorem parse_encode {schema : Schema τ} (proper : schema.Proper) {type : τ} {m : Message}
    (ordered : Ordered schema type [] m) (fits : m.byteSize < 2 ^ 64) :
    parse schema type m.encode = some m := by
  rw [parse, Message.length_encode m type [] ordered fits]
  exact parseFields_encode proper m type .empty ordered rfl fits _ (Nat.lt_succ_self _)

/-! ## Ordered listings -/

/-- Fewer fields listed before leave the order intact. -/
theorem Ordered.weaken {schema : Schema τ} {type : τ} {seen fewer : List Nat} {m : Message}
    (ordered : Ordered schema type seen m) (subset : fewer ⊆ seen) :
    Ordered schema type fewer m := by
  induction m generalizing seen fewer with
  | done unknown => exact ordered
  | scalar number value rest ih =>
    obtain ⟨⟨field, found, kind, kept, follows⟩, later⟩ := ordered
    refine ⟨⟨field, found, kind, kept, follows.positive, follows.small, ?_⟩, ?_⟩
    · exact fun other member => follows.ordered other (subset member)
    · exact ih later (List.cons_subset_cons number subset)
  | nested number child rest _ ih =>
    obtain ⟨⟨field, inner, found, kind, follows, childOrdered⟩, later⟩ := ordered
    refine ⟨⟨field, inner, found, kind, ⟨follows.positive, follows.small, ?_⟩, childOrdered⟩, ?_⟩
    · exact fun other member => follows.ordered other (subset member)
    · exact ih later (List.cons_subset_cons number subset)

/-- A default that is not written leaves no gap in the order. -/
theorem ordered_implicit {schema : Schema τ} {type : τ} {seen : List Nat} {number : Nat}
    {value : Scalar} {rest : Message} {field : FieldDescriptor τ}
    (found : schema.find type number value.type.wire = some field)
    (kind : field.kind = .scalar value.type) (follows : field.Follows seen)
    (later : Ordered schema type (number :: seen) rest) :
    Ordered schema type seen (.implicit number value rest) := by
  unfold Message.implicit
  split
  · exact later.weaken (List.subset_cons_self number seen)
  · rename_i nonzero
    exact ⟨⟨field, found, kind, fun default => nonzero default.2, follows⟩, later⟩

/-- A field with explicit presence may hold its default value. -/
theorem ordered_scalar {schema : Schema τ} {type : τ} {seen : List Nat} {number : Nat}
    {value : Scalar} {rest : Message} {field : FieldDescriptor τ}
    (found : schema.find type number value.type.wire = some field)
    (kind : field.kind = .scalar value.type) (label : field.label ≠ .implicit)
    (follows : field.Follows seen) (later : Ordered schema type (number :: seen) rest) :
    Ordered schema type seen (.scalar number value rest) :=
  ⟨⟨field, found, kind, fun default => label default.1, follows⟩, later⟩

theorem ordered_optional {schema : Schema τ} {type : τ} {seen : List Nat} {number : Nat}
    {value : Option Scalar} {rest : Message} {field : FieldDescriptor τ} (scalarType : ScalarType)
    (typed : ∀ present ∈ value, present.type = scalarType)
    (found : schema.find type number scalarType.wire = some field)
    (kind : field.kind = .scalar scalarType) (label : field.label ≠ .implicit)
    (follows : field.Follows seen) (later : Ordered schema type (number :: seen) rest) :
    Ordered schema type seen (.optional number value rest) := by
  cases value with
  | none => exact later.weaken (List.subset_cons_self number seen)
  | some present =>
    have same := typed present rfl
    subst same
    exact ordered_scalar found kind label follows later

theorem ordered_submessage {schema : Schema τ} {type inner : τ} {seen : List Nat} {number : Nat}
    {child : Option Message} {rest : Message} {field : FieldDescriptor τ}
    (found : schema.find type number 2 = some field) (kind : field.kind = .message inner)
    (follows : field.Follows seen) (children : ∀ present ∈ child, Ordered schema inner [] present)
    (later : Ordered schema type (number :: seen) rest) :
    Ordered schema type seen (.submessage number child rest) := by
  cases child with
  | none => exact later.weaken (List.subset_cons_self number seen)
  | some present => exact ⟨⟨field, inner, found, kind, follows, children present rfl⟩, later⟩

theorem follows_again {field : FieldDescriptor τ} {seen : List Nat}
    (repeated : field.label = .repeated) (follows : field.Follows seen) :
    field.Follows (field.number :: seen) := by
  refine ⟨follows.positive, follows.small, ?_⟩
  intro number member
  rcases List.mem_cons.mp member with rfl | old
  · simp [FieldDescriptor.clears, repeated]
  · exact follows.ordered number old

theorem ordered_repeatedScalar {schema : Schema τ} {type : τ} {number : Nat}
    {values : List Scalar} {rest : Message} {field : FieldDescriptor τ} (scalarType : ScalarType)
    (typed : ∀ value ∈ values, value.type = scalarType)
    (found : schema.find type number scalarType.wire = some field)
    (kind : field.kind = .scalar scalarType) (repeated : field.label = .repeated)
    {seen : List Nat} (follows : field.Follows seen)
    (later : Ordered schema type (number :: seen) rest) :
    Ordered schema type seen (.repeatedScalar number values rest) := by
  have same := (Schema.find_spec found).2.1
  induction values generalizing seen with
  | nil => exact later.weaken (List.subset_cons_self number seen)
  | cons value values ih =>
    have first := typed value (by simp)
    refine ⟨⟨field, by rw [first]; exact found, by rw [first]; exact kind, ?_, follows⟩, ?_⟩
    · rintro ⟨implicit, -⟩
      rw [repeated] at implicit
      cases implicit
    · apply ih (fun other member => typed other (by simp [member]))
      · rw [← same]
        exact follows_again repeated follows
      · exact later.weaken (by simp)

/-- The elements of a repeated field stand one behind the other. -/
theorem ordered_repeatedMessage {schema : Schema τ} {type inner : τ} {number : Nat}
    {children : List Message} {rest : Message} {field : FieldDescriptor τ}
    (found : schema.find type number 2 = some field) (kind : field.kind = .message inner)
    (repeated : field.label = .repeated)
    (each : ∀ child ∈ children, Ordered schema inner [] child)
    {seen : List Nat} (follows : field.Follows seen)
    (later : Ordered schema type (number :: seen) rest) :
    Ordered schema type seen (.repeatedMessage number children rest) := by
  have same := (Schema.find_spec found).2.1
  induction children generalizing seen with
  | nil => exact later.weaken (List.subset_cons_self number seen)
  | cons child children ih =>
    refine ⟨⟨field, inner, found, kind, follows, each child (by simp)⟩, ?_⟩
    apply ih (fun other member => each other (by simp [member]))
    · rw [← same]
      exact follows_again repeated follows
    · exact later.weaken (by simp)

end

end PipeForge.Library.Proto3
