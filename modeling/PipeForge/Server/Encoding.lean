import PipeForge.Domain.Outcomes
import PipeForge.Library.Proto3Size
import PipeForge.Protocol.Encodable

/-!
# Every sound outcome can be encoded

The store limits what it returns by logical charges, the codec by nodes, entries,
strings and payload bytes. `Fits` bounds the codec's three measures of a message
at once and composes over the fields of a record, so each outcome is reduced to
a comparison with the store's own charge: a record of a page or of a state costs
the codec less than the 128 bytes charged for it.
-/

namespace PipeForge.Server
open Contracts Library Proto3 Protocol Domain

/-! ## Measures of a message -/

structure Fits (m : Message) (nodes weight : Nat) : Prop where
  runs : shortRuns m
  texts : m.allScalars validString = true
  nodes : m.nodes ≤ nodes
  weight : m.weight ≤ weight

namespace Fits

theorem mono {m : Message} {nodes weight nodes' weight' : Nat} (fits : Fits m nodes weight)
    (moreNodes : nodes ≤ nodes') (moreWeight : weight ≤ weight') : Fits m nodes' weight' :=
  ⟨fits.runs, fits.texts, Nat.le_trans fits.nodes moreNodes, Nat.le_trans fits.weight moreWeight⟩

theorem done : Fits (.done .nil) 1 0 :=
  ⟨trivial, rfl, Nat.le_refl 1, Nat.le_refl 0⟩

section
variable (number : Nat) {nodes weight : Nat} {rest : Message} (field : number < 2048)
  (alone : runLength number rest = 0)
include field alone

/-- An implicit field costs its tag and its weight, if it is written at all. -/
theorem implicit (value : Scalar) (valid : validString value = true)
    (later : Fits rest nodes weight) :
    Fits (.implicit number value rest) nodes (2 + value.weight + weight) where
  runs := (shortRuns_implicit alone).mpr later.runs
  texts := by rw [Message.allScalars_implicit, valid, later.texts, Bool.or_true, Bool.and_self]
  nodes := by
    rw [Message.nodes_implicit]
    exact later.nodes
  weight := by
    have listed := Message.weight_implicit_le field value rest
    have tail := later.weight
    omega

theorem optional (value : Scalar) (valid : validString value = true)
    (later : Fits rest nodes weight) :
    Fits (.optional number (some value) rest) nodes (2 + value.weight + weight) where
  runs := (shortRuns_optional alone).mpr later.runs
  texts := by rw [Message.allScalars_optional, Option.all_some, valid, later.texts, Bool.and_self]
  nodes := by
    rw [Message.nodes_optional]
    exact later.nodes
  weight := by
    have listed := Message.weight_optional_le field (some value) rest
    have tail := later.weight
    rw [Option.elim_some] at listed
    omega

/-- A nested message costs its own nodes and weight, and a tag with a length. -/
theorem nested {child : Message} {childNodes childWeight : Nat}
    (inner : Fits child childNodes childWeight) (later : Fits rest nodes weight) :
    Fits (.nested number child rest) (childNodes + nodes) (6 + childWeight + weight) where
  runs := (shortRuns_nested alone).mpr ⟨inner.runs, later.runs⟩
  texts := by rw [Message.allScalars, inner.texts, later.texts, Bool.and_self]
  nodes := Nat.add_le_add inner.nodes later.nodes
  weight := by
    have listed := Message.weight_nested_le field child rest
    have first := inner.weight
    have tail := later.weight
    omega

/-- A run of scalars costs no node; each element is bounded on its own. -/
theorem repeatedScalar {values : List Scalar} {each : Nat} (few : values.length ≤ maxEntries)
    (valid : ∀ value ∈ values, validString value = true)
    (light : ∀ value ∈ values, 2 + value.weight ≤ each) (later : Fits rest nodes weight) :
    Fits (.repeatedScalar number values rest) nodes (values.length * each + weight) where
  runs := (shortRuns_repeatedScalar alone).mpr ⟨few, later.runs⟩
  texts := by
    rw [Message.allScalars_repeatedScalar, List.all_eq_true.mpr valid, later.texts, Bool.and_self]
  nodes := by
    rw [Message.nodes_repeatedScalar]
    exact later.nodes
  weight := by
    have listed := Message.weight_repeatedScalar_le field values rest
    have total := List.sum_le_card_nsmul (values.map fun value => 2 + value.weight) each (by
      intro cost member
      obtain ⟨value, present, rfl⟩ := List.mem_map.mp member
      exact light value present)
    have tail := later.weight
    rw [List.length_map, smul_eq_mul] at total
    omega

/-- A run of messages adds up what its elements cost. -/
theorem repeatedMessage {α : Type} {reflect : α → Message} {list : List α}
    {nodesOf weightOf : α → Nat} (few : list.length ≤ maxEntries)
    (each : ∀ a ∈ list, Fits (reflect a) (nodesOf a) (weightOf a))
    (later : Fits rest nodes weight) :
    Fits (.repeatedMessage number (list.map reflect) rest) ((list.map nodesOf).sum + nodes)
      ((list.map fun a => 6 + weightOf a).sum + weight) where
  runs := by
    refine (shortRuns_repeatedMessage alone).mpr ⟨by simpa using few, ?_, later.runs⟩
    intro child member
    obtain ⟨a, present, rfl⟩ := List.mem_map.mp member
    exact (each a present).runs
  texts := by
    rw [Message.allScalars_repeatedMessage, later.texts, Bool.and_true, List.all_eq_true]
    intro child member
    obtain ⟨a, present, rfl⟩ := List.mem_map.mp member
    exact (each a present).texts
  nodes := by
    rw [Message.nodes_repeatedMessage, List.map_map]
    refine Nat.add_le_add (List.sum_le_sum ?_) later.nodes
    exact fun a present => (each a present).nodes
  weight := by
    have listed := Message.weight_repeatedMessage_le field (list.map reflect) rest
    have total : ((list.map reflect).map fun child => 6 + child.weight).sum ≤
        (list.map fun a => 6 + weightOf a).sum := by
      rw [List.map_map]
      exact List.sum_le_sum fun a present => Nat.add_le_add_left (each a present).weight 6
    have tail := later.weight
    omega

end

end Fits

/-! ## Strings -/

theorem weight_name {name : Bytes} {allowEmpty : Bool} (valid : validName name allowEmpty = true) :
    2 + (Scalar.text name).weight ≤ 134 := by
  have short := validName_cons_length valid
  rw [maxNameBytes] at short
  rw [Scalar.weight]
  omega

/-! ## Values and lists of values -/

theorem scalar_fits (number : Nat) (field : number < 2048) (value : Scalar)
    (valid : validString value = true) :
    Fits (.scalar number value (.done .nil)) 1 (2 + value.weight + 0) :=
  Fits.optional number field rfl value valid Fits.done

/-- A value costs the codec little more than the store charges for it. -/
theorem value_fits {data : Value} (valid : validValue data = true) :
    Fits (writeValue data).reflect 1 (valueBytes data + 6) := by
  cases data with
  | text bytes =>
    simp only [validValue, Bool.and_eq_true, decide_eq_true_eq] at valid
    refine (scalar_fits 1 (by decide) _ ((validString_text bytes).mpr valid)).mono
      (Nat.le_refl 1) ?_
    rw [Scalar.weight, valueBytes]
    omega
  | integer n =>
    exact (scalar_fits 2 (by decide) _ rfl).mono (Nat.le_refl 1) (show 12 ≤ 14 by decide)
  | real bits =>
    exact (scalar_fits 3 (by decide) _ rfl).mono (Nat.le_refl 1) (show 12 ≤ 14 by decide)

/-- An embedded value as the last field of a record. -/
theorem embedded_fits {data : Value} (valid : validValue data = true) :
    Fits (.submessage 2 (some (writeValue data).reflect) (.done .nil)) 2
      (6 + (valueBytes data + 6) + 0) :=
  Fits.nested 2 (by decide) rfl (value_fits valid) Fits.done

theorem record_fits {record : ValueRecord} (valid : validValue record.data = true) :
    Fits (writeRecord record).reflect 2 (2 + 10 + (6 + (valueBytes record.data + 6) + 0)) :=
  Fits.implicit 1 (by decide) (runLength_nested (by decide)) (.uint64 record.id) rfl
    (embedded_fits valid)

theorem named_fits {entry : NamedValue} (named : validName entry.name false = true)
    (valid : validValue entry.data = true) :
    Fits (Pb.NamedValue.reflect { name := entry.name, value := some (writeValue entry.data) }) 2
      (2 + (4 + entry.name.length) + (6 + (valueBytes entry.data + 6) + 0)) :=
  Fits.implicit 1 (by decide) (runLength_nested (by decide)) (.text entry.name)
    (validString_name named) (embedded_fits valid)

/-- The record charge covers what a state entry costs on the wire. -/
theorem state_fits (number : Nat) (field : number < 2048) {state : List NamedValue}
    (valid : validNamedValues state = true) :
    Fits (.repeatedMessage number ((writeNamed state).map Pb.NamedValue.reflect) (.done .nil))
      (2 * maxEntries + 1) (stateCharge state) := by
  obtain ⟨few, names, values⟩ := (validNamedValues_iff state).mp valid
  have named := ((validNames_iff _).mp names).1
  rw [writeNamed, List.map_map]
  have listed := Fits.repeatedMessage number field rfl few (fun entry member =>
    named_fits (named _ (List.mem_map_of_mem member)) (values entry member)) Fits.done
  refine listed.mono ?_ ?_
  · have total := List.sum_le_card_nsmul (state.map fun _ => 2) 2 (by simp)
    rw [List.length_map, smul_eq_mul] at total
    omega
  · rw [Nat.add_zero, stateCharge]
    apply List.sum_le_sum
    intro entry _
    rw [recordCharge]
    omega

/-! ## Descriptions -/

theorem parameter_fits {parameter : Parameter} (named : validName parameter.name false = true) :
    Fits (Pb.Parameter.reflect { name := parameter.name, kind := writeKind parameter.kind }) 1
      146 := by
  have kind := Fits.implicit 2 (by decide) rfl (.enum (writeKind parameter.kind)) rfl Fits.done
  have whole := Fits.implicit 1 (by decide) (runLength_implicit (by decide) rfl)
    (.text parameter.name) (validString_name named) kind
  have light := weight_name named
  exact whole.mono (Nat.le_refl 1) (Nat.add_le_add light (show 12 ≤ 12 by decide))

/-- A list of parameters costs the same for each of them. -/
theorem parameters_fits (number : Nat) (field : number < 2048) {rest : Message}
    {nodes weight : Nat} (alone : runLength number rest = 0) {parameters : List Parameter}
    (valid : validParameters parameters = true) (later : Fits rest nodes weight) :
    Fits (.repeatedMessage number ((writeParameters parameters).map Pb.Parameter.reflect) rest)
      (parameters.length + nodes) (152 * parameters.length + weight) := by
  obtain ⟨few, names, -⟩ := (validParameters_iff parameters).mp valid
  have named := ((validNames_iff _).mp names).1
  rw [writeParameters, List.map_map]
  have listed := Fits.repeatedMessage number field alone few (fun parameter member =>
    parameter_fits (named _ (List.mem_map_of_mem member))) later
  refine listed.mono ?_ ?_
  · simp
  · simp [Nat.mul_comm]

theorem attribute_fits {field : Attribute} (named : validName field.name false = true) :
    Fits (Pb.Attribute.reflect
      { name := field.name, kind := writeKind field.kind, readOnly := field.readOnly }) 1 158 := by
  have flag := Fits.implicit 3 (by decide) rfl (.bool field.readOnly) rfl Fits.done
  have kind := Fits.implicit 2 (by decide) (runLength_implicit (by decide) rfl)
    (.enum (writeKind field.kind)) rfl flag
  have whole := Fits.implicit 1 (by decide)
    (runLength_implicit (by decide) (runLength_implicit (by decide) rfl))
    (.text field.name) (validString_name named) kind
  have light := weight_name named
  exact whole.mono (Nat.le_refl 1) (Nat.add_le_add light (show 24 ≤ 24 by decide))

/-- A method costs as much as its parameters and one more. -/
theorem method_fits {method : Method} (named : validName method.name false = true)
    (valid : validParameters method.parameters = true) :
    Fits (Pb.Method.reflect
      { name := method.name
        resultKind := writeKind method.resultKind
        parameters := writeParameters method.parameters })
      (method.parameters.length + 1) (146 + 152 * method.parameters.length) := by
  have kind := Fits.implicit 3 (by decide) rfl (.enum (writeKind method.resultKind)) rfl Fits.done
  have listed := parameters_fits 2 (by decide) (runLength_implicit (by decide) rfl) valid kind
  have whole := Fits.implicit 1 (by decide)
    (runLength_repeatedMessage (by decide) (runLength_implicit (by decide) rfl))
    (.text method.name) (validString_name named) listed
  have light := weight_name named
  have kindWeight : (Scalar.enum (writeKind method.resultKind)).weight = 10 := rfl
  exact whole.mono (Nat.le_refl _) (by omega)

/-- Summed over a class, methods and their parameters are charged alike. -/
theorem methods_total (methods : List Method) :
    (methods.map fun method => method.parameters.length + 1).sum =
      (methods.map fun method => method.parameters.length).sum + methods.length ∧
    (methods.map fun method => 6 + (146 + 152 * method.parameters.length)).sum =
      152 * ((methods.map fun method => method.parameters.length).sum + methods.length) := by
  induction methods with
  | nil => exact ⟨rfl, rfl⟩
  | cons method rest ih =>
    simp only [List.map_cons, List.sum_cons, List.length_cons]
    omega

/-- Nodes as counted at registration, and a bounded size for each of them. -/
theorem description_fits {description : ClassDescription}
    (valid : validDescription description = true) :
    Fits (writeDescription description).reflect (descriptionNodes description)
      (164 * descriptionNodes description) := by
  have checks := (validDescription_iff description).mp valid
  have attributeNames := ((validNames_iff _).mp checks.attributeNames).1
  have methodNames := ((validNames_iff _).mp checks.methodNames).1
  have constructors := parameters_fits 4 (by decide) rfl checks.constructors Fits.done
  have methods := Fits.repeatedMessage 3 (by decide)
    (runLength_repeatedMessage (by decide) rfl) checks.methods (fun method member =>
      method_fits (methodNames _ (List.mem_map_of_mem member)) (checks.parameters method member))
    constructors
  have attributes := Fits.repeatedMessage 2 (by decide)
    (runLength_repeatedMessage (by decide) (runLength_repeatedMessage (by decide) rfl))
    checks.attributes (fun field member =>
      attribute_fits (attributeNames _ (List.mem_map_of_mem member))) methods
  have whole := Fits.implicit 1 (by decide)
    (runLength_repeatedMessage (by decide)
      (runLength_repeatedMessage (by decide) (runLength_repeatedMessage (by decide) rfl)))
    (.text description.name) (validString_name checks.name) attributes
  have light := weight_name checks.name
  obtain ⟨nodes, weight⟩ := methods_total description.methods
  have listed : (description.attributes.map fun _ => 1).sum = description.attributes.length ∧
      (description.attributes.map fun _ => 6 + 158).sum = 164 * description.attributes.length := by
    simp [Nat.mul_comm]
  rw [writeDescription, Pb.ClassDescription.reflect, List.map_map, List.map_map]
  refine whole.mono ?_ ?_
  · rw [descriptionNodes]
    omega
  · rw [descriptionNodes]
    omega

/-! ## Outcomes -/

/-- A page of class names is bounded by its entries. -/
theorem classes_fits {page : ClassesPage} (sound : SoundClasses page) :
    Fits (Pb.ClassesPage.reflect { names := page.names, next := page.next }) 1
      (maxEntries * 134 + 134) := by
  have cursor : validName page.next true = true := by
    rcases sound.cursor with none | last
    · rw [none]
      rfl
    · exact validName_of_strict (sound.valid _ (List.mem_of_getLast? last))
  have next := Fits.implicit 2 (by decide) rfl (.text page.next) (validString_name cursor) Fits.done
  have whole := Fits.repeatedScalar 1 (by decide) (runLength_implicit (by decide) rfl)
    (by simpa using sound.few : (page.names.map Scalar.text).length ≤ maxEntries)
    (by
      intro value member
      obtain ⟨name, listed, rfl⟩ := List.mem_map.mp member
      exact validString_name (sound.valid name listed))
    (by
      intro value member
      obtain ⟨name, listed, rfl⟩ := List.mem_map.mp member
      exact weight_name (sound.valid name listed)) next
  have light := weight_name cursor
  refine whole.mono (Nat.le_refl 1) (Nat.add_le_add ?_ light)
  rw [List.length_map]
  exact Nat.mul_le_mul_right 134 sound.few

/-- The record charge covers what a page entry costs on the wire. -/
theorem values_fits {page : ValuesPage} (sound : SoundPage page) :
    Fits (Pb.ValuesPage.reflect { values := page.values.map writeRecord, next := page.next })
      (2 * maxEntries + 1) (pageByteBudget + 12) := by
  have next := Fits.implicit 2 (by decide) rfl (.uint64 page.next) rfl Fits.done
  have whole := Fits.repeatedMessage 1 (by decide) (runLength_implicit (by decide) rfl) sound.few
    (fun record member => record_fits (sound.valid record member)) next
  rw [Pb.ValuesPage.reflect, List.map_map]
  refine whole.mono ?_ (Nat.add_le_add ?_ (Nat.le_refl 12))
  · have few := sound.few
    have total := List.sum_le_card_nsmul (page.values.map fun _ => 2) 2 (by simp)
    rw [List.length_map, smul_eq_mul] at total
    omega
  · refine Nat.le_trans (List.sum_le_sum ?_) sound.charged
    intro record _
    rw [valueCharge, recordCharge]
    omega

/-- A snapshot is bounded by the limit on the state of an object. -/
theorem snapshot_fits {snapshot : ObjectSnapshot} (sound : SoundSnapshot snapshot) :
    Fits (Pb.ObjectSnapshot.reflect
      { id := snapshot.id, className := snapshot.className, state := writeNamed snapshot.state })
      (2 * maxEntries + 1) (12 + (134 + maxObjectStateBytes)) := by
  have state := state_fits 3 (by decide) sound.state
  have className := Fits.implicit 2 (by decide) (runLength_repeatedMessage (by decide) rfl)
    (.text snapshot.className) (validString_name sound.named) state
  have whole := Fits.implicit 1 (by decide)
    (runLength_implicit (by decide) (runLength_repeatedMessage (by decide) rfl))
    (.uint64 snapshot.id) rfl className
  exact whole.mono (Nat.le_refl _)
    (Nat.add_le_add_left (Nat.add_le_add (weight_name sound.named) sound.charged) 12)

theorem error_fits (code : ErrorCode) :
    Fits (Pb.RemoteError.reflect
      { code := Int32.ofNat (makeError code).code.raw.toNat
        message := (makeError code).message }) 1 (18 + maxStringBytes) := by
  obtain ⟨-, short, valid⟩ := makeError_bounded code
  have message := Fits.implicit 2 (by decide) rfl (.text (makeError code).message)
    ((validString_text _).mpr ⟨short, valid⟩) Fits.done
  have whole := Fits.implicit 1 (by decide) (runLength_implicit (by decide) rfl)
    (.enum (Int32.ofNat (makeError code).code.raw.toNat)) rfl message
  have number : (Scalar.enum (Int32.ofNat (makeError code).code.raw.toNat)).weight = 10 := rfl
  refine whole.mono (Nat.le_refl 1) ?_
  rw [number, Scalar.weight]
  omega

/-- The set alternative leaves room for the envelope's own node and fields. -/
theorem outcome_fits {outcome : Outcome} (sound : SoundOutcome outcome) :
    Fits ((writeOutcome outcome).reflect (.done .nil)) maxMessageNodes (maxPayloadBytes - 64) := by
  have member : ∀ (number : Nat) (field : number < 2048) {body : Message} {nodes weight : Nat},
      Fits body nodes weight → nodes < maxMessageNodes → weight ≤ maxPayloadBytes - 70 →
      Fits (.nested number body (.done .nil)) maxMessageNodes (maxPayloadBytes - 64) := by
    intro number field body nodes weight fits few light
    refine (Fits.nested number field rfl fits Fits.done).mono few ?_
    rw [maxPayloadBytes] at light ⊢
    omega
  cases outcome with
  | classes page => exact member 10 (by decide) (classes_fits sound) (by decide) (by decide)
  | description description =>
    have nodes := ((validDescription_iff description).mp sound).nodes
    refine member 11 (by decide) (description_fits sound) nodes ?_
    rw [maxMessageNodes] at nodes
    rw [maxPayloadBytes]
    omega
  | valueRecord record =>
    have short := valueBytes_le sound.2
    refine member 12 (by decide) (record_fits sound.2) (by decide) ?_
    rw [maxStringBytes] at short
    rw [maxPayloadBytes]
    omega
  | values page => exact member 13 (by decide) (values_fits sound) (by decide) (by decide)
  | object snapshot => exact member 14 (by decide) (snapshot_fits sound) (by decide) (by decide)
  | released => exact member 15 (by decide) Fits.done (by decide) (by decide)
  | value data =>
    have short := valueBytes_le sound
    refine member 16 (by decide) (value_fits sound) (by decide) ?_
    rw [maxStringBytes] at short
    rw [maxPayloadBytes]
    omega
  | error error =>
    obtain ⟨code, rfl⟩ := sound
    exact member 17 (by decide) (error_fits code) (by decide) (by decide)

/-! ## The readers' checks -/

theorem finite_valid {data : Value} (valid : validValue data = true) : finite data = true := by
  cases data with
  | real bits => exact valid
  | _ => rfl

/-- Named values the store accepts are read back by the codec. -/
theorem readableNamed_valid {entries : List NamedValue}
    (valid : validNamedValues entries = true) : readableNamed entries = true := by
  obtain ⟨-, names, values⟩ := (validNamedValues_iff entries).mp valid
  rw [readableNamed, names, Bool.and_true, List.all_eq_true]
  exact fun entry member => finite_valid (values entry member)

theorem readableParameters_valid {parameters : List Parameter}
    (valid : validParameters parameters = true) : readableParameters parameters = true := by
  obtain ⟨-, names, kinds⟩ := (validParameters_iff parameters).mp valid
  rw [readableParameters, names, Bool.and_true, List.all_eq_true]
  exact kinds

theorem readableDescription_valid {description : ClassDescription}
    (valid : validDescription description = true) : readableDescription description = true := by
  have checks := (validDescription_iff description).mp valid
  have kinds := List.all_eq_true.mpr checks.attributeKinds
  have methods : description.methods.all readableMethod = true := by
    rw [List.all_eq_true]
    intro method member
    rw [readableMethod, checks.resultKinds method member,
      readableParameters_valid (checks.parameters method member)]
    rfl
  simp only [readableDescription, checks.name, readableParameters_valid checks.constructors, kinds,
    methods, checks.attributeNames, checks.methodNames, Bool.and_self]

/-- An increasing list passes both checks of the codec on order. -/
theorem sorted_increasing {names : List Bytes} (increasing : names.Pairwise (· < ·)) :
    isSorted names = true ∧ adjacentFind names = false := by
  induction names with
  | nil => exact ⟨rfl, rfl⟩
  | cons first rest ih =>
    obtain ⟨above, later⟩ := List.pairwise_cons.mp increasing
    cases rest with
    | nil => exact ⟨rfl, rfl⟩
    | cons second rest =>
      have less : first < second := above second (by simp)
      have order : ¬ second < first := fun greater => List.lt_irrefl _ (List.lt_trans less greater)
      have distinct : first ≠ second := fun same => List.lt_irrefl _ (same ▸ less)
      obtain ⟨sorted, apart⟩ := ih later
      rw [isSorted, adjacentFind, sorted, apart, decide_eq_false order, decide_eq_false distinct]
      exact ⟨rfl, rfl⟩

/-- Increasing identifiers above the cursor are what the codec asks of a page. -/
theorem readableRecords_increasing {records : List ValueRecord} {previous : UInt64}
    (nonzero : ∀ record ∈ records, record.id ≠ 0)
    (valid : ∀ record ∈ records, validValue record.data = true)
    (above : ∀ record ∈ records, previous < record.id)
    (increasing : records.Pairwise (fun a b => a.id < b.id)) :
    readableRecords previous records = true := by
  induction records generalizing previous with
  | nil => rfl
  | cons record rest ih =>
    obtain ⟨higher, later⟩ := List.pairwise_cons.mp increasing
    have tail := ih (fun other member => nonzero other (List.mem_cons_of_mem _ member))
      (fun other member => valid other (List.mem_cons_of_mem _ member)) higher later
    rw [readableRecords, readableRecord, tail, finite_valid (valid record (by simp)),
      decide_eq_true (nonzero record (by simp)), decide_eq_true (above record (by simp))]
    rfl

theorem lastId_eq (previous : UInt64) (records : List ValueRecord) :
    lastId previous records = ((records.getLast?).map (·.id)).getD previous := by
  induction records generalizing previous with
  | nil => rfl
  | cons record rest ih =>
    rw [lastId, ih, List.getLast?_cons]
    cases rest.getLast? <;> rfl

/-- A page of the store is readable: its next cursor is its last identifier or zero. -/
theorem readableValues_sound {page : ValuesPage} (sound : SoundPage page) :
    readableValues page = true := by
  have positive : ∀ record ∈ page.values, 0 < record.id := fun record member =>
    UInt64.pos_iff_ne_zero.mpr (sound.nonzero record member)
  have records := readableRecords_increasing sound.nonzero sound.valid positive sound.increasing
  rw [readableValues, records, Bool.true_and, Bool.or_eq_true, decide_eq_true_eq]
  rcases sound.cursor with none | last
  · exact Or.inl none
  · right
    have present : page.values ≠ [] := by
      intro empty
      rw [empty] at last
      cases last
    rw [lastId_eq, last]
    simpa using present

theorem readableClasses_sound {page : ClassesPage} (sound : SoundClasses page) :
    readableClasses page = true := by
  obtain ⟨sorted, distinct⟩ := sorted_increasing sound.increasing
  rw [readableClasses, List.all_eq_true.mpr sound.valid, sorted, distinct, Bool.and_eq_true,
    Bool.or_eq_true, decide_eq_true_eq]
  refine ⟨rfl, ?_⟩
  rcases sound.cursor with none | last
  · exact Or.inl (by rw [none]; rfl)
  · exact Or.inr last

/-- Every outcome of the store is readable by the client. -/
theorem readableOutcome_sound {outcome : Outcome} (sound : SoundOutcome outcome) :
    readableOutcome outcome = true := by
  cases outcome with
  | classes page => exact readableClasses_sound sound
  | description description => exact readableDescription_valid sound
  | valueRecord record =>
    rw [readableOutcome, readableRecord, finite_valid sound.2, decide_eq_true sound.1]
    rfl
  | values page => exact readableValues_sound sound
  | object snapshot =>
    rw [readableOutcome, readableObject, decide_eq_true sound.nonzero, sound.named,
      readableNamed_valid sound.state]
    rfl
  | released => rfl
  | value data => exact finite_valid sound
  | error error =>
    obtain ⟨code, rfl⟩ := sound
    exact (makeError_bounded code).1

/-! ## Responses -/

/-- Every outcome of the store is encodable: nodes, strings and bytes stay below the limits. -/
theorem response_fits {outcome : Outcome} (sound : SoundOutcome outcome) (id : UInt64) :
    Fits (responseMessage ⟨id, outcome, version⟩).reflect maxMessageNodes maxPayloadBytes := by
  have alternative : ∀ number < 10, runLength number ((writeOutcome outcome).reflect (.done .nil)) =
      0 := by
    intro number small
    cases outcome <;> exact runLength_nested (by omega)
  have identified := Fits.implicit 2 (by decide) (alternative 2 (by decide)) (.uint64 id) rfl
    (outcome_fits sound)
  have whole := Fits.optional 1 (by decide)
    (runLength_implicit (by decide) (alternative 1 (by decide))) (.uint32 version) rfl identified
  exact whole.mono (Nat.le_refl _)
    (show 2 + 10 + (2 + 10 + (maxPayloadBytes - 64)) ≤ maxPayloadBytes by decide)

/-- A sound outcome under a nonzero identifier encodes. -/
theorem encodeResponse_sound {protobuf : Protobuf} (conforms : protobuf.Conforms)
    {outcome : Outcome} (sound : SoundOutcome outcome) {id : UInt64} (nonzero : id ≠ 0) :
    ∃ bytes, encodeResponse protobuf ⟨id, outcome, version⟩ = .ok bytes := by
  have fits := response_fits sound id
  have plain := plain_response ⟨id, outcome, version⟩
  have light : (responseMessage ⟨id, outcome, version⟩).reflect.weight < 2 ^ 28 :=
    Nat.lt_of_le_of_lt fits.weight (by decide)
  have accepted : validateEnvelope Pb.responseEnvelope (responseMessage ⟨id, outcome, version⟩) =
      none := validateEnvelope_none_iff.mpr
    ⟨nonzero, rfl, validateMessage_plain plain fits.runs fits.texts fits.nodes _⟩
  exact encodeResponse_succeeds conforms accepted (readableOutcome_sound sound)
    (Nat.le_trans (Message.byteSize_le_weight plain light) fits.weight)

end PipeForge.Server
