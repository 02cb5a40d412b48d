import PipeForge.Domain.Store
import PipeForge.Library.Matching

/-!
# Arguments and states against their declarations

`valid_arguments` (validation.cpp) and `state_matches` (domain.cpp) compare sizes,
check the given values and look every declared name up. Where the declared names are
distinct, as `valid_description` ensures, that is a one-to-one match of names and
kinds: every declaration takes up one value, so no value is left over.

Both also bound the number of values by `max_entries`. No accepted description
declares more, but of the check alone the bound is part of what it decides.
-/

namespace PipeForge.Domain
open Contracts Library

section
variable {δ : Type} (name : δ → Bytes) (kind : δ → ValueKind)

/-- The value has the declared name and kind. -/
def FitsDeclared (item : NamedValue) (declaration : δ) : Prop :=
  item.name = name declaration ∧ kindOf item.data = kind declaration

/-- Entries line up with declarations if both list the same names and kinds. -/
theorem linesUp_fits_iff (entries : List NamedValue) (declared : List δ) :
    Matching.LinesUp (FitsDeclared name kind) entries declared ↔
      (entries.map fun item => (item.name, kindOf item.data)).Perm
        (declared.map fun declaration => (name declaration, kind declaration)) := by
  rw [← Matching.linesUp_iff_perm]
  simp only [Prod.mk.injEq]
  rfl

/-- The linear search finds the declared name with its kind. -/
theorem namedOfKind_iff {entries : List NamedValue} (distinct : (entries.map NamedValue.name).Nodup)
    (wanted : Bytes) (sort : ValueKind) :
    namedOfKind entries wanted sort = true ↔
      (wanted, sort) ∈ entries.map fun item => (item.name, kindOf item.data) := by
  have scan := Matching.find_iff NamedValue.name distinct wanted
  unfold namedOfKind findNamed
  simp only [List.mem_map, Prod.mk.injEq]
  constructor
  · intro given
    split at given
    · rename_i found here
      obtain ⟨member, named⟩ := (scan found).mp here
      exact ⟨found, member, named, beq_iff_eq.mp given⟩
    · cases given
  · intro given
    obtain ⟨item, member, named, same⟩ := given
    rw [(scan item).mpr ⟨member, named⟩]
    exact beq_iff_eq.mpr same

/-- The match does not depend on the order of either list. -/
theorem linesUp_fits_congr {entries entries' : List NamedValue} {declared declared' : List δ}
    (given : entries'.Perm entries) (declares : declared'.Perm declared) :
    Matching.LinesUp (FitsDeclared name kind) entries' declared' ↔
      Matching.LinesUp (FitsDeclared name kind) entries declared := by
  rw [linesUp_fits_iff, linesUp_fits_iff, (given.map _).congr_left, (declares.map _).congr_right]

/-- Nothing is missing, left over or repeated. -/
theorem linesUp_fits_names {entries : List NamedValue} {declared : List δ}
    (matched : Matching.LinesUp (FitsDeclared name kind) entries declared) :
    (entries.map NamedValue.name).Perm (declared.map name) := by
  have same := ((linesUp_fits_iff name kind entries declared).mp matched).map Prod.fst
  simpa [List.map_map, Function.comp_def] using same

/-- The checks both functions make, as one match. -/
theorem checks_iff {entries : List NamedValue} {declared : List δ}
    (declarable : validNames (declared.map name) = true) :
    (entries.length = declared.length ∧ validNamedValues entries = true ∧
      ∀ declaration ∈ declared, namedOfKind entries (name declaration) (kind declaration) = true) ↔
    Matching.LinesUp (FitsDeclared name kind) entries declared ∧
      (∀ item ∈ entries, validValue item.data = true) ∧ entries.length ≤ maxEntries := by
  obtain ⟨valid, distinct⟩ := (validNames_iff _).mp declarable
  constructor
  · intro checks
    obtain ⟨size, given, found⟩ := checks
    obtain ⟨few, names, values⟩ := (validNamedValues_iff entries).mp given
    obtain ⟨-, unrepeated⟩ := (validNames_iff _).mp names
    refine ⟨(linesUp_fits_iff ..).mpr (Matching.perm_of_found ?_ ?_ ?_), values, few⟩
    · -- distinct names make distinct declarations
      apply List.Nodup.of_map Prod.fst
      simpa [List.map_map, Function.comp_def] using distinct
    · intro signature member
      obtain ⟨declaration, declares, rfl⟩ := List.mem_map.mp member
      exact (namedOfKind_iff unrepeated _ _).mp (found declaration declares)
    · simpa using size
  · intro matched
    obtain ⟨lined, values, few⟩ := matched
    have same := (linesUp_fits_iff ..).mp lined
    have names := linesUp_fits_names name kind lined
    have unrepeated := names.nodup_iff.mpr distinct
    refine ⟨by simpa using same.length_eq, (validNamedValues_iff entries).mpr ⟨few, ?_, values⟩, ?_⟩
    · exact (validNames_iff _).mpr ⟨fun n member => valid n (names.mem_iff.mp member), unrepeated⟩
    · intro declaration declares
      rw [namedOfKind_iff unrepeated, same.mem_iff]
      exact List.mem_map_of_mem declares

end

/-- `valid_arguments` as its three checks: as many, well-formed, and each one declared found. -/
theorem validArguments_iff_checks (arguments : List NamedValue) (parameters : List Parameter) :
    validArguments arguments parameters = true ↔
      arguments.length = parameters.length ∧ validNamedValues arguments = true ∧
        ∀ parameter ∈ parameters, namedOfKind arguments parameter.name parameter.kind = true := by
  unfold validArguments
  split
  · rename_i refused
    refine iff_of_false nofun fun checks => ?_
    simp [checks.1, checks.2.1] at refused
  · rename_i passed
    simp only [Bool.or_eq_true, bne_iff_ne, Bool.not_eq_true', not_or, not_not,
      Bool.not_eq_false] at passed
    simp [passed.1, passed.2, List.all_eq_true]

theorem stateMatches_iff_checks (definition : ClassDefinition) (state : List NamedValue) :
    stateMatches definition state = true ↔
      (state.length = definition.description.attributes.length ∧ validNamedValues state = true ∧
        ∀ field ∈ definition.description.attributes,
          namedOfKind state field.name field.kind = true) ∧
      stateCharge state ≤ definition.maxStateBytes := by
  unfold stateMatches
  split
  · rename_i refused
    refine iff_of_false nofun fun checks => ?_
    simp [checks.1.1, checks.1.2.1] at refused
  · rename_i passed
    simp only [Bool.or_eq_true, bne_iff_ne, Bool.not_eq_true', not_or, not_not,
      Bool.not_eq_false] at passed
    split
    · rename_i missing
      refine iff_of_false nofun fun checks => ?_
      simp only [Bool.not_eq_true', List.all_eq_false] at missing
      obtain ⟨field, declared, absent⟩ := missing
      exact absent (checks.1.2.2 field declared)
    · rename_i found
      simp only [Bool.not_eq_true', Bool.not_eq_false, List.all_eq_true] at found
      simp only [passed.1, passed.2, true_and, decide_eq_true_eq]
      exact ⟨fun charged => ⟨found, charged⟩, fun checks => checks.2⟩

theorem validNames_perm {names names' : List Bytes} (same : names'.Perm names)
    (valid : validNames names = true) : validNames names' = true := by
  obtain ⟨each, distinct⟩ := (validNames_iff names).mp valid
  exact (validNames_iff names').mpr
    ⟨fun name member => each name (same.mem_iff.mp member), same.nodup_iff.mpr distinct⟩

/-- Against a valid declaration the checks say that arguments and parameters are matched one to
one. -/
theorem validArguments_iff {arguments : List NamedValue} {parameters : List Parameter}
    (declarable : validNames (parameters.map Parameter.name) = true) :
    validArguments arguments parameters = true ↔
      Matching.LinesUp (FitsDeclared Parameter.name Parameter.kind) arguments parameters ∧
        (∀ item ∈ arguments, validValue item.data = true) ∧ arguments.length ≤ maxEntries := by
  rw [validArguments_iff_checks]
  exact checks_iff Parameter.name Parameter.kind declarable

theorem stateMatches_iff {definition : ClassDefinition} {state : List NamedValue}
    (declarable : validNames (definition.description.attributes.map Attribute.name) = true) :
    stateMatches definition state = true ↔
      (Matching.LinesUp (FitsDeclared Attribute.name Attribute.kind) state
          definition.description.attributes ∧
        (∀ item ∈ state, validValue item.data = true) ∧ state.length ≤ maxEntries) ∧
      stateCharge state ≤ definition.maxStateBytes := by
  rw [stateMatches_iff_checks]
  exact and_congr_left' (checks_iff Attribute.name Attribute.kind declarable)

theorem stateCharge_perm {state state' : List NamedValue} (same : state'.Perm state) :
    stateCharge state' = stateCharge state :=
  (same.map _).sum_eq

/-! ## The result -/

/-- `valid_arguments` decides a one-to-one match. -/
structure ArgumentsExact (arguments : List NamedValue) (parameters : List Parameter) : Prop where
  exactly : validArguments arguments parameters = true ↔
    Matching.LinesUp (FitsDeclared Parameter.name Parameter.kind) arguments parameters ∧
      (∀ item ∈ arguments, validValue item.data = true) ∧ arguments.length ≤ maxEntries
  unordered : ∀ arguments' parameters', arguments'.Perm arguments → parameters'.Perm parameters →
    validArguments arguments' parameters' = validArguments arguments parameters
  names : validArguments arguments parameters = true →
    (arguments.map NamedValue.name).Perm (parameters.map Parameter.name) ∧
      (arguments.map NamedValue.name).Nodup

/-- `state_matches` decides a one-to-one match within the declared bytes. -/
structure StateExact (definition : ClassDefinition) (state : List NamedValue) : Prop where
  exactly : stateMatches definition state = true ↔
    (Matching.LinesUp (FitsDeclared Attribute.name Attribute.kind) state
        definition.description.attributes ∧
      (∀ item ∈ state, validValue item.data = true) ∧ state.length ≤ maxEntries) ∧
    stateCharge state ≤ definition.maxStateBytes
  unordered : ∀ (definition' : ClassDefinition) (state' : List NamedValue), state'.Perm state →
    definition'.description.attributes.Perm definition.description.attributes →
    definition'.maxStateBytes = definition.maxStateBytes →
    stateMatches definition' state' = stateMatches definition state
  names : stateMatches definition state = true →
    (state.map NamedValue.name).Perm (definition.description.attributes.map Attribute.name) ∧
      (state.map NamedValue.name).Nodup

theorem argumentsExact_of_names {arguments : List NamedValue} {parameters : List Parameter}
    (declarable : validNames (parameters.map Parameter.name) = true) :
    ArgumentsExact arguments parameters where
  exactly := validArguments_iff declarable
  unordered arguments' parameters' given declares := by
    rw [Bool.eq_iff_iff, validArguments_iff declarable,
      validArguments_iff (validNames_perm (declares.map _) declarable),
      linesUp_fits_congr _ _ given declares, given.length_eq]
    simp only [given.mem_iff]
  names valid := by
    have named := linesUp_fits_names _ _ ((validArguments_iff declarable).mp valid).1
    exact ⟨named, named.nodup_iff.mpr ((validNames_iff _).mp declarable).2⟩

theorem stateExact_of_names {definition : ClassDefinition} {state : List NamedValue}
    (declarable : validNames (definition.description.attributes.map Attribute.name) = true) :
    StateExact definition state where
  exactly := stateMatches_iff declarable
  unordered definition' state' given declares bytes := by
    rw [Bool.eq_iff_iff, stateMatches_iff declarable,
      stateMatches_iff (validNames_perm (declares.map _) declarable),
      linesUp_fits_congr _ _ given declares, given.length_eq, stateCharge_perm given, bytes]
    simp only [given.mem_iff]
  names valid := by
    have named := linesUp_fits_names _ _ ((stateMatches_iff declarable).mp valid).1.1
    exact ⟨named, named.nodup_iff.mpr ((validNames_iff _).mp declarable).2⟩

/-- Against distinct declared names, arguments and states are accepted exactly if they
match one to one, with at most `max_entries` values. -/
theorem matching_one_to_one :
    (∀ (arguments : List NamedValue) (parameters : List Parameter),
      validNames (parameters.map Parameter.name) = true → ArgumentsExact arguments parameters) ∧
    (∀ (definition : ClassDefinition) (state : List NamedValue),
      validNames (definition.description.attributes.map Attribute.name) = true →
      StateExact definition state) :=
  ⟨fun _ _ declarable => argumentsExact_of_names declarable,
    fun _ _ declarable => stateExact_of_names declarable⟩

/-- Two parameters, their arguments the other way round. -/
theorem matching_one_to_one_reversed :
    validArguments [⟨ascii "right", .text (ascii "r")⟩, ⟨ascii "left", .integer 1⟩]
        [⟨ascii "left", .integer⟩, ⟨ascii "right", .text⟩] = true ∧
      ArgumentsExact [⟨ascii "right", .text (ascii "r")⟩, ⟨ascii "left", .integer 1⟩]
        [⟨ascii "left", .integer⟩, ⟨ascii "right", .text⟩] :=
  ⟨by decide +kernel, matching_one_to_one.1 _ _ (by decide +kernel)⟩

/-- The names `aa`, `ab` and so on. -/
def manyNames : List Bytes :=
  (List.range 65).map fun i => [UInt8.ofNat (0x61 + i / 26), UInt8.ofNat (0x61 + i % 26)]

/-- One parameter more than `max_entries` and an argument for each: they line up and
are valid, and are still refused. -/
theorem matching_bounded_entries :
    ¬ ∀ (arguments : List NamedValue) (parameters : List Parameter),
      validNames (parameters.map Parameter.name) = true →
      (validArguments arguments parameters = true ↔
        Matching.LinesUp (FitsDeclared Parameter.name Parameter.kind) arguments parameters ∧
          ∀ item ∈ arguments, validValue item.data = true) := by
  intro exactly
  have claimed := exactly (manyNames.map fun name => ⟨name, .integer 0⟩)
    (manyNames.map fun name => ⟨name, .integer⟩) (by decide +kernel)
  have refused : validArguments (manyNames.map fun name => ⟨name, .integer 0⟩)
      (manyNames.map fun name => ⟨name, .integer⟩) = false := by decide +kernel
  have accepted := claimed.mpr ⟨?_, ?_⟩
  · rw [refused] at accepted
    cases accepted
  · refine ⟨_, .refl _, ?_⟩
    rw [List.forall₂_map_left_iff, List.forall₂_map_right_iff, List.forall₂_same]
    exact fun name _ => ⟨rfl, rfl⟩
  · intro item member
    obtain ⟨name, -, rfl⟩ := List.mem_map.mp member
    rfl

end PipeForge.Domain
