import PipeForge.Contracts.Validation

/-!
# Trusted classes and their registry

The `object` interface, class definitions and `class_registry` of domain.hpp and
domain.cpp. A trusted object is modelled as a private state with pure `state`,
`clone` and `invoke`; `clone` gives an exact copy or null. A registry carries
what `add` maintains: strictly increasing names, the entry bound and validated
definitions. `lower_bound` and `upper_bound` are the split of a partitioned range
that the standard documents, which the sorted field makes applicable.
-/

namespace PipeForge.Domain
open Contracts

/-- Expected domain failures are structured remote errors. -/
abbrev DomainResult (α : Type u) := Except RemoteError α

structure Object where
  State : Type
  current : State
  stateOf : State → List NamedValue
  cloneOf : State → Option State
  invokeOf : State → Bytes → List NamedValue → DomainResult Value × State
  clone_exact : ∀ s copy, cloneOf s = some copy → copy = s

namespace Object

def state (o : Object) : List NamedValue := o.stateOf o.current

/-- `none` is the null pointer. -/
def clone (o : Object) : Option Object :=
  (o.cloneOf o.current).map fun copy => { o with current := copy }

/-- The result and the object as the call leaves it, also when it fails. -/
def invoke (o : Object) (name : Bytes) (arguments : List NamedValue) :
    DomainResult Value × Object :=
  let called := o.invokeOf o.current name arguments
  (called.1, { o with current := called.2 })

theorem clone_eq {o copy : Object} (cloned : o.clone = some copy) : copy = o := by
  simp only [clone, Option.map_eq_some_iff] at cloned
  obtain ⟨s, found, rfl⟩ := cloned
  rw [o.clone_exact _ _ found]

/-- A copy constructor is an exact clone. -/
theorem copy_exact {State : Type} (s copy : State) (copied : some s = some copy) : copy = s :=
  (Option.some.inj copied).symm

end Object

/-- `object_factory`; the inner `none` is a null `unique_ptr`. -/
abbrev ObjectFactory := List NamedValue → DomainResult (Option Object)

def maxObjectStateBytes : Nat := maxPayloadBytes / 2

structure ClassDefinition where
  description : ClassDescription
  /-- `none` is an empty `std::function`. -/
  create : Option ObjectFactory
  maxStateBytes : Nat

namespace ClassDefinition

def name (definition : ClassDefinition) : Bytes := definition.description.name

/-- The metadata checks `add` makes of a single definition. -/
def registrable (definition : ClassDefinition) : Bool :=
  validDescription definition.description && definition.create.isSome &&
    decide (definition.maxStateBytes ≠ 0) && decide (definition.maxStateBytes ≤ maxObjectStateBytes)

end ClassDefinition

structure ClassRegistry where
  definitions : List ClassDefinition
  sorted : definitions.Pairwise (fun a b => a.name < b.name)
  bounded : definitions.length ≤ maxEntries
  valid : ∀ definition ∈ definitions, definition.registrable = true

namespace ClassRegistry

def empty : ClassRegistry := ⟨[], .nil, by decide, by simp⟩

def find (registry : ClassRegistry) (name : Bytes) : Option ClassDefinition :=
  registry.definitions.find? fun definition => decide (definition.name = name)

/-- Insertion at `lower_bound`. -/
def insertAt (definitions : List ClassDefinition) (definition : ClassDefinition) :
    List ClassDefinition :=
  definitions.takeWhile (fun entry => decide (entry.name < definition.name)) ++
    definition :: definitions.dropWhile (fun entry => decide (entry.name < definition.name))

theorem mem_insertAt {definitions : List ClassDefinition} {definition entry : ClassDefinition} :
    entry ∈ insertAt definitions definition ↔ entry = definition ∨ entry ∈ definitions := by
  have whole : entry ∈ definitions ↔
      entry ∈ definitions.takeWhile (fun entry => decide (entry.name < definition.name)) ∨
      entry ∈ definitions.dropWhile (fun entry => decide (entry.name < definition.name)) := by
    rw [← List.mem_append, List.takeWhile_append_dropWhile]
  rw [insertAt, List.mem_append, List.mem_cons, whole]
  tauto

theorem length_insertAt (definitions : List ClassDefinition) (definition : ClassDefinition) :
    (insertAt definitions definition).length = definitions.length + 1 := by
  have whole := congrArg List.length
    (List.takeWhile_append_dropWhile (p := fun entry => decide (entry.name < definition.name))
      (l := definitions))
  rw [List.length_append] at whole
  rw [insertAt, List.length_append, List.length_cons]
  omega

/-- Everything after the split point of a sorted list is not below the name. -/
theorem dropWhile_not_below (definitions : List ClassDefinition) (name : Bytes)
    (sorted : definitions.Pairwise (fun a b => a.name < b.name)) :
    ∀ entry ∈ definitions.dropWhile (fun entry => decide (entry.name < name)),
      ¬ entry.name < name := by
  induction definitions with
  | nil => simp
  | cons head tail ih =>
    obtain ⟨above, rest⟩ := List.pairwise_cons.mp sorted
    by_cases below : head.name < name
    · rw [List.dropWhile_cons_of_pos (by simpa using below)]
      exact ih rest
    · rw [List.dropWhile_cons_of_neg (by simpa using below)]
      intro entry member
      rcases List.mem_cons.mp member with rfl | member
      · exact below
      · have later := above entry member
        grind

/-- Insertion keeps the definitions in the order of their names. -/
theorem sorted_insertAt (definitions : List ClassDefinition) (definition : ClassDefinition)
    (sorted : definitions.Pairwise (fun a b => a.name < b.name))
    (absent : ∀ entry ∈ definitions, entry.name ≠ definition.name) :
    (insertAt definitions definition).Pairwise (fun a b => a.name < b.name) := by
  have back : ∀ entry ∈ definitions.dropWhile (fun entry => decide (entry.name < definition.name)),
      definition.name < entry.name := by
    intro entry member
    have notBelow := dropWhile_not_below definitions definition.name sorted entry member
    have other := absent entry ((List.dropWhile_sublist _).subset member)
    grind
  rw [insertAt, List.pairwise_append, List.pairwise_cons]
  refine ⟨sorted.sublist (List.takeWhile_sublist _), ⟨back, sorted.sublist (List.dropWhile_sublist _)⟩, ?_⟩
  intro a ha b hb
  have front : a.name < definition.name := by simpa using List.mem_takeWhile_imp ha
  rcases List.mem_cons.mp hb with rfl | hb
  · exact front
  · have behind := back b hb
    grind

/-- A name is free exactly if no definition bears it. -/
theorem find_eq_none_iff (registry : ClassRegistry) (name : Bytes) :
    registry.find name = none ↔ ∀ entry ∈ registry.definitions, entry.name ≠ name := by
  simp [find]

def add (registry : ClassRegistry) (definition : ClassDefinition) :
    Option RemoteError × ClassRegistry :=
  if valid : definition.registrable = true ∧ registry.find definition.name = none then
    if room : registry.definitions.length < maxEntries then
      (none,
        { definitions := insertAt registry.definitions definition
          sorted := sorted_insertAt _ _ registry.sorted
            ((find_eq_none_iff registry definition.name).mp valid.2)
          bounded := by
            rw [length_insertAt]
            exact room
          valid := by
            intro entry member
            rcases mem_insertAt.mp member with rfl | member
            · exact valid.1
            · exact registry.valid entry member })
    else (some (makeError .quotaExceeded), registry)
  else (some (makeError .invalidRequest), registry)

/-- The entries from `upper_bound after` to the end. -/
def after (registry : ClassRegistry) (after : Bytes) : List ClassDefinition :=
  registry.definitions.dropWhile fun entry => !decide (after < entry.name)

def list (registry : ClassRegistry) (after : Bytes) (limit : UInt32) :
    DomainResult ClassesPage :=
  if !validName after true || !validPageSize limit then .error (makeError .invalidRequest)
  else
    let items := registry.after after
    let names := (items.take limit.toNat).map (·.name)
    -- `page.names.back()` is evaluated only while entries remain.
    let next := if (items.drop limit.toNat).isEmpty then [] else names.getLastD []
    .ok ⟨names, next⟩

theorem find_mem {registry : ClassRegistry} {name : Bytes} {definition : ClassDefinition}
    (found : registry.find name = some definition) :
    definition ∈ registry.definitions ∧ definition.name = name :=
  ⟨List.mem_of_find?_eq_some found, by simpa using List.find?_some found⟩

end ClassRegistry

/-- A registered definition passed every metadata check. -/
structure Registered (definition : ClassDefinition) : Prop where
  description : validDescription definition.description = true
  create : definition.create.isSome = true
  stateBound : definition.maxStateBytes ≤ maxObjectStateBytes

theorem registrable_registered {definition : ClassDefinition}
    (valid : definition.registrable = true) : Registered definition := by
  simp only [ClassDefinition.registrable, Bool.and_eq_true, decide_eq_true_eq] at valid
  exact ⟨valid.1.1.1, valid.1.1.2, valid.2⟩

theorem find_registered {registry : ClassRegistry} {name : Bytes} {definition : ClassDefinition}
    (found : registry.find name = some definition) :
    Registered definition ∧ definition.name = name := by
  obtain ⟨member, named⟩ := ClassRegistry.find_mem found
  exact ⟨registrable_registered (registry.valid definition member), named⟩

end PipeForge.Domain
