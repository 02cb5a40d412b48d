import PipeForge.Domain.Store
import PipeForge.Library.Transition

/-!
# Sessions sharing one identifier source

The server composition: one frozen registry, one identifier source, and session
stores that may be created, used and closed in any order. A run is a list of
actions; its history is the list of executed operations with their outcomes.

`Sound` is the invariant of one store against the shared source. It is kept by
the store's own operations (`effect_sound`) and by whatever other sessions draw
from the source (`Sound.advance`), so it holds of every store in every run.
-/

namespace PipeForge.Domain
open Contracts Library

structure World where
  ids : IdentifierSource
  sessions : List SessionStore

inductive Action where
  | create (limits : SessionLimits)
  | execute (session : Nat) (operation : Operation)
  | close (session : Nat)

structure Event where
  session : Nat
  operation : Operation
  outcome : Outcome
  deriving DecidableEq, Repr

namespace World

/-- Actions on a session that does not exist do nothing. -/
def step (registry : ClassRegistry) (w : World) : Action → World × List Event
  | .create limits => ({ w with sessions := w.sessions ++ [SessionStore.create limits] }, [])
  | .execute session operation =>
    match w.sessions[session]? with
    | none => (w, [])
    | some store =>
      let done := store.execute registry w.ids operation
      (⟨done.ids, w.sessions.set session done.store⟩, [⟨session, operation, done.outcome⟩])
  | .close session =>
    match w.sessions[session]? with
    | none => (w, [])
    | some store => ({ w with sessions := w.sessions.set session store.close }, [])

def start (first : UInt64) : World := ⟨⟨first⟩, []⟩

def run (registry : ClassRegistry) (first : UInt64) (actions : List Action) : World × List Event :=
  Transition.run (step registry) (start first) actions

end World

/-! ## Issued identifiers -/

/-- The identifiers drawn so far from a source, whatever it started with. -/
def IdentifierSource.issued (ids : IdentifierSource) (id : UInt64) : Prop :=
  id ≠ 0 ∧ (ids.next_ = 0 ∨ id < ids.next_)

/-- A later state of the same source. -/
def IdentifierSource.Advances (ids later : IdentifierSource) : Prop :=
  later.next_ = 0 ∨ (ids.next_ ≠ 0 ∧ ids.next_ ≤ later.next_)

theorem IdentifierSource.advances_refl (ids : IdentifierSource) : ids.Advances ids := by
  by_cases exhausted : ids.next_ = 0
  · exact Or.inl exhausted
  · exact Or.inr ⟨exhausted, UInt64.le_refl _⟩

theorem IdentifierSource.advances_issued {ids later : IdentifierSource} (advance : ids.Advances later)
    {id : UInt64} (issued : ids.issued id) : later.issued id := by
  rcases advance with exhausted | ⟨live, order⟩
  · exact ⟨issued.1, Or.inl exhausted⟩
  · exact ⟨issued.1, Or.inr (UInt64.lt_of_lt_of_le (issued.2.resolve_left live) order)⟩

/-- What a successful draw returns: the old position, never issued before. -/
theorem IdentifierSource.next_spec {ids ids' : IdentifierSource} {id : UInt64}
    (drawn : ids.next = (some id, ids')) :
    id = ids.next_ ∧ id ≠ 0 ∧ ¬ ids.issued id ∧ ids'.issued id ∧ ids.Advances ids' := by
  unfold IdentifierSource.next at drawn
  split at drawn
  · cases drawn
  · rename_i live
    simp only [Prod.mk.injEq, Option.some.injEq] at drawn
    obtain ⟨rfl, rfl⟩ := drawn
    refine ⟨rfl, live, ?_, ?_⟩
    · rintro ⟨-, exhausted | below⟩
      · exact live exhausted
      · exact UInt64.lt_irrefl _ below
    · by_cases last : ids.next_ = maxIdentifier
      · simp only [last, if_true]
        exact ⟨⟨by decide, Or.inl rfl⟩, Or.inl rfl⟩
      · have less : ids.next_ < ids.next_ + 1 := SizeT.lt_succ last
        simp only [last, if_false]
        exact ⟨⟨live, Or.inr less⟩, Or.inr ⟨live, UInt64.le_of_lt less⟩⟩

/-! ## The invariant of a store -/

/-- An object in the map: its class is registered, its state has the declared
shape and its charge is the charge of that state. -/
structure SoundObject (registry : ClassRegistry) (entry : StoredObject) : Prop where
  registered : registry.find entry.definition.name = some entry.definition
  shaped : stateMatches entry.definition entry.instance_.state = true
  charge : entry.charge = objectCharge entry.definition.name entry.instance_.state

structure Sound (registry : ClassRegistry) (ids : IdentifierSource) (store : SessionStore) :
    Prop where
  values_valid : ∀ id data, store.values.find id = some data → validValue data = true
  objects_sound : ∀ id entry, store.objects.find id = some entry → SoundObject registry entry
  values_issued : ∀ id data, store.values.find id = some data → ids.issued id
  objects_issued : ∀ id entry, store.objects.find id = some entry → ids.issued id
  used : store.used = store.values.total valueCharge + store.objects.total (·.charge)
  used_le : store.used ≤ store.limits.bytes
  bytes_le : store.limits.bytes ≤ maxSessionBytes
  values_le : store.values.size ≤ store.limits.values
  values_limit : store.limits.values ≤ maxStoredValues
  objects_le : store.objects.size ≤ store.limits.objects
  objects_limit : store.limits.objects ≤ maxStoredObjects

theorem create_sound (registry : ClassRegistry) (ids : IdentifierSource) (limits : SessionLimits) :
    Sound registry ids (SessionStore.create limits) where
  values_valid id data found := by simp [SessionStore.create] at found
  objects_sound id entry found := by simp [SessionStore.create] at found
  values_issued id data found := by simp [SessionStore.create] at found
  objects_issued id entry found := by simp [SessionStore.create] at found
  used := rfl
  used_le := Nat.zero_le _
  bytes_le := Nat.min_le_right _ _
  values_le := Nat.zero_le _
  values_limit := Nat.min_le_right _ _
  objects_le := Nat.zero_le _
  objects_limit := Nat.min_le_right _ _

namespace Sound

variable {registry : ClassRegistry} {ids : IdentifierSource} {store : SessionStore}

theorem close (sound : Sound registry ids store) : Sound registry ids store.close where
  values_valid id data found := by simp [SessionStore.close] at found
  objects_sound id entry found := by simp [SessionStore.close] at found
  values_issued id data found := by simp [SessionStore.close] at found
  objects_issued id entry found := by simp [SessionStore.close] at found
  used := rfl
  used_le := Nat.zero_le _
  bytes_le := sound.bytes_le
  values_le := Nat.zero_le _
  values_limit := sound.values_limit
  objects_le := Nat.zero_le _
  objects_limit := sound.objects_limit

/-- Draws of other sessions only add to what has been issued. -/
theorem advance (sound : Sound registry ids store) {later : IdentifierSource}
    (advances : ids.Advances later) : Sound registry later store :=
  { sound with
    values_issued := fun id data found =>
      IdentifierSource.advances_issued advances (sound.values_issued id data found)
    objects_issued := fun id entry found =>
      IdentifierSource.advances_issued advances (sound.objects_issued id entry found) }

/-! ### No unsigned difference underflows -/

theorem bytes_lt (sound : Sound registry ids store) : store.limits.bytes < SizeT.modulus :=
  Nat.lt_of_le_of_lt sound.bytes_le (by decide)

/-- The free space does not wrap, since no more is used than there is. -/
theorem remaining_eq (sound : Sound registry ids store) :
    SizeT.sub store.limits.bytes store.used = store.limits.bytes - store.used :=
  SizeT.sub_eq sound.used_le sound.bytes_lt

/-- Every object's charge is part of what is used. -/
theorem charge_le (sound : Sound registry ids store) {id : UInt64} {entry : StoredObject}
    (found : store.objects.find id = some entry) : entry.charge ≤ store.used := by
  have erased := OrderedMap.total_erase (·.charge) store.objects id entry found
  have used := sound.used
  omega

theorem retained_eq (sound : Sound registry ids store) {id : UInt64} {entry : StoredObject}
    (found : store.objects.find id = some entry) :
    SizeT.sub store.used entry.charge = store.used - entry.charge :=
  SizeT.sub_eq (sound.charge_le found) (Nat.lt_of_le_of_lt sound.used_le sound.bytes_lt)

/-- The budget for a changed object does not wrap. -/
theorem budget_eq (sound : Sound registry ids store) {id : UInt64} {entry : StoredObject}
    (found : store.objects.find id = some entry) :
    SizeT.sub store.limits.bytes (SizeT.sub store.used entry.charge) =
      store.limits.bytes - (store.used - entry.charge) := by
  rw [sound.retained_eq found]
  exact SizeT.sub_eq (Nat.le_trans (Nat.sub_le _ _) sound.used_le) sound.bytes_lt

/-- An identifier about to be issued is a key of neither map. -/
theorem fresh (sound : Sound registry ids store) {id : UInt64} {ids' : IdentifierSource}
    (drawn : ids.next = (some id, ids')) :
    store.values.find id = none ∧ store.objects.find id = none := by
  obtain ⟨-, -, unissued, -⟩ := IdentifierSource.next_spec drawn
  constructor
  · cases found : store.values.find id with
    | none => rfl
    | some data => exact absurd (sound.values_issued id data found) unissued
  · cases found : store.objects.find id with
    | none => rfl
    | some entry => exact absurd (sound.objects_issued id entry found) unissued

end Sound

/-! ## Preservation -/

section
variable {registry : ClassRegistry} {ids : IdentifierSource} {store : SessionStore}

/-- Storing a value keeps the sum of the charges and all bounds. -/
private theorem put_sound (sound : Sound registry ids store) {data : Value} {id : UInt64}
    {ids' : IdentifierSource} (valid : validValue data = true)
    (room : store.values.size < store.limits.values)
    (fits : valueCharge data ≤ SizeT.sub store.limits.bytes store.used)
    (drawn : ids.next = (some id, ids')) :
    Sound registry ids' { store with
      values := store.values.emplace id data
      used := SizeT.add store.used (valueCharge data) } := by
  obtain ⟨-, -, -, issued, advances⟩ := IdentifierSource.next_spec drawn
  have absent := (sound.fresh drawn).1
  have later := sound.advance advances
  have added : SizeT.add store.used (valueCharge data) = store.used + valueCharge data := by
    have order := sound.used_le
    have bound := sound.bytes_lt
    rw [sound.remaining_eq] at fits
    exact SizeT.add_eq (by omega)
  refine { later with
    values_valid := ?_, values_issued := ?_, used := ?_, used_le := ?_, values_le := ?_ }
  · intro key other found
    rw [OrderedMap.find_emplace _ _ _ _ absent] at found
    split at found
    · cases found
      exact valid
    · exact sound.values_valid key other found
  · intro key other found
    rw [OrderedMap.find_emplace _ _ _ _ absent] at found
    split at found
    · rename_i same
      rw [same]
      exact issued
    · exact later.values_issued key other found
  · have total := OrderedMap.total_emplace valueCharge store.values id data absent
    have used := sound.used
    simp only [added]
    omega
  · have order := sound.used_le
    rw [sound.remaining_eq] at fits
    simp only [added]
    omega
  · simp only [OrderedMap.size_emplace _ _ _ absent]
    exact room

private theorem created_sound (sound : Sound registry ids store) {className : Bytes}
    {definition : ClassDefinition} {object : Object} {id : UInt64} {ids' : IdentifierSource}
    (found : registry.find className = some definition)
    (room : store.objects.size < store.limits.objects)
    (shaped : stateMatches definition object.state = true)
    (fits : objectCharge className object.state ≤ SizeT.sub store.limits.bytes store.used)
    (drawn : ids.next = (some id, ids')) :
    Sound registry ids' { store with
      objects := store.objects.emplace id
        ⟨definition, object, objectCharge className object.state⟩
      used := SizeT.add store.used (objectCharge className object.state) } := by
  obtain ⟨-, -, -, issued, advances⟩ := IdentifierSource.next_spec drawn
  obtain ⟨-, named⟩ := ClassRegistry.find_mem found
  subst named
  have absent := (sound.fresh drawn).2
  have later := sound.advance advances
  have added : SizeT.add store.used (objectCharge definition.name object.state) =
      store.used + objectCharge definition.name object.state := by
    have order := sound.used_le
    have bound := sound.bytes_lt
    rw [sound.remaining_eq] at fits
    exact SizeT.add_eq (by omega)
  refine { later with
    objects_sound := ?_, objects_issued := ?_, used := ?_, used_le := ?_, objects_le := ?_ }
  · intro key other present
    rw [OrderedMap.find_emplace _ _ _ _ absent] at present
    split at present
    · cases present
      exact ⟨found, shaped, rfl⟩
    · exact sound.objects_sound key other present
  · intro key other present
    rw [OrderedMap.find_emplace _ _ _ _ absent] at present
    split at present
    · rename_i same
      rw [same]
      exact issued
    · exact later.objects_issued key other present
  · have total := OrderedMap.total_emplace (·.charge) store.objects id
      ⟨definition, object, objectCharge definition.name object.state⟩ absent
    have used := sound.used
    simp only [added]
    simp only at total
    omega
  · have order := sound.used_le
    rw [sound.remaining_eq] at fits
    simp only [added]
    omega
  · simp only [OrderedMap.size_emplace _ _ _ absent]
    exact room

/-- A release takes its own charge off and no more. -/
private theorem released_sound (sound : Sound registry ids store) {id : UInt64}
    {entry : StoredObject} (found : store.objects.find id = some entry) :
    Sound registry ids { store with
      used := SizeT.sub store.used entry.charge
      objects := store.objects.erase id } := by
  have kept : ∀ key other, (store.objects.erase id).find key = some other →
      store.objects.find key = some other := by
    intro key other present
    rw [OrderedMap.find_erase] at present
    split at present
    · cases present
    · exact present
  refine { sound with
    objects_sound := fun key other present => sound.objects_sound key other (kept key other present)
    objects_issued := fun key other present => sound.objects_issued key other (kept key other present)
    used := ?_, used_le := ?_, objects_le := ?_ }
  · have total := OrderedMap.total_erase (·.charge) store.objects id entry found
    have used := sound.used
    simp only [sound.retained_eq found]
    omega
  · have order := sound.used_le
    simp only [sound.retained_eq found]
    omega
  · have size := OrderedMap.size_erase store.objects id entry found
    have order := sound.objects_le
    simp only
    omega

/-- A changed object is charged anew in place of its old charge. -/
private theorem invoked_sound (sound : Sound registry ids store) {id : UInt64}
    {entry : StoredObject} {candidate : Object} (found : store.objects.find id = some entry)
    (shaped : stateMatches entry.definition candidate.state = true)
    (fits : objectCharge entry.definition.name candidate.state ≤
      SizeT.sub store.limits.bytes (SizeT.sub store.used entry.charge)) :
    Sound registry ids { store with
      objects := store.objects.assign id
        { entry with
          instance_ := candidate
          charge := objectCharge entry.definition.name candidate.state }
      used := SizeT.add (SizeT.sub store.used entry.charge)
        (objectCharge entry.definition.name candidate.state) } := by
  have present : (store.objects.find id).isSome := by simp [found]
  have order := sound.used_le
  have bound := sound.bytes_lt
  have held := sound.charge_le found
  rw [sound.budget_eq found] at fits
  have added : SizeT.add (SizeT.sub store.used entry.charge)
      (objectCharge entry.definition.name candidate.state) =
      store.used - entry.charge + objectCharge entry.definition.name candidate.state := by
    rw [sound.retained_eq found]
    exact SizeT.add_eq (by omega)
  refine { sound with
    objects_sound := ?_, objects_issued := ?_, used := ?_, used_le := ?_, objects_le := ?_ }
  · intro key other assigned
    rw [OrderedMap.find_assign _ _ _ _ present] at assigned
    split at assigned
    · cases assigned
      exact ⟨(sound.objects_sound id entry found).registered, shaped, rfl⟩
    · exact sound.objects_sound key other assigned
  · intro key other assigned
    rw [OrderedMap.find_assign _ _ _ _ present] at assigned
    split at assigned
    · rename_i same
      rw [same]
      exact sound.objects_issued id entry found
    · exact sound.objects_issued key other assigned
  · have total := OrderedMap.total_assign (·.charge) store.objects id entry
      { entry with
        instance_ := candidate
        charge := objectCharge entry.definition.name candidate.state } found
    have used := sound.used
    simp only [added]
    simp only at total
    omega
  · simp only [added]
    omega
  · simpa using sound.objects_le

/-- Every operation keeps the invariant and only moves the source forward. -/
theorem effect_sound (sound : Sound registry ids store) {operation : Operation} {done : Executed}
    (effect : Effect registry store ids operation done) :
    Sound registry done.ids done.store ∧ ids.Advances done.ids := by
  cases effect with
  | failed => exact ⟨sound, ids.advances_refl⟩
  | answered => exact ⟨sound, ids.advances_refl⟩
  | put data id ids' opened valid room fits drawn =>
    exact ⟨put_sound sound valid room fits drawn, (IdentifierSource.next_spec drawn).2.2.2.2⟩
  | created className arguments definition factory object id ids' opened named found matched room
      callable made shaped fits drawn =>
    exact ⟨created_sound sound found room shaped fits drawn,
      (IdentifierSource.next_spec drawn).2.2.2.2⟩
  | released id entry opened nonzero found =>
    exact ⟨released_sound sound found, ids.advances_refl⟩
  | invoked id name arguments entry method data candidate opened nonzero named found declared
      matched called valid kind shaped fits =>
    exact ⟨invoked_sound sound found shaped fits, ids.advances_refl⟩

end

/-! ## Whole runs -/

namespace World

/-- Every session, open or closed, is sound against the shared source. -/
def AllSound (registry : ClassRegistry) (w : World) : Prop :=
  ∀ (session : Nat) (store : SessionStore), w.sessions[session]? = some store →
    Sound registry w.ids store

/-- The three things an action can do, with the session it touches. -/
inductive Step (registry : ClassRegistry) (w : World) : World → List Event → Prop
  | idle : Step registry w w []
  | create (limits : SessionLimits) :
      Step registry w { w with sessions := w.sessions ++ [SessionStore.create limits] } []
  | execute (session : Nat) (store : SessionStore) (operation : Operation) (done : Executed)
      (owner : w.sessions[session]? = some store)
      (run : store.execute registry w.ids operation = done) :
      Step registry w ⟨done.ids, w.sessions.set session done.store⟩
        [⟨session, operation, done.outcome⟩]
  | close (session : Nat) (store : SessionStore) (owner : w.sessions[session]? = some store) :
      Step registry w { w with sessions := w.sessions.set session store.close } []

/-- What `step` computes, as one of the steps there are. -/
theorem step_spec (registry : ClassRegistry) (w : World) (action : Action) :
    Step registry w (step registry w action).1 (step registry w action).2 := by
  cases action with
  | create limits => exact .create limits
  | execute session operation =>
    cases owner : w.sessions[session]? with
    | none =>
      simp only [step, owner]
      exact .idle
    | some store =>
      simp only [step, owner]
      exact .execute session store operation _ owner rfl
  | close session =>
    cases owner : w.sessions[session]? with
    | none =>
      simp only [step, owner]
      exact .idle
    | some store =>
      simp only [step, owner]
      exact .close session store owner

/-- Sessions after a replacement: the replaced one, or one from before. -/
theorem getElem?_set_cases {α : Type*} {sessions : List α} {session other : Nat}
    {replaced store : α} (found : (sessions.set session replaced)[other]? = some store) :
    (other = session ∧ store = replaced) ∨ (other ≠ session ∧ sessions[other]? = some store) := by
  rw [List.getElem?_set] at found
  split at found
  · rename_i same
    split at found
    · exact Or.inl ⟨same.symm, (Option.some.inj found).symm⟩
    · cases found
  · rename_i different
    exact Or.inr ⟨Ne.symm different, found⟩

theorem getElem?_create_cases {α : Type*} {sessions : List α} {created store : α} {other : Nat}
    (found : (sessions ++ [created])[other]? = some store) :
    sessions[other]? = some store ∨ (other = sessions.length ∧ store = created) := by
  by_cases old : other < sessions.length
  · rw [List.getElem?_append_left old] at found
    exact Or.inl found
  · rw [List.getElem?_append_right (by omega), List.getElem?_singleton] at found
    split at found
    · exact Or.inr ⟨by omega, (Option.some.inj found).symm⟩
    · cases found

theorem step_sound {registry : ClassRegistry} {w w' : World} {events : List Event}
    (sound : AllSound registry w) (taken : Step registry w w' events) : AllSound registry w' := by
  cases taken with
  | idle => exact sound
  | create limits =>
    intro other store found
    rcases getElem?_create_cases found with old | ⟨-, rfl⟩
    · exact sound other store old
    · exact create_sound registry w.ids limits
  | execute session store operation done owner run =>
    have effect := execute_effect registry store w.ids operation
    rw [run] at effect
    obtain ⟨kept, advances⟩ := effect_sound (sound session store owner) effect
    intro other found present
    rcases getElem?_set_cases present with ⟨-, rfl⟩ | ⟨-, old⟩
    · exact kept
    · exact (sound other found old).advance advances
  | close session store owner =>
    intro other found present
    rcases getElem?_set_cases present with ⟨-, rfl⟩ | ⟨-, old⟩
    · exact (sound session store owner).close
    · exact sound other found old

/-- Identifiers are drawn in order, whoever draws them. -/
theorem step_advances {registry : ClassRegistry} {w w' : World} {events : List Event}
    (sound : AllSound registry w) (taken : Step registry w w' events) : w.ids.Advances w'.ids := by
  cases taken with
  | idle => exact w.ids.advances_refl
  | create limits => exact w.ids.advances_refl
  | execute session store operation done owner run =>
    have effect := execute_effect registry store w.ids operation
    rw [run] at effect
    exact (effect_sound (sound session store owner) effect).2
  | close session store owner => exact w.ids.advances_refl

/-- The invariant holds of every session at every point of every run. -/
theorem run_sound (registry : ClassRegistry) (first : UInt64) (actions : List Action) :
    AllSound registry (run registry first actions).1 :=
  Transition.run_invariant (step registry) (fun w _ => AllSound registry w) (start first) []
    (fun session store found => by simp [start] at found)
    (fun w _ action sound => step_sound sound (step_spec registry w action)) actions

end World

end PipeForge.Domain
