import PipeForge.Domain.World

/-!
# What a store returns

The shape of every outcome of an operation on a sound store: pages are bounded
and ordered, records carry issued identifiers and valid values, a snapshot fits
the declared state bound, and an error has one of the fixed texts. These are the
facts the codec needs to know about the domain.
-/

namespace PipeForge.Domain
open Contracts Library

/-- A page of values: bounded in number and bytes, ordered, and with a cursor only
to its own last identifier. -/
structure SoundPage (page : ValuesPage) : Prop where
  few : page.values.length ≤ maxEntries
  nonzero : ∀ record ∈ page.values, record.id ≠ 0
  valid : ∀ record ∈ page.values, validValue record.data = true
  increasing : page.values.Pairwise (fun a b => a.id < b.id)
  charged : (page.values.map fun record => valueCharge record.data).sum ≤ pageByteBudget
  cursor : page.next = 0 ∨ page.values.getLast?.map (·.id) = some page.next

structure SoundClasses (page : ClassesPage) : Prop where
  few : page.names.length ≤ maxEntries
  valid : ∀ name ∈ page.names, validName name false = true
  increasing : page.names.Pairwise (· < ·)
  cursor : page.next = [] ∨ page.names.getLast? = some page.next

structure SoundSnapshot (snapshot : ObjectSnapshot) : Prop where
  nonzero : snapshot.id ≠ 0
  named : validName snapshot.className false = true
  state : validNamedValues snapshot.state = true
  charged : stateCharge snapshot.state ≤ maxObjectStateBytes

def SoundOutcome : Outcome → Prop
  | .classes page => SoundClasses page
  | .description description => validDescription description = true
  | .valueRecord record => record.id ≠ 0 ∧ validValue record.data = true
  | .values page => SoundPage page
  | .object snapshot => SoundSnapshot snapshot
  | .released => True
  | .value data => validValue data = true
  | .error error => ∃ code, error = makeError code

/-! ## Pages -/

/-- The page is a front part of the entries, within what the limit and the budget
leave. -/
theorem fillPage_spec (limit : Nat) (entries : List (UInt64 × Value)) (taken bytes : Nat)
    (within : bytes ≤ pageByteBudget) :
    (SessionStore.fillPage limit taken bytes entries).1.map (fun record => (record.id, record.data)) ++
        (SessionStore.fillPage limit taken bytes entries).2 = entries ∧
      (SessionStore.fillPage limit taken bytes entries).1.length ≤ limit - taken ∧
      bytes + ((SessionStore.fillPage limit taken bytes entries).1.map
        fun record => valueCharge record.data).sum ≤ pageByteBudget := by
  induction entries generalizing taken bytes with
  | nil => exact ⟨rfl, Nat.zero_le _, within⟩
  | cons entry rest ih =>
    obtain ⟨id, data⟩ := entry
    unfold SessionStore.fillPage
    split
    · rename_i room
      rw [SizeT.sub_eq within (by decide)]
      split
      · exact ⟨rfl, Nat.zero_le _, within⟩
      · rename_i fits
        obtain ⟨split, few, charged⟩ := ih (taken + 1) (bytes + valueCharge data) (by omega)
        refine ⟨?_, ?_, ?_⟩
        · simp only [List.map_cons, List.cons_append, split]
        · simp only [List.length_cons]
          omega
        · simp only [List.map_cons, List.sum_cons]
          omega
    · exact ⟨rfl, Nat.zero_le _, within⟩

section
variable {registry : ClassRegistry} {ids : IdentifierSource} {store : SessionStore}

theorem validPageSize_le {limit : UInt32} (valid : validPageSize limit = true) :
    limit.toNat ≤ maxEntries := by
  simp only [validPageSize, Bool.and_eq_true, decide_eq_true_eq] at valid
  exact valid.2

/-- A page holds valid records in increasing order within the budget of a payload. -/
theorem listValues_sound (sound : Sound registry ids store) (after : UInt64) (limit : UInt32) :
    SoundOutcome (store.applyListValues after limit) := by
  unfold SessionStore.applyListValues
  split
  · exact ⟨_, rfl⟩
  · rename_i sized
    obtain ⟨split, few, charged⟩ := fillPage_spec limit.toNat (store.values.after after) 0 0
      (Nat.zero_le _)
    generalize SessionStore.fillPage limit.toNat 0 0 (store.values.after after) = page
      at split few charged
    have bounded := validPageSize_le (by simpa using sized : validPageSize limit = true)
    have listed : (page.1.map fun record => (record.id, record.data)).Sublist
        store.values.entries :=
      (split ▸ List.sublist_append_left _ _ :
        (page.1.map fun record => (record.id, record.data)).Sublist
          (store.values.after after)).trans List.filter_sublist
    have stored : ∀ record ∈ page.1, store.values.find record.id = some record.data := by
      intro record member
      rw [OrderedMap.find_eq_some_iff]
      exact listed.subset (List.mem_map.mpr ⟨record, member, rfl⟩)
    have ordered : page.1.Pairwise (fun a b => a.id < b.id) := by
      have pairs := store.values.sorted.sublist listed
      rw [List.pairwise_map] at pairs
      exact pairs
    exact {
      few := by dsimp only; omega
      nonzero := fun record member => (sound.values_issued _ _ (stored record member)).1
      valid := fun record member => sound.values_valid _ _ (stored record member)
      increasing := ordered
      charged := by dsimp only; omega
      cursor := by
        dsimp only
        split
        · exact Or.inl rfl
        · cases page.1.getLast? with
          | none => exact Or.inl rfl
          | some record => exact Or.inr rfl }

/-- A page of names is sorted and has no more entries than a page may have. -/
theorem listClasses_sound (after : Bytes) (limit : UInt32) :
    SoundOutcome (SessionStore.applyListClasses registry after limit) := by
  unfold SessionStore.applyListClasses ClassRegistry.list
  split
  · rename_i page listed
    split at listed
    · cases listed
    · rename_i sized
      cases listed
      simp only [Bool.or_eq_true, Bool.not_eq_true', not_or, Bool.not_eq_false] at sized
      have bounded := validPageSize_le sized.2
      have part : ((registry.after after).take limit.toNat).Sublist registry.definitions :=
        (List.take_sublist _ _).trans (List.dropWhile_sublist _)
      exact {
        few := by
          simp only [List.length_map, List.length_take]
          omega
        valid := by
          intro name member
          obtain ⟨definition, taken, rfl⟩ := List.mem_map.mp member
          have registered := registrable_registered
            (registry.valid definition (part.subset taken))
          exact ((validDescription_iff _).mp registered.description).name
        increasing := List.pairwise_map.mpr (registry.sorted.sublist part)
        cursor := by
          dsimp only
          split
          · exact Or.inl rfl
          · rw [List.getLastD_eq_getLast?]
            cases (List.map (fun x => x.name) ((registry.after after).take limit.toNat)).getLast? with
            | none => exact Or.inl rfl
            | some name => exact Or.inr rfl }
  · exact listClasses_fixed registry after limit _ (by
      unfold SessionStore.applyListClasses ClassRegistry.list
      rename_i failed
      rw [failed])

/-- A description that is returned was valid when it was registered. -/
theorem describeClass_sound (name : Bytes) :
    SoundOutcome (SessionStore.applyDescribeClass registry name) := by
  unfold SessionStore.applyDescribeClass
  split
  · exact ⟨_, rfl⟩
  · split
    · exact ⟨_, rfl⟩
    · rename_i found
      exact (find_registered found).1.description

theorem getValue_sound (sound : Sound registry ids store) (id : UInt64) :
    SoundOutcome (store.applyGetValue id) := by
  unfold SessionStore.applyGetValue
  split
  · exact ⟨_, rfl⟩
  · rename_i nonzero
    split
    · exact ⟨_, rfl⟩
    · rename_i found
      exact ⟨nonzero, sound.values_valid _ _ found⟩

/-- A state of the declared shape is a valid list within the class bound. -/
theorem stateMatches_spec {definition : ClassDefinition} {state : List NamedValue}
    (shaped : stateMatches definition state = true) :
    validNamedValues state = true ∧ stateCharge state ≤ definition.maxStateBytes := by
  unfold stateMatches at shaped
  split at shaped
  · cases shaped
  · rename_i lists
    split at shaped
    · cases shaped
    · simp only [Bool.or_eq_true, Bool.not_eq_true', not_or, Bool.not_eq_false] at lists
      exact ⟨lists.2, of_decide_eq_true shaped⟩

/-- The state of an object is within the limit of its class. -/
theorem snapshot_sound {definition : ClassDefinition} {className : Bytes}
    (found : registry.find className = some definition) {state : List NamedValue}
    (shaped : stateMatches definition state = true) {id : UInt64} (nonzero : id ≠ 0) :
    SoundSnapshot ⟨id, className, state⟩ := by
  obtain ⟨registered, rfl⟩ := find_registered found
  obtain ⟨valid, charged⟩ := stateMatches_spec shaped
  exact ⟨nonzero, ((validDescription_iff _).mp registered.description).name, valid,
    Nat.le_trans charged registered.stateBound⟩

/-- An object that is returned has the shape its class declares. -/
theorem getObject_sound (sound : Sound registry ids store) (id : UInt64) :
    SoundOutcome (store.applyGetObject id) := by
  unfold SessionStore.applyGetObject
  split
  · exact ⟨_, rfl⟩
  · rename_i nonzero
    split
    · exact ⟨_, rfl⟩
    · rename_i entry found
      have object := sound.objects_sound _ _ found
      split
      · exact ⟨_, rfl⟩
      · exact snapshot_sound object.registered object.shaped nonzero

/-- An attribute that is returned is a valid value. -/
theorem getAttribute_sound (sound : Sound registry ids store) (id : UInt64) (name : Bytes) :
    SoundOutcome (store.applyGetAttribute id name) := by
  have snapshot := getObject_sound sound id
  unfold SessionStore.applyGetAttribute
  split
  · exact ⟨_, rfl⟩
  · split
    · rename_i returned
      rw [returned] at snapshot
      split
      · exact ⟨_, rfl⟩
      · rename_i found
        have valid := ((validNamedValues_iff _).mp snapshot.state).2.2
        exact valid _ (findNamed_mem found).1
    · exact snapshot

/-- Every operation on a sound store returns a sound outcome. -/
theorem execute_soundOutcome (sound : Sound registry ids store) (operation : Operation) :
    SoundOutcome (store.execute registry ids operation).outcome := by
  by_cases reads : Operation.reads operation = true
  · unfold SessionStore.execute
    split
    · exact ⟨_, rfl⟩
    · cases operation with
      | listClasses after limit => exact listClasses_sound after limit
      | describeClass name => exact describeClass_sound name
      | getValue id => exact getValue_sound sound id
      | listValues after limit => exact listValues_sound sound after limit
      | getObject id => exact getObject_sound sound id
      | getAttribute id name => exact getAttribute_sound sound id name
      | _ => cases reads
  · have effect := execute_effect registry store ids operation
    generalize store.execute registry ids operation = done at effect
    cases effect with
    | failed _ code => exact ⟨code, rfl⟩
    | answered _ _ _ reading => exact absurd reading reads
    | put data id ids' opened valid room fits drawn =>
      exact ⟨(IdentifierSource.next_spec drawn).2.1, valid⟩
    | created className arguments definition factory object id ids' opened named found matched room
        callable made shaped fits drawn =>
      exact snapshot_sound found shaped (IdentifierSource.next_spec drawn).2.1
    | released id entry opened nonzero found => exact trivial
    | invoked id name arguments entry method data candidate opened nonzero named found declared
        matched called valid kind shaped fits =>
      exact valid

end

end PipeForge.Domain
