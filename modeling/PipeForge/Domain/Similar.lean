import PipeForge.Domain.Identity
import PipeForge.Library.KeyRenaming

/-!
# Stores that differ in their identifiers

A session's program cannot contain identifiers: it names them by the order in
which the session was issued them. Two stores are similar when they hold the same
contents under the identifiers issued at the same positions. Executing one command
on both keeps them similar and is answered alike (`execute_twin`), whatever the two
sources have issued to others: similarity is a bisimulation under the renaming.
-/

namespace PipeForge.Domain
open Contracts Library

/-! ## Programs -/

/-- Zero, or the identifier issued to this session at a position. -/
abbrev Reference := Option Nat

/-- A position not issued yet has no identifier and stands for zero as well. -/
def Reference.resolve (issued : List UInt64) : Reference → UInt64
  | none => 0
  | some position => issued[position]?.getD 0

/-- An operation whose identifiers and value cursor are references. -/
inductive Command where
  | listClasses (after : Bytes) (limit : UInt32)
  | describeClass (name : Bytes)
  | putValue (data : Value)
  | getValue (id : Reference)
  | listValues (after : Reference) (limit : UInt32)
  | createObject (className : Bytes) (arguments : List NamedValue)
  | getObject (id : Reference)
  | releaseObject (id : Reference)
  | getAttribute (id : Reference) (name : Bytes)
  | invokeMethod (id : Reference) (name : Bytes) (arguments : List NamedValue)
  deriving DecidableEq, Repr

def Command.resolve (issued : List UInt64) : Command → Operation
  | .listClasses after limit => .listClasses after limit
  | .describeClass name => .describeClass name
  | .putValue data => .putValue data
  | .getValue id => .getValue (Reference.resolve issued id)
  | .listValues after limit => .listValues (Reference.resolve issued after) limit
  | .createObject className arguments => .createObject className arguments
  | .getObject id => .getObject (Reference.resolve issued id)
  | .releaseObject id => .releaseObject (Reference.resolve issued id)
  | .getAttribute id name => .getAttribute (Reference.resolve issued id) name
  | .invokeMethod id name arguments => .invokeMethod (Reference.resolve issued id) name arguments

/-! ## Renaming -/

/-- The identifiers issued at one position, and zero as itself. -/
def Renames (issued issued' : List UInt64) (id id' : UInt64) : Prop :=
  (id = 0 ∧ id' = 0) ∨ ∃ position : Nat, issued[position]? = some id ∧ issued'[position]? = some id'

/-- Equal up to a relation between identifiers. -/
def OutcomeRenames (r : UInt64 → UInt64 → Prop) : Outcome → Outcome → Prop
  | .valueRecord record, .valueRecord record' =>
    r record.id record'.id ∧ record.data = record'.data
  | .values page, .values page' =>
    List.Forall₂ (fun record record' => r record.id record'.id ∧ record.data = record'.data)
      page.values page'.values ∧ r page.next page'.next
  | .object snapshot, .object snapshot' =>
    r snapshot.id snapshot'.id ∧ snapshot.className = snapshot'.className ∧
      snapshot.state = snapshot'.state
  | outcome, outcome' => outcome = outcome'

/-- Strictly increasing and never zero. -/
structure Increasing (issued : List UInt64) : Prop where
  sorted : issued.Pairwise (· < ·)
  nonzero : ∀ id ∈ issued, id ≠ 0

section
variable {issued issued' : List UInt64}

/-- Identifiers drawn later do not change how earlier ones correspond. -/
theorem renames_mono {more more' : List UInt64} {id id' : UInt64}
    (renames : Renames issued issued' id id') :
    Renames (issued ++ more) (issued' ++ more') id id' := by
  rcases renames with zero | ⟨position, here, there⟩
  · exact Or.inl zero
  · refine Or.inr ⟨position, ?_, ?_⟩
    · rw [List.getElem?_append_left (List.getElem?_eq_some_iff.mp here).1]
      exact here
    · rw [List.getElem?_append_left (List.getElem?_eq_some_iff.mp there).1]
      exact there

theorem renames_last (same : issued.length = issued'.length) (id id' : UInt64) :
    Renames (issued ++ [id]) (issued' ++ [id']) id id' :=
  Or.inr ⟨issued.length, by simp, by simp [same]⟩

/-- A reference means corresponding identifiers in both runs. -/
theorem renames_resolve (same : issued.length = issued'.length) (reference : Reference) :
    Renames issued issued' (reference.resolve issued) (reference.resolve issued') := by
  cases reference with
  | none => exact Or.inl ⟨rfl, rfl⟩
  | some position =>
    by_cases inside : position < issued.length
    · have inside' : position < issued'.length := same ▸ inside
      refine Or.inr ⟨position, ?_, ?_⟩
      · simp [Reference.resolve, inside]
      · simp [Reference.resolve, inside']
    · have outside' : ¬ position < issued'.length := same ▸ inside
      refine Or.inl ⟨?_, ?_⟩
      · simp [Reference.resolve, List.getElem?_eq_none (Nat.le_of_not_lt inside)]
      · simp [Reference.resolve, List.getElem?_eq_none (Nat.le_of_not_lt outside')]

/-- Identifiers compare as the positions they were drawn at. -/
theorem Increasing.lt_iff (increasing : Increasing issued) {i j : Nat} {a b : UInt64}
    (first : issued[i]? = some a) (second : issued[j]? = some b) : a < b ↔ i < j := by
  obtain ⟨insideI, rfl⟩ := List.getElem?_eq_some_iff.mp first
  obtain ⟨insideJ, rfl⟩ := List.getElem?_eq_some_iff.mp second
  have ordered := List.pairwise_iff_getElem.mp increasing.sorted
  rcases Nat.lt_trichotomy i j with less | equal | more
  · exact ⟨fun _ => less, fun _ => ordered i j insideI insideJ less⟩
  · subst equal
    exact ⟨fun less => absurd less (UInt64.lt_irrefl _), fun less => absurd less (Nat.lt_irrefl _)⟩
  · refine ⟨fun less => ?_, fun less => absurd less (Nat.lt_asymm more)⟩
    exact absurd (UInt64.lt_trans less (ordered j i insideJ insideI more)) (UInt64.lt_irrefl _)

theorem Increasing.pos (increasing : Increasing issued) {i : Nat} {a : UInt64}
    (found : issued[i]? = some a) : 0 < a :=
  UInt64.pos_iff_ne_zero.mpr (increasing.nonzero a (List.mem_of_getElem? found))

/-- Both sessions were issued their identifiers in the same order. -/
theorem renames_aligned (increasing : Increasing issued) (increasing' : Increasing issued') :
    Aligned (Renames issued issued') := by
  intro a a' b b' first second
  rcases first with ⟨rfl, rfl⟩ | ⟨i, here, there⟩
  · rcases second with ⟨rfl, rfl⟩ | ⟨j, here', there'⟩
    · exact Iff.rfl
    · exact iff_of_true (increasing.pos here') (increasing'.pos there')
  · rcases second with ⟨rfl, rfl⟩ | ⟨j, here', there'⟩
    · exact iff_of_false UInt64.not_lt_zero UInt64.not_lt_zero
    · rw [increasing.lt_iff here here', increasing'.lt_iff there there']

end

/-! ## One command on similar stores -/

/-- The same contents under corresponding identifiers. -/
structure Similar (issued issued' : List UInt64) (store store' : SessionStore) : Prop where
  length : issued.length = issued'.length
  limits : store.limits = store'.limits
  used : store.used = store'.used
  closed : store.closed = store'.closed
  values : OrderedMap.Corresponds (Renames issued issued') store.values store'.values
  objects : OrderedMap.Corresponds (Renames issued issued') store.objects store'.objects

/-- Corresponding ends of an operation, its own allocation included. -/
structure Twin (session : Nat) (issued issued' : List UInt64) (operation operation' : Operation)
    (done done' : Executed) : Prop where
  similar : Similar (issued ++ allocated [⟨session, operation, done.outcome⟩])
    (issued' ++ allocated [⟨session, operation', done'.outcome⟩]) done.store done'.store
  outcome : OutcomeRenames (Renames (issued ++ allocated [⟨session, operation, done.outcome⟩])
    (issued' ++ allocated [⟨session, operation', done'.outcome⟩])) done.outcome done'.outcome

section
variable {registry : ClassRegistry} {session : Nat} {issued issued' : List UInt64}
  {store store' : SessionStore} {ids ids' : IdentifierSource} {operation operation' : Operation}

/-- An operation that draws nothing leaves the correspondence as it is. -/
theorem twin_silent {done done' : Executed} (similar : Similar issued issued' done.store done'.store)
    (renamed : OutcomeRenames (Renames issued issued') done.outcome done'.outcome)
    (silent : Event.allocates ⟨session, operation, done.outcome⟩ = none)
    (silent' : Event.allocates ⟨session, operation', done'.outcome⟩ = none) :
    Twin session issued issued' operation operation' done done' := by
  have none : allocated [⟨session, operation, done.outcome⟩] = [] := by simp [allocated, silent]
  have none' : allocated [⟨session, operation', done'.outcome⟩] = [] := by simp [allocated, silent']
  constructor
  · rw [none, none', List.append_nil, List.append_nil]
    exact similar
  · rw [none, none', List.append_nil, List.append_nil]
    exact renamed

theorem twin_fail (similar : Similar issued issued' store store') (code : ErrorCode) :
    Twin session issued issued' operation operation' (store.fail ids code)
      (store'.fail ids' code) :=
  twin_silent similar rfl (allocates_failed session operation _)
    (allocates_failed session operation' _)

theorem twin_answer (similar : Similar issued issued' store store') {outcome outcome' : Outcome}
    (renamed : OutcomeRenames (Renames issued issued') outcome outcome')
    (reads : Operation.reads operation = true) (reads' : Operation.reads operation' = true) :
    Twin session issued issued' operation operation' (store.answer ids outcome)
      (store'.answer ids' outcome') :=
  twin_silent similar renamed (allocates_read session outcome reads)
    (allocates_read session outcome' reads')

/-- Both sides take the same branch. -/
theorem twin_ite {condition condition' : Prop} [Decidable condition] [Decidable condition']
    {yes yes' no no' : Executed} (same : condition ↔ condition')
    (first : condition → Twin session issued issued' operation operation' yes yes')
    (second : ¬ condition → Twin session issued issued' operation operation' no no') :
    Twin session issued issued' operation operation' (if condition then yes else no)
      (if condition' then yes' else no') := by
  by_cases holds : condition
  · rw [if_pos holds, if_pos (same.mp holds)]
    exact first holds
  · rw [if_neg holds, if_neg fun holds' => holds (same.mpr holds')]
    exact second holds

/-- A session's identifiers as one run has issued them, and a source that is not
exhausted. -/
structure Holding (issued : List UInt64) (ids : IdentifierSource) : Prop where
  increasing : Increasing issued
  issued : ∀ id ∈ issued, ids.issued id
  live : ids.next_ ≠ 0

/-- The next identifier is larger than all that were drawn. -/
theorem Holding.next (holding : Holding issued ids) : Increasing (issued ++ [ids.next_]) where
  sorted := by
    rw [List.pairwise_append]
    refine ⟨holding.increasing.sorted, List.pairwise_singleton _ _, ?_⟩
    intro old member new singleton
    rw [List.mem_singleton.mp singleton]
    exact (holding.issued old member).2.resolve_left holding.live
  nonzero id member := by
    rcases List.mem_append.mp member with old | new
    · exact holding.increasing.nonzero id old
    · rw [List.mem_singleton.mp new]
      exact holding.live

/-- Corresponding identifiers are ordered alike, which is what the maps need. -/
theorem Holding.aligned (holding : Holding issued ids) (holding' : Holding issued' ids') :
    Aligned (Renames issued issued') :=
  renames_aligned holding.increasing holding'.increasing

/-- Both sources issue; the new identifiers correspond. -/
theorem Similar.emplace_value (similar : Similar issued issued' store store')
    (holding : Holding issued ids) (holding' : Holding issued' ids') (data : Value) (used : Nat) :
    Similar (issued ++ [ids.next_]) (issued' ++ [ids'.next_])
      { store with values := store.values.emplace ids.next_ data, used }
      { store' with values := store'.values.emplace ids'.next_ data, used } where
  length := by simp [similar.length]
  limits := similar.limits
  used := rfl
  closed := similar.closed
  values := (similar.values.mono fun _ _ => renames_mono).emplace
    (renames_aligned holding.next holding'.next) (renames_last similar.length _ _) data
  objects := similar.objects.mono fun _ _ => renames_mono

/-- Two objects created alike under corresponding identifiers leave similar stores. -/
theorem Similar.emplace_object (similar : Similar issued issued' store store')
    (holding : Holding issued ids) (holding' : Holding issued' ids') (entry : StoredObject)
    (used : Nat) :
    Similar (issued ++ [ids.next_]) (issued' ++ [ids'.next_])
      { store with objects := store.objects.emplace ids.next_ entry, used }
      { store' with objects := store'.objects.emplace ids'.next_ entry, used } where
  length := by simp [similar.length]
  limits := similar.limits
  used := rfl
  closed := similar.closed
  values := similar.values.mono fun _ _ => renames_mono
  objects := (similar.objects.mono fun _ _ => renames_mono).emplace
    (renames_aligned holding.next holding'.next) (renames_last similar.length _ _) entry

/-- Putting a value is answered alike, since the quota counts bytes and slots and no identifier.
-/
theorem putValue_twin (similar : Similar issued issued' store store')
    (holding : Holding issued ids) (holding' : Holding issued' ids') (data : Value) :
    Twin session issued issued' (.putValue data) (.putValue data)
      (store.applyPutValue ids data) (store'.applyPutValue ids' data) := by
  obtain ⟨later, drawn⟩ := IdentifierSource.next_live holding.live
  obtain ⟨later', drawn'⟩ := IdentifierSource.next_live holding'.live
  unfold SessionStore.applyPutValue
  refine twin_ite Iff.rfl (fun _ => twin_fail similar _) fun _ => ?_
  refine twin_ite ?_ (fun _ => twin_fail similar _) fun _ => ?_
  · rw [similar.values.size_eq, similar.limits, similar.used]
  · rw [drawn, drawn', similar.used]
    exact ⟨similar.emplace_value holding holding' data _, renames_last similar.length _ _, rfl⟩

theorem createObject_twin (similar : Similar issued issued' store store')
    (holding : Holding issued ids) (holding' : Holding issued' ids') (className : Bytes)
    (arguments : List NamedValue) :
    Twin session issued issued' (.createObject className arguments)
      (.createObject className arguments) (store.applyCreateObject registry ids className arguments)
      (store'.applyCreateObject registry ids' className arguments) := by
  obtain ⟨later, drawn⟩ := IdentifierSource.next_live holding.live
  obtain ⟨later', drawn'⟩ := IdentifierSource.next_live holding'.live
  unfold SessionStore.applyCreateObject
  refine twin_ite Iff.rfl (fun _ => twin_fail similar _) fun _ => ?_
  cases registry.find className with
  | none => exact twin_fail similar _
  | some definition =>
    refine twin_ite Iff.rfl (fun _ => twin_fail similar _) fun _ => ?_
    refine twin_ite ?_ (fun _ => twin_fail similar _) fun _ => ?_
    · rw [similar.objects.size_eq, similar.limits]
    · cases definition.create with
      | none => exact twin_fail similar _
      | some factory =>
        dsimp only
        cases factory arguments with
        | error error => exact twin_fail similar _
        | ok made =>
          cases made with
          | none => exact twin_fail similar _
          | some created =>
            refine twin_ite Iff.rfl (fun _ => twin_fail similar _) fun _ => ?_
            refine twin_ite ?_ (fun _ => twin_fail similar _) fun _ => ?_
            · rw [similar.limits, similar.used]
            · rw [drawn, drawn', similar.used]
              exact ⟨similar.emplace_object holding holding' _ _, renames_last similar.length _ _,
                rfl, rfl⟩

theorem getValue_twin (similar : Similar issued issued' store store')
    (holding : Holding issued ids) (holding' : Holding issued' ids') {id id' : UInt64}
    (renamed : Renames issued issued' id id') :
    OutcomeRenames (Renames issued issued') (store.applyGetValue id) (store'.applyGetValue id') := by
  have aligned := holding.aligned holding'
  have zero := OrderedMap.aligned_eq_iff aligned renamed (Or.inl ⟨rfl, rfl⟩)
  unfold SessionStore.applyGetValue
  rw [← similar.values.find_eq aligned renamed]
  by_cases none : id = 0
  · rw [if_pos none, if_pos (zero.mp none)]
    exact rfl
  · rw [if_neg none, if_neg fun none' => none (zero.mpr none')]
    cases store.values.find id with
    | none => exact rfl
    | some data => exact ⟨renamed, rfl⟩

/-- Pages are cut by sizes, so they are cut at the same entry. -/
theorem fillPage_twin (r : UInt64 → UInt64 → Prop) (limit : Nat)
    {entries entries' : List (UInt64 × Value)}
    (matched : List.Forall₂ (fun e e' => r e.1 e'.1 ∧ e.2 = e'.2) entries entries')
    (taken bytes : Nat) :
    List.Forall₂ (fun record record' => r record.id record'.id ∧ record.data = record'.data)
      (SessionStore.fillPage limit taken bytes entries).1
      (SessionStore.fillPage limit taken bytes entries').1 ∧
    (SessionStore.fillPage limit taken bytes entries).2.length =
      (SessionStore.fillPage limit taken bytes entries').2.length := by
  induction matched generalizing taken bytes with
  | nil => exact ⟨.nil, rfl⟩
  | @cons e e' rest rest' entry others ih =>
    have remaining : ((e.1, e.2) :: rest).length = ((e'.1, e'.2) :: rest').length :=
      congrArg (· + 1) others.length_eq
    unfold SessionStore.fillPage
    rw [← entry.2]
    by_cases room : taken < limit
    · rw [if_pos room, if_pos room]
      by_cases full : valueCharge e.2 > SizeT.sub pageByteBudget bytes
      · rw [if_pos full, if_pos full]
        exact ⟨.nil, remaining⟩
      · rw [if_neg full, if_neg full]
        obtain ⟨later, left⟩ := ih (taken + 1) (bytes + valueCharge e.2)
        exact ⟨.cons ⟨entry.1, rfl⟩ later, left⟩
    · rw [if_neg room, if_neg room]
      exact ⟨.nil, remaining⟩

/-- The last records of corresponding pages correspond. -/
theorem cursor_twin (r : UInt64 → UInt64 → Prop) (zero : r 0 0) {records records' : List ValueRecord}
    (matched : List.Forall₂
      (fun record record' => r record.id record'.id ∧ record.data = record'.data) records records') :
    r ((records.getLast?.map (·.id)).getD 0) ((records'.getLast?.map (·.id)).getD 0) := by
  have reversed := List.rel_reverse matched
  rw [← List.head?_reverse, ← List.head?_reverse]
  generalize records.reverse = back at reversed
  generalize records'.reverse = back' at reversed
  cases reversed with
  | nil => exact zero
  | cons last _ => exact last.1

theorem listValues_twin (similar : Similar issued issued' store store')
    (holding : Holding issued ids) (holding' : Holding issued' ids') {after after' : UInt64}
    (renamed : Renames issued issued' after after') (limit : UInt32) :
    OutcomeRenames (Renames issued issued') (store.applyListValues after limit)
      (store'.applyListValues after' limit) := by
  have zero : Renames issued issued' 0 0 := Or.inl ⟨rfl, rfl⟩
  obtain ⟨records, left⟩ := fillPage_twin _ limit.toNat
    (similar.values.after (holding.aligned holding') renamed) 0 0
  unfold SessionStore.applyListValues
  split
  · exact rfl
  · refine ⟨records, ?_⟩
    dsimp only
    have ended : (SessionStore.fillPage limit.toNat 0 0 (store.values.after after)).2.isEmpty =
        (SessionStore.fillPage limit.toNat 0 0 (store'.values.after after')).2.isEmpty := by
      rw [Bool.eq_iff_iff, List.isEmpty_iff_length_eq_zero, List.isEmpty_iff_length_eq_zero, left]
    rw [← ended]
    split
    · exact zero
    · exact cursor_twin _ zero records

theorem getObject_twin (similar : Similar issued issued' store store')
    (holding : Holding issued ids) (holding' : Holding issued' ids') {id id' : UInt64}
    (renamed : Renames issued issued' id id') :
    OutcomeRenames (Renames issued issued') (store.applyGetObject id)
      (store'.applyGetObject id') := by
  have aligned := holding.aligned holding'
  have zero := OrderedMap.aligned_eq_iff aligned renamed (Or.inl ⟨rfl, rfl⟩)
  unfold SessionStore.applyGetObject
  rw [← similar.objects.find_eq aligned renamed]
  by_cases none : id = 0
  · rw [if_pos none, if_pos (zero.mp none)]
    exact rfl
  · rw [if_neg none, if_neg fun none' => none (zero.mpr none')]
    cases store.objects.find id with
    | none => exact rfl
    | some entry =>
      dsimp only
      split
      · exact rfl
      · exact ⟨renamed, rfl, rfl⟩

theorem getAttribute_twin (similar : Similar issued issued' store store')
    (holding : Holding issued ids) (holding' : Holding issued' ids') {id id' : UInt64}
    (renamed : Renames issued issued' id id') (name : Bytes) :
    OutcomeRenames (Renames issued issued') (store.applyGetAttribute id name)
      (store'.applyGetAttribute id' name) := by
  have snapshots := getObject_twin similar holding holding' renamed
  unfold SessionStore.applyGetAttribute
  split
  · exact rfl
  · generalize store.applyGetObject id = found at snapshots
    generalize store'.applyGetObject id' = found' at snapshots
    split
    · rename_i snapshot
      cases found' with
      | object snapshot' =>
        obtain ⟨-, -, state⟩ := snapshots
        rw [state]
        dsimp only
        split <;> exact rfl
      | _ => cases snapshots
    · rename_i other
      split
      · rename_i snapshot'
        cases found with
        | object snapshot => exact absurd rfl (other snapshot)
        | _ => cases snapshots
      · exact snapshots

theorem releaseObject_twin (similar : Similar issued issued' store store')
    (holding : Holding issued ids) (holding' : Holding issued' ids') {id id' : UInt64}
    (renamed : Renames issued issued' id id') :
    Twin session issued issued' (.releaseObject id) (.releaseObject id')
      (store.applyReleaseObject ids id) (store'.applyReleaseObject ids' id') := by
  have aligned := holding.aligned holding'
  have zero := OrderedMap.aligned_eq_iff aligned renamed (Or.inl ⟨rfl, rfl⟩)
  unfold SessionStore.applyReleaseObject
  refine twin_ite zero (fun _ => twin_fail similar _) fun _ => ?_
  rw [← similar.objects.find_eq aligned renamed]
  cases store.objects.find id with
  | none => exact twin_fail similar _
  | some entry =>
    refine twin_silent ?_ rfl rfl rfl
    exact { similar with
      used := congrArg (SizeT.sub · entry.charge) similar.used
      objects := similar.objects.erase aligned renamed }

/-- A method sees its object and its arguments, and these are the same in both. -/
theorem invokeMethod_twin (similar : Similar issued issued' store store')
    (holding : Holding issued ids) (holding' : Holding issued' ids') {id id' : UInt64}
    (renamed : Renames issued issued' id id') (name : Bytes) (arguments : List NamedValue) :
    Twin session issued issued' (.invokeMethod id name arguments) (.invokeMethod id' name arguments)
      (store.applyInvokeMethod ids id name arguments)
      (store'.applyInvokeMethod ids' id' name arguments) := by
  have aligned := holding.aligned holding'
  have zero := OrderedMap.aligned_eq_iff aligned renamed (Or.inl ⟨rfl, rfl⟩)
  unfold SessionStore.applyInvokeMethod
  refine twin_ite ?_ (fun _ => twin_fail similar _) fun _ => ?_
  · rw [Bool.or_eq_true, Bool.or_eq_true, decide_eq_true_iff, decide_eq_true_iff, zero]
  rw [← similar.objects.find_eq aligned renamed]
  cases store.objects.find id with
  | none => exact twin_fail similar _
  | some entry =>
    dsimp only
    cases entry.definition.description.methods.find? _ with
    | none => exact twin_fail similar _
    | some method =>
      refine twin_ite Iff.rfl (fun _ => twin_fail similar _) fun _ => ?_
      cases entry.instance_.clone with
      | none => exact twin_fail similar _
      | some copy =>
        dsimp only
        obtain ⟨returned, candidate⟩ := copy.invoke name arguments
        cases returned with
        | error error => exact twin_fail similar _
        | ok data =>
          refine twin_ite Iff.rfl (fun _ => twin_fail similar _) fun _ => ?_
          refine twin_ite ?_ (fun _ => twin_fail similar _) fun _ => ?_
          · rw [similar.limits, similar.used]
          · refine twin_silent ?_ rfl rfl rfl
            exact { similar with
              used := by rw [similar.used]
              objects := similar.objects.assign aligned renamed _ }

/-- One command keeps the stores similar and is answered alike. -/
theorem execute_twin (similar : Similar issued issued' store store')
    (holding : Holding issued ids) (holding' : Holding issued' ids') (command : Command) :
    Twin session issued issued' (command.resolve issued) (command.resolve issued')
      (store.execute registry ids (command.resolve issued))
      (store'.execute registry ids' (command.resolve issued')) := by
  unfold SessionStore.execute
  refine twin_ite ?_ (fun _ => twin_fail similar _) fun _ => ?_
  · rw [similar.closed]
  have reference := renames_resolve similar.length
  cases command with
  | listClasses after limit =>
    have same : ∀ outcome : Outcome, outcome = SessionStore.applyListClasses registry after limit →
        OutcomeRenames (Renames issued issued') outcome outcome := by
      intro outcome listed
      unfold SessionStore.applyListClasses at listed
      split at listed <;> subst listed <;> exact rfl
    exact twin_answer similar (same _ rfl) rfl rfl
  | describeClass name =>
    have same : ∀ outcome : Outcome, outcome = SessionStore.applyDescribeClass registry name →
        OutcomeRenames (Renames issued issued') outcome outcome := by
      intro outcome described
      unfold SessionStore.applyDescribeClass at described
      repeat' split at described
      all_goals subst described; exact rfl
    exact twin_answer similar (same _ rfl) rfl rfl
  | putValue data => exact putValue_twin similar holding holding' data
  | getValue id =>
    exact twin_answer similar (getValue_twin similar holding holding' (reference id)) rfl rfl
  | listValues after limit =>
    exact twin_answer similar (listValues_twin similar holding holding' (reference after) limit)
      rfl rfl
  | createObject className arguments =>
    exact createObject_twin similar holding holding' className arguments
  | getObject id =>
    exact twin_answer similar (getObject_twin similar holding holding' (reference id)) rfl rfl
  | releaseObject id => exact releaseObject_twin similar holding holding' (reference id)
  | getAttribute id name =>
    exact twin_answer similar (getAttribute_twin similar holding holding' (reference id) name)
      rfl rfl
  | invokeMethod id name arguments =>
    exact invokeMethod_twin similar holding holding' (reference id) name arguments

end

end PipeForge.Domain
