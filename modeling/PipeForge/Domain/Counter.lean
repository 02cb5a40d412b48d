import PipeForge.Domain.BuiltinContracts

/-!
# Counters count exactly

The guard of `increment` decides overflow exactly and evaluates nothing that
overflows itself. A counter's state never changes size, so no quota stands in the
way of an increment, and a live counter is its initial value plus the increments
that returned, as mathematical integers.
-/

namespace PipeForge.Domain
open Contracts Library

/-! ## Arithmetic -/

/-- The sum is representable. -/
def Fits (value delta : Int64) : Prop :=
  -2 ^ 63 ≤ value.toInt + delta.toInt ∧ value.toInt + delta.toInt < 2 ^ 63

instance (value delta : Int64) : Decidable (Fits value delta) := inferInstanceAs (Decidable (_ ∧ _))

theorem toInt_add_eq {value delta : Int64} (fits : Fits value delta) :
    (value + delta).toInt = value.toInt + delta.toInt := by
  obtain ⟨low, high⟩ := fits
  rw [Int64.toInt_add]
  exact Int.bmod_eq_of_le (by omega) (by omega)

theorem toInt_sub_eq {bound delta : Int64} (low : -2 ^ 63 ≤ bound.toInt - delta.toInt)
    (high : bound.toInt - delta.toInt < 2 ^ 63) :
    (bound - delta).toInt = bound.toInt - delta.toInt := by
  rw [Int64.toInt_sub]
  exact Int.bmod_eq_of_le (by omega) (by omega)

/-- The code's comparison with the maximum does not wrap for a positive delta. -/
theorem toInt_max_sub {delta : Int64} (positive : delta > 0) :
    (Int64.maxValue - delta).toInt = Int64.maxValue.toInt - delta.toInt := by
  have above : 0 < delta.toInt := Int64.lt_iff_toInt_lt.mp positive
  have bound := delta.toInt_lt
  have top : Int64.maxValue.toInt = 2 ^ 63 - 1 := by decide
  exact toInt_sub_eq (by omega) (by omega)

theorem toInt_min_sub {delta : Int64} (negative : delta < 0) :
    (Int64.minValue - delta).toInt = Int64.minValue.toInt - delta.toInt := by
  have below : delta.toInt < 0 := Int64.lt_iff_toInt_lt.mp negative
  have bound := delta.le_toInt
  have bottom : Int64.minValue.toInt = -2 ^ 63 := by decide
  exact toInt_sub_eq (by omega) (by omega)

/-- The guard of `increment` refuses exactly the sums that do not fit. -/
theorem guard_iff (value delta : Int64) :
    ((delta > 0 ∧ value > Int64.maxValue - delta) ∨ (delta < 0 ∧ value < Int64.minValue - delta)) ↔
      ¬ Fits value delta := by
  have top : Int64.maxValue.toInt = 2 ^ 63 - 1 := by decide
  have bottom : Int64.minValue.toInt = -2 ^ 63 := by decide
  have low := value.le_toInt
  have high := value.toInt_lt
  have zero : (0 : Int64).toInt = 0 := by decide
  constructor
  · intro refused fits
    rcases refused with ⟨positive, above⟩ | ⟨negative, below⟩
    · have exceeds := Int64.lt_iff_toInt_lt.mp above
      rw [toInt_max_sub positive] at exceeds
      have high := fits.2
      omega
    · have exceeds := Int64.lt_iff_toInt_lt.mp below
      rw [toInt_min_sub negative] at exceeds
      have low := fits.1
      omega
  · intro outside
    have sign : 2 ^ 63 ≤ value.toInt + delta.toInt ∨ value.toInt + delta.toInt < -2 ^ 63 := by
      by_contra inside
      exact outside ⟨by omega, by omega⟩
    rcases sign with above | below
    · have positive : delta > 0 := Int64.lt_iff_toInt_lt.mpr (by rw [zero]; omega)
      refine Or.inl ⟨positive, Int64.lt_iff_toInt_lt.mpr ?_⟩
      rw [toInt_max_sub positive]
      omega
    · have negative : delta < 0 := Int64.lt_iff_toInt_lt.mpr (by rw [zero]; omega)
      refine Or.inr ⟨negative, Int64.lt_iff_toInt_lt.mpr ?_⟩
      rw [toInt_min_sub negative]
      omega

/-- The argument list of `increment`. -/
def deltaArgument (delta : Int64) : List NamedValue := [⟨ascii "delta", .integer delta⟩]

/-- `increment` adds where the sum fits and refuses where it does not, and a refusal leaves the
value. -/
theorem counterInvoke_delta (value delta : Int64) :
    counterInvoke value (ascii "increment") (deltaArgument delta) =
      if Fits value delta then (.ok (.integer (value + delta)), value + delta)
      else (.error (makeError .numericOverflow), value) := by
  have read : (singleArgument (deltaArgument delta) (ascii "delta")).bind integerOf = some delta := by
    simp [singleArgument, deltaArgument, validValue, integerOf]
  simp only [counterInvoke, ne_eq, not_true_eq_false, if_false, read, guard_iff, ite_not]

/-- Only an increment by an integer that fits returns a value. -/
theorem counterInvoke_ok {value : Int64} {name : Bytes} {arguments : List NamedValue} {data : Value}
    (returned : (counterInvoke value name arguments).1 = .ok data) :
    ∃ delta, name = ascii "increment" ∧ arguments = deltaArgument delta ∧ Fits value delta ∧
      data = .integer (value + delta) ∧ (counterInvoke value name arguments).2 = value + delta := by
  unfold counterInvoke at returned
  split at returned
  · cases returned
  · rename_i named
    split at returned
    · cases returned
    · rename_i delta read
      split at returned
      · cases returned
      · rename_i guard
        obtain ⟨argument, found, integer⟩ := Option.bind_eq_some_iff.mp read
        have same : arguments = deltaArgument delta := by
          rw [(singleArgument_some found).1, integerOf_some integer, deltaArgument]
        have fits := not_not.mp fun outside => guard ((guard_iff _ _).mpr outside)
        have increment := not_not.mp named
        cases returned
        subst same
        subst increment
        refine ⟨delta, rfl, rfl, fits, rfl, ?_⟩
        rw [counterInvoke_delta, if_pos fits]

/-- The errors of `increment` are ordinary ones. -/
theorem counterInvoke_error {value : Int64} {name : Bytes} {arguments : List NamedValue}
    {error : RemoteError} (failed : (counterInvoke value name arguments).1 = .error error) :
    Expected error.code := by
  unfold counterInvoke at failed
  split at failed
  · cases failed
    decide
  · split at failed
    · cases failed
      decide
    · split at failed
      · cases failed
        decide
      · cases failed

/-! ## Stored counters -/

def initialInteger (arguments : List NamedValue) : Option Int64 :=
  (singleArgument arguments (ascii "initial")).bind integerOf

theorem counter_parses : Parses counterDefinition initialInteger counterObject := by
  refine congrArg some (funext fun arguments => ?_)
  unfold initialInteger
  cases (singleArgument arguments (ascii "initial")).bind integerOf <;> rfl

theorem initialInteger_some {arguments : List NamedValue} {initial : Int64}
    (read : initialInteger arguments = some initial) :
    arguments = [⟨ascii "initial", .integer initial⟩] := by
  obtain ⟨argument, found, integer⟩ := Option.bind_eq_some_iff.mp read
  rw [(singleArgument_some found).1, integerOf_some integer]

/-- The state of a counter is the one its description declares. -/
theorem counter_matches (value : Int64) :
    stateMatches counterDefinition (counterObject value).state = true := rfl

theorem counter_charge (value : Int64) :
    objectCharge counterDefinition.name (counterObject value).state = 276 := rfl

/-- Counters stay counters, whatever is called on them. -/
theorem counter_wellBehaved : WellBehaved counterDefinition (Made counterObject) := by
  apply counter_parses.wellBehaved
  · exact fun _ initial _ => counter_matches initial
  · exact fun _ => rfl
  · intro value name arguments error candidate failed
    exact counterInvoke_error (congrArg Prod.fst failed)
  · intro value name arguments method data candidate matched declared invoked
    have result : (counterInvoke value name arguments).1 = .ok data := congrArg Prod.fst invoked
    obtain ⟨delta, rfl, rfl, -, rfl, next⟩ := counterInvoke_ok result
    have left : candidate = counterObject (value + delta) := by
      rw [← next]
      exact (congrArg Prod.snd invoked).symm
    rw [left]
    cases declared
    exact ⟨rfl, rfl, counter_matches _⟩
  · exact fun value name arguments => ⟨_, rfl⟩

/-- What `increment` does to a session that holds the counter, whatever its budget.
The guard subtracts only where the difference is representable. -/
structure IncrementExact (registry : ClassRegistry) (ids : IdentifierSource) (store : SessionStore)
    (id : UInt64) (entry : StoredObject) (value delta : Int64) : Prop where
  upper : delta > 0 → (Int64.maxValue - delta).toInt = Int64.maxValue.toInt - delta.toInt
  lower : delta < 0 → (Int64.minValue - delta).toInt = Int64.minValue.toInt - delta.toInt
  returns : Fits value delta → (value + delta).toInt = value.toInt + delta.toInt ∧
    store.execute registry ids (.invokeMethod id (ascii "increment") (deltaArgument delta)) =
      ⟨.value (.integer (value + delta)),
        { store with
          objects := store.objects.assign id { entry with instance_ := counterObject (value + delta) } },
        ids⟩
  refuses : ¬ Fits value delta →
    store.execute registry ids (.invokeMethod id (ascii "increment") (deltaArgument delta)) =
      store.fail ids .numericOverflow

/-- In a sound store an increment changes the one counter it names, by exactly the delta. -/
theorem increment_exact {registry : ClassRegistry} {ids : IdentifierSource} {store : SessionStore}
    (sound : Sound registry ids store) (opened : store.closed = false) {id : UInt64}
    {entry : StoredObject} (found : store.objects.find id = some entry)
    (definition : entry.definition = counterDefinition) {value : Int64}
    (current : entry.instance_ = counterObject value) (delta : Int64) :
    IncrementExact registry ids store id entry value delta := by
  have nonzero := (sound.objects_issued id entry found).1
  have named : validName (ascii "increment") false = true := by decide
  have declared : entry.definition.description.methods.find?
      (fun method => decide (method.name = ascii "increment")) =
        some ⟨ascii "increment", [⟨ascii "delta", .integer⟩], .integer⟩ := by
    rw [definition]
    decide
  have called : entry.instance_.invoke (ascii "increment") (deltaArgument delta) =
      ((counterInvoke value (ascii "increment") (deltaArgument delta)).1,
        counterObject (counterInvoke value (ascii "increment") (deltaArgument delta)).2) := by
    rw [current]
    rfl
  have cloned : entry.instance_.clone = some entry.instance_ := by
    rw [current]
    rfl
  rw [counterInvoke_delta] at called
  refine ⟨toInt_max_sub, toInt_min_sub, fun fits => ⟨toInt_add_eq fits, ?_⟩, fun outside => ?_⟩
  · rw [if_pos fits] at called
    -- The new state is charged what the old one was.
    have charge : objectCharge entry.definition.name (counterObject (value + delta)).state =
        entry.charge := by
      rw [(sound.objects_sound id entry found).charge, definition, current, counter_charge,
        counter_charge]
    have shaped : stateMatches entry.definition (counterObject (value + delta)).state = true := by
      rw [definition]
      exact counter_matches _
    have held := sound.charge_le found
    have used := sound.used_le
    rw [invoke_returned sound opened ⟨nonzero, named, found, ⟨_, declared, rfl, rfl⟩,
      by rw [cloned]; rfl, called, rfl, shaped⟩, charge, Nat.sub_add_cancel held, if_pos used]
  · rw [if_neg outside] at called
    exact invoke_failed opened nonzero named found declared rfl cloned called

/-! ## The value over a whole history -/

/-- The history creates the counter with an initial value, and the calls on it that
returned since then are increments that sum up to the rest. -/
def CounterSum (history : List Event) (session : Nat) (id : UInt64) (value : Int64) : Prop :=
  ∃ (initial : Int64) (later : List Event) (deltas : List Int64),
    Unreleased history session id (ascii "Counter") [⟨ascii "initial", .integer initial⟩] later ∧
    successfulCalls session id later =
      deltas.map (fun delta => (ascii "increment", deltaArgument delta)) ∧
    value.toInt = initial.toInt + (deltas.map Int64.toInt).sum

/-- Replaying calls that returned: every one is an increment that fitted. -/
theorem counter_calls {registry : ClassRegistry} {history earlier later : List Event}
    {event : Event} {session : Nat} {id : UInt64} {initial : Int64}
    (performed : Performed registry history) (unique : (allocated history).Pairwise (· < ·))
    (split : history = earlier ++ event :: later)
    (creates : event.touch session id =
      .creates (ascii "Counter") [⟨ascii "initial", .integer initial⟩])
    (constructed : construct registry (ascii "Counter") [⟨ascii "initial", .integer initial⟩] =
      some (counterDefinition, counterObject initial))
    (kept : ∀ other ∈ later, other.touch session id ≠ .releases) :
    ∃ (value : Int64) (deltas : List Int64),
      afterCalls (counterObject initial) (successfulCalls session id later) = counterObject value ∧
      successfulCalls session id later =
        deltas.map (fun delta => (ascii "increment", deltaArgument delta)) ∧
      value.toInt = initial.toInt + (deltas.map Int64.toInt).sum := by
  have issued := (touch_creates creates).2.2
  have fresh := allocated_later unique split issued
  -- Induction on the events since the creation, last one first.
  induction later using List.reverseRecOn generalizing history with
  | nil => exact ⟨initial, [], rfl, rfl, by simp⟩
  | append_singleton later last ih =>
    have shorter : history = (earlier ++ event :: later) ++ [last] := by
      rw [split]
      simp
    have before : Performed registry (earlier ++ event :: later) := by
      intro front other back divided
      exact performed front other (back ++ [last]) (by rw [shorter, divided]; simp)
    have ordered : (allocated (earlier ++ event :: later)).Pairwise (· < ·) := by
      rw [shorter, allocated, List.filterMap_append] at unique
      exact (List.pairwise_append.mp unique).1
    obtain ⟨value, deltas, reached, calls, total⟩ := ih before ordered rfl
      (fun other member => kept other (by simp [member]))
      (fun other member => fresh other (by simp [member]))
    cases touched : last.touch session id with
    | creates className arguments =>
      exact absurd (touch_creates touched).2.2 (fresh last (by simp))
    | releases => exact absurd touched (kept last (by simp))
    | other =>
      refine ⟨value, deltas, ?_, ?_, total⟩
      · rw [← reached]
        simp [successfulCalls, touched]
      · rw [← calls]
        simp [successfulCalls, touched]
    | invokes name arguments =>
      have replayed : replay registry session id (earlier ++ event :: later) =
          some (counterDefinition, counterObject value) := by
        rw [replay_created creates constructed
          (fun other member => kept other (by simp [member]))
          (fun other member => fresh other (by simp [member])), reached]
      obtain ⟨definition, object, data, found, returned⟩ :=
        performed (earlier ++ event :: later) last [] shorter session id name arguments touched
      cases Option.some.inj (replayed.symm.trans found)
      have result : (counterInvoke value name arguments).1 = .ok data := returned
      obtain ⟨delta, rfl, rfl, fits, -, next⟩ := counterInvoke_ok result
      refine ⟨value + delta, deltas ++ [delta], ?_, ?_, ?_⟩
      · have last' : afterCalls (counterObject value)
            [(ascii "increment", deltaArgument delta)] = counterObject (value + delta) := by
          rw [← next]
          rfl
        rw [← last', ← reached]
        simp [successfulCalls, touched, afterCalls]
      · rw [List.map_append, ← calls]
        simp [successfulCalls, touched]
      · rw [toInt_add_eq fits, total]
        simp [add_assoc]

/-- A counter begins with the value it was asked for. -/
theorem counter_constructed {registry : ClassRegistry}
    (registered : registry.find (ascii "Counter") = some counterDefinition)
    {arguments : List NamedValue} {created : Object}
    (constructed : construct registry (ascii "Counter") arguments =
      some (counterDefinition, created)) :
    ∃ initial, arguments = [⟨ascii "initial", .integer initial⟩] ∧
      created = counterObject initial := by
  unfold construct at constructed
  rw [registered] at constructed
  split at constructed
  · cases constructed
  · rename_i definition present
    cases present
    split at constructed
    · cases constructed
    · rename_i factory callable
      split at constructed
      · rename_i object made
        obtain ⟨initial, read, shape⟩ := counter_parses.made callable made
        cases constructed
        exact ⟨initial, initialInteger_some read, shape⟩
      · cases constructed

/-- At any point of any run, whatever else the sessions did, a live counter counts
exactly, and it equals its initial value plus the increments that returned. -/
theorem counter_exact (registry : ClassRegistry)
    (registered : registry.find (ascii "Counter") = some counterDefinition) (first : UInt64)
    (actions : List Action) (session : Nat) (store : SessionStore)
    (reached : (World.run registry first actions).1.sessions[session]? = some store) (id : UInt64)
    (entry : StoredObject) (found : store.objects.find id = some entry)
    (named : entry.definition.name = ascii "Counter") :
    ∃ value, entry.definition = counterDefinition ∧ entry.instance_ = counterObject value ∧
      (∀ delta, IncrementExact registry (World.run registry first actions).1.ids store id entry
        value delta) ∧
      CounterSum (World.run registry first actions).2 session id value := by
  have recorded := run_recorded registry first actions
  have sound := recorded.sound session store reached
  have mirrors := recorded.mirrors session store reached
  have opened := recorded.opened reached found
  have definition : entry.definition = counterDefinition :=
    definition_eq sound registered found named
  have live := mirrors.objects opened id
  rw [SessionStore.live, found, Option.map_some, definition] at live
  obtain ⟨className, arguments, later, created, unreleased, constructed, instance_⟩ :=
    replay_some registry session id _ counterDefinition entry.instance_ live.symm
  have same : className = ascii "Counter" := (construct_name constructed).symm
  subst same
  obtain ⟨earlier, event, split, creates⟩ := unreleased.created
  obtain ⟨initial, rfl, rfl⟩ := counter_constructed registered constructed
  obtain ⟨value, deltas, replayed, calls, total⟩ := counter_calls
    (run_performed registry first actions) recorded.increasing split creates constructed
    unreleased.kept
  have current := instance_.trans replayed
  exact ⟨value, definition, current, increment_exact sound opened found definition current,
    initial, later, deltas, unreleased, calls, total⟩

theorem counter_exact_incremented :
    ∃ store entry, (World.run builtinRegistry 1 accountingRun).1.sessions[0]? = some store ∧
      store.objects.find 3 = some entry ∧
      ∃ value, entry.definition = counterDefinition ∧ entry.instance_ = counterObject value ∧
        (∀ delta, IncrementExact builtinRegistry (World.run builtinRegistry 1 accountingRun).1.ids
          store 3 entry value delta) ∧
        CounterSum (World.run builtinRegistry 1 accountingRun).2 0 3 value :=
  ⟨_, _, rfl, rfl, counter_exact builtinRegistry rfl 1 accountingRun 0 _ rfl 3 _ rfl rfl⟩

end PipeForge.Domain
