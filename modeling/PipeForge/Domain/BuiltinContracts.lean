import PipeForge.Domain.Instances
import PipeForge.Domain.Outcomes

/-!
# What the built-in classes share

Both built-in classes read a single named argument, construct themselves from it
and copy themselves exactly. What is left to prove of either is what its one method
does, and what the store then makes of the result.
-/

namespace PipeForge.Domain
open Contracts Library

/-! ## Arguments -/

/-- The built-in classes take one argument, of the expected name. -/
theorem singleArgument_some {arguments : List NamedValue} {name : Bytes} {data : Value}
    (found : singleArgument arguments name = some data) :
    arguments = [⟨name, data⟩] ∧ validValue data = true := by
  unfold singleArgument at found
  split at found
  · rename_i argument
    split at found
    · cases found
    · rename_i checks
      obtain ⟨named, valid⟩ := not_or.mp checks
      cases found
      exact ⟨by rw [← not_not.mp named], by simpa using valid⟩
  · cases found

theorem integerOf_some {data : Value} {n : Int64} (read : integerOf data = some n) :
    data = .integer n := by
  cases data <;> cases read
  rfl

theorem textOf_some {data : Value} {bytes : Bytes} (read : textOf data = some bytes) :
    data = .text bytes := by
  cases data <;> cases read
  rfl

/-! ## Calls on a sound store -/

section
variable {registry : ClassRegistry} {ids : IdentifierSource} {store : SessionStore} {id : UInt64}
  {name : Bytes} {arguments : List NamedValue} {entry : StoredObject} {candidate : Object}

/-- A call that returned a value changes the object unless the session has no room. -/
theorem invoke_returned (sound : Sound registry ids store) (opened : store.closed = false)
    {data : Value} (invocable : Invocable store id name arguments entry data candidate) :
    store.execute registry ids (.invokeMethod id name arguments) =
      if store.used - entry.charge + objectCharge entry.definition.name candidate.state ≤
          store.limits.bytes then
        ⟨.value data, { store with
          objects := store.objects.assign id
            { entry with
              instance_ := candidate
              charge := objectCharge entry.definition.name candidate.state }
          used := store.used - entry.charge + objectCharge entry.definition.name candidate.state },
          ids⟩
      else store.fail ids .quotaExceeded := by
  obtain ⟨nonzero, named, found, ⟨method, declared, matched, kind⟩, cloned, called, valid, shaped⟩ :=
    invocable
  obtain ⟨copy, copied⟩ := Option.isSome_iff_exists.mp cloned
  have same := Object.clone_eq copied
  subst same
  have order := sound.used_le
  have bound := sound.bytes_lt
  simp only [SessionStore.execute, opened, Bool.false_eq_true, if_false,
    SessionStore.applyInvokeMethod, nonzero, named, found, declared, matched, copied, called, valid,
    kind, shaped, sound.budget_eq found, decide_false, Bool.not_true, Bool.or_self,
    bne_self_eq_false]
  rw [sound.retained_eq found]
  by_cases fits : store.used - entry.charge + objectCharge entry.definition.name candidate.state ≤
      store.limits.bytes
  · rw [if_neg (by omega), if_pos fits, SizeT.add_eq (by omega)]
  · rw [if_pos (by omega), if_neg fits]

/-- An object's own refusal reaches the client with its code, and the store stays as it was. -/
theorem invoke_failed (opened : store.closed = false) {method : Method} {error : RemoteError}
    (nonzero : id ≠ 0) (named : validName name false = true)
    (found : store.objects.find id = some entry)
    (declared : entry.definition.description.methods.find?
      (fun method => decide (method.name = name)) = some method)
    (matched : validArguments arguments method.parameters = true)
    (cloned : entry.instance_.clone = some entry.instance_)
    (failed : entry.instance_.invoke name arguments = (.error error, candidate)) :
    store.execute registry ids (.invokeMethod id name arguments) = store.fail ids error.code := by
  simp only [SessionStore.execute, opened, Bool.false_eq_true, if_false,
    SessionStore.applyInvokeMethod, nonzero, named, found, declared, matched, cloned, failed,
    decide_false, Bool.not_true, Bool.or_self]

end

/-! ## Factories that parse -/

/-- The factory makes an object of what it reads from the arguments. -/
def Parses {S : Type} (definition : ClassDefinition) (parse : List NamedValue → Option S)
    (make : S → Object) : Prop :=
  definition.create = some fun arguments =>
    match parse arguments with
    | none => .error (makeError .invalidRequest)
    | some initial => .ok (some (make initial))

/-- An object some state makes. -/
def Made {S : Type} (make : S → Object) (object : Object) : Prop := ∃ s, object = make s

section
variable {S : Type} {definition : ClassDefinition} {parse : List NamedValue → Option S}
  {make : S → Object} {factory : ObjectFactory} {arguments : List NamedValue}

/-- A factory that parses its arguments makes the object of what it parsed. -/
theorem Parses.made (parses : Parses definition parse make)
    (callable : definition.create = some factory) {object : Object}
    (made : factory arguments = .ok (some object)) :
    ∃ initial, parse arguments = some initial ∧ object = make initial := by
  cases Option.some.inj (parses.symm.trans callable)
  dsimp only at made
  split at made
  · cases made
  · rename_i initial read
    cases made
    exact ⟨initial, read, rfl⟩

theorem Parses.failed (parses : Parses definition parse make)
    (callable : definition.create = some factory) {error : RemoteError}
    (failed : factory arguments = .error error) : error = makeError .invalidRequest := by
  cases Option.some.inj (parses.symm.trans callable)
  dsimp only at failed
  split at failed
  · cases failed
    rfl
  · cases failed

theorem Parses.not_null (parses : Parses definition parse make)
    (callable : definition.create = some factory) : factory arguments ≠ .ok none := by
  intro made
  cases Option.some.inj (parses.symm.trans callable)
  dsimp only at made
  split at made <;> cases made

/-- What is left to show of a class whose factory parses. -/
theorem Parses.wellBehaved (parses : Parses definition parse make)
    (shaped : ∀ arguments initial, parse arguments = some initial →
      stateMatches definition (make initial).state = true)
    (cloned : ∀ s, (make s).clone.isSome = true)
    (codes : ∀ s name arguments error candidate,
      (make s).invoke name arguments = (.error error, candidate) → Expected error.code)
    (called : ∀ s name arguments method data candidate,
      stateMatches definition (make s).state = true →
      definition.description.methods.find? (fun method => decide (method.name = name)) = some method →
      (make s).invoke name arguments = (.ok data, candidate) →
      validValue data = true ∧ kindOf data = method.resultKind ∧
        stateMatches definition candidate.state = true)
    (kept : ∀ s name arguments, Made make ((make s).invoke name arguments).2) :
    WellBehaved definition (Made make) where
  made factory arguments object callable made := by
    obtain ⟨initial, -, same⟩ := parses.made callable made
    exact ⟨initial, same⟩
  kept object name arguments data candidate belongs invoked := by
    obtain ⟨s, rfl⟩ := belongs
    have again := kept s name arguments
    rw [invoked] at again
    exact again
  factory_code factory arguments error callable failed := by
    rw [parses.failed callable failed]
    decide
  not_null factory arguments callable := parses.not_null callable
  made_shaped factory arguments object callable made := by
    obtain ⟨initial, read, rfl⟩ := parses.made callable made
    exact shaped arguments initial read
  cloned object belongs := by
    obtain ⟨s, rfl⟩ := belongs
    exact cloned s
  method_code object name arguments error candidate belongs failed := by
    obtain ⟨s, rfl⟩ := belongs
    exact codes s name arguments error candidate failed
  called_sound object name arguments method data candidate belongs matched declared invoked := by
    obtain ⟨s, rfl⟩ := belongs
    exact called s name arguments method data candidate matched declared invoked

end

end PipeForge.Domain
