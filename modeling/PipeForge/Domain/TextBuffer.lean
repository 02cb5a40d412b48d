import PipeForge.Domain.Counter

/-!
# Text buffers stay within their limits

A live `TextBuffer` holds well-formed text within the string limit, so the unsigned
difference in `append` is a true one, and an append is refused exactly when the
object or the session has no room. With the two built-in classes registered no
operation fails internally.
-/

namespace PipeForge.Domain
open Contracts Library

/-! ## Appending -/

/-- The argument list of `append`. -/
def suffixArgument (suffix : Bytes) : List NamedValue := [⟨ascii "suffix", .text suffix⟩]

theorem validValue_text (text : Bytes) :
    validValue (.text text) = true ↔
      text.length ≤ maxStringBytes ∧ Utf8.isStructurallyValid text = true := by
  simp [validValue]

/-- For text within the limit the difference in `append` does not wrap. -/
theorem remaining_text {text : Bytes} (within : text.length ≤ maxStringBytes) :
    SizeT.sub maxStringBytes text.length = maxStringBytes - text.length :=
  SizeT.sub_eq within (by decide)

/-- `append` refuses what would be too long and keeps the text. -/
theorem textBufferInvoke_suffix {text suffix : Bytes} (within : text.length ≤ maxStringBytes)
    (valid : validValue (.text suffix) = true) :
    textBufferInvoke text (ascii "append") (suffixArgument suffix) =
      if text.length + suffix.length ≤ maxStringBytes then
        (.ok (.text (text ++ suffix)), text ++ suffix)
      else (.error (makeError .quotaExceeded), text) := by
  have read : (singleArgument (suffixArgument suffix) (ascii "suffix")).bind textOf =
      some suffix := by
    simp [singleArgument, suffixArgument, valid, textOf]
  simp only [textBufferInvoke, ne_eq, not_true_eq_false, if_false, read, remaining_text within]
  by_cases fits : text.length + suffix.length ≤ maxStringBytes
  · rw [if_pos fits, if_neg (by omega)]
  · rw [if_neg fits, if_pos (by omega)]

/-- Only an append of valid text that fits returns a value. -/
theorem textBufferInvoke_ok {text name : Bytes} {arguments : List NamedValue} {data : Value}
    (within : text.length ≤ maxStringBytes)
    (returned : (textBufferInvoke text name arguments).1 = .ok data) :
    ∃ suffix, name = ascii "append" ∧ arguments = suffixArgument suffix ∧
      validValue (.text suffix) = true ∧ text.length + suffix.length ≤ maxStringBytes ∧
      data = .text (text ++ suffix) ∧
      (textBufferInvoke text name arguments).2 = text ++ suffix := by
  unfold textBufferInvoke at returned
  split at returned
  · cases returned
  · rename_i named
    split at returned
    · cases returned
    · rename_i suffix read
      split at returned
      · cases returned
      · rename_i room
        rw [remaining_text within] at room
        obtain ⟨argument, found, extracted⟩ := Option.bind_eq_some_iff.mp read
        obtain ⟨single, valid⟩ := singleArgument_some found
        rw [textOf_some extracted] at single valid
        have append := not_not.mp named
        have fits : text.length + suffix.length ≤ maxStringBytes := by omega
        cases returned
        subst single
        subst append
        refine ⟨suffix, rfl, rfl, valid, fits, rfl, ?_⟩
        have equation := textBufferInvoke_suffix within valid
        rw [if_pos fits] at equation
        exact congrArg Prod.snd equation

/-- The errors of `append` are ordinary ones. -/
theorem textBufferInvoke_error {text name : Bytes} {arguments : List NamedValue}
    {error : RemoteError} (failed : (textBufferInvoke text name arguments).1 = .error error) :
    Expected error.code := by
  unfold textBufferInvoke at failed
  split at failed
  · cases failed
    decide
  · split at failed
    · cases failed
      decide
    · split at failed
      · cases failed
        decide
      · cases failed

def initialText (arguments : List NamedValue) : Option Bytes :=
  (singleArgument arguments (ascii "initial")).bind textOf

/-- The constructor takes a valid text and nothing else. -/
theorem textBuffer_parses : Parses textBufferDefinition initialText textBufferObject := by
  refine congrArg some (funext fun arguments => ?_)
  unfold initialText
  cases (singleArgument arguments (ascii "initial")).bind textOf <;> rfl

/-- The declared state is exactly a valid text: the class bound leaves room for the
longest one. -/
theorem textBuffer_matches (text : Bytes) :
    stateMatches textBufferDefinition (textBufferObject text).state = true ↔
      text.length ≤ maxStringBytes ∧ Utf8.isStructurallyValid text = true := by
  rw [← validValue_text]
  constructor
  · intro shaped
    have listed := ((validNamedValues_iff _).mp (stateMatches_spec shaped).1).2.2
    exact listed ⟨ascii "text", .text text⟩ List.mem_cons_self
  · intro valid
    have listed : validNamedValues (textBufferObject text).state = true := by
      rw [validNamedValues_iff]
      refine ⟨by simp [textBufferObject, Object.state, maxEntries], rfl, fun item member => ?_⟩
      cases List.mem_singleton.mp member
      exact valid
    have bound : stateCharge (textBufferObject text).state ≤ textBufferDefinition.maxStateBytes := by
      have short := ((validValue_text text).mp valid).1
      change recordCharge + 4 + text.length + 0 ≤ maxObjectStateBytes
      have room : recordCharge + 4 + maxStringBytes ≤ maxObjectStateBytes := by decide
      omega
    have kinds : (textBufferDefinition.description.attributes.all fun field =>
        namedOfKind (textBufferObject text).state field.name field.kind) = true := rfl
    unfold stateMatches
    rw [listed, kinds, if_neg (by simp; rfl), if_neg (by simp)]
    exact decide_eq_true bound

theorem textBuffer_charge (text : Bytes) :
    objectCharge textBufferDefinition.name (textBufferObject text).state = 270 + text.length := by
  change recordCharge + 10 + (recordCharge + 4 + text.length + 0) = _
  have fixed : recordCharge = 128 := rfl
  omega

theorem append_valid {text suffix : Bytes} (current : Utf8.isStructurallyValid text = true)
    (valid : validValue (.text suffix) = true)
    (fits : text.length + suffix.length ≤ maxStringBytes) :
    (text ++ suffix).length ≤ maxStringBytes ∧ Utf8.isStructurallyValid (text ++ suffix) = true := by
  rw [List.length_append]
  exact ⟨fits, Utf8.isStructurallyValid_append current ((validValue_text suffix).mp valid).2⟩

/-- Buffers stay valid texts, whatever is called on them. -/
theorem textBuffer_wellBehaved : WellBehaved textBufferDefinition (Made textBufferObject) := by
  apply textBuffer_parses.wellBehaved
  · intro arguments initial read
    obtain ⟨argument, found, extracted⟩ := Option.bind_eq_some_iff.mp read
    have valid := (singleArgument_some found).2
    rw [textOf_some extracted] at valid
    exact (textBuffer_matches initial).mpr ((validValue_text initial).mp valid)
  · exact fun _ => rfl
  · intro text name arguments error candidate failed
    exact textBufferInvoke_error (congrArg Prod.fst failed)
  · intro text name arguments method data candidate matched declared invoked
    obtain ⟨within, current⟩ := (textBuffer_matches text).mp matched
    have result : (textBufferInvoke text name arguments).1 = .ok data := congrArg Prod.fst invoked
    obtain ⟨suffix, rfl, rfl, valid, fits, rfl, next⟩ := textBufferInvoke_ok within result
    have grown := append_valid current valid fits
    have left : candidate = textBufferObject (text ++ suffix) := by
      rw [← next]
      exact (congrArg Prod.snd invoked).symm
    rw [left]
    cases declared
    exact ⟨(validValue_text _).mpr grown, rfl, (textBuffer_matches _).mpr grown⟩
  · exact fun text name arguments => ⟨_, rfl⟩

/-- What `append` does to a session that holds the buffer. -/
structure AppendExact (registry : ClassRegistry) (ids : IdentifierSource) (store : SessionStore)
    (id : UInt64) (entry : StoredObject) (text suffix : Bytes) : Prop where
  returns : text.length + suffix.length ≤ maxStringBytes ∧
      store.accountedBytes + suffix.length ≤ store.limits.bytes →
    store.execute registry ids (.invokeMethod id (ascii "append") (suffixArgument suffix)) =
      ⟨.value (.text (text ++ suffix)),
        { store with
          objects := store.objects.assign id
            { entry with
              instance_ := textBufferObject (text ++ suffix)
              charge := entry.charge + suffix.length }
          used := store.used + suffix.length }, ids⟩
  refuses : ¬ (text.length + suffix.length ≤ maxStringBytes ∧
      store.accountedBytes + suffix.length ≤ store.limits.bytes) →
    store.execute registry ids (.invokeMethod id (ascii "append") (suffixArgument suffix)) =
      store.fail ids .quotaExceeded

/-- In a sound store an append changes the one buffer it names, by exactly the suffix. -/
theorem append_exact {registry : ClassRegistry} {ids : IdentifierSource} {store : SessionStore}
    (sound : Sound registry ids store) (opened : store.closed = false) {id : UInt64}
    {entry : StoredObject} (found : store.objects.find id = some entry)
    (definition : entry.definition = textBufferDefinition) {text : Bytes}
    (current : entry.instance_ = textBufferObject text) {suffix : Bytes}
    (valid : validValue (.text suffix) = true) :
    AppendExact registry ids store id entry text suffix := by
  have nonzero := (sound.objects_issued id entry found).1
  have shaped := (sound.objects_sound id entry found).shaped
  rw [definition, current] at shaped
  obtain ⟨within, wellFormed⟩ := (textBuffer_matches text).mp shaped
  have named : validName (ascii "append") false = true := by decide
  have declared : entry.definition.description.methods.find?
      (fun method => decide (method.name = ascii "append")) =
        some ⟨ascii "append", [⟨ascii "suffix", .text⟩], .text⟩ := by
    rw [definition]
    decide
  have matched : validArguments (suffixArgument suffix) [⟨ascii "suffix", .text⟩] = true := by
    have listed : validNamedValues (suffixArgument suffix) = true := by
      rw [validNamedValues_iff]
      refine ⟨by simp [suffixArgument, maxEntries], rfl, fun item member => ?_⟩
      cases List.mem_singleton.mp member
      exact valid
    have kinds : ([⟨ascii "suffix", .text⟩] : List Parameter).all (fun parameter =>
        namedOfKind (suffixArgument suffix) parameter.name parameter.kind) = true := rfl
    unfold validArguments
    rw [listed, kinds]
    rfl
  have called : entry.instance_.invoke (ascii "append") (suffixArgument suffix) =
      ((textBufferInvoke text (ascii "append") (suffixArgument suffix)).1,
        textBufferObject (textBufferInvoke text (ascii "append") (suffixArgument suffix)).2) := by
    rw [current]
    rfl
  have cloned : entry.instance_.clone = some entry.instance_ := by
    rw [current]
    rfl
  rw [textBufferInvoke_suffix within valid] at called
  have charge := (sound.objects_sound id entry found).charge
  rw [definition, current, textBuffer_charge] at charge
  have held := sound.charge_le found
  by_cases fits : text.length + suffix.length ≤ maxStringBytes
  · rw [if_pos fits] at called
    have grown := append_valid wellFormed valid fits
    have shaped' : stateMatches entry.definition (textBufferObject (text ++ suffix)).state = true := by
      rw [definition]
      exact (textBuffer_matches _).mpr grown
    have charge' : objectCharge entry.definition.name (textBufferObject (text ++ suffix)).state =
        entry.charge + suffix.length := by
      rw [definition, textBuffer_charge, List.length_append]
      omega
    have total : store.used - entry.charge + (entry.charge + suffix.length) =
        store.used + suffix.length := by omega
    have run := invoke_returned sound opened ⟨nonzero, named, found, ⟨_, declared, matched, rfl⟩,
      by rw [cloned]; rfl, called, (validValue_text _).mpr grown, shaped'⟩
    rw [charge', total] at run
    refine ⟨fun room => run.trans (if_pos room.2), fun blocked => run.trans (if_neg ?_)⟩
    exact fun room => blocked ⟨fits, room⟩
  · rw [if_neg fits] at called
    refine ⟨fun room => absurd room.1 fits, fun _ => ?_⟩
    exact invoke_failed opened nonzero named found declared matched cloned called

/-- A live text buffer: well-formed text within the limit, and exact appends. -/
def TextBufferSound (registry : ClassRegistry) (ids : IdentifierSource) (store : SessionStore)
    (id : UInt64) (entry : StoredObject) : Prop :=
  ∃ text, entry.definition = textBufferDefinition ∧ entry.instance_ = textBufferObject text ∧
    Utf8.isStructurallyValid text = true ∧ text.length ≤ maxStringBytes ∧
    SizeT.sub maxStringBytes text.length = maxStringBytes - text.length ∧
    ∀ suffix, validValue (.text suffix) = true → AppendExact registry ids store id entry text suffix

/-- With the built-in classes no operation of any run fails internally, and text
buffers keep to their limits and to the session's. -/
theorem builtins_keep_contract (registry : ClassRegistry)
    (only : ∀ definition ∈ registry.definitions,
      definition = counterDefinition ∨ definition = textBufferDefinition)
    (first : UInt64) (actions : List Action) (session : Nat) (store : SessionStore)
    (reached : (World.run registry first actions).1.sessions[session]? = some store) :
    (∀ ids operation, (store.execute registry ids operation).outcome ≠
      .error (makeError .internalFailure)) ∧
    ∀ id entry, store.objects.find id = some entry →
      entry.definition.name = ascii "TextBuffer" →
      TextBufferSound registry (World.run registry first actions).1.ids store id entry := by
  constructor
  · apply never_internal _ first actions session store reached
    intro definition member
    rcases only definition member with rfl | rfl
    · exact ⟨_, counter_wellBehaved⟩
    · exact ⟨_, textBuffer_wellBehaved⟩
  · intro id entry found named
    have recorded := run_recorded registry first actions
    have sound := recorded.sound session store reached
    have registered := (sound.objects_sound id entry found).registered
    have definition : entry.definition = textBufferDefinition := by
      rcases only entry.definition (ClassRegistry.find_mem registered).1 with other | same
      · rw [other] at named
        exact absurd named (by decide)
      · exact same
    rw [definition] at registered
    obtain ⟨text, current⟩ := run_instances registered textBuffer_wellBehaved.toClassFamily first
      actions session store reached id entry found (by rw [definition])
    have shaped := (sound.objects_sound id entry found).shaped
    rw [definition, current] at shaped
    obtain ⟨within, wellFormed⟩ := (textBuffer_matches text).mp shaped
    have opened := recorded.opened reached found
    exact ⟨text, definition, current, wellFormed, within, remaining_text within,
      fun suffix valid => append_exact sound opened found definition current valid⟩

/-- A buffer that is appended to while another session holds a counter. -/
def bufferRun : List Action :=
  [.create ⟨1, 1, 300⟩, .create ⟨1, 1, 512⟩,
   .execute 0 (.createObject (ascii "TextBuffer") [⟨ascii "initial", .text (ascii "ab")⟩]),
   .execute 1 (.createObject (ascii "Counter") [⟨ascii "initial", .integer 5⟩]),
   .execute 0 (.invokeMethod 1 (ascii "append") [⟨ascii "suffix", .text (ascii "c")⟩])]

theorem builtins_keep_contract_appended :
    ∃ store entry, (World.run builtinRegistry 1 bufferRun).1.sessions[0]? = some store ∧
      store.objects.find 1 = some entry ∧
      (∀ ids operation, (store.execute builtinRegistry ids operation).outcome ≠
        .error (makeError .internalFailure)) ∧
      TextBufferSound builtinRegistry (World.run builtinRegistry 1 bufferRun).1.ids store 1 entry := by
  have definitions : builtinRegistry.definitions = [counterDefinition, textBufferDefinition] := rfl
  have only : ∀ definition ∈ builtinRegistry.definitions,
      definition = counterDefinition ∨ definition = textBufferDefinition := by
    rw [definitions]
    simp
  obtain ⟨never, buffers⟩ := builtins_keep_contract builtinRegistry only 1 bufferRun 0 _ rfl
  exact ⟨_, _, rfl, rfl, never, buffers 1 _ rfl rfl⟩

end PipeForge.Domain
