import PipeForge.Cli.AcceptanceValues
import PipeForge.Domain.Enumeration

/-!
# The scenario passes

The demonstration of client_commands.cpp against a default server. Whatever other clients
do meanwhile, every answer is the one the scenario expects: counters and text buffers keep
their contracts, bad requests are refused for the right reason, and neither a second nor a
later connection finds what belongs to the first.
-/

namespace PipeForge.Cli
open Contracts Library Domain

/-- What is left for objects when a session holds as many values as it can. -/
def objectBytes : Nat := maxSessionBytes - maxStoredValues * (recordCharge + maxStringBytes)

/-- An open session with so many objects of so many bytes at most. -/
structure Stocked (store : SessionStore) (bytes count : Nat) : Prop where
  opened : store.closed = false
  limits : store.limits = defaultLimits
  charged : store.objects.total (·.charge) ≤ bytes
  counted : store.objects.size ≤ count

theorem counter_registered : builtinRegistry.find (ascii "Counter") = some counterDefinition := rfl

theorem textBuffer_registered :
    builtinRegistry.find (ascii "TextBuffer") = some textBufferDefinition := rfl

namespace Scenario
variable {venue : Venue} {client : Nat} {store : SessionStore} {bytes count : Nat}

/-- After the values there is room for the objects of the scenario: no object is stored, and the
bytes are counted. -/
theorem holding_stocked {records : List ValueRecord} (holding : Holding store records) :
    Stocked store 0 0 where
  opened := holding.opened
  limits := holding.limits
  charged := by
    rw [holding.objects]
    exact Nat.le_refl 0
  counted := by
    rw [holding.objects]
    exact Nat.le_refl 0

/-- What the objects need is still free, whatever the values took. -/
theorem used_stocked {ids : IdentifierSource} (sound : Sound builtinRegistry ids store)
    (stocked : Stocked store bytes count) (few : bytes ≤ objectBytes) :
    store.used + (objectBytes - bytes) ≤ store.limits.bytes := by
  have used := used_bound sound
  have charged := stocked.charged
  have split : maxStoredValues * (recordCharge + maxStringBytes) + objectBytes = maxSessionBytes := by
    decide
  rw [stocked.limits]
  change _ ≤ maxSessionBytes
  omega

/-! ## Classes -/

/-- `list_classes` and `describe_class` answer what the scenario looks for. -/
theorem metadata_passes (has : Venue.Has client store venue) (opened : store.closed = false) :
    Passes (fun described after => described = true ∧ Venue.Has client store after)
      (metadata client) venue := by
  refine (Passes.answered classesPage has (.classes ⟨[ascii "Counter", ascii "TextBuffer"], []⟩) store
    fun ids _ => by
      rw [SessionStore.execute, opened]
      rfl).bind ?_
  rintro _ listed ⟨rfl, held⟩
  dsimp only [classesPage]
  rw [if_pos (by decide +kernel)]
  refine (Passes.answered classDescription held (.description textBufferDefinition.description) store
    fun ids _ => by
      rw [SessionStore.execute, opened]
      rfl).bind ?_
  rintro _ after ⟨rfl, held⟩
  exact Passes.done ⟨rfl, held⟩

/-! ## Objects -/

/-- A class the server knows makes an object of the arguments. -/
structure Makes (className : Bytes) (arguments : List NamedValue) (definition : ClassDefinition)
    (object : Object) : Prop where
  named : validName className false = true
  registered : builtinRegistry.find className = some definition
  matched : validArguments arguments definition.description.constructorParameters = true
  made : ∃ factory, definition.create = some factory ∧ factory arguments = .ok (some object)
  shaped : stateMatches definition object.state = true

/-- A new object has an identifier no other has. -/
theorem create_passes (has : Venue.Has client store venue) (stocked : Stocked store bytes count)
    {className : Bytes} {arguments : List NamedValue} {definition : ClassDefinition} {object : Object}
    (makes : Makes className arguments definition object) (few : count < maxStoredObjects)
    (fits : bytes + objectCharge className object.state ≤ objectBytes) :
    Passes (fun reply after => ∃ id next, reply = .ok (.object ⟨id, className, object.state⟩) ∧
        id ≠ 0 ∧ store.objects.find id = none ∧ Venue.Has client next after ∧
          Stocked next (bytes + objectCharge className object.state) (count + 1) ∧
            next.objects = store.objects.emplace id
              ⟨definition, object, objectCharge className object.state⟩)
      (execute client (.createObject className arguments)) venue := by
  refine Passes.execute has fun ids after sound live held => ?_
  obtain ⟨named, registered, matched, ⟨factory, callable, made⟩, shaped⟩ := makes
  obtain ⟨ids', drawn⟩ := IdentifierSource.next_live live
  have room : ¬ store.objects.size ≥ store.limits.objects := by
    have counted := stocked.counted
    rw [stocked.limits]
    change ¬ store.objects.size ≥ maxStoredObjects
    omega
  have space : ¬ objectCharge className object.state > store.limits.bytes - store.used := by
    have used := used_stocked sound stocked (by omega)
    omega
  have run : store.execute builtinRegistry ids (.createObject className arguments) =
      ⟨.object ⟨ids.next_, className, object.state⟩,
        { store with
          objects := store.objects.emplace ids.next_
            ⟨definition, object, objectCharge className object.state⟩
          used := SizeT.add store.used (objectCharge className object.state) }, ids'⟩ := by
    simp only [SessionStore.execute, stocked.opened, Bool.false_eq_true, if_false,
      SessionStore.applyCreateObject, named, Bool.not_true, registered, matched, callable, made,
      shaped, sound.remaining_eq, if_neg room, if_neg space, drawn]
  have absent : store.objects.find ids.next_ = none := by
    by_contra present
    obtain ⟨entry, found⟩ := Option.ne_none_iff_exists'.mp present
    exact (IdentifierSource.next_spec drawn).2.2.1 (sound.objects_issued _ entry found)
  rw [run] at held ⊢
  refine ⟨ids.next_, _, rfl, live, absent, held, ⟨stocked.opened, stocked.limits, ?_, ?_⟩, rfl⟩
  · rw [OrderedMap.total_emplace _ _ _ _ absent]
    exact Nat.add_le_add_right stocked.charged _
  · rw [OrderedMap.size_emplace _ _ _ absent]
    exact Nat.add_le_add_right stocked.counted 1

/-- A counter of any initial value can be made in a store with room. -/
theorem counter_makes (initial : Int64) :
    Makes (ascii "Counter") [⟨ascii "initial", .integer initial⟩] counterDefinition
      (counterObject initial) where
  named := by decide
  registered := counter_registered
  matched := rfl
  made := ⟨_, rfl, rfl⟩
  shaped := counter_matches initial

/-- A live counter of the session. -/
def IsCounter (store : SessionStore) (id : UInt64) (value : Int64) : Prop :=
  ∃ entry, store.objects.find id = some entry ∧ entry.definition = counterDefinition ∧
    entry.instance_ = counterObject value

/-- A counter is read back with its class and its value. -/
theorem getObject_counter {ids : IdentifierSource} {id : UInt64} {value : Int64}
    (sound : Sound builtinRegistry ids store) (live : IsCounter store id value) :
    store.applyGetObject id =
      .object ⟨id, ascii "Counter", [⟨ascii "value", .integer value⟩]⟩ := by
  obtain ⟨entry, found, definition, current⟩ := live
  have nonzero := (sound.objects_issued id entry found).1
  have shaped := (sound.objects_sound id entry found).shaped
  simp only [SessionStore.applyGetObject, nonzero, found, shaped, if_false, Bool.not_true,
    Bool.false_eq_true]
  rw [definition, current]
  rfl

/-- Creating a counter gives a fresh identifier and disturbs no other object. -/
theorem counter_passes (has : Venue.Has client store venue) (stocked : Stocked store bytes count)
    (initial : Int64) (few : count < maxStoredObjects) (fits : bytes + 276 ≤ objectBytes) :
    Passes (fun found after => ∃ id next,
        found = some ⟨id, ascii "Counter", (counterObject initial).state⟩ ∧ id ≠ 0 ∧
          store.objects.find id = none ∧ Venue.Has client next after ∧
            Stocked next (bytes + 276) (count + 1) ∧ IsCounter next id initial ∧
              ∀ other, other ≠ id → next.objects.find other = store.objects.find other)
      (ask client (counter initial) objectSnapshot) venue := by
  refine Passes.ask ((create_passes has stocked (counter_makes initial) few fits).mono ?_)
  rintro _ after ⟨id, next, rfl, nonzero, absent, held, more, objects⟩
  refine ⟨id, next, rfl, nonzero, absent, held, more, ⟨⟨counterDefinition, counterObject initial, 276⟩,
    ?_, rfl, rfl⟩, fun other different => ?_⟩
  · rw [objects, OrderedMap.find_emplace _ _ _ _ absent, if_pos rfl]
    rfl
  · rw [objects, OrderedMap.find_emplace _ _ _ _ absent, if_neg different]

/-- `increment` answers the sum and changes this counter alone. -/
theorem increment_passes (has : Venue.Has client store venue) (stocked : Stocked store bytes count)
    {id : UInt64} {current delta : Int64} (live : IsCounter store id current)
    (within : Fits current delta) :
    Passes (fun found after => found = some (.integer (current + delta)) ∧
        ∃ next, Venue.Has client next after ∧ Stocked next bytes count ∧
          IsCounter next id (current + delta) ∧
            ∀ other, other ≠ id → next.objects.find other = store.objects.find other)
      (ask client (.invokeMethod id (ascii "increment") (deltaArgument delta)) value) venue := by
  obtain ⟨entry, found, definition, same⟩ := live
  refine (Passes.answered value has (.value (.integer (current + delta))) _ fun ids sound =>
    ((increment_exact sound stocked.opened found definition same delta).returns within).2).mono ?_
  rintro _ after ⟨rfl, held⟩
  have present : (store.objects.find id).isSome = true := by rw [found]; rfl
  refine ⟨rfl, _, held, ⟨stocked.opened, stocked.limits, ?_, ?_⟩,
    ⟨{ entry with instance_ := counterObject (current + delta) }, ?_, definition, rfl⟩,
    fun other different => ?_⟩
  · have total := OrderedMap.total_assign (·.charge) store.objects id entry
      { entry with instance_ := counterObject (current + delta) } found
    have charged := stocked.charged
    dsimp only at total ⊢
    omega
  · dsimp only
    rw [OrderedMap.size_assign]
    exact stocked.counted
  · rw [OrderedMap.find_assign _ _ _ _ present, if_pos rfl]
  · rw [OrderedMap.find_assign _ _ _ _ present, if_neg different]

theorem attribute_passes (has : Venue.Has client store venue) (opened : store.closed = false)
    {id : UInt64} {current : Int64} (live : IsCounter store id current) :
    Passes (fun found after => found = some (.integer current) ∧ Venue.Has client store after)
      (ask client (.getAttribute id (ascii "value")) value) venue := by
  refine Passes.answered value has (.value (.integer current)) store fun ids sound => ?_
  rw [SessionStore.execute, opened]
  simp only [Bool.false_eq_true, if_false, SessionStore.answer, SessionStore.applyGetAttribute,
    getObject_counter sound live]
  rfl

theorem object_passes (has : Venue.Has client store venue) (opened : store.closed = false)
    {id : UInt64} {current : Int64} (live : IsCounter store id current) :
    Passes (fun found after =>
        found = some ⟨id, ascii "Counter", [⟨ascii "value", .integer current⟩]⟩ ∧
          Venue.Has client store after)
      (ask client (.getObject id) objectSnapshot) venue := by
  refine Passes.answered objectSnapshot has
    (.object ⟨id, ascii "Counter", [⟨ascii "value", .integer current⟩]⟩) store fun ids sound => ?_
  rw [SessionStore.execute, opened]
  simp only [Bool.false_eq_true, if_false, SessionStore.answer, getObject_counter sound live]

/-- Two counters, of which the first is incremented: the second keeps its value. -/
theorem counters_passes (has : Venue.Has client store venue) (stocked : Stocked store 0 0) :
    Passes (fun found after => ∃ first second next, found = some (first, second) ∧ second ≠ 0 ∧
        Venue.Has client next after ∧ Stocked next 552 2 ∧
          IsCounter next first (initialCounter + increment))
      (counters client) venue := by
  refine (counter_passes has stocked initialCounter (by decide) (by decide)).bind ?_
  rintro _ firstDone ⟨first, one, rfl, -, -, held, stocked, live, -⟩
  refine (counter_passes held stocked otherCounter (by decide) (by decide)).bind ?_
  rintro _ secondDone ⟨second, two, rfl, nonzero, absent, held, stocked, other, kept⟩
  have different : first ≠ second := by
    rintro rfl
    obtain ⟨entry, found, -⟩ := live
    cases absent.symm.trans found
  have live : IsCounter two first initialCounter := by
    obtain ⟨entry, found, rest⟩ := live
    exact ⟨entry, (kept first different).trans found, rest⟩
  dsimp only
  rw [if_neg different]
  refine (increment_passes held stocked live (by decide)).bind ?_
  rintro _ changed ⟨rfl, three, held, stocked, live, kept⟩
  have other : IsCounter three second otherCounter := by
    obtain ⟨entry, found, rest⟩ := other
    exact ⟨entry, (kept second different.symm).trans found, rest⟩
  refine (attribute_passes held stocked.opened live).bind ?_
  rintro _ read ⟨rfl, held⟩
  refine (object_passes held stocked.opened live).bind ?_
  rintro _ retained ⟨rfl, held⟩
  refine (attribute_passes held stocked.opened other).bind ?_
  rintro _ after ⟨rfl, held⟩
  dsimp only
  rw [if_pos (by decide)]
  exact Passes.done ⟨first, second, three, rfl, nonzero, held, stocked, live⟩

theorem hello_makes :
    Makes (ascii "TextBuffer") [⟨ascii "initial", .text (ascii "hello")⟩] textBufferDefinition
      (textBufferObject (ascii "hello")) where
  named := by decide
  registered := textBuffer_registered
  matched := by decide
  made := ⟨_, rfl, rfl⟩
  shaped := (textBuffer_matches _).mpr (by decide)

/-- The text buffer answers what was joined, and the counters are as they were. -/
theorem text_passes (has : Venue.Has client store venue) (stocked : Stocked store 552 2)
    {first : UInt64} {current : Int64} (live : IsCounter store first current) :
    Passes (fun passed after => passed = true ∧ ∃ next, Venue.Has client next after ∧
        next.closed = false ∧ IsCounter next first current)
      (text client) venue := by
  have created : Passes (fun found after => ∃ id next,
      found = some ⟨id, ascii "TextBuffer", (textBufferObject (ascii "hello")).state⟩ ∧
        Venue.Has client next after ∧ Stocked next (552 + 275) 3 ∧ id ≠ first ∧
          IsCounter next first current ∧ next.objects.find id =
            some ⟨textBufferDefinition, textBufferObject (ascii "hello"), 275⟩)
      (ask client (.createObject (ascii "TextBuffer") [⟨ascii "initial", .text (ascii "hello")⟩])
        objectSnapshot) venue := by
    refine Passes.ask ((create_passes has stocked hello_makes (by decide) (by decide)).mono ?_)
    rintro _ after ⟨id, next, rfl, -, absent, held, more, objects⟩
    obtain ⟨entry, found, rest⟩ := live
    have different : id ≠ first := by
      rintro rfl
      cases absent.symm.trans found
    refine ⟨id, next, rfl, held, more, different, ⟨entry, ?_, rest⟩, ?_⟩
    · rw [objects, OrderedMap.find_emplace _ _ _ _ absent, if_neg different.symm]
      exact found
    · rw [objects, OrderedMap.find_emplace _ _ _ _ absent, if_pos rfl]
      rfl
  refine created.bind ?_
  rintro _ after ⟨id, store, rfl, held, stocked, different, live, found⟩
  have room : ∀ ids, Sound builtinRegistry ids store →
      (ascii "hello").length + (ascii " world").length ≤ maxStringBytes ∧
        store.accountedBytes + (ascii " world").length ≤ store.limits.bytes := by
    intro ids sound
    have used := used_stocked sound stocked (by decide)
    have spare : (ascii " world").length ≤ objectBytes - (552 + 275) := by decide
    refine ⟨by decide, ?_⟩
    change store.used + _ ≤ _
    omega
  refine (Passes.answered value held (.value (.text (ascii "hello" ++ ascii " world"))) _
    fun ids sound => (append_exact sound stocked.opened found rfl rfl (by decide)).returns
      (room ids sound)).bind ?_
  rintro _ after ⟨rfl, held⟩
  refine Passes.done ⟨by decide, _, held, stocked.opened, ?_⟩
  obtain ⟨entry, there, rest⟩ := live
  have present : (store.objects.find id).isSome = true := by rw [found]; rfl
  refine ⟨entry, ?_, rest⟩
  rw [OrderedMap.find_assign _ _ _ _ present, if_neg different.symm]
  exact there

/-! ## Refusals -/

/-- A wrong argument, a missing attribute and a missing class are refused with the codes the
scenario expects. -/
theorem refusals_passes (has : Venue.Has client store venue) (opened : store.closed = false)
    {first : UInt64} {current : Int64} (live : IsCounter store first current) :
    Passes (fun passed after => passed = true ∧ Venue.Has client store after)
      (refusals client first) venue := by
  refine Passes.both (Passes.error rfl has fun ids sound => ?_) fun after held =>
    Passes.both (Passes.error rfl held fun ids sound => ?_) fun after held =>
      Passes.error rfl held fun ids sound => ?_
  · obtain ⟨entry, found, definition, -⟩ := live
    have nonzero := (sound.objects_issued first entry found).1
    have named : validName (ascii "increment") false = true := by decide
    have declared : entry.definition.description.methods.find?
        (fun method => decide (method.name = ascii "increment")) =
          some ⟨ascii "increment", [⟨ascii "delta", .integer⟩], .integer⟩ := by
      rw [definition]
      decide
    have wrong : validArguments [⟨ascii "delta", .text (ascii "wrong")⟩]
        [⟨ascii "delta", .integer⟩] = false := by decide
    simp [SessionStore.execute, opened, SessionStore.applyInvokeMethod, nonzero, named, found,
      declared, wrong]
  · rw [SessionStore.execute, opened]
    simp only [Bool.false_eq_true, if_false, SessionStore.answer, SessionStore.applyGetAttribute,
      getObject_counter sound live]
    rfl
  · rw [SessionStore.execute, opened]
    rfl

/-- A released object is gone. -/
theorem release_passes (has : Venue.Has client store venue) (opened : store.closed = false)
    {first : UInt64} {current : Int64} (live : IsCounter store first current) :
    Passes (fun passed after => passed = true ∧ ∃ next, Venue.Has client next after)
      (release client first) venue := by
  obtain ⟨entry, found, -⟩ := live
  have nonzero := ((has.sound client store has.owner).objects_issued first entry found).1
  refine (Passes.answered released has .released _ fun ids _ => by
    simp only [SessionStore.execute, opened, Bool.false_eq_true, if_false,
      SessionStore.applyReleaseObject, nonzero, found]
    rfl).bind ?_
  rintro _ after ⟨rfl, held⟩
  refine (Passes.error rfl held fun ids _ => ?_).mono fun passed last ends => ⟨ends.1, _, ends.2⟩
  refine object_missing builtinRegistry ids rfl nonzero ?_ .getObject
  rw [OrderedMap.find_erase, if_pos rfl]

/-! ## Other connections -/

/-- A new session has neither values nor objects. -/
theorem unknown_passes (has : Venue.Has client (SessionStore.create defaultLimits) venue)
    {object stored : UInt64} (named : object ≠ 0) (numbered : stored ≠ 0) :
    Passes (fun unseen after => unseen = true ∧ after.AllSound)
      (unknown client object stored) venue := by
  refine Passes.both (Passes.error rfl has fun ids _ =>
    object_missing builtinRegistry ids rfl named rfl .getObject) fun after held => ?_
  refine (Passes.error rfl held fun ids _ =>
    value_missing builtinRegistry ids rfl numbered rfl).mono fun unseen last ends => ?_
  exact ⟨ends.1, ends.2.sound⟩

/-- A second client finds nothing of the first one's. -/
theorem isolated_passes (sound : venue.AllSound) {second stored : UInt64} (named : second ≠ 0)
    (numbered : stored ≠ 0) :
    Passes (fun passed after => passed = true ∧ after.AllSound) (isolated second stored) venue :=
  Passes.withConnection sound fun _ _ held => unknown_passes held named numbered

/-- The object part of the scenario passes in a store that holds values only. -/
theorem objects_passes (has : Venue.Has client store venue) (stocked : Stocked store 0 0)
    {stored : UInt64} (numbered : stored ≠ 0) :
    Passes (fun found after => ∃ retained, found = some retained ∧ retained ≠ 0 ∧ after.AllSound)
      (objects client stored) venue := by
  refine (metadata_passes has stocked.opened).bind ?_
  rintro _ described ⟨rfl, held⟩
  rw [if_pos rfl]
  refine (counters_passes held stocked).bind ?_
  rintro _ counted ⟨first, second, next, rfl, named, held, stocked, live⟩
  have rest : Passes (fun passed after => passed = true ∧ after.AllSound)
      (both (text client) (both (refusals client first)
        (both (release client first) (isolated second stored)))) counted := by
    refine Passes.both (text_passes held stocked live) ?_
    rintro texted ⟨next, held, opened, live⟩
    refine Passes.both (refusals_passes held opened live) fun refused held => ?_
    refine Passes.both (release_passes held opened live) ?_
    rintro released ⟨next, held⟩
    exact isolated_passes held.sound named numbered
  refine rest.bind ?_
  rintro _ after ⟨rfl, sound⟩
  exact Passes.done ⟨second, rfl, named, sound⟩

/-- After a reconnect nothing of the old session is found. -/
theorem reconnect_passes (sound : venue.AllSound) {retained stored : UInt64} (named : retained ≠ 0)
    (numbered : stored ≠ 0) :
    Passes (fun passed after => passed = true ∧ after.AllSound)
      (reconnect client retained stored) venue :=
  (Passes.close sound client).bind fun _ _ sound =>
    Passes.withConnection sound fun _ _ held => unknown_passes held named numbered

/-- The whole scenario passes in a fresh session, unless identifiers run out. -/
theorem demo_passes (has : Venue.Has client (SessionStore.create defaultLimits) venue)
    (command : ApplicationCommand) :
    Passes (fun passed after => passed = true ∧ after.AllSound) (demo client command) venue := by
  refine (values_passes has command).bind ?_
  rintro _ valued ⟨stored, store, all, rfl, numbered, held, holding⟩
  refine (objects_passes held (holding_stocked holding) numbered).bind ?_
  rintro _ seen ⟨retained, rfl, named, sound⟩
  exact reconnect_passes sound named numbered

end Scenario

/-- Started at any point of any server's life, and however its requests interleave with
those of other clients, the demonstration passes in every mode, unless the server has
issued its last identifier by the end. That it would fail on a wrong server is not said. -/
theorem scenario_passes (first : UInt64) (before : List Domain.Action)
    (schedule : List (List Domain.Action)) (command : ApplicationCommand) (writable : Bool) :
    let server : Venue := ⟨(World.run builtinRegistry first before).1, []⟩
    let played := Dialogue.run (Venue.serve builtinRegistry defaultLimits)
      (Venue.disturb builtinRegistry) (runClientCommand command writable) server schedule
    played.1 = passedReport command writable ∨ played.2.world.ids.next_ = 0 := by
  intro server
  have sound : server.AllSound := World.run_sound builtinRegistry first before
  have passes : Passes (fun report after => report = passedReport command writable ∧ after.AllSound)
      (runClientCommand command writable) server := by
    refine Passes.withConnection sound fun client connected held => ?_
    refine (Scenario.demo_passes held command).bind ?_
    rintro _ after ⟨rfl, sound⟩
    exact Passes.done ⟨rfl, sound⟩
  exact (passes.run schedule).imp_left And.left

end PipeForge.Cli
