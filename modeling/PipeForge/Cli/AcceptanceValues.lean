import PipeForge.Cli.Venue

/-!
# Values in the scenario

The first part of the demonstration (client_commands.cpp) against a default server: what
was put comes back, the pages list it in order, and the quota refuses the probe in time,
whatever other clients do meanwhile.
-/

namespace PipeForge.Cli
open Contracts Library Domain

/-! ## What fits -/

section
variable {ids : IdentifierSource} {store : SessionStore}

/-- No value costs more than a record and the longest text. -/
theorem valueCharge_bound {data : Value} (valid : validValue data = true) :
    valueCharge data ≤ recordCharge + maxStringBytes :=
  Nat.add_le_add_left (valueBytes_le valid) recordCharge

theorem values_total (sound : Sound builtinRegistry ids store) :
    store.values.total valueCharge ≤ store.values.size * (recordCharge + maxStringBytes) := by
  have each : ∀ charge ∈ store.values.entries.map (fun e => valueCharge e.2),
      charge ≤ recordCharge + maxStringBytes := by
    intro charge member
    obtain ⟨e, listed, rfl⟩ := List.mem_map.mp member
    have found := (OrderedMap.find_eq_some_iff store.values e.1 e.2).mpr listed
    exact valueCharge_bound (sound.values_valid e.1 e.2 found)
  have sum := List.sum_le_card_nsmul _ _ each
  rwa [List.length_map, smul_eq_mul] at sum

/-- A hundred strings of maximal length leave room for small objects. -/
theorem used_bound (sound : Sound builtinRegistry ids store) :
    store.used ≤ maxStoredValues * (recordCharge + maxStringBytes) +
      store.objects.total (·.charge) := by
  have values := values_total sound
  have few := Nat.mul_le_mul_right (recordCharge + maxStringBytes)
    (Nat.le_trans sound.values_le sound.values_limit)
  rw [sound.used]
  exact Nat.add_le_add_right (Nat.le_trans values few) _

/-- In a store with room a value is put under the next identifier. -/
theorem put_returned (sound : Sound builtinRegistry ids store) (opened : store.closed = false)
    {data : Value} (valid : validValue data = true)
    (room : store.values.size < store.limits.values)
    (fits : store.used + valueCharge data ≤ store.limits.bytes) (live : ids.next_ ≠ 0) :
    ∃ id ids', ids.next = (some id, ids') ∧
      store.execute builtinRegistry ids (.putValue data) =
        ⟨.valueRecord ⟨id, data⟩,
          { store with
            values := store.values.emplace id data
            used := SizeT.add store.used (valueCharge data) }, ids'⟩ := by
  obtain ⟨ids', drawn⟩ := IdentifierSource.next_live live
  refine ⟨ids.next_, ids', drawn, ?_⟩
  have admitted : ¬ (store.values.size ≥ store.limits.values ∨
      valueCharge data > store.limits.bytes - store.used) := by omega
  simp only [SessionStore.execute, opened, Bool.false_eq_true, if_false,
    SessionStore.applyPutValue, valid, Bool.not_true, sound.remaining_eq, if_neg admitted, drawn]

end

/-! ## Values -/

/-- What the session holds while the scenario puts values into it. -/
structure Holding (store : SessionStore) (records : List ValueRecord) : Prop where
  opened : store.closed = false
  limits : store.limits = defaultLimits
  values : store.values.entries = records.map fun record => (record.id, record.data)
  objects : store.objects = .empty

namespace Scenario
variable {venue : Venue} {client : Nat} {store : SessionStore} {records : List ValueRecord}

theorem holding_size (holding : Holding store records) : store.values.size = records.length := by
  rw [OrderedMap.size, holding.values, List.length_map]

/-- The identifier of a new value is above the others, so it is listed last. -/
theorem put_passes (has : Venue.Has client store venue) (holding : Holding store records)
    (few : records.length < maxStoredValues) {data : Value} (valid : validValue data = true) :
    Passes (fun reply after => ∃ id next, reply = .ok (.valueRecord ⟨id, data⟩) ∧
        Venue.Has client next after ∧ Holding next (records ++ [⟨id, data⟩]))
      (execute client (.putValue data)) venue := by
  refine Passes.execute has fun ids after sound live held => ?_
  have room : store.values.size < store.limits.values := by
    rw [holding_size holding, holding.limits]
    exact few
  have fits : store.used + valueCharge data ≤ store.limits.bytes := by
    have used := used_bound sound
    have charge := valueCharge_bound valid
    have enough : maxStoredValues * (recordCharge + maxStringBytes) + (recordCharge + maxStringBytes)
        ≤ maxSessionBytes := by decide
    rw [holding.objects] at used
    rw [holding.limits]
    change store.used ≤ maxStoredValues * (recordCharge + maxStringBytes) + 0 at used
    change _ ≤ maxSessionBytes
    omega
  obtain ⟨id, ids', drawn, run⟩ := put_returned sound holding.opened valid room fits live
  rw [run] at held ⊢
  refine ⟨id, _, rfl, held, holding.opened, holding.limits, ?_, holding.objects⟩
  rw [OrderedMap.entries_emplace_last, holding.values, List.map_append]
  · rfl
  · intro e listed
    have found := (OrderedMap.find_eq_some_iff store.values e.1 e.2).mpr listed
    exact issued_lt_next drawn (sound.values_issued e.1 e.2 found)

/-- One after the other every input is stored, and what came back is kept in order. -/
theorem saveEach_passes (inputs : List Value) (valid : ∀ input ∈ inputs, validValue input = true)
    (has : Venue.Has client store venue) (holding : Holding store records)
    (few : records.length + inputs.length ≤ maxStoredValues) :
    Passes (fun saved after => ∃ all next, saved = some all ∧
        all.map (·.data) = records.map (·.data) ++ inputs ∧ Venue.Has client next after ∧
          Holding next all)
      (saveEach client inputs records) venue := by
  induction inputs generalizing venue store records with
  | nil => exact Passes.done ⟨records, store, rfl, by simp, has, holding⟩
  | cons input rest ih =>
    rw [List.length_cons] at few
    have puts := put_passes has holding (by omega) (valid input List.mem_cons_self)
    have asked : Passes (fun record after => ∃ id next, record = some ⟨id, input⟩ ∧
        Venue.Has client next after ∧ Holding next (records ++ [⟨id, input⟩]))
        (ask client (.putValue input) valueRecord) venue := by
      refine Passes.ask (puts.mono ?_)
      rintro _ after ⟨id, next, rfl, held, more⟩
      exact ⟨id, next, rfl, held, more⟩
    refine asked.bind ?_
    rintro _ after ⟨id, next, rfl, held, more⟩
    refine (ih (fun input member => valid input (List.mem_cons_of_mem _ member)) held more
      (by rw [List.length_append, List.length_singleton]; omega)).mono ?_
    rintro saved last ⟨all, final, rfl, same, there, whole⟩
    refine ⟨all, final, rfl, ?_, there, whole⟩
    simpa using same

/-- The replies of a batch, before the scenario looks at any of them. -/
theorem submit_passes (inputs : List Value) (valid : ∀ input ∈ inputs, validValue input = true)
    (has : Venue.Has client store venue) (holding : Holding store records)
    (few : records.length + inputs.length ≤ maxStoredValues) :
    Passes (fun replies after => ∃ more next,
        replies = more.map (fun record => .ok (.valueRecord record)) ∧ more.map (·.data) = inputs ∧
          Venue.Has client next after ∧ Holding next (records ++ more))
      (inputs.mapM fun input => execute client (.putValue input)) venue := by
  induction inputs generalizing venue store records with
  | nil => exact Passes.done ⟨[], store, rfl, rfl, has, by rwa [List.append_nil]⟩
  | cons input rest ih =>
    rw [List.length_cons] at few
    rw [List.mapM_cons]
    refine (put_passes has holding (by omega) (valid input List.mem_cons_self)).bind ?_
    rintro _ after ⟨id, next, rfl, held, more⟩
    refine (ih (fun input member => valid input (List.mem_cons_of_mem _ member)) held more
      (by rw [List.length_append, List.length_singleton]; omega)).bind ?_
    rintro _ last ⟨later, final, rfl, same, there, whole⟩
    refine Passes.done ⟨⟨id, input⟩ :: later, final, rfl, ?_, there, ?_⟩
    · rw [List.map_cons, same]
    · rwa [List.append_assoc] at whole

/-- The batch is read off its replies in the order of the requests. -/
theorem mapM_records (more : List ValueRecord) :
    (more.map (fun record => (.ok (.valueRecord record) : Except Client.Failure Outcome))).mapM
      (extract valueRecord) = some more := by
  induction more with
  | nil => rfl
  | cons record rest ih => simp [extract, valueRecord, ih]

theorem inputs_valid : ∀ input ∈ inputs, validValue input = true := by
  decide

theorem fresh_holding : Holding (SessionStore.create defaultLimits) [] where
  opened := rfl
  limits := rfl
  values := rfl
  objects := rfl

/-- Either way the inputs are stored: by single calls or as one batch. -/
theorem save_passes (has : Venue.Has client (SessionStore.create defaultLimits) venue)
    (command : ApplicationCommand) :
    Passes (fun saved after => ∃ all next, saved = some all ∧ all.map (·.data) = inputs ∧
        Venue.Has client next after ∧ Holding next all)
      (save client command) venue := by
  unfold save
  split
  · exact saveEach_passes inputs inputs_valid has fresh_holding (by decide)
  · refine (submit_passes inputs inputs_valid has fresh_holding (by decide)).bind ?_
    rintro _ after ⟨more, next, rfl, same, held, whole⟩
    exact Passes.done ⟨more, next, mapM_records more, same, held, whole⟩

/-- A valid value is equal to itself, which a value that is not a number would not be. -/
theorem sameAs_valid {data : Value} (valid : validValue data = true) : data.sameAs data = true :=
  data.sameAs_self fun bits real => by
    subst real
    exact valid

theorem readBack_passes (has : Venue.Has client store venue) (holding : Holding store records)
    (pairs : List (Value × ValueRecord)) (all : ∀ pair ∈ pairs, pair.2 ∈ records ∧ pair.2.data = pair.1) :
    Passes (fun same after => same = true ∧ Venue.Has client store after)
      (readBack client pairs) venue := by
  induction pairs generalizing venue with
  | nil => exact Passes.done ⟨rfl, has⟩
  | cons pair rest ih =>
    obtain ⟨input, saved⟩ := pair
    obtain ⟨member, data⟩ := all (input, saved) List.mem_cons_self
    replace data : saved.data = input := data
    have found : store.values.find saved.id = some saved.data := by
      rw [OrderedMap.find_eq_some_iff, holding.values]
      exact List.mem_map.mpr ⟨saved, member, rfl⟩
    have sound := has.sound client store has.owner
    refine (Passes.answered valueRecord has (.valueRecord saved) store fun ids sound => by
      have nonzero := (sound.values_issued _ _ found).1
      simp [SessionStore.execute, holding.opened, SessionStore.answer, SessionStore.applyGetValue,
        nonzero, found]).bind ?_
    rintro _ after ⟨rfl, held⟩
    dsimp only [valueRecord]
    rw [if_pos]
    · exact ih held fun pair member => all pair (List.mem_cons_of_mem _ member)
    · rw [← data]
      exact sameAs_valid (sound.values_valid _ _ found)

theorem sameAll_self {α : Type} {same : α → α → Bool} {list : List α}
    (each : ∀ element ∈ list, same element element = true) : sameAll same list list = true := by
  induction list with
  | nil => rfl
  | cons element rest ih =>
    rw [sameAll, each element List.mem_cons_self,
      ih fun other member => each other (List.mem_cons_of_mem _ member)]
    rfl

def pair (record : ValueRecord) : UInt64 × Value := (record.id, record.data)

theorem pair_injective : Function.Injective pair := by
  rintro ⟨id, data⟩ ⟨id', data'⟩ same
  cases same
  rfl

/-- A page shows the first records of those that follow the cursor, and moves it. -/
theorem page_split {cursor : UInt64} {rest : List ValueRecord} {page : ValuesPage}
    {remaining : List (UInt64 × Value)} (paged : PageOf store cursor page remaining)
    (follows : store.values.after cursor = rest.map pair) :
    ∃ left, rest = page.values ++ left ∧ remaining = left.map pair := by
  have split := paged.split
  rw [follows, eq_comm, List.map_eq_append_iff] at split
  obtain ⟨shown, left, parts, same, others⟩ := split
  have equal : shown = page.values := List.map_injective_iff.mpr pair_injective same
  exact ⟨left, by rw [parts, equal], others.symm⟩

/-- Cursors increase, so the loop over the pages ends. -/
theorem page_moves {cursor : UInt64} {page : ValuesPage} {remaining : List (UInt64 × Value)}
    (paged : PageOf store cursor page remaining) (more : page.next ≠ 0) : cursor < page.next := by
  obtain ⟨-, -, last⟩ := paged.last more
  obtain ⟨record, found, same⟩ := Option.map_eq_some_iff.mp last
  have listed : (record.id, record.data) ∈ store.values.after cursor := by
    rw [← paged.split]
    exact List.mem_append_left _ (List.mem_map.mpr ⟨record, List.mem_of_getLast? found, rfl⟩)
  rw [← same]
  exact of_decide_eq_true (List.mem_filter.mp listed).2

/-- What follows the cursor is what has not been listed yet. -/
theorem listAll_passes {count : Nat} (whole : records.length ≤ count)
    (holding : Holding store records) (listed rest : List ValueRecord) (cursor : UInt64)
    (has : Venue.Has client store venue) (split : listed ++ rest = records)
    (follows : store.values.after cursor = rest.map pair) :
    Passes (fun found after => found = some records ∧ Venue.Has client store after)
      (listAll client count cursor listed) venue := by
  induction size : rest.length using Nat.strong_induction_on
      generalizing listed rest cursor venue with
  | _ length ih =>
    have sound := has.sound client store has.owner
    obtain ⟨page, remaining, shown, paged⟩ :=
      listValues_page sound cursor (show validPageSize pageSize = true by decide)
    obtain ⟨left, parts, others⟩ := page_split paged follows
    have few : ¬ listed.length + page.values.length > count := by
      rw [parts] at split
      have total := congrArg List.length split
      simp only [List.length_append] at total
      omega
    rw [listAll]
    refine (Passes.answered valuesPage has (.values page) store fun ids _ => by
      simp [SessionStore.execute, holding.opened, SessionStore.answer, shown]).bind ?_
    rintro _ after ⟨rfl, held⟩
    dsimp only [valuesPage]
    rw [dif_neg few]
    by_cases ended : page.next = 0
    · have nothing : left = [] := by
        have none := paged.ended ended
        rwa [others, List.map_eq_nil_iff] at none
      rw [if_pos ended]
      refine Passes.done ⟨?_, held⟩
      rw [← split, parts, nothing, List.append_nil]
    · obtain ⟨-, some, -⟩ := paged.last ended
      have moves : ¬ (page.values = [] ∨ page.next ≤ cursor) :=
        not_or.mpr ⟨some, UInt64.not_le.mpr (page_moves paged ended)⟩
      rw [if_neg ended, dif_neg moves]
      refine ih left.length ?_ (listed ++ page.values) left page.next held ?_ ?_ rfl
      · have brought := List.length_pos_of_ne_nil some
        rw [← size, parts, List.length_append]
        omega
      · rw [List.append_assoc, ← parts, split]
      · rw [paged.after ended, others]

/-- A full store refuses with `quota_exceeded`, which is what the probe waits for. -/
theorem put_refused (has : Venue.Has client store venue) (holding : Holding store records)
    (full : maxStoredValues ≤ records.length) {data : Value} (valid : validValue data = true) :
    Passes (fun reply after => reply = .ok (.error (makeError .quotaExceeded)) ∧
        Venue.Has client store after)
      (execute client (.putValue data)) venue := by
  refine Passes.execute has fun ids after sound _ held => ?_
  have run : store.execute builtinRegistry ids (.putValue data) = store.fail ids .quotaExceeded := by
    have blocked : store.values.size ≥ store.limits.values := by
      rw [holding_size holding, holding.limits]
      exact full
    simp [SessionStore.execute, holding.opened, SessionStore.applyPutValue, valid, blocked]
  rw [run] at held ⊢
  exact ⟨rfl, held⟩

/-- Each success of the probe fills the session further, and it has room for a hundred. -/
theorem probe_passes (attempts : Nat) (has : Venue.Has client store venue)
    (holding : Holding store records) (enough : maxStoredValues < records.length + attempts) :
    Passes (fun refused after => refused = true ∧ ∃ next all, Venue.Has client next after ∧
        Holding next all)
      (probe client attempts) venue := by
  induction attempts generalizing venue store records with
  | zero =>
    have sound := has.sound client store has.owner
    have bound := Nat.le_trans sound.values_le sound.values_limit
    rw [holding_size holding] at bound
    omega
  | succ attempts ih =>
    rw [probe]
    by_cases few : records.length < maxStoredValues
    · refine (put_passes has holding few rfl).bind ?_
      rintro _ after ⟨id, next, rfl, held, more⟩
      refine ih held more ?_
      rw [List.length_append, List.length_singleton]
      omega
    · refine (put_refused has holding (Nat.le_of_not_lt few) rfl).bind ?_
      rintro _ after ⟨rfl, held⟩
      exact Passes.done ⟨rfl, store, records, held, holding⟩

theorem zip_data (all : List ValueRecord) :
    ∀ pair ∈ (all.map (·.data)).zip all, pair.2 ∈ all ∧ pair.2.data = pair.1 := by
  induction all with
  | nil => nofun
  | cons record rest ih =>
    intro pair member
    rw [List.map_cons, List.zip_cons_cons] at member
    rcases List.mem_cons.mp member with rfl | later
    · exact ⟨List.mem_cons_self, rfl⟩
    · exact ⟨List.mem_cons_of_mem _ (ih pair later).1, (ih pair later).2⟩

/-- The value part of the scenario passes in a fresh session. -/
theorem values_passes (has : Venue.Has client (SessionStore.create defaultLimits) venue)
    (command : ApplicationCommand) :
    Passes (fun stored after => ∃ id next all, stored = some id ∧ id ≠ 0 ∧
        Venue.Has client next after ∧ Holding next all)
      (values client command) venue := by
  refine (save_passes has command).bind ?_
  rintro _ saved ⟨all, store, rfl, same, held, holding⟩
  have sound := held.sound client store held.owner
  have size : all.length = inputs.length := by rw [← same, List.length_map]
  have stored : ∀ record ∈ all, store.values.find record.id = some record.data := by
    intro record member
    rw [OrderedMap.find_eq_some_iff, holding.values]
    exact List.mem_map.mpr ⟨record, member, rfl⟩
  have pairs : ∀ pair ∈ inputs.zip all, pair.2 ∈ all ∧ pair.2.data = pair.1 := by
    rw [← same]
    exact zip_data all
  refine (readBack_passes held holding _ pairs).bind ?_
  rintro _ readDone ⟨rfl, held⟩
  rw [if_pos rfl]
  have follows : store.values.after 0 = all.map pair := by
    rw [OrderedMap.after, holding.values, List.filter_eq_self.mpr]
    · rfl
    · intro e member
      obtain ⟨record, listed, rfl⟩ := List.mem_map.mp member
      have issued := sound.values_issued _ _ (stored record listed)
      exact decide_eq_true (UInt64.pos_iff_ne_zero.mpr issued.1)
  refine (listAll_passes (Nat.le_of_eq size) holding [] all 0 held rfl follows).bind ?_
  rintro _ listDone ⟨rfl, held⟩
  dsimp only
  rw [if_pos (sameAll_self fun record member => ?_)]
  · cases all with
    | nil => cases size
    | cons first rest =>
      refine (probe_passes quotaProbeLimit held holding (by rw [size]; decide)).bind ?_
      rintro _ after ⟨rfl, next, final, there, whole⟩
      exact Passes.done ⟨first.id, next, final, rfl,
        (sound.values_issued _ _ (stored first List.mem_cons_self)).1, there, whole⟩
  · rw [sameRecord, sameAs_valid (sound.values_valid _ _ (stored record member))]
    simp

end Scenario

end PipeForge.Cli
