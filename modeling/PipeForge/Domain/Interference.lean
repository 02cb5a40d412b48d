import PipeForge.Domain.Similar

/-!
# Sessions do not observe each other

Two interleavings of the same programs give a session the same outcomes up to
renaming its own identifiers, whatever the other sessions do in between.

The argument looks at one session at a time. `Ran` is its part of an interleaving:
each command is executed on some live source that has issued what the session
holds. Two such histories of one program keep their stores similar, and every
interleaving contains one for each of its sessions.
-/

namespace PipeForge.Domain
open Contracts Library

/-- What a session sees of one of its commands. -/
structure Observation where
  outcome : Outcome
  accountedBytes : Nat
  deriving DecidableEq, Repr

/-- A session's program as far as it has run. -/
structure Party where
  pending : List Command
  issued : List UInt64
  observed : List Observation

structure Interleaving where
  world : World
  parties : List Party

namespace Interleaving

def accounted (w : World) (session : Nat) : Nat :=
  match w.sessions[session]? with
  | none => 0
  | some store => store.accountedBytes

def start (programs : List (SessionLimits × List Command)) (first : UInt64) : Interleaving where
  world := ⟨⟨first⟩, programs.map fun program => SessionStore.create program.1⟩
  parties := programs.map fun program => ⟨program.2, [], []⟩

/-- The session runs its next command, if it has one left. -/
def tick (registry : ClassRegistry) (s : Interleaving) (session : Nat) : Interleaving :=
  match s.parties[session]? with
  | none => s
  | some party =>
    match party.pending with
    | [] => s
    | command :: rest =>
      let next := World.step registry s.world (.execute session (command.resolve party.issued))
      { world := next.1
        parties := s.parties.set session
          { pending := rest
            issued := party.issued ++ allocated next.2
            observed := party.observed ++
              next.2.map fun event => ⟨event.outcome, accounted next.1 session⟩ } }

/-- The sessions take their turns in the given order. -/
def run (registry : ClassRegistry) (programs : List (SessionLimits × List Command)) (first : UInt64)
    (order : List Nat) : Interleaving :=
  order.foldl (tick registry) (start programs first)

end Interleaving

/-! ## One session of an interleaving -/

/-- What a session executed and saw, whatever moved the source in between. -/
inductive Ran (registry : ClassRegistry) (session : Nat) (limits : SessionLimits) :
    List Command → List UInt64 → SessionStore → List Observation → Prop
  | start : Ran registry session limits [] [] (SessionStore.create limits) []
  | next (commands : List Command) (issued : List UInt64) (store : SessionStore)
      (observed : List Observation) (command : Command) (ids : IdentifierSource) (done : Executed)
      (before : Ran registry session limits commands issued store observed)
      (holding : Holding issued ids)
      (executed : store.execute registry ids (command.resolve issued) = done) :
      Ran registry session limits (commands ++ [command])
        (issued ++ allocated [⟨session, command.resolve issued, done.outcome⟩]) done.store
        (observed ++ [⟨done.outcome, done.store.accountedBytes⟩])

def ObservationRenames (r : UInt64 → UInt64 → Prop) (seen seen' : Observation) : Prop :=
  OutcomeRenames r seen.outcome seen'.outcome ∧ seen.accountedBytes = seen'.accountedBytes

/-- A renaming that relates more identifiers relates the same outcomes. -/
theorem outcomeRenames_mono {r r' : UInt64 → UInt64 → Prop} (wider : ∀ id id', r id id' → r' id id')
    {outcome outcome' : Outcome} (renamed : OutcomeRenames r outcome outcome') :
    OutcomeRenames r' outcome outcome' := by
  unfold OutcomeRenames at renamed
  split at renamed
  · exact ⟨wider _ _ renamed.1, renamed.2⟩
  · refine ⟨renamed.1.imp ?_, wider _ _ renamed.2⟩
    intro record record' matched
    exact ⟨wider _ _ matched.1, matched.2⟩
  · exact ⟨wider _ _ renamed.1, renamed.2⟩
  · rename_i records pages objects
    subst renamed
    cases outcome with
    | valueRecord record => exact absurd rfl (records record record rfl)
    | values page => exact absurd rfl (pages page page rfl)
    | object snapshot => exact absurd rfl (objects snapshot snapshot rfl)
    | _ => exact rfl

section
variable {registry : ClassRegistry} {session : Nat} {limits : SessionLimits}
  {commands : List Command} {issued issued' : List UInt64} {store store' : SessionStore}
  {observed observed' : List Observation}

theorem Ran.length (ran : Ran registry session limits commands issued store observed) :
    observed.length = commands.length := by
  induction ran with
  | start => rfl
  | next _ _ _ _ _ _ _ _ _ _ ih => simp [ih]

/-- The last command of a history and the history before it. -/
theorem Ran.last {front : List Command} {command : Command}
    (ran : Ran registry session limits (front ++ [command]) issued store observed) :
    ∃ issued₀ store₀ observed₀ ids, Ran registry session limits front issued₀ store₀ observed₀ ∧
      Holding issued₀ ids ∧
      issued = issued₀ ++ allocated [⟨session, command.resolve issued₀,
        (store₀.execute registry ids (command.resolve issued₀)).outcome⟩] ∧
      store = (store₀.execute registry ids (command.resolve issued₀)).store ∧
      observed = observed₀ ++ [⟨(store₀.execute registry ids (command.resolve issued₀)).outcome,
        (store₀.execute registry ids (command.resolve issued₀)).store.accountedBytes⟩] := by
  generalize whole : front ++ [command] = commands at ran
  cases ran with
  | start => simp at whole
  | next commands issued₀ store₀ observed₀ other ids done before holding executed =>
    obtain ⟨same, last⟩ := List.append_inj' whole rfl
    cases last
    subst same
    subst executed
    exact ⟨issued₀, store₀, observed₀, ids, before, holding, rfl, rfl, rfl⟩

/-- Two histories of the same commands correspond throughout. -/
theorem ran_twin (ran : Ran registry session limits commands issued store observed)
    (ran' : Ran registry session limits commands issued' store' observed') :
    Similar issued issued' store store' ∧
      List.Forall₂ (ObservationRenames (Renames issued issued')) observed observed' := by
  induction ran generalizing issued' store' observed' with
  | start =>
    generalize none : ([] : List Command) = commands at ran'
    cases ran' with
    | start => exact ⟨⟨rfl, rfl, rfl, rfl, .empty, .empty⟩, .nil⟩
    | next => simp at none
  | next commands issued store observed command ids done before holding executed ih =>
    obtain ⟨issued₀, store₀, observed₀, ids', before', holding', rfl, rfl, rfl⟩ := ran'.last
    obtain ⟨similar, matched⟩ := ih before'
    subst executed
    have twin : Twin session _ _ _ _ (store.execute registry ids _) (store₀.execute registry ids' _) :=
      execute_twin similar holding holding' command
    refine ⟨twin.similar, List.rel_append ?_ (.cons ⟨twin.outcome, twin.similar.used⟩ .nil)⟩
    refine matched.imp ?_
    intro seen seen' renamed
    exact ⟨outcomeRenames_mono (fun _ _ => renames_mono) renamed.1, renamed.2⟩

/-- An earlier point of a history. -/
theorem Ran.earlier {front back : List Command}
    (ran : Ran registry session limits (front ++ back) issued store observed) :
    ∃ issued₀ store₀ observed₀, Ran registry session limits front issued₀ store₀ observed₀ ∧
      issued₀ <+: issued ∧ observed₀ <+: observed := by
  induction back using List.reverseRecOn generalizing issued store observed with
  | nil =>
    rw [List.append_nil] at ran
    exact ⟨issued, store, observed, ran, List.prefix_rfl, List.prefix_rfl⟩
  | append_singleton back command ih =>
    rw [← List.append_assoc] at ran
    obtain ⟨issued₁, store₁, observed₁, ids, before, -, rfl, -, rfl⟩ := ran.last
    obtain ⟨issued₀, store₀, observed₀, front, numbers, views⟩ := ih before
    exact ⟨issued₀, store₀, observed₀, front, numbers.trans (List.prefix_append _ _),
      views.trans (List.prefix_append _ _)⟩

end

/-! ## Interleavings -/

/-- Where a session's program stands after some turns. -/
structure Progress (registry : ClassRegistry) (session : Nat) (program : SessionLimits × List Command)
    (turns : Nat) (ids : IdentifierSource) (party : Party) (store : SessionStore) : Prop where
  pending : party.pending = program.2.drop turns
  ran : Ran registry session program.1 (program.2.take turns) party.issued store party.observed
  increasing : Increasing party.issued
  issued : ∀ id ∈ party.issued, ids.issued id

structure Tracked (registry : ClassRegistry) (programs : List (SessionLimits × List Command))
    (order : List Nat) (s : Interleaving) : Prop where
  parties : s.parties.length = programs.length
  progress : ∀ (session : Nat) (program : SessionLimits × List Command),
    programs[session]? = some program → ∃ party store, s.parties[session]? = some party ∧
      s.world.sessions[session]? = some store ∧
      Progress registry session program (order.count session) s.world.ids party store

section
variable {registry : ClassRegistry} {programs : List (SessionLimits × List Command)}

theorem start_tracked (registry : ClassRegistry) (programs : List (SessionLimits × List Command))
    (first : UInt64) : Tracked registry programs [] (Interleaving.start programs first) where
  parties := by simp [Interleaving.start]
  progress session program listed := by
    refine ⟨⟨program.2, [], []⟩, SessionStore.create program.1, ?_, ?_, ?_⟩
    · simp [Interleaving.start, listed]
    · simp [Interleaving.start, listed]
    · exact ⟨rfl, .start, ⟨.nil, by simp⟩, by simp⟩

/-- A session's turn, with the operation it executes. -/
theorem tick_eq {s : Interleaving} {session : Nat} {party : Party} {store : SessionStore}
    {command : Command} {rest : List Command} (here : s.parties[session]? = some party)
    (owner : s.world.sessions[session]? = some store) (next : party.pending = command :: rest) :
    s.tick registry session =
      let done := store.execute registry s.world.ids (command.resolve party.issued)
      { world := ⟨done.ids, s.world.sessions.set session done.store⟩
        parties := s.parties.set session
          { pending := rest
            issued := party.issued ++
              allocated [⟨session, command.resolve party.issued, done.outcome⟩]
            observed := party.observed ++ [⟨done.outcome, done.store.accountedBytes⟩] } } := by
  have inside := (List.getElem?_eq_some_iff.mp owner).1
  simp only [Interleaving.tick, here, next, World.step, owner, List.map_cons, List.map_nil,
    Interleaving.accounted, List.getElem?_set_self inside]

theorem tick_none {s : Interleaving} {session : Nat} (absent : s.parties[session]? = none) :
    s.tick registry session = s := by
  simp [Interleaving.tick, absent]

theorem tick_done {s : Interleaving} {session : Nat} {party : Party}
    (here : s.parties[session]? = some party) (finished : party.pending = []) :
    s.tick registry session = s := by
  simp [Interleaving.tick, here, finished]

theorem count_snoc (order : List Nat) (session target : Nat) :
    (order ++ [target]).count session = order.count session + if target = session then 1 else 0 := by
  rw [List.count_append, List.count_singleton]
  simp

/-- The progress of a session its own turn does not concern. -/
theorem Progress.advance {session : Nat} {program : SessionLimits × List Command} {turns : Nat}
    {ids later : IdentifierSource} {party : Party} {store : SessionStore}
    (progress : Progress registry session program turns ids party store)
    (advances : ids.Advances later) : Progress registry session program turns later party store :=
  { progress with
    issued := fun id member => IdentifierSource.advances_issued advances (progress.issued id member) }

/-- A turn after the last command changes nothing. -/
theorem Progress.idle {session : Nat} {program : SessionLimits × List Command} {turns : Nat}
    {ids : IdentifierSource} {party : Party} {store : SessionStore}
    (progress : Progress registry session program turns ids party store)
    (finished : party.pending = []) :
    Progress registry session program (turns + 1) ids party store := by
  have past : program.2.length ≤ turns := List.drop_eq_nil_iff.mp (progress.pending ▸ finished)
  refine { progress with pending := ?_, ran := ?_ }
  · rw [finished, List.drop_eq_nil_of_le (by omega)]
  · rw [List.take_of_length_le (by omega), ← List.take_of_length_le past]
    exact progress.ran

/-- A party's next command, run in its own store, extends its solo run. -/
theorem Progress.next {session : Nat} {program : SessionLimits × List Command} {turns : Nat}
    {ids : IdentifierSource} {party : Party} {store : SessionStore}
    (progress : Progress registry session program turns ids party store) {command : Command}
    {rest : List Command} (next : party.pending = command :: rest) (live : ids.next_ ≠ 0)
    {done : Executed} (executed : store.execute registry ids (command.resolve party.issued) = done)
    {drawn : List UInt64}
    (issues : drawn = allocated [⟨session, command.resolve party.issued, done.outcome⟩]) :
    Progress registry session program (turns + 1) done.ids
      { pending := rest
        issued := party.issued ++ drawn
        observed := party.observed ++ [⟨done.outcome, done.store.accountedBytes⟩] } done.store := by
  have holding : Holding party.issued ids := ⟨progress.increasing, progress.issued, live⟩
  have remaining : program.2.drop turns = command :: rest := progress.pending ▸ next
  have ran := Ran.next _ _ _ _ command ids done progress.ran holding executed
  have effect := execute_effect registry store ids (command.resolve party.issued)
  rw [executed] at effect
  have grown : Increasing (party.issued ++ drawn) ∧
      ∀ id ∈ party.issued ++ drawn, done.ids.issued id := by
    rcases effect_allocates session effect with ⟨none, same⟩ | ⟨id, some, drew⟩
    · have empty : drawn = [] := by simp [issues, allocated, none]
      rw [empty, List.append_nil, same]
      exact ⟨progress.increasing, progress.issued⟩
    · have one : drawn = [id] := by simp [issues, allocated, some]
      obtain ⟨rfl, -, -, fresh, advances⟩ := IdentifierSource.next_spec drew
      rw [one]
      refine ⟨holding.next, fun other member => ?_⟩
      rcases List.mem_append.mp member with old | new
      · exact IdentifierSource.advances_issued advances (progress.issued other old)
      · rw [List.mem_singleton.mp new]
        exact fresh
  refine ⟨?_, ?_, grown.1, grown.2⟩
  · rw [← List.tail_drop, remaining]
    rfl
  · have taken : program.2.take (turns + 1) = program.2.take turns ++ [command] := by
      have inside : turns < program.2.length := by
        by_contra past
        rw [List.drop_eq_nil_of_le (by omega)] at remaining
        cases remaining
      rw [List.take_succ_eq_append_getElem inside]
      rw [List.drop_eq_getElem_cons inside] at remaining
      rw [(List.cons.inj remaining).1]
    rw [taken, issues]
    exact ran

theorem effect_advances {store : SessionStore} {ids : IdentifierSource} {operation : Operation}
    {done : Executed} (effect : Effect registry store ids operation done) :
    ids.Advances done.ids := by
  rcases effect_allocates 0 effect with ⟨-, same⟩ | ⟨id, -, drawn⟩
  · rw [same]
    exact ids.advances_refl
  · exact (IdentifierSource.next_spec drawn).2.2.2.2

/-- Exhaustion is permanent, so a source live after a turn was live before it. -/
theorem tick_live {s : Interleaving} {target : Nat}
    (live : (s.tick registry target).world.ids.next_ ≠ 0) : s.world.ids.next_ ≠ 0 := by
  unfold Interleaving.tick at live
  split at live
  · exact live
  · split at live
    · exact live
    · exact fun spent => live (step_spent (World.step_spec registry s.world _) spent).1

/-- A turn of one party leaves the others where they were. -/
theorem tick_tracked {order : List Nat} {s : Interleaving} (tracked : Tracked registry programs order s)
    (target : Nat) (live : s.world.ids.next_ ≠ 0) :
    Tracked registry programs (order ++ [target]) (s.tick registry target) := by
  have others : ∀ session, target ≠ session →
      (order ++ [target]).count session = order.count session :=
    fun session different => by rw [count_snoc, if_neg different, Nat.add_zero]
  have own : (order ++ [target]).count target = order.count target + 1 := by
    rw [count_snoc, if_pos rfl]
  cases here : s.parties[target]? with
  | none =>
    rw [tick_none here]
    refine ⟨tracked.parties, fun session program listed => ?_⟩
    obtain ⟨party, store, present, owner, progress⟩ := tracked.progress session program listed
    have different : target ≠ session := fun same => by
      rw [same, present] at here
      cases here
    exact ⟨party, store, present, owner, others session different ▸ progress⟩
  | some party =>
    have inside : target < programs.length := tracked.parties ▸ (List.getElem?_eq_some_iff.mp here).1
    obtain ⟨party', store, present, owner, progress⟩ :=
      tracked.progress target programs[target] (List.getElem?_eq_getElem inside)
    cases Option.some.inj (here.symm.trans present)
    cases next : party.pending with
    | nil =>
      rw [tick_done here next]
      refine ⟨tracked.parties, fun session program listed => ?_⟩
      by_cases same : target = session
      · subst same
        cases Option.some.inj ((List.getElem?_eq_getElem inside).symm.trans listed)
        exact ⟨party, store, here, owner, own ▸ progress.idle next⟩
      · rw [others session same]
        exact tracked.progress session program listed
    | cons command rest =>
      have effect := execute_effect registry store s.world.ids (command.resolve party.issued)
      rw [tick_eq here owner next]
      refine ⟨by simp [tracked.parties], fun session program listed => ?_⟩
      by_cases same : target = session
      · subst same
        cases Option.some.inj ((List.getElem?_eq_getElem inside).symm.trans listed)
        refine ⟨_, _, List.getElem?_set_self (List.getElem?_eq_some_iff.mp here).1,
          List.getElem?_set_self (List.getElem?_eq_some_iff.mp owner).1, ?_⟩
        rw [own]
        exact progress.next next live rfl rfl
      · obtain ⟨other, held, present', owner', before⟩ := tracked.progress session program listed
        refine ⟨other, held, ?_, ?_, ?_⟩
        · rw [List.getElem?_set_ne same]
          exact present'
        · rw [List.getElem?_set_ne same]
          exact owner'
        · rw [others session same]
          exact before.advance (effect_advances effect)

/-- In any interleaving each party's observations are those of its own program in its own store.
-/
theorem run_tracked (registry : ClassRegistry) (programs : List (SessionLimits × List Command))
    (first : UInt64) (order : List Nat)
    (live : (Interleaving.run registry programs first order).world.ids.next_ ≠ 0) :
    Tracked registry programs order (Interleaving.run registry programs first order) := by
  induction order using List.reverseRecOn with
  | nil => exact start_tracked registry programs first
  | append_singleton order target ih =>
    have last : Interleaving.run registry programs first (order ++ [target]) =
        (Interleaving.run registry programs first order).tick registry target := by
      simp only [Interleaving.run, List.foldl_append, List.foldl_cons, List.foldl_nil]
    rw [last] at live ⊢
    exact tick_tracked (ih (tick_live live)) target (tick_live live)

end

/-- What the two runs show a session: at every position reached in both, outcome and
accounted bytes agree up to renaming its own identifiers, of which both runs issue
it an increasing sequence. -/
structure SameView (party party' : Party) : Prop where
  increasing : Increasing party.issued
  increasing' : Increasing party'.issued
  observed : ∀ (position : Nat) (seen seen' : Observation),
    party.observed[position]? = some seen → party'.observed[position]? = some seen' →
      ObservationRenames (Renames party.issued party'.issued) seen seen'

/-- Two runs of one program in different company differ in the identifiers only. -/
theorem ran_sameView {registry : ClassRegistry} {session : Nat} {limits : SessionLimits}
    {commands : List Command} {turns turns' : Nat} {issued issued' : List UInt64}
    {store store' : SessionStore} {observed observed' : List Observation}
    (ran : Ran registry session limits (commands.take turns) issued store observed)
    (ran' : Ran registry session limits (commands.take turns') issued' store' observed')
    (position : Nat) (seen seen' : Observation) (here : observed[position]? = some seen)
    (there : observed'[position]? = some seen') :
    ObservationRenames (Renames issued issued') seen seen' := by
  have inside := (List.getElem?_eq_some_iff.mp here).1
  have inside' := (List.getElem?_eq_some_iff.mp there).1
  rw [ran.length, List.length_take] at inside
  rw [ran'.length, List.length_take] at inside'
  -- Both histories pass through the one that ends just after this position.
  have through : ∀ n, position < n → commands.take n = commands.take (position + 1) ++
      (commands.take n).drop (position + 1) := by
    intro n reached
    have front : (commands.take n).take (position + 1) = commands.take (position + 1) := by
      rw [List.take_take, Nat.min_eq_left reached]
    rw [← front, List.take_append_drop]
  rw [through turns (by omega)] at ran
  rw [through turns' (by omega)] at ran'
  obtain ⟨issued₀, store₀, observed₀, early, ⟨more, rfl⟩, ⟨views, rfl⟩⟩ := ran.earlier
  obtain ⟨issued₁, store₁, observed₁, early', ⟨more', rfl⟩, ⟨views', rfl⟩⟩ := ran'.earlier
  obtain ⟨-, matched⟩ := ran_twin early early'
  have short : position < observed₀.length := by
    rw [early.length, List.length_take]
    omega
  have short' : position < observed₁.length := by
    rw [early'.length, List.length_take]
    omega
  rw [List.getElem?_append_left short] at here
  rw [List.getElem?_append_left short'] at there
  obtain ⟨-, rfl⟩ := List.getElem?_eq_some_iff.mp here
  obtain ⟨-, rfl⟩ := List.getElem?_eq_some_iff.mp there
  have renamed := matched.get short short'
  exact ⟨outcomeRenames_mono (fun _ _ => renames_mono) renamed.1, renamed.2⟩

/-- Whatever the order of the turns and the state of the shared source, a session
sees the same outcomes up to its own renaming, as many as its turns allow. -/
theorem sessions_do_not_interfere (registry : ClassRegistry)
    (programs : List (SessionLimits × List Command)) (first first' : UInt64)
    (order order' : List Nat)
    (live : (Interleaving.run registry programs first order).world.ids.next_ ≠ 0)
    (live' : (Interleaving.run registry programs first' order').world.ids.next_ ≠ 0)
    (session : Nat) (program : SessionLimits × List Command)
    (listed : programs[session]? = some program) :
    ∃ party party',
      (Interleaving.run registry programs first order).parties[session]? = some party ∧
      (Interleaving.run registry programs first' order').parties[session]? = some party' ∧
      party.observed.length = min (order.count session) program.2.length ∧
      party'.observed.length = min (order'.count session) program.2.length ∧
      SameView party party' := by
  obtain ⟨party, store, here, -, progress⟩ :=
    (run_tracked registry programs first order live).progress session program listed
  obtain ⟨party', store', there, -, progress'⟩ :=
    (run_tracked registry programs first' order' live').progress session program listed
  refine ⟨party, party', here, there, ?_, ?_, progress.increasing, progress'.increasing, ?_⟩
  · rw [progress.ran.length, List.length_take]
  · rw [progress'.ran.length, List.length_take]
  · exact ran_sameView progress.ran progress'.ran

/-- Two sessions that store and list; the second also runs a counter. -/
def sharedPrograms : List (SessionLimits × List Command) :=
  [(⟨4, 4, 1024⟩, [.putValue (.integer 7), .listValues none 1, .getValue (some 0)]),
   (⟨4, 4, 1024⟩, [.createObject (ascii "Counter") [⟨ascii "initial", .integer 5⟩],
     .invokeMethod (some 0) (ascii "increment") [⟨ascii "delta", .integer 2⟩]])]

theorem sessions_do_not_interfere_shared :
    (Interleaving.run builtinRegistry sharedPrograms 1 [0, 0, 1, 0, 1]).world.ids.next_ ≠ 0 ∧
    (Interleaving.run builtinRegistry sharedPrograms 1 [1, 1, 0, 0, 0]).world.ids.next_ ≠ 0 ∧
    ∃ party party',
      (Interleaving.run builtinRegistry sharedPrograms 1 [0, 0, 1, 0, 1]).parties[0]? =
        some party ∧
      (Interleaving.run builtinRegistry sharedPrograms 1 [1, 1, 0, 0, 0]).parties[0]? =
        some party' ∧
      party.observed.length = 3 ∧ party'.observed.length = 3 ∧ SameView party party' := by
  have live : (Interleaving.run builtinRegistry sharedPrograms 1 [0, 0, 1, 0, 1]).world.ids.next_ ≠ 0 := by
    decide +kernel
  have live' : (Interleaving.run builtinRegistry sharedPrograms 1 [1, 1, 0, 0, 0]).world.ids.next_ ≠ 0 := by
    decide +kernel
  exact ⟨live, live', sessions_do_not_interfere builtinRegistry sharedPrograms 1 1 [0, 0, 1, 0, 1]
    [1, 1, 0, 0, 0] live live' 0 _ rfl⟩

end PipeForge.Domain
