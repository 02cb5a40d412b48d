import PipeForge.Cli.Scenario
import PipeForge.Domain.Identity
import PipeForge.Domain.TextBuffer
import PipeForge.Domain.Pagination

/-!
# A scenario on a shared server

The sessions of a default server as the service a `Script` talks to. The connections of
the scenario have sessions of their own; between two of its requests others open, use and
close theirs and draw from the same identifiers. `Passes` is the precondition for this
service, up to the one thing the others can take away: the source of identifiers may be
spent at the end.
-/

namespace PipeForge.Cli
open Contracts Library Domain

/-- `server_options::storage` of a server started from the command line. -/
def defaultLimits : SessionLimits := ⟨maxStoredValues, maxStoredObjects, maxSessionBytes⟩

/-- The sessions of the server; those in `mine` belong to open connections of the scenario. -/
structure Venue where
  world : World
  mine : List Nat

namespace Venue

def serve (registry : ClassRegistry) (limits : SessionLimits) (venue : Venue) :
    (q : Query) → Reply q × Venue
  | .connect =>
    (.ok venue.world.sessions.length,
      ⟨(World.step registry venue.world (.create limits)).1, venue.world.sessions.length :: venue.mine⟩)
  | .call connection operation =>
    match venue.world.sessions[connection]? with
    | none => (.error { kind := .notConnected }, venue)
    | some store =>
      (.ok (store.execute registry venue.world.ids operation).outcome,
        { venue with world := (World.step registry venue.world (.execute connection operation)).1 })
  -- The server closes the session some time later; closing again changes nothing.
  | .close (some connection) => ((), { venue with mine := venue.mine.erase connection })
  | .close none => ((), venue)

/-- Others open, use and close sessions, but not those of the scenario. -/
def disturb (registry : ClassRegistry) (venue : Venue) (action : Domain.Action) : Venue :=
  let moved := { venue with world := (World.step registry venue.world action).1 }
  match action with
  | .create _ => moved
  | .execute session _ | .close session => if session ∈ venue.mine then venue else moved

/-! ## What the others leave alone -/

def Spent (venue : Venue) : Prop := venue.world.ids.next_ = 0

def AllSound (venue : Venue) : Prop := World.AllSound builtinRegistry venue.world

/-- The session of a connection, as the scenario left it. -/
structure Has (client : Nat) (store : SessionStore) (venue : Venue) : Prop where
  owner : venue.world.sessions[client]? = some store
  sound : venue.AllSound
  mine : client ∈ venue.mine

variable {venue : Venue} {client : Nat} {store : SessionStore}

theorem disturb_eq (registry : ClassRegistry) (venue : Venue) (action : Domain.Action) :
    venue.disturb registry action = venue ∨
      venue.disturb registry action =
        { venue with world := (World.step registry venue.world action).1 } := by
  unfold disturb
  cases action with
  | create limits => exact Or.inr rfl
  | execute session operation =>
    dsimp only
    split
    · exact Or.inl rfl
    · exact Or.inr rfl
  | close session =>
    dsimp only
    split
    · exact Or.inl rfl
    · exact Or.inr rfl

theorem disturb_spent (venue : Venue) (action : Domain.Action) (spent : venue.Spent) :
    (venue.disturb builtinRegistry action).Spent := by
  rcases disturb_eq builtinRegistry venue action with same | moved
  · rw [same]
    exact spent
  · rw [moved]
    exact (step_spent (World.step_spec builtinRegistry venue.world action) spent).1

theorem disturb_sound (venue : Venue) (action : Domain.Action) (sound : venue.AllSound) :
    (venue.disturb builtinRegistry action).AllSound := by
  rcases disturb_eq builtinRegistry venue action with same | moved
  · rw [same]
    exact sound
  · rw [moved]
    exact World.step_sound sound (World.step_spec builtinRegistry venue.world action)

theorem disturb_has (venue : Venue) (action : Domain.Action) (has : Has client store venue) :
    Has client store (venue.disturb builtinRegistry action) := by
  have sound := disturb_sound venue action has.sound
  have inside := (List.getElem?_eq_some_iff.mp has.owner).1
  cases action with
  | create limits =>
    refine ⟨?_, sound, has.mine⟩
    change (venue.world.sessions ++ _)[client]? = some store
    rw [List.getElem?_append_left inside]
    exact has.owner
  | execute session operation =>
    by_cases own : session ∈ venue.mine
    · rw [disturb, if_pos own]
      exact has
    · have other : session ≠ client := fun same => own (same ▸ has.mine)
      refine ⟨?_, sound, ?_⟩
      · simp only [disturb, if_neg own, World.step]
        split
        · exact has.owner
        · rw [List.getElem?_set_ne other]
          exact has.owner
      · simp only [disturb, if_neg own]
        exact has.mine
  | close session =>
    by_cases own : session ∈ venue.mine
    · rw [disturb, if_pos own]
      exact has
    · have other : session ≠ client := fun same => own (same ▸ has.mine)
      refine ⟨?_, sound, ?_⟩
      · simp only [disturb, if_neg own, World.step]
        split
        · exact has.owner
        · rw [List.getElem?_set_ne other]
          exact has.owner
      · simp only [disturb, if_neg own]
        exact has.mine

theorem serve_spent (venue : Venue) (q : Query) (spent : venue.Spent) :
    (venue.serve builtinRegistry defaultLimits q).2.Spent := by
  cases q with
  | connect => exact spent
  | close connection => cases connection <;> exact spent
  | call connection operation =>
    unfold serve
    dsimp only
    split
    · exact spent
    · exact (step_spent (World.step_spec builtinRegistry venue.world _) spent).1

end Venue

/-! ## Preconditions -/

/-- Whatever the others do, the script ends well or all identifiers have been issued. -/
def Passes {α : Type} (good : α → Venue → Prop) (script : Script α) (venue : Venue) : Prop :=
  Dialogue.Holds (Venue.serve builtinRegistry defaultLimits) (Venue.disturb builtinRegistry)
    (fun result after => good result after ∨ after.Spent) script venue

namespace Passes
variable {α β : Type} {good : α → Venue → Prop} {script : Script α} {venue : Venue} {client : Nat}
  {store : SessionStore}

/-- Once identifiers have run out nothing is promised. -/
theorem of_spent (spent : venue.Spent) : Passes good script venue :=
  (Dialogue.Holds.of_invariant Venue.disturb_spent Venue.serve_spent spent script).mono
    fun _ _ still => Or.inr still

theorem done {result : α} (holds : good result venue) : Passes good (pure result) venue :=
  Or.inl holds

theorem mono {weaker : α → Venue → Prop}
    (implies : ∀ result after, good result after → weaker result after)
    (passes : Passes good script venue) : Passes weaker script venue :=
  Dialogue.Holds.mono (fun result after => Or.imp_left (implies result after)) passes

theorem bind {further : β → Venue → Prop} {next : α → Script β} (begins : Passes good script venue)
    (goes : ∀ result after, good result after → Passes further (next result) after) :
    Passes further (script >>= next) venue :=
  Dialogue.Holds.bind begins fun result after ends => ends.elim (goes result after) of_spent

/-- A request is executed on the session as the scenario left it, with an identifier from
wherever the source has got to. -/
theorem execute {good : Except Client.Failure Outcome → Venue → Prop} {operation : Operation}
    (has : Venue.Has client store venue)
    (goes : ∀ ids after, Sound builtinRegistry ids store → ids.next_ ≠ 0 →
      Venue.Has client (store.execute builtinRegistry ids operation).store after →
      good (.ok (store.execute builtinRegistry ids operation).outcome) after) :
    Passes good (Scenario.execute client operation) venue := by
  refine Dialogue.Holds.ask Venue.disturb_has has fun before held => ?_
  by_cases spent : before.Spent
  · exact Or.inr (Venue.serve_spent before (.call client operation) spent)
  have inside := (List.getElem?_eq_some_iff.mp held.owner).1
  have kept : World.AllSound builtinRegistry
      (World.step builtinRegistry before.world (.execute client operation)).1 :=
    World.step_sound held.sound (World.step_spec builtinRegistry before.world _)
  simp only [Venue.serve, held.owner]
  refine Or.inl (goes before.world.ids _ (held.sound client store held.owner) spent
    ⟨?_, kept, held.mine⟩)
  simp only [World.step, held.owner]
  exact List.getElem?_set_self inside

theorem ask {T : Type} {operation : Operation} {take : Outcome → Option T}
    {good : Option T → Venue → Prop}
    (passes : Passes (fun reply after => good (Scenario.extract take reply) after)
      (Scenario.execute client operation) venue) :
    Passes good (Scenario.ask client operation take) venue :=
  passes.bind fun _ _ holds => done holds

/-- An operation whose result does not depend on the identifiers. -/
theorem answered {T : Type} {operation : Operation} (take : Outcome → Option T)
    (has : Venue.Has client store venue) (outcome : Outcome) (next : SessionStore)
    (result : ∀ ids, Sound builtinRegistry ids store →
      store.execute builtinRegistry ids operation = ⟨outcome, next, ids⟩) :
    Passes (fun found after => found = take outcome ∧ Venue.Has client next after)
      (Scenario.ask client operation take) venue := by
  refine ask (execute has fun ids after sound _ held => ?_)
  rw [result ids sound] at held ⊢
  exact ⟨rfl, held⟩

/-- A refusal with the expected code passes, and the store is as it was. -/
theorem error {operation : Operation} {code : ErrorCode} (known : (makeError code).code = code)
    (has : Venue.Has client store venue)
    (result : ∀ ids, Sound builtinRegistry ids store →
      store.execute builtinRegistry ids operation = store.fail ids code) :
    Passes (fun refused after => refused = true ∧ Venue.Has client store after)
      (Scenario.error client operation code) venue := by
  refine (answered remoteError has _ store result).bind ?_
  rintro _ after ⟨rfl, held⟩
  refine done ⟨?_, held⟩
  rw [remoteError, Option.any_some, known]
  exact decide_eq_true rfl

theorem both {first second : Script Bool} {middle : Venue → Prop} {good : Bool → Venue → Prop}
    (begins : Passes (fun holds after => holds = true ∧ middle after) first venue)
    (goes : ∀ after, middle after → Passes good second after) :
    Passes good (Scenario.both first second) venue :=
  begins.bind fun result after ends => by
    obtain ⟨rfl, there⟩ := ends
    exact goes after there

/-- A new connection has a fresh session of its own. -/
theorem connect {good : Except Client.Failure Nat → Venue → Prop} (sound : venue.AllSound)
    (goes : ∀ fresh after, Venue.Has fresh (SessionStore.create defaultLimits) after →
      good (.ok fresh) after) : Passes good Scenario.connect venue := by
  refine Dialogue.Holds.ask Venue.disturb_sound sound fun before held => Or.inl ?_
  refine goes before.world.sessions.length _ ⟨?_, ?_, List.mem_cons_self⟩
  · exact List.getElem?_concat_length
  · exact World.step_sound held (World.step_spec builtinRegistry before.world _)

theorem close (sound : venue.AllSound) (client : Nat) :
    Passes (fun _ after => after.AllSound) (Scenario.close (some client)) venue :=
  Dialogue.Holds.ask Venue.disturb_sound sound fun _ held => Or.inl held

/-- The server of the scenario lets every connection in, so what passes on a fresh session
passes on a local connection. -/
theorem withConnection {good : α → Prop} {refused : Client.Failure → α} {use : Nat → Script α}
    (sound : venue.AllSound)
    (uses : ∀ client after, Venue.Has client (SessionStore.create defaultLimits) after →
      Passes (fun result last => good result ∧ last.AllSound) (use client) after) :
    Passes (fun result after => good result ∧ after.AllSound)
      (Scenario.withConnection refused use) venue := by
  have opened : Passes (fun reply after => ∃ client, reply = .ok client ∧
      Venue.Has client (SessionStore.create defaultLimits) after) Scenario.connect venue :=
    connect sound fun client after held => ⟨client, rfl, held⟩
  refine opened.bind ?_
  rintro _ connected ⟨client, rfl, held⟩
  refine (uses client connected held).bind ?_
  rintro result used ⟨holds, sound⟩
  exact (close sound client).bind fun _ after sound => done ⟨holds, sound⟩

end Passes

end PipeForge.Cli
