import PipeForge.Cli.Arguments
import PipeForge.Client.Connection
import PipeForge.Domain.Builtins
import PipeForge.Domain.World
import PipeForge.Library.Bisection
import PipeForge.Library.Dialogue

/-!
# The demonstration scenario

`run_client_command` with its class `scenario` (client_commands.cpp): a client that tries
every operation of the service and judges the answers. A connection is numbered by the
session the server keeps for it, once it has one. `call` waits on the future of
`call_async`, so the mode shows only in `values`, which submits a whole batch before it
waits, and the counter that picks one of the two is left out. Of a response the scenario
reads the body alone. Every connection is closed by its destructor, also one that did not
open and one that was closed before.

No loop of it runs on against a server that misbehaves (`scenario_bounded`).
-/

namespace PipeForge.Cli
open Contracts Library Domain

def defaultPageSize : UInt32 := 32

inductive Query where
  | connect
  | call (connection : Nat) (operation : Operation)
  /-- `none` is a connection that did not open. -/
  | close (connection : Option Nat)

def Reply : Query → Type
  | .connect => Except Client.Failure Nat
  | .call _ _ => Except Client.Failure Outcome
  | .close _ => Unit

abbrev Script := Dialogue Query Reply

/-! ## What the answers are taken for -/

def classesPage : Outcome → Option ClassesPage
  | .classes page => some page
  | _ => none

def classDescription : Outcome → Option ClassDescription
  | .description description => some description
  | _ => none

def valueRecord : Outcome → Option ValueRecord
  | .valueRecord record => some record
  | _ => none

def valuesPage : Outcome → Option ValuesPage
  | .values page => some page
  | _ => none

def objectSnapshot : Outcome → Option ObjectSnapshot
  | .object snapshot => some snapshot
  | _ => none

def released : Outcome → Option Unit
  | .released => some ()
  | _ => none

def value : Outcome → Option Value
  | .value data => some data
  | _ => none

def remoteError : Outcome → Option RemoteError
  | .error error => some error
  | _ => none

/-- `operator==` of the records, member by member. -/
def sameRecord (a b : ValueRecord) : Bool := decide (a.id = b.id) && a.data.sameAs b.data

def sameNamed (a b : NamedValue) : Bool := decide (a.name = b.name) && a.data.sameAs b.data

/-- `operator==` of vectors. -/
def sameAll {α : Type} (same : α → α → Bool) : List α → List α → Bool
  | [], [] => true
  | a :: as, b :: bs => same a b && sameAll same as bs
  | _, _ => false

/-- `std::ranges::binary_search`. -/
def binarySearch (names : List Bytes) (name : Bytes) : Bool :=
  match names[Bisection.partitionPoint (fun other => decide (other < name)) names]? with
  | none => false
  | some found => !decide (name < found)

namespace Scenario

def initialCounter : Int64 := 7
def otherCounter : Int64 := 42
def increment : Int64 := 5
def pageSize : UInt32 := 2
def quotaProbeLimit : Nat := 128

def execute (client : Nat) (operation : Operation) : Script (Except Client.Failure Outcome) :=
  .question (Query.call client operation)

/-- `connect_async(...).get()` on a new connection. -/
def connect : Script (Except Client.Failure Nat) := .question Query.connect

def close (client : Option Nat) : Script Unit := .question (Query.close client)

/-- A local connection: whatever becomes of it, the destructor closes it at the end. -/
def withConnection {α : Type} (refused : Client.Failure → α) (use : Nat → Script α) : Script α := do
  match ← connect with
  | .error failure => do
    close none
    return refused failure
  | .ok client => do
    let result ← use client
    close (some client)
    return result

def extract {T : Type} (take : Outcome → Option T) : Except Client.Failure Outcome → Option T
  | .ok outcome => take outcome
  | .error _ => none

def ask {T : Type} (client : Nat) (operation : Operation) (take : Outcome → Option T) :
    Script (Option T) := do
  let result ← execute client operation
  return extract take result

def error (client : Nat) (operation : Operation) (expected : ErrorCode) : Script Bool := do
  let result ← ask client operation remoteError
  return result.any fun error => decide (error.code = expected)

/-- `&&` of two conditions that ask. -/
def both (first second : Script Bool) : Script Bool := do
  if ← first then second else return false

/-! ## Values -/

/-- The last two are `0.0` and `1.25`. -/
def inputs : List Value :=
  [.text [], .text [0x63, 0x61, 0x66, 0xC3, 0xA9], .integer Int64.minValue, .integer Int64.maxValue,
    .real 0, .real 0x3FF4000000000000]

/-- The loop of the synchronous mode. -/
def saveEach (client : Nat) : List Value → List ValueRecord → Script (Option (List ValueRecord))
  | [], saved => return some saved
  | input :: rest, saved => do
    match ← ask client (.putValue input) valueRecord with
    | none => return none
    | some record => saveEach client rest (saved ++ [record])

/-- The other modes submit everything before they wait. -/
def saveBatch (client : Nat) (inputs : List Value) : Script (Option (List ValueRecord)) := do
  let pending ← inputs.mapM fun input => execute client (.putValue input)
  return pending.mapM (extract valueRecord)

def save (client : Nat) (command : ApplicationCommand) : Script (Option (List ValueRecord)) :=
  if command = .demoSync then saveEach client inputs [] else saveBatch client inputs

def readBack (client : Nat) : List (Value × ValueRecord) → Script Bool
  | [] => return true
  | (input, saved) :: rest => do
    match ← ask client (.getValue saved.id) valueRecord with
    | none => return false
    | some record => if record.data.sameAs input then readBack client rest else return false

def listAll (client count : Nat) (cursor : UInt64) (listed : List ValueRecord) :
    Script (Option (List ValueRecord)) := do
  match ← ask client (.listValues cursor pageSize) valuesPage with
  | none => return none
  | some page =>
    if _many : listed.length + page.values.length > count then return none
    else if page.next = 0 then return some (listed ++ page.values)
    else if _stuck : page.values = [] ∨ page.next ≤ cursor then return none
    else listAll client count page.next (listed ++ page.values)
termination_by count - listed.length
decreasing_by
  have some := List.length_pos_of_ne_nil (not_or.mp _stuck).1
  rw [List.length_append]
  omega

def probe (client : Nat) : Nat → Script Bool
  | 0 => return false
  | attempts + 1 => do
    match ← execute client (.putValue (.integer 0)) with
    | .error _ => return false
    | .ok (.error error) => return decide (error.code = .quotaExceeded)
    | .ok (.valueRecord _) => probe client attempts
    | .ok _ => return false

/-- Returns `stored_value_`, if it passes. -/
def values (client : Nat) (command : ApplicationCommand) : Script (Option UInt64) := do
  match ← save client command with
  | none => return none
  | some saved =>
    if ← readBack client (inputs.zip saved) then
      match ← listAll client inputs.length 0 [] with
      | none => return none
      | some listed =>
        if sameAll sameRecord listed saved then
          match saved with
          | [] => return none
          | stored :: _ =>
            if ← probe client quotaProbeLimit then return some stored.id else return none
        else return none
    else return none

/-! ## Objects -/

def counter (initial : Int64) : Operation :=
  .createObject (ascii "Counter") [⟨ascii "initial", .integer initial⟩]

def metadata (client : Nat) : Script Bool := do
  match ← ask client (.listClasses [] defaultPageSize) classesPage with
  | none => return false
  | some classes =>
    if binarySearch classes.names (ascii "Counter") &&
        binarySearch classes.names (ascii "TextBuffer") then
      match ← ask client (.describeClass (ascii "TextBuffer")) classDescription with
      | none => return false
      | some description =>
        return !(description.constructorParameters.isEmpty || description.methods.isEmpty)
    else return false

/-- Returns the identifiers of both counters. -/
def counters (client : Nat) : Script (Option (UInt64 × UInt64)) := do
  let first ← ask client (counter initialCounter) objectSnapshot
  let second ← ask client (counter otherCounter) objectSnapshot
  match first, second with
  | some first, some second =>
    if first.id = second.id then return none
    else
      let changed ← ask client (.invokeMethod first.id (ascii "increment")
        [⟨ascii "delta", .integer increment⟩]) value
      let field ← ask client (.getAttribute first.id (ascii "value")) value
      let retained ← ask client (.getObject first.id) objectSnapshot
      let independent ← ask client (.getAttribute second.id (ascii "value")) value
      let expected : Value := .integer (initialCounter + increment)
      match changed, field, retained, independent with
      | some changed, some field, some retained, some independent =>
        if changed.sameAs expected && field.sameAs expected &&
            independent.sameAs (.integer otherCounter) &&
            sameAll sameNamed retained.state [⟨ascii "value", expected⟩] then
          return some (first.id, second.id)
        else return none
      | _, _, _, _ => return none
  | _, _ => return none

def text (client : Nat) : Script Bool := do
  match ← ask client (.createObject (ascii "TextBuffer") [⟨ascii "initial", .text (ascii "hello")⟩])
      objectSnapshot with
  | none => return false
  | some text =>
    match ← ask client (.invokeMethod text.id (ascii "append")
        [⟨ascii "suffix", .text (ascii " world")⟩]) value with
    | none => return false
    | some appended => return appended.sameAs (.text (ascii "hello world"))

def refusals (client : Nat) (first : UInt64) : Script Bool :=
  both (error client (.invokeMethod first (ascii "increment")
      [⟨ascii "delta", .text (ascii "wrong")⟩]) .invalidRequest)
    (both (error client (.getAttribute first (ascii "missing")) .notFound)
      (error client (.createObject (ascii "MissingClass") []) .notFound))

def release (client : Nat) (first : UInt64) : Script Bool := do
  match ← ask client (.releaseObject first) released with
  | none => return false
  | some () => error client (.getObject first) .notFound

/-- Nothing of the object and the value shows on another connection. -/
def unknown (client : Nat) (object stored : UInt64) : Script Bool :=
  both (error client (.getObject object) .notFound) (error client (.getValue stored) .notFound)

def isolated (second stored : UInt64) : Script Bool :=
  withConnection (fun _ => false) fun outsider => unknown outsider second stored

/-- Returns `retained_object_`, if it passes. -/
def objects (client : Nat) (stored : UInt64) : Script (Option UInt64) := do
  if ← metadata client then
    match ← counters client with
    | none => return none
    | some (first, second) =>
      if ← both (text client) (both (refusals client first)
          (both (release client first) (isolated second stored))) then
        return some second
      else return none
  else return none

/-! ## Reconnecting -/

def reconnect (client : Nat) (retained stored : UInt64) : Script Bool := do
  close (some client)
  withConnection (fun _ => false) fun fresh => unknown fresh retained stored

/-- `demo.values() && demo.objects() && demo.reconnect()`. -/
def demo (client : Nat) (command : ApplicationCommand) : Script Bool := do
  match ← values client command with
  | none => return false
  | some stored =>
    match ← objects client stored with
    | none => return false
    | some retained => reconnect client retained stored

end Scenario

/-! ## The command -/

/-- What a command leaves: its exit code and what it has written. -/
structure Report where
  exit : Nat
  output : String := ""
  errors : String := ""
  deriving DecidableEq, Repr

/-- `static_cast<unsigned int>` of the failure's kind. -/
def kindNumber : Client.FailureKind → Nat
  | .invalidRequest => 0
  | .notConnected => 1
  | .quotaExceeded => 2
  | .timeout => 3
  | .cancelled => 4
  | .disconnected => 5
  | .accessDenied => 6
  | .protocolViolation => 7
  | .transportFailure => 8
  | .internalFailure => 9

def mode : ApplicationCommand → String
  | .demoSync => "sync"
  | .demoAsync => "async"
  | _ => "mixed"

/-- `writable` is the state of the output stream after the last line. -/
def passedReport (command : ApplicationCommand) (writable : Bool) : Report where
  exit := if writable then 0 else 1
  output := "R1-R8 scenario passed mode=" ++ mode command ++ "\n"

def refusedReport (error : Client.Failure) : Report where
  exit := 1
  errors := "Client connection failed kind=" ++ toString (kindNumber error.kind) ++ " native=" ++
    toString error.nativeError.toNat ++ "\n"

def runClientCommand (command : ApplicationCommand) (writable : Bool) : Script Report :=
  Scenario.withConnection refusedReport fun client => do
    if ← Scenario.demo client command then
      return passedReport command writable
    else
      return { exit := 1, errors := "R1-R8 scenario failed; no operation was replayed.\n" }

/-! ## How much it asks -/

section
open Dialogue

namespace Scenario

/-- Each call is one request. -/
theorem execute_within (client : Nat) (operation : Operation) :
    Within 1 (execute client operation) := .question _

/-- A connect and a close around what the connection is used for. -/
theorem withConnection_within {α : Type} {limit : Nat} (refused : Client.Failure → α)
    {use : Nat → Script α} (uses : ∀ client, Within limit (use client)) :
    Within (1 + (limit + (1 + 0))) (withConnection refused use) := by
  refine (Within.question Query.connect).bind fun opened => ?_
  cases opened with
  | error failure =>
    have closes : Within (1 + 0) (do close none; return refused failure) :=
      (Within.question (Query.close none)).bind fun _ => .done 0 _
    exact closes.mono (Nat.le_add_left _ _)
  | ok client =>
    refine (uses client).bind fun result => ?_
    exact (Within.question (Query.close (some client))).bind fun _ => .done 0 _

theorem ask_within {T : Type} (client : Nat) (operation : Operation) (take : Outcome → Option T) :
    Within 1 (ask client operation take) :=
  (execute_within client operation).bind fun _ => .done 0 _

theorem error_within (client : Nat) (operation : Operation) (expected : ErrorCode) :
    Within 1 (error client operation expected) :=
  (ask_within client operation remoteError).bind fun _ => .done 0 _

theorem both_within {one two : Nat} {first second : Script Bool} (begins : Within one first)
    (goes : Within two second) : Within (one + two) (both first second) := by
  refine begins.bind fun holds => ?_
  cases holds with
  | false => exact .done two _
  | true => exact goes

/-- Saving one after the other takes a request for each input. -/
theorem saveEach_within (client : Nat) (inputs : List Value) (saved : List ValueRecord) :
    Within inputs.length (saveEach client inputs saved) := by
  induction inputs generalizing saved with
  | nil => exact .done 0 _
  | cons input rest ih =>
    rw [List.length_cons, Nat.add_comm]
    refine (ask_within client _ _).bind fun record => ?_
    cases record with
    | none => exact .done _ _
    | some record => exact ih _

theorem saveBatch_within (client : Nat) (inputs : List Value) :
    Within inputs.length (saveBatch client inputs) := by
  have batch := Within.mapM (fun input => execute_within client (.putValue input)) inputs
  rw [Nat.mul_one] at batch
  exact batch.bind fun _ => .done 0 _

theorem readBack_within (client : Nat) (saved : List (Value × ValueRecord)) :
    Within saved.length (readBack client saved) := by
  induction saved with
  | nil => exact .done 0 _
  | cons head rest ih =>
    rw [List.length_cons, Nat.add_comm]
    refine (ask_within client _ _).bind fun record => ?_
    cases record with
    | none => exact .done _ _
    | some record =>
      dsimp only
      split
      · exact ih
      · exact .done _ _

/-- Each page but the last brings a record, and there are no more than `count`. -/
theorem listAll_within (client count : Nat) (cursor : UInt64) (listed : List ValueRecord) :
    Within (count - listed.length + 1) (listAll client count cursor listed) := by
  induction left : count - listed.length using Nat.strong_induction_on
      generalizing cursor listed with
  | _ remaining ih =>
    rw [listAll, Nat.add_comm]
    refine (ask_within client _ _).bind fun page => ?_
    cases page with
    | none => exact .done _ _
    | some page =>
      dsimp only
      split
      · exact .done _ _
      split
      · exact .done _ _
      split
      · exact .done _ _
      · rename_i few _ moves
        have brought := List.length_pos_of_ne_nil (not_or.mp moves).1
        have fewer : count - (listed ++ page.values).length < remaining := by
          rw [List.length_append]
          omega
        exact (ih _ fewer page.next _ rfl).mono fewer

/-- The probe stops after as many attempts as it was given. -/
theorem probe_within (client attempts : Nat) : Within attempts (probe client attempts) := by
  induction attempts with
  | zero => exact .done 0 _
  | succ attempts ih =>
    rw [probe, Nat.add_comm]
    refine (execute_within client _).bind fun result => ?_
    split
    · exact .done _ _
    · exact .done _ _
    · exact ih
    · exact .done _ _

theorem save_within (client : Nat) (command : ApplicationCommand) :
    Within 6 (save client command) := by
  unfold save
  split
  · exact saveEach_within client inputs []
  · exact saveBatch_within client inputs

/-- Six stores, six reads, at most seven pages and the probe. -/
theorem values_within (client : Nat) (command : ApplicationCommand) :
    Within (6 + (6 + (7 + 128))) (values client command) := by
  refine (save_within client command).bind fun saved => ?_
  cases saved with
  | none => exact .done _ _
  | some saved =>
    have reads : Within 6 (readBack client (inputs.zip saved)) := by
      refine (readBack_within client _).mono ?_
      rw [List.length_zip]
      exact Nat.min_le_left _ _
    refine reads.bind fun same => ?_
    split
    · refine (listAll_within client 6 0 []).bind fun listed => ?_
      cases listed with
      | none => exact .done _ _
      | some listed =>
        dsimp only
        split
        · split
          · exact .done _ _
          · change Within (128 + 0) _
            refine (probe_within client 128).bind fun refused => ?_
            split <;> exact .done 0 _
        · exact .done _ _
    · exact .done _ _

theorem metadata_within (client : Nat) : Within (1 + 1) (metadata client) := by
  refine (ask_within client _ _).bind fun classes => ?_
  cases classes with
  | none => exact .done _ _
  | some classes =>
    dsimp only
    split
    · change Within (1 + 0) _
      refine (ask_within client _ _).bind fun description => ?_
      cases description with
      | none => exact .done 0 _
      | some description => exact .done 0 _
    · exact .done _ _

theorem counters_within (client : Nat) : Within (1 + (1 + (1 + (1 + (1 + 1))))) (counters client) := by
  refine (ask_within client _ _).bind fun first => ?_
  refine (ask_within client _ _).bind fun second => ?_
  split
  · split
    · exact .done _ _
    · refine (ask_within client _ _).bind fun changed => ?_
      refine (ask_within client _ _).bind fun field => ?_
      refine (ask_within client _ _).bind fun retained => ?_
      change Within (1 + 0) _
      refine (ask_within client _ _).bind fun independent => ?_
      dsimp only
      split
      · split <;> exact .done 0 _
      · exact .done 0 _
  · exact .done _ _

theorem text_within (client : Nat) : Within (1 + 1) (text client) := by
  refine (ask_within client _ _).bind fun created => ?_
  cases created with
  | none => exact .done _ _
  | some created =>
    change Within (1 + 0) _
    refine (ask_within client _ _).bind fun appended => ?_
    cases appended with
    | none => exact .done 0 _
    | some appended => exact .done 0 _

theorem refusals_within (client : Nat) (first : UInt64) :
    Within (1 + (1 + 1)) (refusals client first) :=
  both_within (error_within client _ _) (both_within (error_within client _ _) (error_within client _ _))

theorem release_within (client : Nat) (first : UInt64) : Within (1 + 1) (release client first) := by
  refine (ask_within client _ _).bind fun done => ?_
  cases done with
  | none => exact .done _ _
  | some done => exact error_within client _ _

theorem unknown_within (client : Nat) (object stored : UInt64) :
    Within (1 + 1) (unknown client object stored) :=
  both_within (error_within client _ _) (error_within client _ _)

theorem isolated_within (second stored : UInt64) :
    Within (1 + (2 + 1)) (isolated second stored) :=
  withConnection_within _ fun outsider => unknown_within outsider second stored

/-- The object part, with the connect and the close of its second client. -/
theorem objects_within (client : Nat) (stored : UInt64) :
    Within (2 + (6 + (2 + (3 + (2 + 4))))) (objects client stored) := by
  refine (metadata_within client).bind fun described => ?_
  split
  · refine (counters_within client).bind fun both => ?_
    cases both with
    | none => exact .done _ _
    | some both =>
      change Within (2 + (3 + (2 + 4)) + 0) _
      refine (both_within (text_within client) (both_within (refusals_within client _)
        (both_within (release_within client _) (isolated_within _ _)))).bind fun passed => ?_
      split <;> exact .done 0 _
  · exact .done _ _

theorem reconnect_within (client : Nat) (retained stored : UInt64) :
    Within (1 + (1 + (2 + 1))) (reconnect client retained stored) :=
  (Within.question (Query.close (some client))).bind fun _ =>
    withConnection_within _ fun fresh => unknown_within fresh retained stored

theorem demo_within (client : Nat) (command : ApplicationCommand) :
    Within (147 + (19 + 5)) (demo client command) := by
  refine (values_within client command).bind fun stored => ?_
  cases stored with
  | none => exact .done _ _
  | some stored =>
    refine (objects_within client stored).bind fun retained => ?_
    cases retained with
    | none => exact .done _ _
    | some retained => exact reconnect_within client retained stored

end Scenario

/-- The command connects, runs the three parts and closes. -/
theorem runClientCommand_within (command : ApplicationCommand) (writable : Bool) :
    Within (1 + (171 + 1)) (runClientCommand command writable) := by
  refine Scenario.withConnection_within _ fun client => ?_
  change Within (171 + 0) _
  refine (Scenario.demo_within client command).bind fun passed => ?_
  split <;> exact .done 0 _

end

/-- Whatever a server answers and whatever happens in between, the command is over after
173 connects, calls and closes, those of the destructors included. -/
theorem scenario_bounded {σ ε : Type} (answer : σ → (q : Query) → Reply q × σ)
    (disturb : σ → ε → σ) (server : σ) (schedule : List (List ε)) (command : ApplicationCommand)
    (writable : Bool) :
    (Dialogue.asked answer disturb (runClientCommand command writable) server schedule).length ≤
      173 :=
  (runClientCommand_within command writable).asked answer disturb server schedule

end PipeForge.Cli
