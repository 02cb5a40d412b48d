import Mathlib

/-!
# Programs that ask a service

A program that works through a service is a tree: it is done, or it asks and goes on with
the answer. The service is shared. Between two questions others may move it, and which
moves come when is a schedule the program does not see. `run` plays a program against one
schedule; `Holds` is the precondition under which every schedule leads to a postcondition,
with the rules of a program logic: one for a question, sequencing and consequence.
`Within` bounds the questions of a program over all answers there could be.
-/

namespace PipeForge.Library

universe u v w x

inductive Dialogue (Q : Type u) (R : Q → Type v) (α : Type v) where
  | done (result : α)
  | ask (question : Q) (next : R question → Dialogue Q R α)

namespace Dialogue
variable {Q : Type u} {R : Q → Type v} {α β : Type v}

def bind : Dialogue Q R α → (α → Dialogue Q R β) → Dialogue Q R β
  | .done result, next => next result
  | .ask question answered, next => .ask question fun answer => (answered answer).bind next

instance : Monad (Dialogue Q R) where
  pure := .done
  bind := .bind

theorem bind_done (d : Dialogue Q R α) : d.bind .done = d := by
  induction d with
  | done result => rfl
  | ask q next ih => exact congrArg (Dialogue.ask q) (funext ih)

theorem bind_assoc {γ : Type v} (d : Dialogue Q R α) (first : α → Dialogue Q R β)
    (second : β → Dialogue Q R γ) :
    (d.bind first).bind second = d.bind fun result => (first result).bind second := by
  induction d with
  | done result => rfl
  | ask q next ih => exact congrArg (Dialogue.ask q) (funext ih)

instance : LawfulMonad (Dialogue Q R) :=
  LawfulMonad.mk' _ bind_done (fun _ _ => rfl) bind_assoc

/-- The program that asks and returns the answer. -/
def question (q : Q) : Dialogue Q R (R q) := .ask q .done

/-! ## How often a program asks -/

/-- No answers whatsoever make the program ask more than `limit` questions. -/
def Within : Nat → Dialogue Q R α → Prop
  | _, .done _ => True
  | 0, .ask _ _ => False
  | limit + 1, .ask _ next => ∀ answer, Within limit (next answer)

theorem Within.done (limit : Nat) (result : α) :
    Within limit (.done result : Dialogue Q R α) := by
  cases limit <;> exact trivial

theorem Within.mono {less more : Nat} (order : less ≤ more) {d : Dialogue Q R α}
    (within : Within less d) : Within more d := by
  induction d generalizing less more with
  | done result => exact .done more result
  | ask q next ih =>
    cases less with
    | zero => cases within
    | succ less =>
      obtain ⟨more, rfl⟩ := Nat.exists_eq_add_of_le' (Nat.lt_of_lt_of_le (Nat.succ_pos less) order)
      exact fun answer => ih answer (Nat.le_of_succ_le_succ order) (within answer)

/-- Questions add up over a sequence. -/
theorem Within.bind {first second : Nat} {d : Dialogue Q R α} {next : α → Dialogue Q R β}
    (begins : Within first d) (goes : ∀ result, Within second (next result)) :
    Within (first + second) (d >>= next) := by
  induction d generalizing first with
  | done result => exact (goes result).mono (Nat.le_add_left second first)
  | ask q answered ih =>
    cases first with
    | zero => cases begins
    | succ first =>
      rw [Nat.succ_add]
      exact fun answer => ih answer (begins answer)

theorem Within.question (q : Q) : Within 1 (question q : Dialogue Q R (R q)) :=
  fun answer => .done 0 answer

theorem Within.mapM {γ : Type v} {limit : Nat} {f : γ → Dialogue Q R α}
    (each : ∀ input, Within limit (f input)) (inputs : List γ) :
    Within (inputs.length * limit) (inputs.mapM f) := by
  induction inputs with
  | nil => exact .done _ []
  | cons input rest ih =>
    rw [List.mapM_cons, List.length_cons, Nat.succ_mul, Nat.add_comm]
    refine (each input).bind fun first => ?_
    change Within (rest.length * limit + 0) _
    exact ih.bind fun later => .done 0 _

/-! ## Playing a program -/

section
variable {σ : Type w} {ε : Type x} (answer : σ → (q : Q) → R q × σ) (disturb : σ → ε → σ)

/-- The moves before each question; when the schedule ends nobody moves any more. -/
def run : Dialogue Q R α → σ → List (List ε) → α × σ
  | .done result, s, _ => (result, s)
  | .ask q next, s, schedule =>
    let reply := answer ((schedule.headD []).foldl disturb s) q
    run (next reply.1) reply.2 schedule.tail

/-- The questions it asks on the way. -/
def asked : Dialogue Q R α → σ → List (List ε) → List Q
  | .done _, _, _ => []
  | .ask q next, s, schedule =>
    let reply := answer ((schedule.headD []).foldl disturb s) q
    q :: asked (next reply.1) reply.2 schedule.tail

/-- Whatever moves come, the program ends in a result and a state with `post`. -/
def Holds (post : α → σ → Prop) : Dialogue Q R α → σ → Prop
  | .done result, s => post result s
  | .ask q next, s => ∀ moves : List ε,
    Holds post (next (answer (moves.foldl disturb s) q).1) (answer (moves.foldl disturb s) q).2

/-- The bound counts the questions that are asked. -/
theorem Within.asked {limit : Nat} {d : Dialogue Q R α} (within : Within limit d) (s : σ)
    (schedule : List (List ε)) : (asked answer disturb d s schedule).length ≤ limit := by
  induction d generalizing limit s schedule with
  | done result => exact Nat.zero_le limit
  | ask q next ih =>
    cases limit with
    | zero => cases within
    | succ limit => exact Nat.succ_le_succ (ih _ (within _) _ schedule.tail)

variable {answer disturb} {post : α → σ → Prop} {s : σ}

/-- Soundness: what holds under every schedule holds of each run. -/
theorem Holds.run {d : Dialogue Q R α} (holds : Holds answer disturb post d s)
    (schedule : List (List ε)) :
    post (run answer disturb d s schedule).1 (run answer disturb d s schedule).2 := by
  induction d generalizing s schedule with
  | done result => exact holds
  | ask q next ih => exact ih _ (holds _) schedule.tail

/-- The rule of consequence. -/
theorem Holds.mono {weaker : α → σ → Prop} (implies : ∀ result t, post result t → weaker result t)
    {d : Dialogue Q R α} (holds : Holds answer disturb post d s) :
    Holds answer disturb weaker d s := by
  induction d generalizing s with
  | done result => exact implies result s holds
  | ask q next ih => exact fun moves => ih _ (holds moves)

/-- The rule for a sequence. -/
theorem Holds.bind {after : β → σ → Prop} {d : Dialogue Q R α} {next : α → Dialogue Q R β}
    (begins : Holds answer disturb post d s)
    (goes : ∀ result t, post result t → Holds answer disturb after (next result) t) :
    Holds answer disturb after (d >>= next) s := by
  induction d generalizing s with
  | done result => exact goes result s begins
  | ask q answered ih => exact fun moves => ih _ (begins moves)

/-- Moves keep what is stable. -/
theorem stable_foldl {P : σ → Prop} (stable : ∀ s e, P s → P (disturb s e)) (here : P s)
    (moves : List ε) : P (moves.foldl disturb s) := by
  induction moves generalizing s with
  | nil => exact here
  | cons first rest ih => exact ih (stable s first here)

/-- A question is asked in some state that still has the stable precondition. -/
theorem Holds.ask {P : σ → Prop} (stable : ∀ s e, P s → P (disturb s e)) (here : P s) {q : Q}
    {next : R q → Dialogue Q R α}
    (goes : ∀ t, P t → Holds answer disturb post (next (answer t q).1) (answer t q).2) :
    Holds answer disturb post (.ask q next) s :=
  fun moves => goes _ (stable_foldl stable here moves)

/-- What neither the moves nor the answers undo holds at the end. -/
theorem Holds.of_invariant {P : σ → Prop} (stable : ∀ s e, P s → P (disturb s e))
    (kept : ∀ s q, P s → P (answer s q).2) (here : P s) (d : Dialogue Q R α) :
    Holds answer disturb (fun _ t => P t) d s := by
  induction d generalizing s with
  | done result => exact here
  | ask q next ih => exact fun moves => ih _ (kept _ q (stable_foldl stable here moves))

end

/-! ## Part of a service -/

section
variable {Q' : Type u} {R' : Q' → Type v} {σ τ : Type w} {ε δ : Type x}

/-- The program for a service that answers other questions as well. -/
def inl : Dialogue Q R α → Dialogue (Q ⊕ Q') (Sum.elim R R') α
  | .done result => .done result
  | .ask q next => .ask (.inl q) fun answer => (next answer).inl

/-- One service is the part of another that answers the questions on the left. Moves of the
whole are seen in the part as some moves of its own, and neither they nor the answers touch
what the `frame` says. -/
structure PartOf (part : τ → (q : Q) → R q × τ) (move : τ → δ → τ)
    (whole : σ → (q : Q ⊕ Q') → Sum.elim R R' q × σ) (disturb : σ → ε → σ) (view : σ → τ)
    (frame : σ → Prop) : Prop where
  reply : ∀ s q, (whole s (.inl q)).1 = (part (view s) q).1
  state : ∀ s q, view (whole s (.inl q)).2 = (part (view s) q).2
  moves : ∀ s e, ∃ moves : List δ, view (disturb s e) = moves.foldl move (view s)
  kept : ∀ s q, frame s → frame (whole s (.inl q)).2
  stable : ∀ s e, frame s → frame (disturb s e)

variable {part : τ → (q : Q) → R q × τ} {move : τ → δ → τ}
  {whole : σ → (q : Q ⊕ Q') → Sum.elim R R' q × σ} {disturb : σ → ε → σ} {view : σ → τ}
  {frame : σ → Prop}

/-- Many moves of the whole are many moves of the part. -/
theorem PartOf.foldl (isPart : PartOf part move whole disturb view frame) (s : σ) (es : List ε) :
    ∃ moves : List δ, view (es.foldl disturb s) = moves.foldl move (view s) := by
  induction es generalizing s with
  | nil => exact ⟨[], rfl⟩
  | cons first rest ih =>
    obtain ⟨now, seen⟩ := isPart.moves s first
    obtain ⟨later, follows⟩ := ih (disturb s first)
    exact ⟨now ++ later, by rw [List.foldl_append, ← seen]; exact follows⟩

/-- What holds of a program with the part holds with the whole, and the frame is kept. -/
theorem Holds.inl (isPart : PartOf part move whole disturb view frame) {post : α → τ → Prop}
    {d : Dialogue Q R α} {s : σ} (holds : Holds part move post d (view s)) (here : frame s) :
    Holds whole disturb (fun result t => post result (view t) ∧ frame t) d.inl s := by
  induction d generalizing s with
  | done result => exact ⟨holds, here⟩
  | ask q next ih =>
    intro es
    obtain ⟨moves, seen⟩ := isPart.foldl s es
    have goes := holds moves
    rw [← seen] at goes
    rw [← isPart.reply, ← isPart.state] at goes
    exact ih _ goes (isPart.kept _ q (stable_foldl isPart.stable here es))

end

end Dialogue

end PipeForge.Library
