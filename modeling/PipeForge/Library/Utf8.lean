import Mathlib

/-!
# Structurally valid UTF-8

The byte automaton of well-formed UTF-8 (Unicode Table 3-7): overlong forms,
surrogates and code points above `10FFFF` are excluded by the range of the
first continuation byte. A state holds the continuation bytes still owed and
the range of the next one, so acceptance of a concatenation is composition of
runs.
-/

namespace PipeForge.Library.Utf8

structure State where
  owed : Nat
  low : UInt8
  high : UInt8
  deriving DecidableEq, Repr

/-- Between characters; also the only accepting state. -/
def State.start : State := ⟨0, 0x80, 0xBF⟩

/-- The lead byte fixes how many continuation bytes follow and which first ones
are allowed. -/
def lead (b : UInt8) : Option State :=
  if b < 0x80 then some .start
  else if b < 0xC2 then none
  else if b < 0xE0 then some ⟨1, 0x80, 0xBF⟩
  else if b = 0xE0 then some ⟨2, 0xA0, 0xBF⟩
  else if b = 0xED then some ⟨2, 0x80, 0x9F⟩
  else if b < 0xF0 then some ⟨2, 0x80, 0xBF⟩
  else if b = 0xF0 then some ⟨3, 0x90, 0xBF⟩
  else if b < 0xF4 then some ⟨3, 0x80, 0xBF⟩
  else if b = 0xF4 then some ⟨3, 0x80, 0x8F⟩
  else none

def step (s : State) (b : UInt8) : Option State :=
  match s.owed with
  | 0 => lead b
  | owed + 1 => if s.low ≤ b ∧ b ≤ s.high then some ⟨owed, 0x80, 0xBF⟩ else none

def run : State → List UInt8 → Option State
  | s, [] => some s
  | s, b :: rest =>
    match step s b with
    | some next => run next rest
    | none => none

def isStructurallyValid (text : List UInt8) : Bool :=
  decide (run .start text = some .start)

theorem run_append (s : State) (front back : List UInt8) :
    run s (front ++ back) = (run s front).bind fun next => run next back := by
  induction front generalizing s with
  | nil => rfl
  | cons b rest ih =>
    simp only [List.cons_append, run]
    cases step s b with
    | none => rfl
    | some next => exact ih next

theorem isStructurallyValid_append {front back : List UInt8}
    (first : isStructurallyValid front = true) (second : isStructurallyValid back = true) :
    isStructurallyValid (front ++ back) = true := by
  simp only [isStructurallyValid, decide_eq_true_eq] at *
  rw [run_append, first]
  exact second

/-- Seven-bit text never leaves the start state. -/
theorem isStructurallyValid_ascii (text : List UInt8) (ascii : ∀ b ∈ text, b < 0x80) :
    isStructurallyValid text = true := by
  simp only [isStructurallyValid, decide_eq_true_eq]
  induction text with
  | nil => rfl
  | cons b rest ih =>
    have stays : step .start b = some .start := by
      simp [step, State.start, lead, ascii b (by simp)]
    simp only [run, stays]
    exact ih fun c member => ascii c (by simp [member])

end PipeForge.Library.Utf8
