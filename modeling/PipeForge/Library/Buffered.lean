import Mathlib

/-!
# Buffered output

A stream keeps what is put into it in a buffer. At a flush it hands the buffer to a device,
and it may hand over a part of it earlier. The device takes as much as it has room for. When
that is too little the stream goes bad: what was left is lost, and what is put into it later
is ignored.

`Carries` follows a text through the stream. A good stream has all of it, but only a part may
have been delivered; a stream that is good after a flush has delivered all of it.
-/

namespace PipeForge.Library

universe u

structure Buffered (α : Type u) where
  delivered : List α := []
  pending : List α := []
  /-- How much more the device takes, if there is a limit. -/
  room : Option Nat := none
  good : Bool := true

namespace Buffered
variable {α : Type u} (s : Buffered α)

def put (text : List α) : Buffered α :=
  if s.good then { s with pending := s.pending ++ text } else s

/-- The first `count` elements of the buffer are handed over. -/
def deliver (count : Nat) : Buffered α :=
  if s.good then
    let text := s.pending.take count
    if s.room.all fun room => decide (text.length ≤ room) then
      { s with
        delivered := s.delivered ++ text
        pending := s.pending.drop count
        room := s.room.map (· - text.length) }
    else
      { s with
        delivered := s.delivered ++ text.take (s.room.getD 0)
        pending := []
        room := some 0
        good := false }
  else s

def flush : Buffered α := s.deliver s.pending.length

def limit (room : Option Nat) : Buffered α := { s with room }

/-- `text` was put into the stream, nothing else, and at least `shown` has been delivered. -/
structure Carries (shown text : List α) (s : Buffered α) : Prop where
  shown : shown <+: s.delivered
  only : s.delivered <+: text
  whole : s.good = true → s.delivered ++ s.pending = text

variable {s} {shown text : List α}

theorem Carries.start : Carries [] [] ({} : Buffered α) :=
  ⟨List.prefix_refl _, List.prefix_refl _, fun _ => rfl⟩

/-- A limit on the room loses nothing that is on its way. -/
theorem Carries.limit (carries : Carries shown text s) (room : Option Nat) :
    Carries shown text (s.limit room) :=
  { carries with }

/-- Text is added behind what is on its way, or lost by a stream that is no longer good. -/
theorem Carries.put (carries : Carries shown text s) (more : List α) :
    Carries shown (text ++ more) (s.put more) := by
  have only : s.delivered <+: text ++ more := carries.only.trans (List.prefix_append text more)
  unfold Buffered.put
  split
  case isTrue works =>
    refine ⟨carries.shown, only, fun _ => ?_⟩
    rw [← carries.whole works, List.append_assoc]
  case isFalse bad => exact ⟨carries.shown, only, fun works => absurd works bad⟩

/-- What a good stream hands over comes next in the text. -/
theorem Carries.extends (carries : Carries shown text s) (works : s.good = true) {next : List α}
    (first : next <+: s.pending) : s.delivered ++ next <+: text := by
  rw [← carries.whole works]
  exact (List.prefix_append_right_inj s.delivered).mpr first

/-- Delivering moves text from the buffer to the reader, in order. -/
theorem Carries.deliver (carries : Carries shown text s) (count : Nat) :
    Carries shown text (s.deliver count) := by
  have more (next : List α) : shown <+: s.delivered ++ next :=
    carries.shown.trans (List.prefix_append s.delivered next)
  have first : s.pending.take count <+: s.pending := List.take_prefix ..
  unfold Buffered.deliver
  split
  case isTrue works =>
    dsimp only
    split
    · refine ⟨more _, carries.extends works first, fun _ => ?_⟩
      rw [List.append_assoc, List.take_append_drop]
      exact carries.whole works
    · refine ⟨more _, carries.extends works ?_, nofun⟩
      have taken : (s.pending.take count).take (s.room.getD 0) <+: s.pending.take count :=
        List.take_prefix ..
      exact taken.trans first
  case isFalse => exact carries

theorem delivered_grows (s : Buffered α) (count : Nat) :
    s.delivered <+: (s.deliver count).delivered := by
  unfold deliver
  split
  · dsimp only
    split <;> exact List.prefix_append ..
  · exact List.prefix_refl _

theorem good_of_deliver {count : Nat} (works : (s.deliver count).good = true) : s.good = true := by
  by_contra bad
  rw [deliver, if_neg bad] at works
  exact bad works

theorem deliver_bad (bad : s.good = false) (count : Nat) : s.deliver count = s := by
  rw [deliver, bad]
  rfl

/-- A stream that is still good after a flush has delivered everything. -/
theorem Carries.flushed (carries : Carries shown text s) (works : s.flush.good = true) :
    s.flush.delivered = text := by
  have before := good_of_deliver works
  rw [flush, Buffered.deliver, if_pos before] at works ⊢
  dsimp only at works ⊢
  split at works
  case isTrue fits =>
    rw [if_pos fits]
    dsimp only
    rw [List.take_length]
    exact carries.whole before
  case isFalse => cases works

/-- And nothing follows that could be lost. -/
theorem Carries.stays (carries : Carries shown text s)
    (flushed : s.good = true → s.delivered = text) (count : Nat)
    (works : (s.deliver count).good = true) : (s.deliver count).delivered = text := by
  have all := flushed (good_of_deliver works)
  have more : text <+: (s.deliver count).delivered := all ▸ delivered_grows s count
  exact (carries.deliver count).only.eq_of_length_le more.length_le

/-- What has been delivered can be relied upon. -/
theorem Carries.shows (carries : Carries shown text s) (all : s.delivered = text) :
    Carries text text s :=
  { carries with shown := all ▸ List.prefix_refl _ }

end Buffered

end PipeForge.Library
