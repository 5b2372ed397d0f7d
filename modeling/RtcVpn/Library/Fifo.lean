import Mathlib.Data.List.Infix
import Mathlib.Tactic.Common

/-!
# A first-in first-out ledger

A `Fifo` records everything that was ever put into a queue, everything that was
taken out and what is still waiting, and carries the proof that the first is
the second followed by the third. It is the abstract meaning both of a write
queue and of a lossless channel: nothing is lost, repeated or reordered.
-/

namespace RtcVpn

/-- What was put in, what was taken out and what waits, in order. -/
@[ext] structure Fifo (α : Type) where
  accepted : List α
  delivered : List α
  waiting : List α
  conserved : accepted = delivered ++ waiting

namespace Fifo

variable {α β : Type}

/-- The queue nothing has gone through. -/
def empty : Fifo α := ⟨[], [], [], rfl⟩

/-- Put an element at the back. -/
def push (q : Fifo α) (a : α) : Fifo α where
  accepted := q.accepted ++ [a]
  delivered := q.delivered
  waiting := q.waiting ++ [a]
  conserved := by rw [q.conserved, List.append_assoc]

/-- Take the element at the front, if there is one. -/
def pop (q : Fifo α) : Option (α × Fifo α) :=
  match h : q.waiting with
  | [] => none
  | a :: rest => some (a, {
      accepted := q.accepted
      delivered := q.delivered ++ [a]
      waiting := rest
      conserved := by rw [q.conserved, h, List.append_assoc, List.singleton_append] })

@[simp] theorem push_accepted (q : Fifo α) (a : α) : (q.push a).accepted = q.accepted ++ [a] := rfl
@[simp] theorem push_delivered (q : Fifo α) (a : α) : (q.push a).delivered = q.delivered := rfl
@[simp] theorem push_waiting (q : Fifo α) (a : α) : (q.push a).waiting = q.waiting ++ [a] := rfl

/-- Taking out moves the front of the waiting elements to the delivered ones. -/
theorem pop_eq_some {q r : Fifo α} {a : α} (h : q.pop = some (a, r)) :
    q.waiting = a :: r.waiting ∧ r.delivered = q.delivered ++ [a] ∧ r.accepted = q.accepted := by
  unfold pop at h
  split at h
  · exact absurd h (by simp)
  · next b rest hw =>
      cases h
      exact ⟨hw, rfl, rfl⟩

/-- Something can be taken out of a queue with elements waiting. -/
theorem pop_of_waiting {q : Fifo α} {a : α} {rest : List α} (h : q.waiting = a :: rest) :
    ∃ r, q.pop = some (a, r) ∧ r.waiting = rest := by
  unfold pop
  split
  · next hw => exact absurd (hw.symm.trans h) (by simp)
  · next b rest' hw =>
      obtain ⟨rfl, rfl⟩ := List.cons.inj (hw.symm.trans h)
      exact ⟨_, rfl, rfl⟩

/-- What has been taken out is a prefix of what was put in. -/
theorem delivered_prefix (q : Fifo α) : q.delivered <+: q.accepted :=
  ⟨q.waiting, q.conserved.symm⟩

/-- When nothing waits, everything put in has been taken out. -/
theorem delivered_eq_of_waiting_nil {q : Fifo α} (h : q.waiting = []) :
    q.delivered = q.accepted := by
  rw [q.conserved, h, List.append_nil]

end Fifo

end RtcVpn
