import Mathlib.Data.List.Basic
import Mathlib.Tactic.Common
import RtcVpn.Protocol.SessionProtocol

/-!
# Outstanding asynchronous operations

An operation started on a socket is pending until the operating system
completes it, and outstanding until its completion handler has run on the
strand. Cancelling a socket aborts the pending operations; an operation that
has already completed keeps its result.
-/

namespace RtcVpn

/-- The error codes a completion handler may see; handlers only test for their presence. -/
inductive IoError where
  | operationAborted
  | badDescriptor
  | eof
  | other (code : Nat)
  deriving DecidableEq, Repr

/-- `front()` or `pop_front()` of an empty queue. -/
inductive QueueFault where
  | frontOfEmpty
  | popOfEmpty
  deriving DecidableEq, Repr

/-- An operation whose completion handler has not run yet. -/
inductive Operation (ρ : Type) where
  | pending
  | completed (result : Except IoError ρ)
  deriving Repr

namespace Operation

variable {ρ : Type}

/-- An operation as it starts: on a closed descriptor it fails at once. -/
def initiate (isOpen : Bool) : Operation ρ :=
  if isOpen then pending else completed (.error .badDescriptor)

/-- Cancel an operation. -/
def abort : Operation ρ → Operation ρ
  | pending => completed (.error .operationAborted)
  | completed r => completed r

/-- An operation that completed successfully and whose handler has not run. -/
def Succeeded : Operation ρ → Prop
  | completed (.ok _) => True
  | _ => False

instance : DecidablePred (Succeeded (ρ := ρ))
  | completed (.ok _) => .isTrue trivial
  | completed (.error _) => .isFalse id
  | pending => .isFalse id

/-- Neither does cancelling make an operation succeed, nor starting on a closed descriptor. -/
@[simp] theorem succeeded_abort (op : Operation ρ) : op.abort.Succeeded ↔ op.Succeeded := by
  cases op with
  | pending => exact Iff.rfl
  | completed r => exact Iff.rfl

@[simp] theorem not_succeeded_initiate_false : ¬ (initiate false : Operation ρ).Succeeded := id

/-- The operation at an index is still in progress. -/
def pendingAt (ops : List (Operation ρ)) (i : Nat) : Bool :=
  match ops[i]? with
  | some pending => true
  | _ => false

/-- The result of the operation at an index, if it has completed. -/
def resultAt (ops : List (Operation ρ)) (i : Nat) : Option (Except IoError ρ) :=
  match ops[i]? with
  | some (completed r) => some r
  | _ => none

/-- A result belongs to an operation of the list. -/
theorem mem_of_result_at {ops : List (Operation ρ)} {i : Nat} {r : Except IoError ρ}
    (h : resultAt ops i = some r) : completed r ∈ ops := by
  unfold resultAt at h
  split at h
  · next hget =>
      cases h
      exact List.mem_of_getElem? hget
  · exact absurd h (by simp)

/-- The entry an operation was paired with. -/
theorem get_of_result_at_snd {κ : Type} {ops : List (κ × Operation ρ)} {i : Nat}
    {r : Except IoError ρ} (h : resultAt (ops.map Prod.snd) i = some r) :
    ∃ k, ops[i]? = some (k, completed r) := by
  unfold resultAt at h
  rw [List.getElem?_map] at h
  cases hget : ops[i]? with
  | none => simp [hget] at h
  | some entry =>
      obtain ⟨k, op⟩ := entry
      cases op with
      | pending => simp [hget] at h
      | completed r' =>
          simp only [hget, Option.map_some, Option.some.injEq] at h
          exact ⟨k, by rw [h]⟩

theorem lt_of_result_at {ops : List (Operation ρ)} {i : Nat} {r : Except IoError ρ}
    (h : resultAt ops i = some r) : i < ops.length := by
  unfold resultAt at h
  split at h
  · next hget => exact (List.getElem?_eq_some_iff.mp hget).1
  · exact absurd h (by simp)

/-- Removing the handled operation shortens the list by one. -/
theorem length_erase_result {ops : List (Operation ρ)} {i : Nat} {r : Except IoError ρ}
    (h : resultAt ops i = some r) : (ops.eraseIdx i).length + 1 = ops.length := by
  have hlt := lt_of_result_at h
  rw [List.length_eraseIdx_of_lt hlt]
  omega

end Operation

end RtcVpn
