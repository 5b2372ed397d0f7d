import Mathlib.Data.List.Basic
import Mathlib.Tactic.Common

/-!
# Checked access to a byte buffer

Reads of a buffer by index and size arithmetic on its length, with the fault
each of them may end in: an index at or beyond the length, or a subtraction of
sizes that would wrap. A function written with these operations is memory safe
exactly when it never returns a fault. A `View` is a buffer given by a pointer
that other code fills, which may lead to more bytes than a function is told of.
-/

namespace RtcVpn

/-- How an access to a buffer goes wrong. -/
inductive AccessFault where
  | outOfBounds (index length : Nat)
  | wraps (minuend subtrahend : Nat)
  deriving DecidableEq, Repr

/-- The byte at an index. -/
def byteAt (data : List UInt8) (i : Nat) : Except AccessFault UInt8 :=
  if h : i < data.length then .ok (data.get ⟨i, h⟩) else .error (.outOfBounds i data.length)

/-- The `n` bytes from an index on. -/
def slice (data : List UInt8) (i n : Nat) : Except AccessFault (List UInt8) :=
  if i + n ≤ data.length then .ok ((data.drop i).take n)
  else .error (.outOfBounds (i + n) data.length)

/-- Subtraction of unsigned sizes. -/
def sizeSub (a b : Nat) : Except AccessFault Nat :=
  if b ≤ a then .ok (a - b) else .error (.wraps a b)

@[simp] theorem except_ok_bind {φ α β : Type} (a : α) (f : α → Except φ β) :
    (Except.ok a >>= f) = f a := rfl

@[simp] theorem except_error_bind {φ α β : Type} (e : φ) (f : α → Except φ β) :
    (Except.error e >>= f) = Except.error e := rfl

/-- A composition returns what its second part returns on the result of the first. -/
theorem except_bind_eq_ok {φ α β : Type} {x : Except φ α} {f : α → Except φ β} {b : β} :
    (x >>= f) = .ok b ↔ ∃ a, x = .ok a ∧ f a = .ok b := by
  cases x with
  | ok a => simp
  | error e => simp

@[simp] theorem byteAt_zero (b : UInt8) (data : List UInt8) : byteAt (b :: data) 0 = .ok b := rfl

@[simp] theorem byteAt_succ (b : UInt8) (data : List UInt8) (i : Nat) :
    byteAt (b :: data) (i + 1) = match byteAt data i with
      | .ok c => .ok c
      | .error _ => .error (.outOfBounds (i + 1) (data.length + 1)) := by
  by_cases h : i < data.length <;> simp [byteAt, h]

/-- A read below the length succeeds. -/
theorem byteAt_of_lt {data : List UInt8} {i : Nat} (h : i < data.length) :
    byteAt data i = .ok (data.get ⟨i, h⟩) := by
  simp [byteAt, h]

/-- A read behind a known front is a read of the rest. -/
theorem byteAt_append_right {data : List UInt8} {i : Nat} {b : UInt8} (front : List UInt8)
    (h : byteAt data i = .ok b) : byteAt (front ++ data) (front.length + i) = .ok b := by
  unfold byteAt at h ⊢
  split at h
  · next hi => simpa [hi, List.getElem_append_right] using h
  · cases h

/-- A slice inside the buffer succeeds. -/
theorem slice_of_le {data : List UInt8} {i n : Nat} (h : i + n ≤ data.length) :
    slice data i n = .ok ((data.drop i).take n) := by
  simp [slice, h]

/-- The slice just behind a known prefix. -/
theorem slice_append {front middle rest : List UInt8} {i n : Nat} (hi : front.length = i)
    (hn : middle.length = n) : slice (front ++ (middle ++ rest)) i n = .ok middle := by
  subst hi hn
  simp [slice]

theorem sizeSub_of_le {a b : Nat} (h : b ≤ a) : sizeSub a b = .ok (a - b) := by
  simp [sizeSub, h]

theorem sizeSub_of_lt {a b : Nat} (h : a < b) : sizeSub a b = .error (.wraps a b) := by
  simp [sizeSub, Nat.not_le.mpr h]

/-- A difference that does not wrap is no larger than what it is taken from. -/
theorem le_of_sizeSub {a b c : Nat} (h : sizeSub a b = .ok c) : c ≤ a := by
  unfold sizeSub at h
  split at h
  · cases h
    omega
  · cases h

/-! ## A pointer into a buffer -/

/-- What a pointer leads to: how many bytes there are behind it, and which. -/
structure View where
  size : Nat
  bytes : Nat → UInt8

namespace View

/-- A pointer to the first of these bytes, with nothing behind the last. -/
def ofBytes (data : List UInt8) : View := ⟨data.length, fun i => data[i]?.getD 0⟩

/-- The byte at an index. -/
def byteAt (v : View) (i : Nat) : Except AccessFault UInt8 :=
  if i < v.size then .ok (v.bytes i) else .error (.outOfBounds i v.size)

/-- The `n` bytes from an index on. -/
def slice (v : View) (i n : Nat) : Except AccessFault (List UInt8) :=
  if i + n ≤ v.size then .ok ((List.range n).map fun j => v.bytes (i + j))
  else .error (.outOfBounds (i + n) v.size)

/-- A read in bounds succeeds. -/
theorem byteAt_of_lt {v : View} {i : Nat} (h : i < v.size) : v.byteAt i = .ok (v.bytes i) := by
  simp [byteAt, h]

/-- A byte of a list is read through a pointer to its front. -/
theorem byteAt_of_bytes {data : List UInt8} {i : Nat} {b : UInt8} (h : data[i]? = some b) :
    (ofBytes data).byteAt i = .ok b := by
  obtain ⟨hi, -⟩ := List.getElem?_eq_some_iff.mp h
  rw [byteAt_of_lt hi]
  simp [ofBytes, h]

/-- A read at or beyond the size is a fault. -/
theorem byteAt_of_le {v : View} {i : Nat} (h : v.size ≤ i) :
    v.byteAt i = .error (.outOfBounds i v.size) := by
  simp [byteAt, Nat.not_lt.mpr h]

/-- A slice in bounds succeeds. -/
theorem slice_of_le {v : View} {i n : Nat} (h : i + n ≤ v.size) :
    v.slice i n = .ok ((List.range n).map fun j => v.bytes (i + j)) := by
  simp [slice, h]

/-- A slice has the length it was asked for. -/
theorem slice_length {v : View} {i n : Nat} {data : List UInt8} (h : v.slice i n = .ok data) :
    data.length = n := by
  unfold slice at h
  split at h
  · cases h
    simp
  · cases h

/-- The slice just behind a known front. -/
theorem slice_of_bytes {front middle rest : List UInt8} {i n : Nat} (hi : front.length = i)
    (hn : middle.length = n) : (ofBytes (front ++ (middle ++ rest))).slice i n = .ok middle := by
  subst hi hn
  have hsize : front.length + middle.length ≤ (ofBytes (front ++ (middle ++ rest))).size := by
    simp [ofBytes]
  rw [slice_of_le hsize]
  congr 1
  apply List.ext_getElem
  · simp
  · intro j hj hj'
    simp [ofBytes, List.getElem?_append_right, List.getElem?_append_left hj', hj']

end View

end RtcVpn
