import Mathlib.Data.BitVec
import Mathlib.Tactic.IntervalCases

/-!
# Machine words in memory

A 32-bit word in the memory of a little-endian machine, the byte swap between
host and network order, and the bytes of 32-bit and 16-bit words, high byte
first. Each operation is undone by its counterpart, bit by bit.
-/

namespace RtcVpn

/-- The four bytes a little-endian machine stores for a word. -/
def store32 (v : UInt32) : List UInt8 :=
  [v.toUInt8, (v >>> 8).toUInt8, (v >>> 16).toUInt8, (v >>> 24).toUInt8]

/-- The word a little-endian machine reads from four bytes. -/
def load32 (a b c d : UInt8) : UInt32 :=
  a.toUInt32 ||| (b.toUInt32 <<< 8) ||| (c.toUInt32 <<< 16) ||| (d.toUInt32 <<< 24)

/-- Exchange the byte orders of a word. -/
def byteSwap32 (v : UInt32) : UInt32 :=
  ((v &&& 0x000000FF) <<< 24) ||| ((v &&& 0x0000FF00) <<< 8) |||
    ((v &&& 0x00FF0000) >>> 8) ||| ((v &&& 0xFF000000) >>> 24)

@[simp] theorem store32_length (v : UInt32) : (store32 v).length = 4 := rfl

/-- A stored word reads back. -/
@[simp] theorem load32_store32 (v : UInt32) :
    load32 v.toUInt8 (v >>> 8).toUInt8 (v >>> 16).toUInt8 (v >>> 24).toUInt8 = v := by
  apply UInt32.toBitVec_inj.mp
  apply BitVec.eq_of_getElem_eq
  intro i hi
  interval_cases i <;> simp [load32, -UInt32.toUInt32_toUInt8]

/-- Four bytes are those that are stored for the word read from them. -/
@[simp] theorem store32_load32 (a b c d : UInt8) : store32 (load32 a b c d) = [a, b, c, d] := by
  simp only [store32, List.cons.injEq, and_true]
  refine ⟨?_, ?_, ?_, ?_⟩ <;>
  · apply UInt8.toBitVec_inj.mp
    apply BitVec.eq_of_getElem_eq
    intro i hi
    interval_cases i <;> simp [load32]

/-- Swapping twice changes nothing. -/
@[simp] theorem byteSwap32_byteSwap32 (v : UInt32) : byteSwap32 (byteSwap32 v) = v := by
  apply UInt32.toBitVec_inj.mp
  apply BitVec.eq_of_getElem_eq
  intro i hi
  interval_cases i <;> simp [byteSwap32]

/-- The four bytes of a word, the high one first. -/
def bytes32 (v : UInt32) : List UInt8 :=
  [((v >>> 24) &&& 0xFF).toUInt8, ((v >>> 16) &&& 0xFF).toUInt8, ((v >>> 8) &&& 0xFF).toUInt8,
    (v &&& 0xFF).toUInt8]

/-- The word of four bytes, the high one first. -/
def join32 (a b c d : UInt8) : UInt32 :=
  (a.toUInt32 <<< 24) ||| (b.toUInt32 <<< 16) ||| (c.toUInt32 <<< 8) ||| d.toUInt32

/-- A word is the join of its four bytes. -/
@[simp] theorem join32_bytes (v : UInt32) :
    join32 ((v >>> 24) &&& 0xFF).toUInt8 ((v >>> 16) &&& 0xFF).toUInt8
      ((v >>> 8) &&& 0xFF).toUInt8 (v &&& 0xFF).toUInt8 = v := by
  apply UInt32.toBitVec_inj.mp
  apply BitVec.eq_of_getElem_eq
  intro i hi
  interval_cases i <;> simp [join32, -UInt32.toUInt32_toUInt8]

/-- Four bytes are those of their join. -/
@[simp] theorem bytes32_join32 (a b c d : UInt8) : bytes32 (join32 a b c d) = [a, b, c, d] := by
  simp only [bytes32, List.cons.injEq, and_true]
  refine ⟨?_, ?_, ?_, ?_⟩ <;>
  · apply UInt8.toBitVec_inj.mp
    apply BitVec.eq_of_getElem_eq
    intro i hi
    interval_cases i <;> simp [join32]

/-- The high byte of a 16-bit word. -/
def highByte (v : UInt16) : UInt8 := (v >>> 8).toUInt8

/-- The low byte of a 16-bit word. -/
def lowByte (v : UInt16) : UInt8 := (v &&& 0xFF).toUInt8

/-- The 16-bit word of a high and a low byte. -/
def join16 (hi lo : UInt8) : UInt16 := (hi.toUInt16 <<< 8) ||| lo.toUInt16

/-- A 16-bit word is the join of its two bytes. -/
@[simp] theorem join16_bytes (v : UInt16) : join16 (highByte v) (lowByte v) = v := by
  apply UInt16.toBitVec_inj.mp
  apply BitVec.eq_of_getElem_eq
  intro i hi
  interval_cases i <;> simp [join16, highByte, lowByte, -UInt16.toUInt16_toUInt8]

@[simp] theorem highByte_join16 (hi lo : UInt8) : highByte (join16 hi lo) = hi := by
  apply UInt8.toBitVec_inj.mp
  apply BitVec.eq_of_getElem_eq
  intro i hi'
  interval_cases i <;> simp [join16, highByte]

@[simp] theorem lowByte_join16 (hi lo : UInt8) : lowByte (join16 hi lo) = lo := by
  apply UInt8.toBitVec_inj.mp
  apply BitVec.eq_of_getElem_eq
  intro i hi'
  interval_cases i <;> simp [join16, lowByte]

end RtcVpn
