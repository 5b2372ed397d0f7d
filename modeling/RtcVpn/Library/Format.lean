import RtcVpn.Library.Buffer

/-!
# Decoders of a format

A format says which byte strings stand for which values. A decoder of it takes
the value off the front of a buffer, whatever stands behind it, and must turn
down every buffer that no such string begins. The accesses of a decoder are
checked, so that one that always answers stays within its buffer.
-/

namespace RtcVpn

/-- The decoder always answers, with a value just for the buffers that begin with what stands for
it. -/
structure Decodes {α : Type} (decode : List UInt8 → Except AccessFault (Option α))
    (Encodes : α → List UInt8 → Prop) : Prop where
  safe : ∀ buf, ∃ answer, decode buf = .ok answer
  exact : ∀ buf a, decode buf = .ok (some a) ↔ ∃ code rest, Encodes a code ∧ buf = code ++ rest

namespace Decodes

variable {α : Type} {decode : List UInt8 → Except AccessFault (Option α)}
  {Encodes : α → List UInt8 → Prop}

/-- A decoder that turns down a buffer or finds a code at its front, and reads every code back. -/
theorem of_cases
    (hcases : ∀ buf, decode buf = .ok none ∨ ∃ a code rest, Encodes a code ∧ buf = code ++ rest)
    (hback : ∀ a code rest, Encodes a code → decode (code ++ rest) = .ok (some a)) :
    Decodes decode Encodes where
  safe buf := by
    rcases hcases buf with hnone | ⟨a, code, rest, hcode, rfl⟩
    · exact ⟨none, hnone⟩
    · exact ⟨some a, hback a code rest hcode⟩
  exact buf a := by
    constructor
    · intro h
      rcases hcases buf with hnone | ⟨b, code, rest, hcode, rfl⟩
      · rw [hnone] at h
        cases h
      · rw [hback b code rest hcode] at h
        cases h
        exact ⟨code, rest, hcode, rfl⟩
    · rintro ⟨code, rest, hcode, rfl⟩
      exact hback a code rest hcode

/-- A buffer begins with the code of one value only. -/
theorem unique (h : Decodes decode Encodes) {a b : α} {code code' rest rest' : List UInt8}
    (ha : Encodes a code) (hb : Encodes b code') (hbuf : code ++ rest = code' ++ rest') :
    a = b := by
  have hfirst := (h.exact (code ++ rest) a).mpr ⟨code, rest, ha, rfl⟩
  have hsecond := (h.exact (code ++ rest) b).mpr ⟨code', rest', hb, hbuf⟩
  rw [hfirst] at hsecond
  cases hsecond
  rfl

/-- A buffer is turned down just if it begins with no code. -/
theorem eq_none (h : Decodes decode Encodes) (buf : List UInt8) :
    decode buf = .ok none ↔ ¬ ∃ a code rest, Encodes a code ∧ buf = code ++ rest := by
  obtain ⟨answer, hanswer⟩ := h.safe buf
  cases answer with
  | none =>
      refine iff_of_true hanswer ?_
      rintro ⟨a, hcode⟩
      rw [(h.exact buf a).mpr hcode] at hanswer
      cases hanswer
  | some a =>
      refine iff_of_false (by rw [hanswer]; nofun) (not_not.mpr ⟨a, ?_⟩)
      exact (h.exact buf a).mp hanswer

end Decodes

end RtcVpn
