import RtcVpn.Library.Format
import RtcVpn.Protocol.UdpPayload

/-!
# What the decoders accept

`decode_syn_payload`, `decode_udp_payload` and `unpackMessage` take the payload
of a `SYN` frame, a datagram and a message off the front of a buffer. Each of
them accepts just the buffers that begin with what its counterpart encodes, and
answers on every other one without reading past its end.
-/

namespace RtcVpn

/-! ## Formats -/

/-- The payload of a `SYN` frame for a host, whose length fits into its byte, and a port. -/
def SynFormat (target : Bytes × UInt16) (code : Bytes) : Prop :=
  target.1.length ≤ 255 ∧ code = encodeSynPayload target.1 target.2

/-- A datagram whose lengths fit into the bytes they have. -/
def UdpFormat (datagram : UdpPayload) (code : Bytes) : Prop :=
  ∃ port, datagram.port = some port ∧ datagram.host.length ≤ 255 ∧ datagram.data.length < 2 ^ 32 ∧
    code = encodeUdpPayload datagram.host port datagram.data

/-- A message with its payload. -/
def MessageFormat (payload code : Bytes) : Prop := packMessage payload = some code

/-- What `decode_udp_payload` has assigned if it succeeds. -/
def udpResult (buf : Bytes) : Except AccessFault (Option UdpPayload) :=
  (decodeUdpPayload buf).map fun answer => if answer.1 then some answer.2 else none

/-! ## Fronts -/

/-- A buffer with room for a length and for some bytes more comes apart behind that length. -/
theorem front_of_length {n m : Nat} {buf : Bytes} (h : n + m ≤ buf.length) :
    ∃ front rest, buf = front ++ rest ∧ front.length = n ∧ m ≤ rest.length := by
  refine ⟨buf.take n, buf.drop n, (List.take_append_drop n buf).symm, ?_, ?_⟩
  · rw [List.length_take]
    omega
  · rw [List.length_drop]
    omega

theorem two_of_length {buf : Bytes} (h : 2 ≤ buf.length) :
    ∃ hi lo rest, buf = hi :: lo :: rest := by
  match buf, h with
  | hi :: lo :: rest, _ => exact ⟨hi, lo, rest, rfl⟩

theorem four_of_length {buf : Bytes} (h : 4 ≤ buf.length) :
    ∃ a b c d rest, buf = a :: b :: c :: d :: rest := by
  match buf, h with
  | a :: b :: c :: d :: rest, _ => exact ⟨a, b, c, d, rest, rfl⟩

/-- A byte is that of the length it stands for. -/
theorem byte_of_length {b : UInt8} {n : Nat} (h : b.toNat = n) : b = UInt8.ofNat n ∧ n ≤ 255 := by
  subst h
  exact ⟨UInt8.ofNat_toNat.symm, by have := b.toNat_lt; omega⟩

/-! ## The payload of a `SYN` frame -/

theorem decodes_syn_payload : Decodes decodeSynPayload SynFormat := by
  refine .of_cases (fun buf => ?_) ?_
  · cases buf with
    | nil => exact .inl rfl
    | cons hostLen rest =>
        by_cases hroom : hostLen.toNat + 2 ≤ rest.length
        · obtain ⟨host, tail, rfl, hhost, htail⟩ := front_of_length hroom
          obtain ⟨hi, lo, rest, rfl⟩ := two_of_length htail
          obtain ⟨rfl, hlen⟩ := byte_of_length hhost.symm
          refine .inr ⟨(host, join16 hi lo), _, rest, ⟨hlen, rfl⟩, ?_⟩
          simp [encodeSynPayload]
        · left
          rw [decodeSynPayload, if_neg (by simp), byteAt_zero, except_ok_bind,
            if_pos (by simp only [List.length_cons]; omega)]
          rfl
  · rintro ⟨host, port⟩ code rest ⟨hlen, rfl⟩
    exact decode_syn_payload_append port hlen rest

/-! ## Datagrams -/

theorem decodes_udp_payload : Decodes udpResult UdpFormat := by
  refine .of_cases (fun buf => ?_) ?_
  · cases buf with
    | nil => exact .inl rfl
    | cons hostLen rest =>
        by_cases hroom : hostLen.toNat + 6 ≤ rest.length
        · obtain ⟨host, tail, rfl, hhost, htail⟩ := front_of_length hroom
          obtain ⟨hi, lo, tail, rfl⟩ := two_of_length (by omega : 2 ≤ tail.length)
          obtain ⟨a, b, c, d, rest, rfl⟩ := four_of_length (by simpa using htail)
          rw [udpResult, decode_udp_payload_cons hhost.symm]
          by_cases hshort : (join32 a b c d).toNat > rest.length
          · rw [if_pos hshort]
            exact .inl rfl
          · right
            obtain ⟨data, rest, rfl, hdata, -⟩ :=
              front_of_length (n := (join32 a b c d).toNat) (m := 0) (Nat.not_lt.mp hshort)
            obtain ⟨rfl, hlen⟩ := byte_of_length hhost.symm
            refine ⟨⟨host, some (join16 hi lo), data⟩, _, rest, ⟨_, rfl, hlen, ?_, rfl⟩, ?_⟩
            · show data.length < 2 ^ 32
              rw [hdata]
              exact (join32 a b c d).toNat_lt
            · have hword : UInt32.ofNat data.length = join32 a b c d := by
                rw [hdata, UInt32.ofNat_toNat]
              simp [encodeUdpPayload, hword]
        · left
          rw [udpResult, decodeUdpPayload, if_neg (by simp), byteAt_zero, except_ok_bind,
            sizeSub_of_le (by simp), except_ok_bind,
            if_pos (by simp only [List.length_cons]; omega)]
          rfl
  · rintro ⟨host, _, data⟩ code rest ⟨port, rfl, hlen, hdata, rfl⟩
    rw [udpResult, decode_udp_payload_append port hlen hdata]
    rfl

/-! ## Messages -/

theorem decodes_message : Decodes unpackMessage MessageFormat := by
  refine .of_cases (fun buf => ?_) ?_
  · by_cases hroom : 4 ≤ buf.length
    · obtain ⟨a, b, c, d, rest, rfl⟩ := four_of_length hroom
      rw [unpack_message_cons]
      by_cases hshort : (ntohl (load32 a b c d)).toNat > rest.length
      · exact .inl (if_pos hshort)
      · right
        obtain ⟨payload, rest, rfl, hpayload, -⟩ :=
          front_of_length (n := (ntohl (load32 a b c d)).toNat) (m := 0) (Nat.not_lt.mp hshort)
        refine ⟨payload, a :: b :: c :: d :: payload, rest, ?_, rfl⟩
        have hlen := (ntohl (load32 a b c d)).toNat_lt
        have hword : UInt32.ofNat payload.length = ntohl (load32 a b c d) := by
          rw [hpayload, UInt32.ofNat_toNat]
        have hmax : ¬ payload.length > uint32Max := by
          rw [hpayload, uint32Max]
          omega
        rw [MessageFormat, packMessage, if_neg hmax, hword, htonl, ntohl, byteSwap32_byteSwap32,
          store32_load32]
        rfl
    · left
      rw [unpackMessage, if_pos (by omega)]
      rfl
  · intro payload code rest hcode
    rw [MessageFormat, packMessage] at hcode
    split at hcode
    · cases hcode
    · next hmax =>
        cases hcode
        have hlen : (ntohl (htonl (UInt32.ofNat payload.length))).toNat = payload.length := by
          rw [ntohl, htonl, byteSwap32_byteSwap32]
          exact UInt32.toNat_ofNat_of_lt (by simp only [uint32Max, UInt32.size] at hmax ⊢; omega)
        simp only [store32, List.cons_append, List.nil_append, unpack_message_cons, load32_store32,
          hlen]
        rw [if_neg (by simp), List.take_left]

/-! ## The decoders -/

/-- A buffer never begins with the codes of two values. -/
def Unambiguous {α : Type} (Encodes : α → Bytes → Prop) : Prop :=
  ∀ a b code code' rest rest', Encodes a code → Encodes b code' →
    code ++ rest = code' ++ rest' → a = b

/-- The three decoders accept what is encoded for them, with anything behind it, and nothing else,
and never leave their buffer. A difference of lengths that wraps would be a fault of theirs; the
sums in their checks are of a byte and constants. -/
theorem decoders_exact :
    Decodes decodeSynPayload SynFormat ∧ Unambiguous SynFormat ∧
    Decodes udpResult UdpFormat ∧ Unambiguous UdpFormat ∧
    Decodes unpackMessage MessageFormat ∧ Unambiguous MessageFormat ∧
    ∀ hostLen : UInt8, 1 + hostLen.toNat + 2 < 2 ^ 32 ∧ hostLen.toNat + 2 + 4 < 2 ^ 32 := by
  refine ⟨decodes_syn_payload, fun a b _ _ _ _ => decodes_syn_payload.unique,
    decodes_udp_payload, fun a b _ _ _ _ => decodes_udp_payload.unique,
    decodes_message, fun a b _ _ _ _ => decodes_message.unique, fun hostLen => ?_⟩
  have := hostLen.toNat_lt
  omega

end RtcVpn
