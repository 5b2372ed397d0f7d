import RtcVpn.Protocol.SessionProtocol

/-!
# Datagrams in a stream

`encode_udp_payload` and `decode_udp_payload` of `session_protocol`: a datagram
with the host and port it goes to or comes from, as the payload of a `DATA`
frame. The decoder has several results, which it assigns one after the other
and keeps when it fails behind them.
-/

namespace RtcVpn

/-- What `decode_udp_payload` has assigned to its results. -/
structure UdpPayload where
  host : Bytes := []
  port : Option UInt16 := none
  data : Bytes := []
  deriving DecidableEq, Repr

/-- `encode_udp_payload`: the host length is narrowed to one byte and that of the data to four. -/
def encodeUdpPayload (host : Bytes) (port : UInt16) (data : Bytes) : Bytes :=
  UInt8.ofNat host.length ::
    (host ++ ([highByte port, lowByte port] ++ (bytes32 (UInt32.ofNat data.length) ++ data)))

/-- What stands in front of the data takes seven bytes and the host. -/
theorem encode_udp_payload_length (host : Bytes) (port : UInt16) (data : Bytes) :
    (encodeUdpPayload host port data).length = 7 + host.length + data.length := by
  simp [encodeUdpPayload, bytes32]
  omega

/-- `decode_udp_payload`: whether it succeeds, and what it has assigned. -/
def decodeUdpPayload (buf : Bytes) : Except AccessFault (Bool × UdpPayload) :=
  if buf.length < 1 then
    pure (false, {})
  else do
    let hostLen := (← byteAt buf 0).toNat
    let room ← sizeSub buf.length 1
    if room < hostLen + 2 + 4 then
      pure (false, {})
    else do
      let host ← slice buf 1 hostLen
      let pos := 1 + hostLen
      let port := join16 (← byteAt buf pos) (← byteAt buf (pos + 1))
      let pos := pos + 2
      let dataLen := (join32 (← byteAt buf pos) (← byteAt buf (pos + 1)) (← byteAt buf (pos + 2))
        (← byteAt buf (pos + 3))).toNat
      let pos := pos + 4
      let room ← sizeSub buf.length pos
      if dataLen > room then
        pure (false, ⟨host, some port, []⟩)
      else do
        let data ← slice buf pos dataLen
        pure (true, ⟨host, some port, data⟩)

/-- A buffer with a whole header is decoded by the data length that the header declares. -/
theorem decode_udp_payload_cons {hostLen hi lo a b c d : UInt8} {host rest : Bytes}
    (hlen : hostLen.toNat = host.length) :
    decodeUdpPayload (hostLen :: (host ++ (hi :: lo :: a :: b :: c :: d :: rest))) =
      if (join32 a b c d).toNat > rest.length then .ok (false, ⟨host, some (join16 hi lo), []⟩)
      else .ok (true, ⟨host, some (join16 hi lo), rest.take (join32 a b c d).toNat⟩) := by
  obtain ⟨buf, hbuf⟩ : ∃ buf, buf = hostLen :: (host ++ (hi :: lo :: a :: b :: c :: d :: rest)) :=
    ⟨_, rfl⟩
  have hsize : buf.length = 1 + host.length + 6 + rest.length := by
    simp only [hbuf, List.length_cons, List.length_append]
    omega
  have hzero : byteAt buf 0 = .ok hostLen := by rw [hbuf]; rfl
  have hhost : slice buf 1 host.length = .ok host := by
    rw [hbuf]
    show slice ([hostLen] ++ (host ++ _)) 1 host.length = .ok host
    exact slice_append rfl rfl
  -- what stands behind the host is read at its offset from there
  have hbyte : ∀ i x, byteAt (hi :: lo :: a :: b :: c :: d :: rest) i = .ok x →
      byteAt buf (1 + host.length + i) = .ok x := by
    intro i x hx
    have h := byteAt_append_right (hostLen :: host) hx
    rw [List.length_cons, Nat.add_comm host.length 1] at h
    rw [hbuf]
    exact h
  have hhi : byteAt buf (1 + host.length) = .ok hi := hbyte 0 hi rfl
  have hdrop : buf.drop (1 + host.length + 6) = rest := by
    have hsplit : buf = (hostLen :: host ++ [hi, lo, a, b, c, d]) ++ rest := by simp [hbuf]
    rw [hsplit, List.drop_left' (by simp; omega)]
  rw [← hbuf, decodeUdpPayload, if_neg (by omega), hzero, except_ok_bind,
    sizeSub_of_le (by omega), except_ok_bind, hlen, if_neg (by omega), hhost, except_ok_bind]
  simp only [hhi, hbyte 1 lo rfl, hbyte 2 a rfl, hbyte 3 b rfl, hbyte 4 c rfl, hbyte 5 d rfl,
    except_ok_bind]
  have hroom : buf.length - (1 + host.length + 6) = rest.length := by omega
  rw [show 1 + host.length + 2 + 4 = 1 + host.length + 6 by omega, sizeSub_of_le (by omega),
    except_ok_bind, hroom]
  by_cases hshort : (join32 a b c d).toNat > rest.length
  · rw [if_pos hshort, if_pos hshort]
    rfl
  · rw [if_neg hshort, if_neg hshort, slice_of_le (by omega), except_ok_bind, hdrop]
    rfl

/-- A datagram to a host of at most 255 bytes is read from what begins with it. -/
theorem decode_udp_payload_append {host data : Bytes} (port : UInt16) (hhost : host.length ≤ 255)
    (hdata : data.length < 2 ^ 32) (rest : Bytes) :
    decodeUdpPayload (encodeUdpPayload host port data ++ rest) =
      .ok (true, ⟨host, some port, data⟩) := by
  have hsize : (UInt32.ofNat data.length).toNat = data.length :=
    UInt32.toNat_ofNat_of_lt (by simpa [UInt32.size] using hdata)
  rw [encodeUdpPayload, bytes32]
  simp only [List.cons_append, List.nil_append, List.append_assoc]
  rw [decode_udp_payload_cons (length_byte hhost), join32_bytes, hsize, join16_bytes,
    if_neg (by simp), List.take_left]

/-- A datagram to a host of at most 255 bytes reads back. -/
theorem decode_encode_udp_payload {host data : Bytes} (port : UInt16) (hhost : host.length ≤ 255)
    (hdata : data.length < 2 ^ 32) :
    decodeUdpPayload (encodeUdpPayload host port data) = .ok (true, ⟨host, some port, data⟩) := by
  simpa using decode_udp_payload_append port hhost hdata []

end RtcVpn
