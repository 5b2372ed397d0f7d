import RtcVpn.Library.Buffer
import RtcVpn.Library.Word

/-!
# The session frame format

The enumerations, the frame header and the payloads of `session_protocol`. The
enumerations have a one-byte underlying type and are cast from raw input
without validation, so each has a constructor for the bytes it does not name.
A message on the data channel is a length-prefixed frame; a frame is a six-byte
header and a payload. Words are laid out as a little-endian machine does it.
-/

namespace RtcVpn

/-- A byte string, also used for `std::string`. -/
abbrev Bytes : Type := List UInt8

/-! ## Enumerations -/

/-- State of a socket's write queue. -/
inductive WriteQueueStatus where
  | danger
  | safety
  deriving DecidableEq, Repr

/-- Request to the peer to go on or to stop reading. -/
inductive CtrlType where
  | receive
  | pause
  | other (byte : UInt8) (h : byte ≠ 0 ∧ byte ≠ 1)
  deriving DecidableEq, Repr

/-- Kind of a frame. -/
inductive FrameType where
  | syn
  | synack
  | data
  | fin
  | dataCtrl
  | other (byte : UInt8)
      (h : byte ≠ 0x01 ∧ byte ≠ 0x02 ∧ byte ≠ 0x03 ∧ byte ≠ 0x04 ∧ byte ≠ 0x0D)
  deriving DecidableEq, Repr

/-- What kind of browser connection a stream carries. -/
inductive Protocol where
  | unknown
  | socks5Connect
  | httpPlain
  | httpsConnect
  | udpAssociate
  | other (byte : UInt8) (h : byte ≠ 0 ∧ byte ≠ 1 ∧ byte ≠ 2 ∧ byte ≠ 3 ∧ byte ≠ 4)
  deriving DecidableEq, Repr

/-- `CtrlType(byte)`. -/
def CtrlType.ofByte (byte : UInt8) : CtrlType :=
  if h0 : byte = 0 then .receive
  else if h1 : byte = 1 then .pause
  else .other byte ⟨h0, h1⟩

/-- `static_cast<uint8_t>` of a frame type. -/
def FrameType.toByte : FrameType → UInt8
  | .syn => 0x01
  | .synack => 0x02
  | .data => 0x03
  | .fin => 0x04
  | .dataCtrl => 0x0D
  | .other byte _ => byte

/-- `static_cast<FrameType>` of a byte. -/
def FrameType.ofByte (byte : UInt8) : FrameType :=
  if h1 : byte = 0x01 then .syn
  else if h2 : byte = 0x02 then .synack
  else if h3 : byte = 0x03 then .data
  else if h4 : byte = 0x04 then .fin
  else if h13 : byte = 0x0D then .dataCtrl
  else .other byte ⟨h1, h2, h3, h4, h13⟩

/-- `static_cast<uint8_t>` of a protocol. -/
def Protocol.toByte : Protocol → UInt8
  | .unknown => 0
  | .socks5Connect => 1
  | .httpPlain => 2
  | .httpsConnect => 3
  | .udpAssociate => 4
  | .other byte _ => byte

/-- `static_cast<Protocol>` of a byte. -/
def Protocol.ofByte (byte : UInt8) : Protocol :=
  if h0 : byte = 0 then .unknown
  else if h1 : byte = 1 then .socks5Connect
  else if h2 : byte = 2 then .httpPlain
  else if h3 : byte = 3 then .httpsConnect
  else if h4 : byte = 4 then .udpAssociate
  else .other byte ⟨h0, h1, h2, h3, h4⟩

@[simp] theorem FrameType.of_byte_to_byte (t : FrameType) : FrameType.ofByte t.toByte = t := by
  cases t with
  | other byte h =>
      obtain ⟨h1, h2, h3, h4, h13⟩ := h
      simp [toByte, ofByte, h1, h2, h3, h4, h13]
  | _ => rfl

@[simp] theorem Protocol.of_byte_to_byte (p : Protocol) : Protocol.ofByte p.toByte = p := by
  cases p with
  | other byte h =>
      obtain ⟨h0, h1, h2, h3, h4⟩ := h
      simp [toByte, ofByte, h0, h1, h2, h3, h4]
  | _ => rfl

/-! ## Frames -/

/-- `FrameHeader`. -/
structure FrameHeader where
  streamId : UInt32
  type : FrameType
  protocol : Protocol
  deriving DecidableEq, Repr

namespace FrameHeader

/-- Size of an encoded header. -/
def kSize : Nat := 6

/-- `FrameHeader::hton32`. -/
def hton32 (v : UInt32) : UInt32 :=
  ((v &&& 0x000000FF) <<< 24) ||| ((v &&& 0x0000FF00) <<< 8) |||
    ((v &&& 0x00FF0000) >>> 8) ||| ((v &&& 0xFF000000) >>> 24)

/-- `FrameHeader::encode`. -/
def encode (h : FrameHeader) : Bytes :=
  store32 (hton32 h.streamId) ++ [h.type.toByte, h.protocol.toByte]

/-- `FrameHeader::decode`; `none` is the result `false`. -/
def decode (data : Bytes) : Except AccessFault (Option FrameHeader) :=
  if data.length < kSize then
    pure none
  else do
    let sid := load32 (← byteAt data 0) (← byteAt data 1) (← byteAt data 2) (← byteAt data 3)
    let type ← byteAt data 4
    let protocol ← byteAt data 5
    pure (some ⟨hton32 sid, .ofByte type, .ofByte protocol⟩)

/-- Swapping twice changes nothing. -/
@[simp] theorem hton32_hton32 (v : UInt32) : hton32 (hton32 v) = v := by
  unfold hton32
  exact byteSwap32_byteSwap32 v

/-- Decoding succeeds on every buffer that holds a header. -/
theorem decode_cons (a b c d t p : UInt8) (rest : Bytes) :
    decode (a :: b :: c :: d :: t :: p :: rest) =
      .ok (some ⟨hton32 (load32 a b c d), .ofByte t, .ofByte p⟩) := by
  rw [decode, if_neg (by simp [kSize])]
  rfl

end FrameHeader

/-- `make_frame`. -/
def makeFrame (streamId : UInt32) (type : FrameType) (protocol : Protocol)
    (payload : Bytes) : Bytes :=
  FrameHeader.encode ⟨streamId, type, protocol⟩ ++ payload

/-- The header takes six bytes. -/
theorem make_frame_length (streamId : UInt32) (type : FrameType) (protocol : Protocol)
    (payload : Bytes) :
    (makeFrame streamId type protocol payload).length = 6 + payload.length := by
  simp [makeFrame, FrameHeader.encode, store32]
  omega

/-- The header of a frame reads back, whatever its payload. -/
@[simp] theorem decode_make_frame (streamId : UInt32) (type : FrameType) (protocol : Protocol)
    (payload : Bytes) :
    FrameHeader.decode (makeFrame streamId type protocol payload) =
      .ok (some ⟨streamId, type, protocol⟩) := by
  simp only [makeFrame, FrameHeader.encode, store32, List.cons_append, List.nil_append,
    FrameHeader.decode_cons, load32_store32, FrameHeader.hton32_hton32,
    FrameType.of_byte_to_byte, Protocol.of_byte_to_byte]

/-- The payload of a frame is what stands behind the header. -/
@[simp] theorem drop_make_frame (streamId : UInt32) (type : FrameType) (protocol : Protocol)
    (payload : Bytes) :
    (makeFrame streamId type protocol payload).drop FrameHeader.kSize = payload := rfl

/-! ## Payloads -/

/-- `encode_syn_payload`: the host length is narrowed to one byte. -/
def encodeSynPayload (host : Bytes) (port : UInt16) : Bytes :=
  UInt8.ofNat host.length :: (host ++ [highByte port, lowByte port])

/-- `decode_syn_payload`; `none` is the result `false`. -/
def decodeSynPayload (data : Bytes) : Except AccessFault (Option (Bytes × UInt16)) :=
  if data.length < 1 then
    pure none
  else do
    let hlen ← byteAt data 0
    if data.length < 1 + hlen.toNat + 2 then
      pure none
    else
      let host ← slice data 1 hlen.toNat
      let hi ← byteAt data (1 + hlen.toNat)
      let lo ← byteAt data (2 + hlen.toNat)
      pure (some (host, join16 hi lo))

/-- The byte of a length that fits. -/
theorem length_byte {n : Nat} (h : n ≤ 255) : (UInt8.ofNat n).toNat = n :=
  UInt8.toNat_ofNat_of_lt (by simp only [UInt8.size]; omega)

/-- A buffer with a whole host and a port is decoded, whatever stands behind them. -/
theorem decode_syn_payload_cons {hostLen hi lo : UInt8} {host rest : Bytes}
    (hlen : hostLen.toNat = host.length) :
    decodeSynPayload (hostLen :: (host ++ (hi :: lo :: rest))) =
      .ok (some (host, join16 hi lo)) := by
  obtain ⟨buf, hbuf⟩ : ∃ buf, buf = hostLen :: (host ++ (hi :: lo :: rest)) := ⟨_, rfl⟩
  have hsize : buf.length = 1 + host.length + 2 + rest.length := by
    simp only [hbuf, List.length_cons, List.length_append]
    omega
  have hzero : byteAt buf 0 = .ok hostLen := by rw [hbuf]; rfl
  have hhost : slice buf 1 host.length = .ok host := by
    rw [hbuf]
    show slice ([hostLen] ++ (host ++ _)) 1 host.length = .ok host
    exact slice_append rfl rfl
  have hbyte : ∀ i x, byteAt (hi :: lo :: rest) i = .ok x →
      byteAt buf (1 + host.length + i) = .ok x := by
    intro i x hx
    have h := byteAt_append_right (hostLen :: host) hx
    rw [List.length_cons, Nat.add_comm host.length 1] at h
    rw [hbuf]
    exact h
  have hhi : byteAt buf (1 + host.length) = .ok hi := hbyte 0 hi rfl
  have hlo : byteAt buf (2 + host.length) = .ok lo := by
    rw [show 2 + host.length = 1 + host.length + 1 by omega]
    exact hbyte 1 lo rfl
  rw [← hbuf, decodeSynPayload, if_neg (by omega), hzero, except_ok_bind, hlen,
    if_neg (by omega), hhost, except_ok_bind, hhi, except_ok_bind, hlo, except_ok_bind]
  rfl

/-- A host of at most 255 bytes and its port are read from what begins with them. -/
theorem decode_syn_payload_append {host : Bytes} (port : UInt16) (hhost : host.length ≤ 255)
    (rest : Bytes) :
    decodeSynPayload (encodeSynPayload host port ++ rest) = .ok (some (host, port)) := by
  have hback := @decode_syn_payload_cons _ (highByte port) (lowByte port) host rest
    (length_byte hhost)
  rw [join16_bytes] at hback
  simpa [encodeSynPayload] using hback

/-- A host of at most 255 bytes and its port read back. -/
theorem decode_encode_syn_payload {host : Bytes} (port : UInt16) (hhost : host.length ≤ 255) :
    decodeSynPayload (encodeSynPayload host port) = .ok (some (host, port)) := by
  simpa using decode_syn_payload_append port hhost []

/-! ## Messages on the data channel -/

/-- `htonl` of the system library on a little-endian machine. -/
def htonl (v : UInt32) : UInt32 := byteSwap32 v

/-- `ntohl` of the system library on a little-endian machine. -/
def ntohl (v : UInt32) : UInt32 := byteSwap32 v

/-- `UINT32_MAX`. -/
def uint32Max : Nat := 4294967295

/-- `packMessage`; `none` is the exception `std::length_error`. -/
def packMessage (data : Bytes) : Option Bytes :=
  if data.length > uint32Max then none
  else some (store32 (htonl (UInt32.ofNat data.length)) ++ data)

/-- `unpackMessage`; `none` is `std::nullopt`. -/
def unpackMessage (data : Bytes) : Except AccessFault (Option Bytes) :=
  if data.length < 4 then
    pure none
  else do
    let netLen := load32 (← byteAt data 0) (← byteAt data 1) (← byteAt data 2) (← byteAt data 3)
    let len := (ntohl netLen).toNat
    let room ← sizeSub data.length 4
    if len > room then
      pure none
    else
      let payload ← slice data 4 len
      pure (some payload)

/-- A message with a length prefix unpacks to that many of the bytes behind it, if there are. -/
theorem unpack_message_cons (a b c d : UInt8) (rest : Bytes) :
    unpackMessage (a :: b :: c :: d :: rest) =
      if (ntohl (load32 a b c d)).toNat > rest.length then .ok none
      else .ok (some (rest.take (ntohl (load32 a b c d)).toNat)) := by
  have hsub : sizeSub (a :: b :: c :: d :: rest).length 4 = .ok rest.length :=
    sizeSub_of_le (by simp)
  have hbytes : unpackMessage (a :: b :: c :: d :: rest) =
      (sizeSub (a :: b :: c :: d :: rest).length 4 >>= fun room =>
        if (ntohl (load32 a b c d)).toNat > room then pure none
        else slice (a :: b :: c :: d :: rest) 4 (ntohl (load32 a b c d)).toNat >>=
          fun payload => pure (some payload)) := by
    rw [unpackMessage, if_neg (by simp)]
    rfl
  rw [hbytes, hsub]
  split
  · next h => exact if_pos h
  · next h =>
      refine (if_neg h).trans ?_
      rw [slice_of_le (by simp; omega)]
      rfl

/-- A message of fewer than 2^32 bytes is packed, and unpacking gives it back. -/
theorem unpack_pack_message {data : Bytes} (h : data.length < 2 ^ 32) :
    ∃ message, packMessage data = some message ∧ unpackMessage message = .ok (some data) := by
  have hmax : ¬ data.length > uint32Max := by simp only [uint32Max]; omega
  refine ⟨_, if_neg hmax, ?_⟩
  have hlen : (ntohl (htonl (UInt32.ofNat data.length))).toNat = data.length := by
    rw [ntohl, htonl, byteSwap32_byteSwap32]
    exact UInt32.toNat_ofNat_of_lt (by simpa [UInt32.size] using h)
  simp only [store32, List.cons_append, List.nil_append, unpack_message_cons, load32_store32,
    hlen, gt_iff_lt, lt_self_iff_false, if_false, List.take_length]

/-- What is packed has fewer than 2^32 bytes. -/
theorem length_of_pack_message {data message : Bytes} (h : packMessage data = some message) :
    data.length < 2 ^ 32 := by
  by_contra hlong
  rw [packMessage, if_pos (by simp only [uint32Max]; omega)] at h
  cases h

/-- Unpacking a message gives back what has been packed. -/
theorem unpack_of_pack_message {data message : Bytes} (h : packMessage data = some message) :
    unpackMessage message = .ok (some data) := by
  obtain ⟨message', hpack, hunpack⟩ := unpack_pack_message (length_of_pack_message h)
  rw [h] at hpack
  cases hpack
  exact hunpack

end RtcVpn
