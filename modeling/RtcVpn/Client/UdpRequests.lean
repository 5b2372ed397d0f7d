import RtcVpn.Client.UdpSession

/-!
# SOCKS5 UDP requests through the relay

A request goes through `send_p2p_data` on the client and `decode_udp_payload`
on the server. That of an IPv4 destination arrives as it is. The port of a
domain is read one byte behind where it stands, and so is the data: every
request to a domain that is long enough to be sent goes wrong.
-/

namespace RtcVpn

/-! ## Requests -/

/-- A destination of a datagram: an IPv4 address or a domain of at most 255 bytes. -/
inductive UdpDestination where
  | ipv4 (address : AddressV4)
  | domain (name : Bytes) (bounded : name.length ≤ 255)

/-- `ATYP DST.ADDR`. -/
def UdpDestination.bytes : UdpDestination → Bytes
  | .ipv4 address => 0x01 :: address.toBytes
  | .domain name _ => 0x03 :: UInt8.ofNat name.length :: name

/-- The host a destination names. -/
def UdpDestination.host : UdpDestination → Bytes
  | .ipv4 address => address.dottedQuad
  | .domain name _ => name

/-- A request to relay a datagram. -/
structure UdpRequest where
  rsv₁ : UInt8
  rsv₂ : UInt8
  frag : UInt8
  destination : UdpDestination
  port : UInt16
  data : Bytes

/-- `RSV FRAG ATYP DST.ADDR DST.PORT DATA`. -/
def UdpRequest.bytes (q : UdpRequest) : Bytes :=
  q.rsv₁ :: q.rsv₂ :: q.frag :: (q.destination.bytes ++ highByte q.port :: lowByte q.port :: q.data)

/-- A datagram that ends before its data would begin, by its address type. One that ends before
its address type is too short in any case. -/
def TooShort (d : Bytes) : Prop :=
  d.length < 4 ∨ (d[3]? = some 0x01 ∧ d.length < 10) ∨
    (d[3]? = some 0x03 ∧ ∀ len ∈ d[4]?, d.length < 7 + len.toNat)

/-- A datagram to a domain, at least as long as the domain requires. -/
def NamesDomain (d : Bytes) : Prop :=
  d[3]? = some 0x03 ∧ ∃ len, d[4]? = some len ∧ 7 + len.toNat ≤ d.length

namespace UdpSession

/-- What a datagram becomes on its way through `send_p2p_data`: nothing beyond it is read and no
size wraps; a request arrives with its host, port and data; what is too short is not sent. -/
structure Relayed (d : Bytes) : Prop where
  inBounds : ∃ r, sendP2pData (.ofBytes d) d.length = .ok r
  faithful : ∀ q : UdpRequest, d = q.bytes → ∃ payload,
    sendP2pData (.ofBytes d) d.length = .ok (some payload) ∧
      decodeUdpPayload payload = .ok (true, ⟨q.destination.host, some q.port, q.data⟩)
  silent : TooShort d → ∀ payload, sendP2pData (.ofBytes d) d.length ≠ .ok (some payload)

/-! ## The two address types -/

/-- The function for the address type of a datagram. -/
theorem send_p2p_data_of_type {d : Bytes} {atyp : UInt8} (h : d[3]? = some atyp) (n : Nat) :
    sendP2pData (.ofBytes d) n =
      if atyp = 0x01 then sendIpv4 (.ofBytes d) n
      else if atyp = 0x03 then sendDomain (.ofBytes d) n
      else .ok none := by
  rw [sendP2pData, View.byteAt_of_bytes h, except_ok_bind]
  rfl

/-- An IPv4 request is sent with its host, port and data. -/
theorem send_ipv4_request (r₁ r₂ frag a b c e hi lo : UInt8) (data : Bytes) :
    sendIpv4 (.ofBytes (r₁ :: r₂ :: frag :: 0x01 :: a :: b :: c :: e :: hi :: lo :: data))
        (10 + data.length) =
      .ok (some (encodeUdpPayload (AddressV4.dottedQuad ⟨a, b, c, e⟩) (join16 hi lo) data)) := by
  obtain ⟨v, hv⟩ : ∃ v, v =
      View.ofBytes (r₁ :: r₂ :: frag :: 0x01 :: a :: b :: c :: e :: hi :: lo :: data) := ⟨_, rfl⟩
  have hbyte : ∀ i x,
      (r₁ :: r₂ :: frag :: 0x01 :: a :: b :: c :: e :: hi :: lo :: data)[i]? = some x →
        v.byteAt i = .ok x := by
    intro i x hx
    rw [hv]
    exact View.byteAt_of_bytes hx
  have hdata : v.slice 10 data.length = .ok data := by
    have h : (View.ofBytes ([r₁, r₂, frag, 0x01, a, b, c, e, hi, lo] ++ (data ++ []))).slice 10
        data.length = .ok data := View.slice_of_bytes rfl rfl
    rw [List.append_nil] at h
    rw [hv]
    exact h
  rw [← hv, sendIpv4, if_neg (by omega)]
  simp only [hbyte 4 a rfl, hbyte 5 b rfl, hbyte 6 c rfl, hbyte 7 e rfl, hbyte 8 hi rfl,
    hbyte 9 lo rfl, except_ok_bind]
  rw [sizeSub_of_le (by omega), except_ok_bind, Nat.add_sub_cancel_left, hdata]
  rfl

/-- A datagram to a domain that ends where its data would begin makes a size wrap. -/
theorem send_domain_empty {v : View} {len : UInt8} (hlen : v.byteAt 4 = .ok len)
    (hsize : v.size = 7 + len.toNat) : ∃ fault, sendDomain v (7 + len.toNat) = .error fault := by
  rw [sendDomain, if_neg (by omega), hlen, except_ok_bind, if_neg (by omega),
    View.slice_of_le (by omega), except_ok_bind, View.byteAt_of_lt (by omega), except_ok_bind,
    View.byteAt_of_le (by omega)]
  exact ⟨_, rfl⟩

/-- A datagram to a domain with data is sent with one byte of data less than it has. -/
theorem send_domain_long {v : View} {len : UInt8} {n : Nat} (hlen : v.byteAt 4 = .ok len)
    (hn : 8 + len.toNat ≤ n) (hsize : n ≤ v.size) :
    ∃ host port data, sendDomain v n = .ok (some (encodeUdpPayload host port data)) ∧
      host.length ≤ 255 ∧ data.length = n - 8 - len.toNat := by
  have hbyte := len.toNat_lt
  rw [sendDomain, if_neg (by omega), hlen, except_ok_bind, if_neg (by omega),
    View.slice_of_le (by omega), except_ok_bind, View.byteAt_of_lt (by omega), except_ok_bind,
    View.byteAt_of_lt (by omega), except_ok_bind, sizeSub_of_le (by omega), except_ok_bind,
    sizeSub_of_le (by omega), except_ok_bind, View.slice_of_le (by omega), except_ok_bind]
  refine ⟨_, _, _, rfl, ?_, ?_⟩
  · simp only [List.length_map, List.length_range]
    omega
  · simp only [List.length_map, List.length_range]

/-- A datagram to a domain that is shorter than that is not sent. -/
theorem send_domain_short {d : Bytes} (h : ∀ len ∈ d[4]?, d.length < 7 + len.toNat) :
    sendDomain (.ofBytes d) d.length = .ok none := by
  rw [sendDomain]
  by_cases hn : d.length < 5
  · rw [if_pos hn]
    rfl
  · have hlen : d[4]? = some (d.get ⟨4, by omega⟩) := List.getElem?_eq_getElem _
    have hshort := h _ hlen
    rw [if_neg hn, View.byteAt_of_bytes hlen, except_ok_bind, if_pos (by omega)]
    rfl

/-- A datagram to a domain that is long enough is that of a request. -/
theorem request_of_domain {d : Bytes} (h : NamesDomain d) :
    ∃ q : UdpRequest, d = q.bytes ∧ ∃ len, d[4]? = some len ∧
      q.data.length + 7 + len.toNat = d.length := by
  obtain ⟨htype, len, hlen, hlong⟩ := h
  match d, htype, hlen with
  | r₁ :: r₂ :: frag :: _ :: _ :: rest, htype, hlen =>
      cases htype
      cases hlen
      simp only [List.length_cons] at hlong
      have hname : (rest.take len.toNat).length = len.toNat := by
        rw [List.length_take]
        omega
      have hbound := len.toNat_lt
      obtain ⟨hi, lo, data, hrest⟩ : ∃ hi lo data, rest.drop len.toNat = hi :: lo :: data := by
        match hdrop : rest.drop len.toNat with
        | hi :: lo :: data => exact ⟨hi, lo, data, rfl⟩
        | [] | [_] =>
            have hcount := congrArg List.length hdrop
            simp only [List.length_drop, List.length_cons, List.length_nil] at hcount
            omega
      refine ⟨⟨r₁, r₂, frag, .domain (rest.take len.toNat) (by omega), join16 hi lo, data⟩, ?_,
        len, rfl, ?_⟩
      · simp only [UdpRequest.bytes, UdpDestination.bytes, hname, UInt8.ofNat_toNat,
          highByte_join16, lowByte_join16, List.cons_append, ← hrest, List.take_append_drop]
      · have hcount := congrArg List.length hrest
        simp only [List.length_drop, List.length_cons] at hcount ⊢
        omega

/-- A request is to an IPv4 address, or to a domain and long enough for it. -/
theorem ipv4_or_domain (q : UdpRequest) :
    (∃ address, q.destination = .ipv4 address) ∨ NamesDomain q.bytes := by
  obtain ⟨r₁, r₂, frag, destination, port, data⟩ := q
  cases destination with
  | ipv4 address => exact .inl ⟨address, rfl⟩
  | domain name hname =>
      have hlen : (UInt8.ofNat name.length).toNat = name.length :=
        UInt8.toNat_ofNat_of_lt (by simp only [UInt8.size]; omega)
      refine .inr ⟨rfl, UInt8.ofNat name.length, rfl, ?_⟩
      simp only [UdpRequest.bytes, UdpDestination.bytes, hlen, List.length_cons, List.cons_append,
        List.length_append]
      omega

/-- An IPv4 request is sent as it is, and is not too short. -/
theorem send_ipv4_of_request {q : UdpRequest} {address : AddressV4}
    (hq : q.destination = .ipv4 address) :
    sendP2pData (.ofBytes q.bytes) q.bytes.length =
        .ok (some (encodeUdpPayload q.destination.host q.port q.data)) ∧ ¬ TooShort q.bytes := by
  obtain ⟨r₁, r₂, frag, destination, port, data⟩ := q
  obtain ⟨a, b, c, e⟩ := address
  cases hq
  have hsize : (UdpRequest.bytes ⟨r₁, r₂, frag, .ipv4 ⟨a, b, c, e⟩, port, data⟩).length =
      10 + data.length := by
    simp only [UdpRequest.bytes, UdpDestination.bytes, AddressV4.toBytes, List.cons_append,
      List.nil_append, List.length_cons]
    omega
  constructor
  · have hsend := send_ipv4_request r₁ r₂ frag a b c e (highByte port) (lowByte port) data
    rw [join16_bytes] at hsend
    rw [hsize, send_p2p_data_of_type (show _ = some (0x01 : UInt8) from rfl)]
    exact hsend
  · rintro (hshort | ⟨_, hshort⟩ | ⟨htype, _⟩)
    · omega
    · omega
    · exact absurd htype (by simp [UdpRequest.bytes, UdpDestination.bytes])

/-- Any other datagram with an address type is not sent, unless it is to a domain. -/
theorem ipv4_or_silent {d : Bytes} (htype : 4 ≤ d.length) (hdomain : ¬ NamesDomain d) :
    (∃ q : UdpRequest, ∃ address, q.destination = .ipv4 address ∧ d = q.bytes) ∨
      sendP2pData (.ofBytes d) d.length = .ok none := by
  obtain ⟨atyp, hatyp⟩ : ∃ atyp, d[3]? = some atyp :=
    ⟨d.get ⟨3, by omega⟩, List.getElem?_eq_getElem _⟩
  rw [send_p2p_data_of_type hatyp]
  by_cases hipv4 : atyp = 0x01
  · subst hipv4
    by_cases hshort : d.length < 10
    · exact .inr (by simp only [↓reduceIte, sendIpv4, if_pos hshort]; rfl)
    · left
      match d, hatyp, hshort with
      | r₁ :: r₂ :: frag :: _ :: a :: b :: c :: e :: hi :: lo :: data, hatyp, _ =>
          cases hatyp
          refine ⟨⟨r₁, r₂, frag, .ipv4 ⟨a, b, c, e⟩, join16 hi lo, data⟩, ⟨a, b, c, e⟩, rfl, ?_⟩
          simp only [UdpRequest.bytes, UdpDestination.bytes, AddressV4.toBytes, List.cons_append,
            List.nil_append, highByte_join16, lowByte_join16]
      | [], h, _ => cases h
      | [_, _, _, _], _, h | [_, _, _, _, _], _, h | [_, _, _, _, _, _], _, h
      | [_, _, _, _, _, _, _], _, h | [_, _, _, _, _, _, _, _], _, h
      | [_, _, _, _, _, _, _, _, _], _, h => exact absurd (by simp) h
  · right
    rw [if_neg hipv4]
    by_cases hthree : atyp = 0x03
    · subst hthree
      rw [if_pos rfl]
      refine send_domain_short fun len hlen => ?_
      by_contra hlong
      exact hdomain ⟨hatyp, len, hlen, by omega⟩
    · rw [if_neg hthree]

end UdpSession

open UdpSession

/-- A datagram that fits into the receive buffer is relayed as it should be, if and only if it has
an address type and is not one to a domain that is long enough for it. -/
theorem udp_request_relayed_iff {d : Bytes} (hfits : d.length ≤ recvBufSize) :
    Relayed d ↔ 4 ≤ d.length ∧ ¬ NamesDomain d := by
  constructor
  · intro h
    obtain ⟨r, hr⟩ := h.inBounds
    have htype : 4 ≤ d.length := by
      by_contra hshort
      rw [sendP2pData, View.byteAt_of_le (by show d.length ≤ 3; omega)] at hr
      cases hr
    refine ⟨htype, fun hdomain => ?_⟩
    obtain ⟨q, hq, len, hlen, hcount⟩ := request_of_domain hdomain
    obtain ⟨payload, hsent, hdecoded⟩ := h.faithful q hq
    rw [send_p2p_data_of_type hdomain.1] at hsent
    simp only [show ¬ (0x03 : UInt8) = 0x01 by decide, ↓reduceIte] at hsent
    have hbyte := View.byteAt_of_bytes hlen
    rcases Nat.eq_or_lt_of_le (show 7 + len.toNat ≤ d.length by omega) with hend | hmore
    · obtain ⟨fault, hfault⟩ := send_domain_empty hbyte hend.symm
      rw [← hend, hfault] at hsent
      cases hsent
    · obtain ⟨host, port, data, hpayload, hhost, hdata⟩ :=
        send_domain_long hbyte (n := d.length) (by omega) (Nat.le_refl _)
      rw [hpayload] at hsent
      cases hsent
      -- what is decoded has one byte less than the request's data
      have hsize : data.length < 2 ^ 32 := by
        rw [hdata]
        simp only [recvBufSize] at hfits
        omega
      rw [decode_encode_udp_payload port hhost hsize] at hdecoded
      cases hdecoded
      omega
  · intro ⟨htype, hdomain⟩
    rcases ipv4_or_silent htype hdomain with ⟨q, address, hq, rfl⟩ | hnone
    · obtain ⟨hsent, hlong⟩ := send_ipv4_of_request hq
      refine ⟨⟨_, hsent⟩, fun q' hsame => ?_, fun hshort => absurd hshort hlong⟩
      rcases ipv4_or_domain q' with ⟨address', hq'⟩ | hdomain'
      · refine ⟨_, by rw [hsame]; exact (send_ipv4_of_request hq').1, ?_⟩
        refine decode_encode_udp_payload _ ?_ ?_
        · rw [hq']
          exact address'.dotted_quad_length
        · rw [hsame] at hfits
          simp only [UdpRequest.bytes, List.length_cons, List.length_append, recvBufSize] at hfits
          omega
      · exact absurd hdomain' (by rw [← hsame]; exact hdomain)
    · refine ⟨⟨_, hnone⟩, fun q hsame => ?_, fun _ payload => by rw [hnone]; simp⟩
      rcases ipv4_or_domain q with ⟨address, hq⟩ | hdomain'
      · subst hsame
        rw [(send_ipv4_of_request hq).1] at hnone
        cases hnone
      · exact absurd hdomain' (by rw [← hsame]; exact hdomain)

/-- A request for 10.0.0.1:53 with one byte of data. -/
theorem udp_request_relayed_ipv4 :
    Relayed [0x00, 0x00, 0x00, 0x01, 10, 0, 0, 1, 0, 53, 0x2A] :=
  (udp_request_relayed_iff (by decide)).mpr ⟨by decide, fun h => absurd h.1 (by decide)⟩

/-- A request for `a:80` with two bytes of data arrives as one for port 20522, with one of them; one
without data reads behind its end. -/
theorem domain_request_shifted :
    (∃ payload, sendP2pData (.ofBytes [0x00, 0x00, 0x00, 0x03, 1, 0x61, 0, 80, 0x2A, 0x2B]) 10 =
        .ok (some payload) ∧
      decodeUdpPayload payload = .ok (true, ⟨[0x61], some 20522, [0x2B]⟩)) ∧
    ¬ Relayed [0x00, 0x00, 0x00, 0x03, 1, 0x61, 0, 80, 0x2A, 0x2B] ∧
    sendP2pData (.ofBytes [0x00, 0x00, 0x00, 0x03, 1, 0x61, 0, 80]) 8 =
      .error (.outOfBounds 8 8) := by
  refine ⟨⟨_, rfl, by decide⟩, fun h => ?_, by decide⟩
  obtain ⟨payload, hsent, hdecoded⟩ :=
    h.faithful ⟨0, 0, 0, .domain [0x61] (by decide), 80, [0x2A, 0x2B]⟩ (by decide)
  have hshifted : sendP2pData (.ofBytes [0x00, 0x00, 0x00, 0x03, 1, 0x61, 0, 80, 0x2A, 0x2B]) 10 =
      .ok (some [1, 0x61, 80, 0x2A, 0, 0, 0, 1, 0x2B]) := by decide
  cases hsent.symm.trans hshifted
  revert hdecoded
  decide

end RtcVpn
