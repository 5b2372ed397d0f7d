import RtcVpn.Client.Socks5Session
import RtcVpn.Protocol.UdpPayload

/-!
# The client's UDP relay

`UdpSession` of the client's `udp_session`: the relay of one UDP association.
Its events are the callbacks of its `UdpSocket`, the datagrams that arrive from
the tunnel, and its close. A datagram is handed over by a pointer to the front
of the receive buffer and its length.
-/

namespace RtcVpn

/-! ## A browser's datagram as a payload -/

namespace UdpSession

/-- `send_ipv4` up to the payload it sends, if it sends one. -/
def sendIpv4 (d : View) (n : Nat) : Except AccessFault (Option Bytes) :=
  if n < 10 then pure none
  else do
    let targetHost := AddressV4.dottedQuad
      ⟨← d.byteAt 4, ← d.byteAt 5, ← d.byteAt 6, ← d.byteAt 7⟩
    let targetPort := join16 (← d.byteAt 8) (← d.byteAt 9)
    let dataLen ← sizeSub n 10
    let data ← d.slice 10 dataLen
    pure (some (encodeUdpPayload targetHost targetPort data))

/-- `send_domain` up to the payload it sends, if it sends one. -/
def sendDomain (d : View) (n : Nat) : Except AccessFault (Option Bytes) :=
  if n < 5 then pure none
  else do
    let len := (← d.byteAt 4).toNat
    if 5 + len + 2 > n then pure none
    else do
      let targetHost ← d.slice 5 len
      let targetPort := join16 (← d.byteAt (6 + len)) (← d.byteAt (7 + len))
      let dataLen ← sizeSub (← sizeSub n 8) len
      let data ← d.slice (8 + len) dataLen
      pure (some (encodeUdpPayload targetHost targetPort data))

/-- `send_p2p_data` up to the payload it sends, if it sends one. -/
def sendP2pData (d : View) (n : Nat) : Except AccessFault (Option Bytes) := do
  let atyp ← d.byteAt 3
  if atyp = 0x01 then sendIpv4 d n
  else if atyp = 0x03 then sendDomain d n
  else pure none

end UdpSession

/-! ## The relay -/

/-- `UdpSession`: its members, with `socket_` by whether it is empty. `recvBuf` is the receive
buffer of the socket and `reading` tells that it has a read in flight or delivered; `isOpen` tells
that it has reported its opening. -/
structure UdpSession where
  sessionId : UInt32
  recvBuf : Nat → UInt8
  socket : Bool := true
  isOpen : Bool := false
  reading : Bool := false
  clientKnown : Bool := false
  remoteIp : Bytes := []
  remotePort : UInt16

/-- The callbacks of the relay's socket, datagrams from the tunnel, and the close of the relay. -/
inductive RelayEvent where
  | opened (success : Bool)
  | datagram (remoteHost : Bytes) (remotePort : UInt16) (data : Bytes)
  | queue (status : WriteQueueStatus)
  | socketClosed
  | revP2pData (payload : Bytes)
  | close
  deriving DecidableEq, Repr

/-- What the relay has the multiplexer and its socket do. -/
inductive RelayAction where
  | sendData (streamId : UInt32) (data : Bytes) (protocol : Protocol)
  | sendDataCtrl (streamId : UInt32) (ctrl : CtrlType) (protocol : Protocol)
  | sendSynack (streamId : UInt32) (ok : Bool) (protocol : Protocol)
  | send (data : Bytes) (targetHost : Bytes) (targetPort : UInt16)
  | close
  deriving DecidableEq, Repr

/-- An empty pointer is dereferenced, or an exception leaves the handler. -/
inductive RelayFault where
  | nullSocket
  | access (fault : AccessFault)
  | exception
  deriving DecidableEq, Repr

/-- A number of an address: decimal digits without a leading zero, up to 255. -/
def octet (digits : Bytes) : Option UInt8 :=
  if digits ≠ [] ∧ digits.all isDigit ∧ (digits.head? = some 0x30 → digits.length = 1) ∧
      digitsValue digits ≤ 255 then
    some (UInt8.ofNat (digitsValue digits))
  else none

/-- `asio::ip::make_address_v4` of a string, which ends at its first null character; `none` is the
exception. -/
def makeAddressV4 (s : Bytes) : Option AddressV4 :=
  match ((s.takeWhile (· != 0)).splitOn 0x2E).map octet with
  | [some a, some b, some c, some d] => some ⟨a, b, c, d⟩
  | _ => none

/-- A byte printed in decimal is read back as a number of an address. -/
theorem octet_decimal (b : UInt8) : octet (decimal b.toNat) = some b := by
  have hne : decimal b.toNat ≠ [] := by simp [decimal]
  have hdigits : (decimal b.toNat).all isDigit = true :=
    List.all_eq_true.mpr fun c => isDigit_of_mem_decimal
  have hzero : (decimal b.toNat).head? = some 0x30 → (decimal b.toNat).length = 1 := by
    intro hhead
    rw [decimal_head hhead]
    rfl
  have hlt := b.toNat_lt
  rw [octet, digitsValue_decimal, if_pos ⟨hne, hdigits, hzero, by omega⟩, UInt8.ofNat_toNat]

/-- A printed address is read back. -/
theorem make_address_v4_dotted_quad (ip : AddressV4) : makeAddressV4 ip.dottedQuad = some ip := by
  have hdot : ∀ b : UInt8, (0x2E : UInt8) ∉ decimal b.toNat := by
    intro b hmem
    exact absurd (isDigit_of_mem_decimal hmem) (by decide)
  have hnull : ∀ c ∈ ip.dottedQuad, (c != 0) = true := by
    intro c hc
    have hkind : isDigit c = true ∨ c = 0x2E := by
      simp only [AddressV4.dottedQuad, List.mem_append] at hc
      have hsep : c ∈ text "." → c = 0x2E := fun h => List.mem_singleton.mp h
      have hnumber : ∀ n, c ∈ decimal n → isDigit c = true := fun n => isDigit_of_mem_decimal
      grind
    rw [bne_iff_ne]
    rintro rfl
    rcases hkind with h | h <;> exact absurd h (by decide)
  have hparts : ip.dottedQuad.splitOn 0x2E =
      [decimal ip.a.toNat, decimal ip.b.toNat, decimal ip.c.toNat, decimal ip.d.toNat] := by
    have hquad : ip.dottedQuad = decimal ip.a.toNat ++ 0x2E :: (decimal ip.b.toNat ++ 0x2E ::
        (decimal ip.c.toNat ++ 0x2E :: decimal ip.d.toNat)) := by
      simp [AddressV4.dottedQuad, show text "." = [0x2E] from rfl]
    rw [hquad, List.splitOn_append_cons_self_of_not_mem (hdot ip.a),
      List.splitOn_append_cons_self_of_not_mem (hdot ip.b),
      List.splitOn_append_cons_self_of_not_mem (hdot ip.c), List.splitOn_eq_singleton (hdot ip.d)]
  rw [makeAddressV4, List.takeWhile_eq_self_iff.mpr hnull, hparts]
  simp [octet_decimal]

namespace UdpSession

open Effect

/-- A handler of the relay. -/
abbrev RelayHandler : Type := Effect UdpSession RelayAction RelayFault Unit

/-- `protocol_`. -/
def protocol : Protocol := .udpAssociate

/-- Size of the receive buffer of a `UdpSocket`. -/
def recvBufSize : Nat := 65536

/-- `send_p2p_data` of `n` bytes in the receive buffer. A size that has wrapped makes the `insert`
of the payload's bytes throw. -/
def sendDatagram (n : Nat) : RelayHandler := do
  let s ← get
  match sendP2pData ⟨recvBufSize, s.recvBuf⟩ n with
  | .ok (some payload) => emit (.sendData s.sessionId payload protocol)
  | .ok none => pure ()
  | .error (.wraps _ _) => fail .exception
  | .error fault => fail (.access fault)

/-- The data callback. -/
def onDatagram (remoteHost : Bytes) (remotePort : UInt16) (n : Nat) : RelayHandler := do
  let s ← get
  if !s.clientKnown then do
    modify fun s => { s with
      remoteIp := remoteHost
      remotePort := remotePort
      clientKnown := true }
    sendDatagram n
  else if remoteHost ≠ s.remoteIp then
    modify fun s => { s with remoteIp := remoteHost }
  else if remotePort ≠ s.remotePort then do
    modify fun s => { s with remotePort := remotePort }
    sendDatagram n
  else sendDatagram n

/-- The header of a reply to the browser. -/
def replyHeader (address : AddressV4) (port : UInt16) : Bytes :=
  [0x00, 0x00, 0x00, 0x01] ++ address.toBytes ++ [highByte port, lowByte port]

/-- `revP2pData`. The decoder has assigned the port whenever it succeeds. -/
def revP2pData (payload : Bytes) : RelayHandler :=
  match decodeUdpPayload payload with
  | .ok (true, ⟨host, some port, data⟩) =>
      match makeAddressV4 host with
      | none => fail .exception
      | some address => do
          let s ← get
          if s.socket then
            emit (.send (replyHeader address port ++ data) s.remoteIp s.remotePort)
          else fail .nullSocket
  | .ok _ => pure ()
  | .error fault => fail (.access fault)

/-- The write queue callback. -/
def onQueue (status : WriteQueueStatus) : RelayHandler := do
  let s ← get
  emit (.sendDataCtrl s.sessionId (if status = .danger then .pause else .receive) protocol)

/-- The open callback. -/
def onOpen (success : Bool) : RelayHandler := do
  let s ← get
  emit (.sendSynack s.sessionId success protocol)

/-- `close`. -/
def close : RelayHandler := do
  let s ← get
  if s.socket then emit .close else pure ()

/-- The handler of each event. Once it has been opened the socket reads, and the next read is begun
when the data callback has returned. The threads that run the handlers catch what is thrown. -/
def handle : RelayEvent → RelayHandler
  | .opened success => do
      modify fun s => { s with isOpen := true }
      onOpen success
      modify fun s => { s with reading := success }
  | .datagram remoteHost remotePort data => do
      modify fun s => { s with recvBuf := overlay data s.recvBuf, reading := false }
      swallow (· == .exception) do
        onDatagram remoteHost remotePort data.length
        modify fun s => { s with reading := true }
  | .queue status => onQueue status
  | .socketClosed => modify fun s => { s with socket := false }
  | .revP2pData payload => swallow (· == .exception) (revP2pData payload)
  | .close => close

/-- The socket reports its opening once, reads once it is open, and closes once. A datagram fits
into the receive buffer. -/
def enabled (s : UdpSession) : RelayEvent → Bool
  | .opened _ => !s.isOpen
  | .datagram _ _ data => s.reading && decide (data.length ≤ recvBufSize)
  | .queue _ => s.isOpen
  | .socketClosed => s.socket
  | _ => true

/-- A relay as made for a session, with whatever `remote_port_` holds before it is assigned. -/
def fresh (sessionId : UInt32) (remotePort : UInt16) : UdpSession where
  sessionId := sessionId
  recvBuf := fun _ => 0
  remotePort := remotePort

end UdpSession

/-- The relay as a machine. -/
def udpSession : Machine (Except RelayFault UdpSession) RelayEvent RelayAction :=
  Effect.machine UdpSession.enabled UdpSession.handle

end RtcVpn
