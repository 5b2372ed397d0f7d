import RtcVpn.Library.Effect
import RtcVpn.Library.Text
import RtcVpn.Protocol.Decoders
import RtcVpn.Socket.Operation

/-!
# The server's UDP client

`UdpClient` of the server's `udp_session`, the target of a UDP tunnel. It puts
the datagrams that its socket receives into the payloads of the tunnel, and
sends those that it finds in the payloads from there. Whether the decoder has
found one it tells by the vector for the data, which is always made.
-/

namespace RtcVpn

/-- `UdpClient`, with `socket_` by whether it is empty. -/
structure UdpClient where
  socket : Bool := true
  deriving DecidableEq, Repr

/-- The callbacks of the client's socket, and what its tunnel calls. -/
inductive UdpClientEvent where
  | opened (success : Bool)
  | datagram (remoteHost : Bytes) (remotePort : UInt16) (data : Bytes)
  | queue (status : WriteQueueStatus)
  | socketClosed
  | revP2pData (d : Bytes)
  | startReceive
  | pauseReceive
  | close
  deriving DecidableEq, Repr

/-- What the client has its interface and its socket do. `send` queues the datagram with the socket;
a port that has not been assigned holds whatever was in its place. -/
inductive UdpClientAction where
  | sendSynack (success : Bool)
  | sendData (payload : Bytes)
  | sendDataCtrl (status : WriteQueueStatus)
  | closeSession
  | send (data : Bytes) (targetHost : Bytes) (targetPort : Option UInt16)
  | startReading
  | stopReading
  | close
  deriving DecidableEq, Repr

/-- An empty pointer is dereferenced, or the input is read out of bounds. -/
inductive UdpClientFault where
  | nullSocket
  | access (fault : AccessFault)
  deriving DecidableEq, Repr

namespace UdpClient

open Effect

/-- A handler of the client. -/
abbrev ClientHandler : Type := Effect UdpClient UdpClientAction UdpClientFault Unit

/-- A call of the socket, whose pointer is not checked. -/
def onSocket (a : UdpClientAction) : ClientHandler := do
  let c ← get
  if c.socket then emit a else fail .nullSocket

/-- The data callback. -/
def onDatagram (remoteHost : Bytes) (remotePort : UInt16) (data : Bytes) : ClientHandler :=
  emit (.sendData (encodeUdpPayload remoteHost remotePort data))

/-- `revP2pData`. The result of the decoder is not looked at. It has made the vector for the data
before anything else, so the pointer that is looked at instead is never empty. -/
def revP2pData (d : Bytes) : ClientHandler :=
  match decodeUdpPayload d with
  | .error fault => fail (.access fault)
  | .ok (_, ⟨remoteHost, remotePort, data⟩) => onSocket (.send data remoteHost remotePort)

/-- The handler of each event. -/
def handle : UdpClientEvent → ClientHandler
  | .opened success => emit (.sendSynack success)
  | .datagram remoteHost remotePort data => onDatagram remoteHost remotePort data
  | .queue status => emit (.sendDataCtrl status)
  | .socketClosed => do
      emit .closeSession
      modify fun c => { c with socket := false }
  | .revP2pData d => revP2pData d
  | .startReceive => onSocket .startReading
  | .pauseReceive => onSocket .stopReading
  | .close => onSocket .close

/-! ## Datagrams from the tunnel -/

/-- What is to be sent for a payload: the datagram that it decodes to, and nothing if it decodes to
none. -/
def wanted (d : Bytes) : List UdpClientAction :=
  match udpResult d with
  | .ok (some r) => [.send r.data r.host r.port]
  | _ => []

/-- The payload begins with an encoded datagram. -/
def WellFormed (d : Bytes) : Prop := ∃ r code rest, UdpFormat r code ∧ d = code ++ rest

/-- With its socket there the client sends whatever the decoder has left behind. -/
theorem run_rev_p2p_data {c : UdpClient} (hsocket : c.socket = true) {d : Bytes} {ok : Bool}
    {r : UdpPayload} (hdecode : decodeUdpPayload d = .ok (ok, r)) :
    (revP2pData d).run c = ⟨c, [.send r.data r.host r.port], .ok ()⟩ := by
  simp [revP2pData, hdecode, onSocket, hsocket]

/-- Without its socket it gets no further than the decoder. -/
theorem run_rev_p2p_data_closed {c : UdpClient} (hsocket : c.socket = false) (d : Bytes) :
    ((revP2pData d).run c).result ≠ .ok () := by
  rcases hdecode : decodeUdpPayload d with fault | ⟨ok, r⟩
  · simp [revP2pData, hdecode]
  · simp [revP2pData, hdecode, onSocket, hsocket]

/-- What the decoder finds is what is wanted. -/
theorem wanted_of_decode {d : Bytes} {r : UdpPayload} (h : decodeUdpPayload d = .ok (true, r)) :
    wanted d = [.send r.data r.host r.port] ∧ WellFormed d := by
  have hresult : udpResult d = .ok (some r) := by
    rw [udpResult, h]
    rfl
  refine ⟨by rw [wanted, hresult], r, ?_⟩
  exact (decodes_udp_payload.exact d r).mp hresult

/-- Where it fails, nothing is. -/
theorem wanted_of_fail {d : Bytes} {r : UdpPayload} (h : decodeUdpPayload d = .ok (false, r)) :
    wanted d = [] ∧ ¬ WellFormed d := by
  have hresult : udpResult d = .ok none := by
    rw [udpResult, h]
    rfl
  exact ⟨by rw [wanted, hresult], (decodes_udp_payload.eq_none d).mp hresult⟩

/-- A payload from the tunnel is answered with just the datagram in it, exactly when there is one
and the socket is there to send it. -/
theorem malformed_dropped_iff (c : UdpClient) (d : Bytes) :
    (handle (.revP2pData d)).run c = ⟨c, wanted d, .ok ()⟩ ↔
      c.socket = true ∧ WellFormed d := by
  show (revP2pData d).run c = _ ↔ _
  cases hsocket : c.socket with
  | false =>
      refine iff_of_false (fun hrun => ?_) (by simp)
      exact run_rev_p2p_data_closed hsocket d (by rw [hrun])
  | true =>
      obtain ⟨answer, hanswer⟩ := decodes_udp_payload.safe d
      rcases hdecode : decodeUdpPayload d with fault | ⟨_ | _, r⟩
      · rw [udpResult, hdecode] at hanswer
        cases hanswer
      · obtain ⟨hwanted, hmalformed⟩ := wanted_of_fail hdecode
        rw [run_rev_p2p_data hsocket hdecode, hwanted]
        exact iff_of_false (by simp) fun h => hmalformed h.2
      · obtain ⟨hwanted, hformed⟩ := wanted_of_decode hdecode
        rw [run_rev_p2p_data hsocket hdecode, hwanted]
        exact iff_of_true rfl ⟨rfl, hformed⟩

/-- An empty payload makes the client send an empty datagram to no host and to a port that was
never assigned, and one that is cut off behind its port an empty datagram to its target. -/
theorem malformed_is_sent :
    ((handle (.revP2pData [])).run {}).actions = [.send [] [] none] ∧
      ((handle (.revP2pData [1, 0x61, 0, 53, 0, 0, 0, 1])).run {}).actions =
        [.send [] (text "a") (some 53)] ∧
      ¬ ∀ d : Bytes, (handle (.revP2pData d)).run {} = ⟨{}, wanted d, .ok ()⟩ := by
  refine ⟨rfl, rfl, fun h => ?_⟩
  exact absurd (congrArg Outcome.actions (h [])) (by decide)

end UdpClient

end RtcVpn
