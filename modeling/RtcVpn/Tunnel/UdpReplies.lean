import RtcVpn.Server.UdpClient
import RtcVpn.Tunnel.Link

/-!
# Replies to a UDP association

A datagram that the server's `UdpClient` receives travels with the printed
address of its sender in a payload, the payload in a frame and the frame in a
message. At the other end the relay of the browser prints the address back into
its four bytes, as the header of the datagram that the browser gets.
-/

namespace RtcVpn

open Effect

/-- The relay hands a reply on to the browser. -/
theorem UdpSession.run_reply {r : UdpSession} (hsocket : r.socket = true) (ip : AddressV4)
    (port : UInt16) {data : Bytes} (hdata : data.length < 2 ^ 32) :
    (handle (.revP2pData (encodeUdpPayload ip.dottedQuad port data))).run r =
      ⟨r, [.send (replyHeader ip port ++ data) r.remoteIp r.remotePort], .ok ()⟩ := by
  refine run_swallow_ok ?_
  simp [revP2pData, decode_encode_udp_payload port ip.dotted_quad_length hdata,
    make_address_v4_dotted_quad, hsocket]

namespace NetworkRtcApp

variable {L : Llhttp}

/-- The session of the app has a relay with its socket, and its stream is registered. -/
structure Relaying (c : NetworkRtcApp L) (streamId : UInt32) (r : UdpSession) : Prop where
  registered : c.mux.sessionManager.findSession streamId = some (sessionCallbacks streamId)
  alive : c.destroyed = false
  told : c.association.session.udpSession = true
  relay : c.association.relay = some r
  socket : r.socket = true

variable {c : NetworkRtcApp L} {streamId : UInt32} {r : UdpSession}

/-- A message with a datagram of the stream gets to the relay. -/
theorem run_relayed (h : c.Relaying streamId r) {payload m : Bytes} {reply : RelayAction}
    (hm : (Call.sendData streamId payload .udpAssociate).message = some m)
    (hreply : (UdpSession.handle (.revP2pData payload)).run r = ⟨r, [reply], .ok ()⟩)
    (relay : Option (AddressV4 × UInt16)) :
    (handle (.message m relay)).run c =
      ⟨c, [.association (.session (.revP2pData payload)), .association (.relay reply)],
        .ok ()⟩ := by
  have hupcall : c.mux.onMessage m =
      .ok (some (.onData (sessionCallbacks streamId) payload .udpAssociate)) := by
    rw [SessionMux.on_message_eq, Call.frame_of_message hm]
    simp [Call.type, Call.protocol, Call.payload, Call.streamId, SessionMux.onDataFrame,
      h.registered, sessionCallbacks]
    rfl
  have hsession : (Socks5Session.handle (.data payload .udpAssociate)).run c.association.session =
      ⟨c.association.session, [.revP2pData payload], .ok ()⟩ :=
    run_swallow_ok (by simp [Socks5Session.p2pData, h.told])
  have hassociation : (Association.handle (.session (.data payload .udpAssociate))).run
      c.association = ⟨c.association, [.session (.revP2pData payload), .relay reply], .ok ()⟩ := by
    have hsame : ({ c.association with relay := some r } : Association L) = c.association := by
      rw [← h.relay]
    rw [Association.handle, run_performing, hsession]
    simp only [forEach, Association.carryOut, run_bind, run_emit, andThen_ok,
      Association.run_on_relay h.relay, hreply, hsame]
    rfl
  have hdispatch : (onUpcall relay (.onData (sessionCallbacks streamId) payload
      .udpAssociate)).run c = (onAssociation (.session (.data payload .udpAssociate))).run c := by
    simp [onUpcall, h.alive]
  rw [run_message, hupcall]
  show (onUpcall relay _).run c = _
  rw [hdispatch, run_on_association, hassociation]
  rfl

end NetworkRtcApp

/-- A datagram that the server's client receives from an address is put into a payload, the payload
is sent on the stream of the client's tunnel, a message for it exists if it comes out of the
receive buffer of a socket, and at that message the browser's relay does one thing: it sends the
browser the header for the address and the port, and the datagram. -/
theorem udp_reply_relayed {L : Llhttp} (client : UdpClient) {h : TunnelHost} {tunnel : Nat}
    {t : TunnelSession} (ht : h.server.tunnels[tunnel]? = some t) (hp : t.protocol = .udpAssociate)
    {c : NetworkRtcApp L} {r : UdpSession} (hc : c.Relaying t.streamId r)
    (relay : Option (AddressV4 × UInt16)) (ip : AddressV4) (port : UInt16) (data : Bytes) :
    ∃ payload,
      (UdpClient.handle (.datagram ip.dottedQuad port data)).run client =
        ⟨client, [.sendData payload], .ok ()⟩ ∧
      ((TunnelHost.onReport tunnel (.data payload)).run h).actions =
        [.sendData t.streamId payload .udpAssociate] ∧
      (data.length ≤ UdpSession.recvBufSize →
        (Call.sendData t.streamId payload .udpAssociate).message.isSome) ∧
      ∀ m, (Call.sendData t.streamId payload .udpAssociate).message = some m →
        (NetworkRtcApp.handle (.message m relay)).run c =
          ⟨c, [.association (.session (.revP2pData payload)),
            .association (.relay (.send ([0x00, 0x00, 0x00, 0x01, ip.a, ip.b, ip.c, ip.d,
              highByte port, lowByte port] ++ data) r.remoteIp r.remotePort))], .ok ()⟩ := by
  obtain ⟨payload, hpayload⟩ : ∃ payload, payload = encodeUdpPayload ip.dottedQuad port data :=
    ⟨_, rfl⟩
  have hlength : payload.length = 7 + ip.dottedQuad.length + data.length := by
    rw [hpayload, encode_udp_payload_length]
  have hquad := ip.dotted_quad_length
  refine ⟨payload, ?_, ?_, fun hdata => ?_, fun m hm => ?_⟩
  · rw [hpayload]
    rfl
  · obtain ⟨result, hrun⟩ := TunnelHost.run_report_of_tunnel ht
      (show TargetReport.data payload ≠ .closed by nofun)
    rw [hrun, ← hp]
  · refine Call.message_of_length ?_
    show 6 + payload.length < 2 ^ 32
    simp only [UdpSession.recvBufSize] at hdata
    omega
  · have hfits : 6 + payload.length < 2 ^ 32 := Call.length_of_message hm
    refine c.run_relayed hc hm ?_ relay
    rw [hpayload]
    exact UdpSession.run_reply hc.socket ip port (by omega)

/-- A browser asks for a relay, and gets it. -/
def relayTunnel : List (AppEvent ⊕ HostEvent) :=
  [.inl (.session (.browserData [5, 1])),
    .inl (.session (.browserData [5, 3, 0, 1, 0, 0, 0, 0, 0, 0])),
    .inr (.message (Call.sendSyn 5 (text "0.0.0.0") 0 .udpAssociate).packed),
    .inr (.target 0 (.connected true)),
    .inl (.message (Call.sendSynack 5 true .udpAssociate).packed (some (⟨127, 0, 0, 1⟩, 9000)))]

theorem udp_reply_relayed_one :
    ∃ d out c h r payload, (link .idle).run
        (Link.started 1 (.started .idle 1 (fun _ => 5) (fun _ => 0) 0) 1) relayTunnel =
          some (d, out) ∧
      d.left = .ok c ∧ d.right = .ok h ∧ c.association.relay = some r ∧
      (UdpClient.handle (.datagram (text "10.0.0.1") 53 [0x2A])).run {} =
        ⟨{}, [.sendData payload], .ok ()⟩ ∧
      ((TunnelHost.onReport 0 (.data payload)).run h).actions =
        [.sendData 5 payload .udpAssociate] ∧
      ∃ m, (Call.sendData 5 payload .udpAssociate).message = some m ∧
        (NetworkRtcApp.handle (.message m none)).run c =
          ⟨c, [.association (.session (.revP2pData payload)),
            .association (.relay (.send [0x00, 0x00, 0x00, 0x01, 10, 0, 0, 1, 0, 53, 0x2A]
              r.remoteIp r.remotePort))], .ok ()⟩ := by
  obtain ⟨d, out, c, h, t, r, hrun, hleft, hright, ht, hp, hid, hc⟩ : ∃ d out c h t r,
      (link .idle).run
        (Link.started 1 (.started .idle 1 (fun _ => 5) (fun _ => 0) 0) 1) relayTunnel =
          some (d, out) ∧
      d.left = .ok c ∧ d.right = .ok h ∧ h.server.tunnels[0]? = some t ∧
      t.protocol = .udpAssociate ∧ t.streamId = 5 ∧ c.Relaying 5 r :=
    ⟨_, _, _, _, _, _, rfl, rfl, rfl, rfl, rfl, rfl, ⟨rfl, rfl, rfl, rfl, rfl⟩⟩
  rw [← hid] at hc
  obtain ⟨payload, hclient, hreport, hmessage, hreply⟩ :=
    udp_reply_relayed {} ht hp hc none ⟨10, 0, 0, 1⟩ 53 [0x2A]
  obtain ⟨m, hm⟩ := Option.isSome_iff_exists.mp (hmessage (by decide))
  rw [hid] at hreport hm hreply
  exact ⟨d, out, c, h, r, payload, hrun, hleft, hright, hc.relay, hclient, hreport, m, hm,
    hreply m hm⟩

end RtcVpn
