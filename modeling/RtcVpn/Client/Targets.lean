import RtcVpn.Client.Socks5Session
import RtcVpn.Mux.SessionMux

/-!
# The target of a `SYN` frame

A session takes its target from a SOCKS request, as an IPv4 address or a domain
of a one-byte length, or from the headers of an HTTP request, where no length
bounds it. The `SYN` frame has one byte for the length of the host, so the
target arrives as it was sent exactly if the host has at most 255 bytes. An empty
host is refused, which takes the browser's socket.
-/

namespace RtcVpn

/-! ## From `send_syn` to `on_syn_` -/

/-- A host that is decoded has the length its first byte tells. -/
theorem decode_syn_payload_length {b : UInt8} {rest host : Bytes} {port : UInt16}
    (h : decodeSynPayload (b :: rest) = .ok (some (host, port))) : host.length = b.toNat := by
  rw [decodeSynPayload, if_neg (by simp), byteAt_zero, except_ok_bind] at h
  split at h
  · cases h
  · next hlong =>
      rw [slice_of_le (by omega), except_ok_bind, byteAt_of_lt (by omega), except_ok_bind,
        byteAt_of_lt (by omega), except_ok_bind] at h
      cases h
      simp only [List.length_cons] at hlong
      simp
      omega

/-- Whatever two multiplexers are joined, the one with its send function and the other with its
handler for `SYN` frames set, the handler is given what is sent. -/
def SynArrives (streamId : UInt32) (host : Bytes) (port : UInt16) (protocol : Protocol) : Prop :=
  ∀ sender receiver : SessionMux, sender.sendFunc = true → receiver.onSyn = true →
    ∃ message, (sender.sendSyn streamId host port protocol).bind packMessage = some message ∧
      receiver.onMessage message = .ok (some (.onSyn streamId host port protocol))

/-- What a `SYN` frame with its own target is answered with. -/
theorem on_p2p_data_syn {mux : SessionMux} (hsyn : mux.onSyn = true) (streamId : UInt32)
    (host : Bytes) (port : UInt16) (protocol : Protocol) :
    mux.onP2pData (makeFrame streamId .syn protocol (encodeSynPayload host port)) =
      (decodeSynPayload (encodeSynPayload host port)).map fun r =>
        r.map fun target => .onSyn streamId target.1 target.2 protocol := by
  rw [SessionMux.on_p2p_data_make_frame]
  show mux.onSynFrame _ _ = _
  rw [SessionMux.onSynFrame]
  cases decodeSynPayload (encodeSynPayload host port) with
  | error fault => rfl
  | ok r =>
      cases r with
      | none => rfl
      | some target => simp [hsyn, pure, Except.pure, Except.map]

/-- A target arrives if and only if its host fits the length byte. -/
theorem syn_arrives_iff {streamId : UInt32} {host : Bytes} {port : UInt16} {protocol : Protocol} :
    SynArrives streamId host port protocol ↔ host.length ≤ 255 := by
  constructor
  · intro h
    obtain ⟨message, hsent, hreceived⟩ := h { peerConnId := 1, sendFunc := true }
      { peerConnId := 1, onSyn := true } rfl rfl
    have hpacked : packMessage (makeFrame streamId .syn protocol (encodeSynPayload host port)) =
        some message := hsent
    rw [SessionMux.onMessage, unpack_of_pack_message hpacked, except_ok_bind] at hreceived
    replace hreceived := (on_p2p_data_syn rfl streamId host port protocol).symm.trans hreceived
    -- what has been decoded has a length that fits a byte
    have hdecoded : decodeSynPayload (encodeSynPayload host port) = .ok (some (host, port)) := by
      cases hr : decodeSynPayload (encodeSynPayload host port) with
      | error fault => simp [hr, Except.map] at hreceived
      | ok r =>
          cases r with
          | none => simp [hr, Except.map] at hreceived
          | some target =>
              have hsame : target.1 = host ∧ target.2 = port := by
                simpa [hr, Except.map] using hreceived
              rw [← hsame.1, ← hsame.2]
    have hlength := decode_syn_payload_length hdecoded
    have hbyte := (UInt8.ofNat host.length).toNat_lt
    omega
  · intro hhost sender receiver hsend hsyn
    have hlong :
        (makeFrame streamId .syn protocol (encodeSynPayload host port)).length < 2 ^ 32 := by
      simp [makeFrame, FrameHeader.encode, encodeSynPayload]
      omega
    obtain ⟨message, hpack, hunpack⟩ := unpack_pack_message hlong
    refine ⟨message, ?_, ?_⟩
    · rw [SessionMux.sendSyn, SessionMux.sendFrame, if_pos hsend]
      exact hpack
    · rw [SessionMux.onMessage, hunpack, except_ok_bind]
      refine (on_p2p_data_syn hsyn streamId host port protocol).trans ?_
      rw [decode_encode_syn_payload port hhost]
      rfl

/-! ## The targets of a session -/

namespace Socks5Session

open Effect

variable {L : Llhttp}

/-- What a session takes a target from. -/
inductive TargetSource where
  | socksIpv4
  | socksDomain
  | http (msg : Message)

/-- The handler that takes it. -/
def TargetSource.handler : TargetSource → Handler L Unit
  | .socksIpv4 => do
      let _ ← handleSocksIpv4
      pure ()
  | .socksDomain => do
      let _ ← handleSocksDomain
      pure ()
  | .http msg => onRequestHeaders msg

/-- The text of a `Host` header or of the target of a `CONNECT` request. -/
def authorityOf (msg : Message) : Bytes :=
  if msg.method = text "CONNECT" then msg.target else msg.getHeader (text "Host")

/-- A `GET` request with a `Host` header. -/
def getRequest (host : Bytes) : Message where
  type := .request
  method := text "GET"
  headers := [⟨text "Host", host⟩]

theorem authority_of_get_request (host : Bytes) : authorityOf (getRequest host) = host := rfl

/-- A host of at most 255 bytes, and the browser's socket is there if it is empty. -/
def HostFits (tcpSocket : Bool) (host : Bytes) : Prop :=
  host.length ≤ 255 ∧ (host = [] → tcpSocket = true)

/-- The host of an HTTP request fits, and what follows the first colon, if there is one, starts
with a number. -/
def TargetSource.Deliverable (tcpSocket : Bool) : TargetSource → Prop
  | .socksIpv4 | .socksDomain => True
  | .http msg =>
      match splitAtFirst 0x3A (authorityOf msg) with
      | some (host, port) => HostFits tcpSocket host ∧ (stoi port).isSome
      | none => HostFits tcpSocket (authorityOf msg)

/-- If a `SYN` is sent it is for the session's target and arrives as it is; otherwise the session
closes the browser's socket. -/
structure TargetKept (o : Outcome (Socks5Session L) ClientAction ClientFault Unit) : Prop where
  sent : ∀ streamId host port protocol, .sendSyn streamId host port protocol ∈ o.actions →
    host = o.state.targetHost ∧ port = o.state.targetPort ∧
      SynArrives streamId host port protocol
  refused : (∀ streamId host port protocol, .sendSyn streamId host port protocol ∉ o.actions) →
    .tcpClose ∈ o.actions

/-- A target that is asked for is kept if and only if its host has at most 255 bytes. -/
theorem target_kept_requested {s : Socks5Session L} :
    TargetKept (requestRemoteConnect.run s) ↔ s.targetHost.length ≤ 255 := by
  rw [run_request_remote_connect]
  constructor
  · intro h
    exact syn_arrives_iff.mp (h.sent _ _ _ _ (.tail _ (.head _))).2.2
  · intro hhost
    refine ⟨fun streamId host port protocol hmem => ?_, fun hnone => ?_⟩
    · simp only [List.mem_cons, reduceCtorEq, false_or, List.not_mem_nil, or_false,
        ClientAction.sendSyn.injEq] at hmem
      obtain ⟨rfl, rfl, rfl, rfl⟩ := hmem
      exact ⟨rfl, rfl, syn_arrives_iff.mpr hhost⟩
    · exact absurd (.tail _ (.head _)) (hnone _ _ _ _)

/-- A session that has no target closes the browser's socket if it is there. -/
theorem target_kept_tcp_close {s : Socks5Session L} :
    TargetKept (tcpClose.run s) ↔ s.tcpSocket = true := by
  cases htcp : s.tcpSocket with
  | true =>
      have hrun : tcpClose.run s = ⟨s, [.tcpClose], .ok ()⟩ := by simp [tcpClose, htcp]
      rw [hrun]
      exact ⟨fun _ => rfl, fun _ => ⟨fun _ _ _ _ h => by simp at h, fun _ => .head _⟩⟩
  | false =>
      -- the empty pointer is dereferenced, and nothing is closed
      have hrun : tcpClose.run s = ⟨s, [], .error .nullTcpSocket⟩ := by simp [tcpClose, htcp]
      rw [hrun]
      refine ⟨fun h => ?_, fun h => by cases h⟩
      have hclose := h.refused (fun _ _ _ _ hmem => by cases hmem)
      cases hclose

/-- The end of the callback for headers. -/
theorem target_kept_request_target {s : Socks5Session L} {msg : Message} :
    TargetKept ((requestTarget msg).run s) ↔ HostFits s.tcpSocket s.targetHost := by
  cases hhost : s.targetHost.isEmpty with
  | true =>
      have hrun : (requestTarget msg).run s = tcpClose.run s := by
        show (if s.targetHost.isEmpty then tcpClose else _ : Handler L Unit).run s = _
        rw [if_pos hhost]
      rw [hrun, target_kept_tcp_close, HostFits, List.isEmpty_iff.mp hhost]
      exact ⟨fun h => ⟨Nat.zero_le _, fun _ => h⟩, fun h => h.2 rfl⟩
  | false =>
      have hrun : (requestTarget msg).run s = requestRemoteConnect.run { s with
          protocol := if msg.method = text "CONNECT" then .httpsConnect else .httpPlain } := by
        show (if s.targetHost.isEmpty then tcpClose else _ : Handler L Unit).run s = _
        rw [if_neg (by simp [hhost])]
        rfl
      have hne : s.targetHost ≠ [] := fun h => by simp [h] at hhost
      rw [hrun, target_kept_requested, HostFits]
      exact ⟨fun h => ⟨h, fun hnil => absurd hnil hne⟩, And.left⟩

/-- The callback for headers. -/
theorem target_kept_on_request_headers {s : Socks5Session L} {msg : Message} :
    TargetKept ((onRequestHeaders msg).run s) ↔
      (TargetSource.http msg).Deliverable s.tcpSocket := by
  have hauthority : (if msg.method = text "CONNECT" then msg.target
      else msg.getHeader (text "Host")) = authorityOf msg := rfl
  rw [TargetSource.Deliverable, onRequestHeaders, hauthority]
  cases splitAtFirst 0x3A (authorityOf msg) with
  | none =>
      exact target_kept_request_target (s := { s with
        targetHost := authorityOf msg, targetPort := 80 })
  | some target =>
      obtain ⟨host, port⟩ := target
      cases hport : stoi port with
      | some n =>
          dsimp only
          rw [hport]
          refine (target_kept_request_target (s := { s with
            targetHost := host, targetPort := UInt16.ofInt n })).trans ?_
          simp
      | none =>
          dsimp only
          rw [hport]
          -- no `SYN` is sent and the socket is left open
          constructor
          · intro h
            have hclose := h.refused (by simp)
            simp at hclose
          · simp

end Socks5Session

open Socks5Session

/-- Whatever a session takes its target from and in whatever state, the target arrives at the
server as the session determined it or the session is refused, if and only if the host has at
most 255 bytes, an HTTP authority has a number behind its first colon, and the browser's socket is
there to be closed if the host is empty. -/
theorem target_kept_iff {L : Llhttp} (s : Socks5Session L) (source : TargetSource) :
    TargetKept (source.handler.run s) ↔ source.Deliverable s.tcpSocket := by
  cases source with
  | socksIpv4 =>
      have hkept := @target_kept_requested L { s with
        targetHost := AddressV4.dottedQuad ⟨s.readBuf 4, s.readBuf 5, s.readBuf 6, s.readBuf 7⟩
        targetPort := join16 (s.readBuf 8) (s.readBuf 9) }
      exact ⟨fun _ => trivial, fun _ => hkept.mpr (AddressV4.dotted_quad_length _)⟩
  | socksDomain =>
      have hkept := @target_kept_requested L { s with
        targetHost := (List.range (s.readBuf 4).toNat).map fun i => s.readBuf (5 + i)
        targetPort := join16 (s.readBuf ((s.readBuf 4).toNat + 5))
          (s.readBuf ((s.readBuf 4).toNat + 6)) }
      refine ⟨fun _ => trivial, fun _ => hkept.mpr ?_⟩
      have hbyte := (s.readBuf 4).toNat_lt
      simp only [List.length_map, List.length_range]
      omega
  | http msg => exact target_kept_on_request_headers

/-- A request with a `Host` header of 256 bytes, which reaches the server as an empty host; one
whose `Host` header has no port behind its colon, which is neither answered nor refused; and one
without a host that is read when the browser's socket has gone. -/
theorem long_host_lost :
    ¬ TargetKept ((TargetSource.handler (.http (getRequest (List.replicate 256 0x61)))).run
      (started .idle 1 (fun _ => 5) fun _ => 0)) ∧
    ¬ TargetKept ((TargetSource.handler (.http (getRequest (text "a:b")))).run
      (started .idle 1 (fun _ => 5) fun _ => 0)) ∧
    ¬ TargetKept ((TargetSource.handler (.http (getRequest []))).run
      { started .idle 1 (fun _ => 5) (fun _ => 0) with tcpSocket := false }) := by
  refine ⟨fun h => ?_, fun h => ?_, fun h => ?_⟩
  · have hdeliverable := target_kept_on_request_headers.mp h
    have hcolon : splitAtFirst 0x3A (List.replicate 256 0x61) = none := by
      refine if_neg fun hmem => ?_
      exact absurd (List.eq_of_mem_replicate hmem) (by decide)
    rw [TargetSource.Deliverable, authority_of_get_request, hcolon] at hdeliverable
    have hlong : (List.replicate 256 (0x61 : UInt8)).length ≤ 255 := hdeliverable.1
    rw [List.length_replicate] at hlong
    omega
  · have hdeliverable := target_kept_on_request_headers.mp h
    have hcolon : splitAtFirst 0x3A (text "a:b") = some (text "a", text "b") := by decide
    rw [TargetSource.Deliverable, authority_of_get_request, hcolon] at hdeliverable
    have hport : stoi (text "b") = none := by decide
    have hsome : (stoi (text "b")).isSome := hdeliverable.2
    rw [hport] at hsome
    cases hsome
  · have hdeliverable := target_kept_on_request_headers.mp h
    have hcolon : splitAtFirst 0x3A ([] : Bytes) = none := by decide
    rw [TargetSource.Deliverable, authority_of_get_request, hcolon] at hdeliverable
    have hsocket : false = true := hdeliverable.2 rfl
    cases hsocket

end RtcVpn
