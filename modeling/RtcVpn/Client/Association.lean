import RtcVpn.Client.SourcePinning
import RtcVpn.Client.Streams
import RtcVpn.Server.Ownership

/-!
# A UDP association

The `Socks5Session` of a browser that has asked for a relay together with the
`UdpSession` it makes once the tunnel is there. The session's own frames carry
the id of its stream. The relay is made with the number the session was
accepted under, and its frames carry that number, so they reach the tunnel of
the session only if the two happen to be equal.
-/

namespace RtcVpn

/-- A session and `udp_session_`; `remotePort` is what `remote_port_` of a new relay holds. -/
structure Association (L : Llhttp) where
  session : Socks5Session L
  relay : Option UdpSession := none
  remotePort : UInt16

/-- The callbacks of the session, and those of the relay's socket and the relay's close. -/
inductive AssociationEvent where
  | session (event : ClientEvent)
  | relay (event : RelayEvent)
  deriving DecidableEq, Repr

/-- What the session and the relay have others do. -/
inductive AssociationAction where
  | session (action : ClientAction)
  | relay (action : RelayAction)
  deriving DecidableEq, Repr

/-- A handler of the session or of the relay stops. -/
inductive AssociationFault where
  | session (fault : ClientFault)
  | relay (fault : RelayFault)
  deriving DecidableEq, Repr

/-- The stream a frame that is sent belongs to. -/
def RelayAction.frameId : RelayAction → Option UInt32
  | .sendData id _ _ | .sendDataCtrl id _ _ | .sendSynack id _ _ => some id
  | _ => none

/-- The stream a frame of the session or of its relay belongs to. -/
def AssociationAction.frameId : AssociationAction → Option UInt32
  | .session a => a.frameId
  | .relay a => a.frameId

namespace UdpSession

open Effect

/-! ## The frames of a relay -/

/-- The payload of a datagram is not much longer than the datagram. -/
theorem send_p2p_data_length {v : View} {n : Nat} {payload : Bytes}
    (h : sendP2pData v n = .ok (some payload)) : payload.length ≤ n + 262 := by
  have hipv4 : sendIpv4 v n = .ok (some payload) → payload.length ≤ n + 262 := by
    intro h
    unfold sendIpv4 at h
    split at h
    · cases h
    · simp only [except_bind_eq_ok] at h
      obtain ⟨a, -, b, -, c, -, d, -, hi, -, lo, -, dataLen, hlen, data, hdata, hpayload⟩ := h
      cases hpayload
      have hquad := AddressV4.dotted_quad_length ⟨a, b, c, d⟩
      have hsize := View.slice_length hdata
      have hle := le_of_sizeSub hlen
      rw [encode_udp_payload_length]
      omega
  have hdomain : sendDomain v n = .ok (some payload) → payload.length ≤ n + 262 := by
    intro h
    unfold sendDomain at h
    split at h
    · cases h
    · simp only [except_bind_eq_ok] at h
      obtain ⟨len, -, h⟩ := h
      split at h
      · cases h
      · simp only [except_bind_eq_ok] at h
        obtain ⟨host, hhost, hi, -, lo, -, rest, hrest, dataLen, hlen, data, hdata, hpayload⟩ := h
        cases hpayload
        have hbyte := len.toNat_lt
        have hsize := View.slice_length hhost
        have hsize' := View.slice_length hdata
        have hle := le_of_sizeSub hrest
        have hle' := le_of_sizeSub hlen
        rw [encode_udp_payload_length]
        omega
  rw [sendP2pData, except_bind_eq_ok] at h
  obtain ⟨atyp, -, h⟩ := h
  split at h
  · exact hipv4 h
  · split at h
    · exact hdomain h
    · cases h

/-- The longest payload of a datagram. -/
def maxPayload : Nat := recvBufSize + 262

/-- What a relay does: its frames carry its number, and a datagram fits into a message. -/
structure OwnFrame (sessionId : UInt32) (x : RelayAction) : Prop where
  number : ∀ i, x.frameId = some i → i = sessionId
  datagram : ∀ i data p, x = .sendData i data p → p = .udpAssociate ∧ data.length ≤ maxPayload

theorem own_frame_of_none {sessionId : UInt32} {x : RelayAction} (h : x.frameId = none) :
    OwnFrame sessionId x where
  number i hi := by
    rw [h] at hi
    cases hi
  datagram i data p hx := by
    subst hx
    cases h

/-- A handler keeps the relay's number and sends frames that carry it. -/
abbrev Numbered (sessionId : UInt32) (x : RelayHandler) : Prop :=
  Respects (fun r => r.sessionId = sessionId) (OwnFrame sessionId) x

variable {sessionId : UInt32}

theorem numbered_modify {f : UdpSession → UdpSession} (hf : ∀ r, (f r).sessionId = r.sessionId) :
    Numbered sessionId (modify f) :=
  .modify fun r hr => (hf r).trans hr

/-- A frame that carries the number the relay was made with. -/
theorem numbered_frame {f : UdpSession → RelayAction} (hid : ∀ r, (f r).frameId = some r.sessionId)
    (hdata : ∀ r i data p, f r = .sendData i data p → p = .udpAssociate ∧
      data.length ≤ maxPayload) :
    Numbered sessionId (get >>= fun r => emit (f r)) := by
  rintro r rfl
  refine ⟨rfl, fun x hx => ?_⟩
  have hf : x = f r := by simpa using hx
  subst hf
  exact ⟨fun i hi => by rw [hid] at hi; exact (Option.some.inj hi).symm, hdata r⟩

theorem numbered_send_datagram {n : Nat} (hn : n ≤ recvBufSize) :
    Numbered sessionId (sendDatagram n) := by
  rintro r rfl
  obtain ⟨hstate, hactions⟩ := run_send_datagram r n
  rw [hstate, hactions]
  refine ⟨rfl, fun x hx => ?_⟩
  obtain ⟨payload, hpayload, rfl⟩ := List.mem_map.mp hx
  refine ⟨fun i hi => (Option.some.inj hi).symm, ?_⟩
  rintro _ _ _ ⟨⟩
  have hsent : sendP2pData ⟨recvBufSize, r.recvBuf⟩ n = .ok (some payload) := by
    have hrelayed : relayed r.recvBuf n = some payload := Option.mem_toList.mp hpayload
    unfold relayed at hrelayed
    split at hrelayed
    · next h => rw [h, hrelayed]
    · cases hrelayed
  have hlength := send_p2p_data_length hsent
  refine ⟨rfl, hlength.trans ?_⟩
  exact Nat.add_le_add_right hn 262

/-- Every handler of a relay keeps to its number. -/
theorem numbered_handle {e : RelayEvent}
    (hfits : ∀ host port data, e = .datagram host port data → data.length ≤ recvBufSize) :
    Numbered sessionId (handle e) := by
  cases e with
  | opened success =>
      refine .bind (numbered_modify fun _ => rfl) fun _ => .bind (numbered_frame ?_ ?_) fun _ =>
        numbered_modify fun _ => rfl
      · exact fun _ => rfl
      · exact fun _ _ _ _ h => by cases h
  | datagram host port data =>
      have hsend : Numbered sessionId (sendDatagram data.length) :=
        numbered_send_datagram (hfits host port data rfl)
      refine .bind (numbered_modify fun _ => rfl) fun _ => .swallow _ (.bind ?_ fun _ =>
        numbered_modify fun _ => rfl)
      intro r hr
      rw [run_on_datagram]
      by_cases hreject : r.clientKnown = true ∧ host ≠ r.remoteIp
      · rw [if_pos hreject]
        exact ⟨hr, by simp⟩
      · rw [if_neg hreject]
        exact hsend _ hr
  | queue status =>
      refine numbered_frame (fun _ => rfl) ?_
      exact fun _ _ _ _ h => by cases h
  | socketClosed => exact numbered_modify fun _ => rfl
  | revP2pData payload =>
      refine .swallow _ ?_
      rintro r rfl
      obtain ⟨hstate, hactions⟩ := run_rev_p2p_data r payload
      rw [hstate, hactions]
      refine ⟨rfl, fun x hx => own_frame_of_none ?_⟩
      split at hx
      · obtain ⟨reply, -, rfl⟩ := List.mem_map.mp hx
        rfl
      · cases hx
  | close =>
      rintro r rfl
      cases hsocket : r.socket with
      | true => simpa [handle, close, hsocket] using own_frame_of_none rfl
      | false => simp [handle, close, hsocket]

/-- The relay's socket has reported its opening, or it reads. -/
def Active (r : UdpSession) : Prop := r.isOpen = true ∨ r.reading = true

/-- A relay that is not active sends no frame, and only the report of its socket makes it
active. -/
theorem inactive_handle {r : UdpSession} {e : RelayEvent} (he : r.enabled e = true)
    (hr : ¬ r.Active) (hopened : ∀ success, e ≠ .opened success) :
    ¬ ((handle e).run r).state.Active ∧ ∀ x ∈ ((handle e).run r).actions, x.frameId = none := by
  simp only [Active, not_or, Bool.not_eq_true] at hr
  obtain ⟨hopen, hreading⟩ := hr
  cases e with
  | opened success => exact absurd rfl (hopened success)
  | datagram host port data => simp [enabled, hreading] at he
  | queue status => simp [enabled, hopen] at he
  | socketClosed => simp [handle, Active, hopen, hreading]
  | revP2pData payload =>
      obtain ⟨hstate, hactions⟩ := run_rev_p2p_data r payload
      simp only [handle, swallow_state, swallow_actions, hstate, hactions]
      refine ⟨by simp [Active, hopen, hreading], fun x hx => ?_⟩
      split at hx
      · obtain ⟨reply, -, rfl⟩ := List.mem_map.mp hx
        rfl
      · cases hx
  | close =>
      cases hsocket : r.socket <;>
        simp [handle, close, hsocket, Active, hopen, hreading, RelayAction.frameId]

end UdpSession

namespace Association

open Effect

variable {L : Llhttp}

/-- A handler of the association. -/
abbrev Handler (L : Llhttp) : Type :=
  Effect (Association L) AssociationAction AssociationFault Unit

/-- A handler of `udp_session_`. -/
def onRelay (event : RelayEvent) : Handler L := do
  let a ← get
  match a.relay with
  | none => fail (.session .nullUdpSession)
  | some r =>
      within (fun _ => r) (fun r a => { a with relay := some r }) .relay .relay
        (UdpSession.handle event)

/-- What the session has the relay do; the rest goes to the browser's socket and the
multiplexer. -/
def carryOut : ClientAction → Handler L
  | .startRelay => do
      emit (.session .startRelay)
      modify fun a => { a with relay := some (.fresh a.session.sessionId a.remotePort) }
  | .revP2pData data => do
      emit (.session (.revP2pData data))
      onRelay (.revP2pData data)
  | action => emit (.session action)

/-- The handler of each event. -/
def handle : AssociationEvent → Handler L
  | .session event =>
      performing session (fun s a => { a with session := s }) .session
        (Socks5Session.handle event) carryOut
  | .relay event => onRelay event

/-- The events of the relay that come from its session. -/
def fromSession : RelayEvent → Bool
  | .revP2pData _ => true
  | _ => false

/-- The relay's socket calls back once there is a relay. -/
def enabled (a : Association L) : AssociationEvent → Bool
  | .session event => a.session.enabled event
  | .relay event => !fromSession event && a.relay.any (·.enabled event)

/-- An association whose session has just been accepted. -/
def started (L : Llhttp) (sessionId : UInt32) (genStreamId : Nat → UInt32)
    (readBuf : Nat → UInt8) (remotePort : UInt16) : Association L where
  session := .started L sessionId genStreamId readBuf
  remotePort := remotePort

/-! ## What is asked of its frames -/

/-- The relay's socket has reported whether it could be opened. -/
def Opened (es : List AssociationEvent) : Prop := ∃ success, .relay (.opened success) ∈ es

/-- The stream is registered with the server's multiplexer, and its callbacks lead to the
tunnel. -/
structure LeadsTo (s : TunnelServer) (streamId : UInt32) (tunnel : Nat) : Prop where
  registered : (s.mux.sessionManager.findSession streamId).isSome
  owner : s.owner streamId = tunnel

/-- The server hands the datagram of the frame to the tunnel and does nothing else. -/
def Dispatched (s : TunnelServer) (tunnel : Nat) (streamId : UInt32) (data : Bytes)
    (protocol : Protocol) : Prop :=
  ∃ message, packMessage (makeFrame streamId .data protocol data) = some message ∧
    (TunnelServer.onMessage message).run s = ⟨s, [.revP2pData tunnel data], .ok ()⟩

/-- Every frame sent for the session carries the id of its stream, and wherever that stream leads
to on a server, the datagrams go there. -/
structure RoutedToTunnel (out : List AssociationAction) (a : Association L) : Prop where
  frames : ∀ x ∈ out, ∀ id, x.frameId = some id → a.session.session = some id
  datagrams : ∀ id data p, .relay (.sendData id data p) ∈ out →
    ∀ i, a.session.session = some i → ∀ s tunnel, TunnelServer.Reachable s → LeadsTo s i tunnel →
      Dispatched s tunnel id data p

/-! ## Steps -/

/-- A handler of the relay, when there is one. -/
theorem run_on_relay {a : Association L} {r : UdpSession} (h : a.relay = some r) (e : RelayEvent) :
    (onRelay e).run a =
      ⟨{ a with relay := some ((UdpSession.handle e).run r).state },
        ((UdpSession.handle e).run r).actions.map .relay,
        ((UdpSession.handle e).run r).result.mapError .relay⟩ := by
  simp [onRelay, h]

/-- What is known of the relay of a session with the number: it is there if its socket has reported
its opening, and only if the session has asked for its target; it has the same number, and it is
active only after the report. -/
structure RelayOf (sessionId : UInt32) (opened asked : Prop) (a : Association L) : Prop where
  made : opened → a.relay.isSome
  asked : a.relay.isSome → asked
  number : ∀ r, a.relay = some r → r.sessionId = sessionId
  active : ∀ r, a.relay = some r → r.Active → opened

/-- An action taken by the association while it carries out actions of its session: one of these,
or one of the relay that is no frame. -/
def Carried (as : List ClientAction) : AssociationAction → Prop
  | .session x => x ∈ as
  | .relay x => x.frameId = none

/-- What the association does with an action of its session. -/
theorem respects_carry_out {sessionId : UInt32} {opened asked : Prop} {s : Socks5Session L}
    {as : List ClientAction} (hs : s.sessionId = sessionId) (hasked : .startRelay ∈ as → asked)
    {action : ClientAction} (haction : action ∈ as) :
    Respects (fun a : Association L => a.session = s ∧ RelayOf sessionId opened asked a)
      (Carried as) (carryOut action) := by
  cases action with
  | startRelay =>
      refine .bind (.emit haction) fun _ => .modify ?_
      rintro a ⟨ha, -⟩
      refine ⟨ha, fun _ => rfl, fun _ => hasked haction, fun r hr => ?_, fun r hr hactive => ?_⟩
      · cases hr
        show a.session.sessionId = sessionId
        rw [ha, hs]
      · cases hr
        rcases hactive with h | h
        · cases h
        · cases h
  | revP2pData data =>
      refine .bind (.emit haction) fun _ => ?_
      rintro a ⟨ha, hrelay⟩
      cases hr : a.relay with
      | none =>
          rw [show (onRelay (.revP2pData data)).run a =
            ⟨a, [], .error (.session .nullUdpSession)⟩ by
            simp [onRelay, hr]]
          exact ⟨⟨ha, hrelay⟩, by simp⟩
      | some r =>
          obtain ⟨hstate, hactions⟩ := UdpSession.run_rev_p2p_data r data
          have hhandle : ((UdpSession.handle (.revP2pData data)).run r).state = r := by
            rw [UdpSession.handle, swallow_state, hstate]
          rw [run_on_relay hr, hhandle, ← hr]
          refine ⟨⟨ha, hrelay⟩, fun x hx => ?_⟩
          obtain ⟨y, hy, rfl⟩ := List.mem_map.mp hx
          show y.frameId = none
          rw [UdpSession.handle, swallow_actions, hactions] at hy
          split at hy
          · obtain ⟨reply, -, rfl⟩ := List.mem_map.mp hy
            rfl
          · cases hy
  | _ => exact .emit haction

/-- What is known of an association all along. -/
structure Invariant (sessionId : UInt32) (genStreamId : Nat → UInt32) (es : List AssociationEvent)
    (out : List AssociationAction) (a : Association L) : Prop where
  number : a.session.sessionId = sessionId
  generator : a.session.genStreamId = genStreamId
  single : a.session.SingleStream
  current : a.session.session =
    if a.session.created = 0 then none else some (genStreamId (a.session.created - 1))
  frames : ∀ x, .session x ∈ out → ∀ i, x.frameId = some i →
    ∃ k, k < a.session.created ∧ i = genStreamId k
  relay : RelayOf sessionId (Opened es) (a.session.session.isSome = true) a
  relayFrames : ∀ x, .relay x ∈ out →
    UdpSession.OwnFrame sessionId x ∧ (x.frameId ≠ none → Opened es)
  reported : Opened es → ∃ success, .relay (.sendSynack sessionId success .udpAssociate) ∈ out

theorem Opened.append {es : List AssociationEvent} (h : Opened es) (e : AssociationEvent) :
    Opened (es ++ [e]) := by
  obtain ⟨success, hes⟩ := h
  exact ⟨success, List.mem_append_left _ hes⟩

variable {sessionId : UInt32} {genStreamId : Nat → UInt32} {es : List AssociationEvent}
  {out : List AssociationAction} {a : Association L}

/-- An event of the session. -/
theorem Invariant.session_step (h : Invariant sessionId genStreamId es out a) {e : ClientEvent}
    (he : a.session.enabled e = true) :
    Invariant sessionId genStreamId (es ++ [.session e])
      (out ++ ((handle (.session e)).run a).actions) ((handle (.session e)).run a).state := by
  have htally := Socks5Session.tally_handle (L := L) e a.session
  have hsingle := Socks5Session.single_handle (L := L) e a.session h.single
  have hstart : .startRelay ∈ ((Socks5Session.handle e).run a.session).actions →
      a.session.session.isSome := by
    intro hmem
    by_contra hnone
    refine Socks5Session.start_relay_handle ?_ hmem
    rintro ok protocol relay rfl
    exact hnone he
  rw [handle, run_performing]
  generalize (Socks5Session.handle e).run a.session = o at htally hsingle hstart ⊢
  obtain ⟨s, as, result⟩ := o
  dsimp only at htally hsingle hstart ⊢
  have hs : s.sessionId = sessionId := htally.sessionId.trans h.number
  have hkept : a.session.session.isSome → s.session.isSome := by
    intro hsome
    rw [htally.session]
    split
    · exact hsome
    · rfl
  have hopened : Opened (es ++ [.session e]) ↔ Opened es := by simp [Opened]
  obtain ⟨⟨hstate, hrelay⟩, hactions⟩ :=
    Respects.forEach_mem (fun _ => respects_carry_out hs fun hmem => hkept (hstart hmem))
      { a with session := s }
      ⟨rfl, h.relay.made, fun hsome => hkept (h.relay.asked hsome), h.relay.number, h.relay.active⟩
  generalize (forEach as carryOut).run { a with session := s } = done at hstate hrelay hactions ⊢
  obtain ⟨b, bs, _⟩ := done
  dsimp only at hstate hrelay hactions ⊢
  refine ⟨by rw [hstate, hs], by rw [hstate, htally.genStreamId, h.generator], by rwa [hstate], ?_,
    fun x hx i hi => ?_, by rwa [hopened, hstate], fun x hx => ?_, fun hreport => ?_⟩
  · have hcreated := htally.created
    rw [hstate, htally.session, h.generator, h.current]
    by_cases hsame : s.created = a.session.created
    · rw [if_pos hsame, hsame]
    · rw [if_neg hsame, if_neg (by omega)]
  · rw [hstate]
    have hcreated := htally.created
    rcases List.mem_append.mp hx with hx | hx
    · obtain ⟨k, hk, rfl⟩ := h.frames x hx i hi
      exact ⟨k, by omega, rfl⟩
    · rcases htally.frames x (hactions _ hx) i hi with hsession | ⟨k, -, hk, rfl⟩
      · rw [h.current] at hsession
        split at hsession
        · cases hsession
        · exact ⟨a.session.created - 1, by omega, (Option.some.inj hsession).symm⟩
      · exact ⟨k, hk, by rw [h.generator]⟩
  · rw [hopened]
    rcases List.mem_append.mp hx with hx | hx
    · exact h.relayFrames x hx
    · have hnone : x.frameId = none := hactions _ hx
      exact ⟨UdpSession.own_frame_of_none hnone, fun hframe => absurd hnone hframe⟩
  · obtain ⟨success, hsent⟩ := h.reported (hopened.mp hreport)
    exact ⟨success, List.mem_append_left _ hsent⟩

/-- An event of the relay. -/
theorem Invariant.relay_step (h : Invariant sessionId genStreamId es out a) {e : RelayEvent}
    (he : a.enabled (.relay e) = true) :
    Invariant sessionId genStreamId (es ++ [.relay e])
      (out ++ ((handle (.relay e)).run a).actions) ((handle (.relay e)).run a).state := by
  simp only [enabled, Bool.and_eq_true, Option.any_eq_true] at he
  obtain ⟨-, r, hr, he⟩ := he
  have hfits : ∀ host port data, e = .datagram host port data →
      data.length ≤ UdpSession.recvBufSize := by
    rintro host port data rfl
    simp only [UdpSession.enabled, Bool.and_eq_true, decide_eq_true_eq] at he
    exact he.2
  obtain ⟨hnumber, hframes⟩ := UdpSession.numbered_handle hfits r (h.relay.number r hr)
  have hmono : Opened es → Opened (es ++ [.relay e]) := fun hopened => hopened.append _
  -- before the socket's report the relay is silent
  have hquiet : ¬ Opened (es ++ [.relay e]) →
      ¬ ((UdpSession.handle e).run r).state.Active ∧
        ∀ x ∈ ((UdpSession.handle e).run r).actions, x.frameId = none := by
    intro hopened
    refine UdpSession.inactive_handle he (fun hactive => ?_) fun success hsuccess => ?_
    · exact hopened (hmono (h.relay.active r hr hactive))
    · exact hopened ⟨success, by simp [hsuccess]⟩
  rw [handle, run_on_relay hr]
  refine ⟨h.number, h.generator, h.single, h.current, fun x hx i hi => ?_,
    ⟨fun _ => rfl, fun _ => h.relay.asked (by simp [hr]), fun t ht => ?_, fun t ht hactive => ?_⟩,
    fun x hx => ?_, fun hopened => ?_⟩
  · rcases List.mem_append.mp hx with hx | hx
    · exact h.frames x hx i hi
    · obtain ⟨y, -, hy⟩ := List.mem_map.mp hx
      cases hy
  · cases ht
    exact hnumber
  · cases ht
    by_contra hopened
    exact (hquiet hopened).1 hactive
  · rcases List.mem_append.mp hx with hx | hx
    · exact ⟨(h.relayFrames x hx).1, fun hframe => hmono ((h.relayFrames x hx).2 hframe)⟩
    · obtain ⟨y, hy, hyx⟩ := List.mem_map.mp hx
      cases hyx
      exact ⟨hframes x hy, fun hframe => by_contra fun hopened =>
        hframe ((hquiet hopened).2 x hy)⟩
  · obtain ⟨success, hmem⟩ := hopened
    rcases List.mem_append.mp hmem with hmem | hmem
    · obtain ⟨success', hsent⟩ := h.reported ⟨success, hmem⟩
      exact ⟨success', List.mem_append_left _ hsent⟩
    · cases List.mem_singleton.mp hmem
      refine ⟨success, List.mem_append_right _ (List.mem_map.mpr ⟨_, ?_, rfl⟩)⟩
      rw [← h.relay.number r hr]
      show _ ∈ [_]
      exact List.mem_singleton_self _

/-- The invariant holds of whatever is left of an association. -/
theorem invariant_left {readBuf : Nat → UInt8} {remotePort : UInt16}
    (hleft : Leaves enabled handle (started L sessionId genStreamId readBuf remotePort) es out a) :
    Invariant sessionId genStreamId es out a := by
  refine Leaves.induction ?_ (fun es out a e _ h he => ?_) hleft
  · have hnone : ¬ Opened [] := by simp [Opened]
    refine ⟨rfl, rfl, .of_zero rfl, rfl, by simp, ⟨fun h => absurd h hnone, nofun, nofun, nofun⟩,
      by simp, fun h => absurd h hnone⟩
  · cases e with
    | session e => exact h.session_step he
    | relay e => exact h.relay_step he

/-! ## Where the datagrams go -/

/-- A datagram sent under the id of a stream goes where the stream leads. -/
theorem dispatched {s : TunnelServer} {tunnel : Nat} {i : UInt32} {data : Bytes}
    (hs : s.Reachable) (h : LeadsTo s i tunnel) (hdata : data.length ≤ UdpSession.maxPayload) :
    Dispatched s tunnel i data .udpAssociate := by
  have hlength : (makeFrame i .data .udpAssociate data).length < 2 ^ 32 := by
    have hmax : UdpSession.maxPayload = 65798 := by decide
    rw [make_frame_length]
    omega
  obtain ⟨message, hpack, -⟩ := unpack_pack_message hlength
  obtain ⟨session, hfind⟩ := Option.isSome_iff_exists.mp h.registered
  obtain ⟨hcallbacks, hlive⟩ := hs.sound.sessions i session hfind
  obtain ⟨t, j, -, -, hinterface⟩ := TunnelServer.run_interface_of hlive
  subst hcallbacks
  have hupcall : s.mux.onMessage message =
      .ok (some (.onData (TunnelServer.tunnelCallbacks i) data .udpAssociate)) := by
    rw [SessionMux.on_message_eq, frame_of_packed hpack]
    simp only [SessionMux.onDataFrame, hfind]
    rfl
  refine ⟨message, hpack, ?_⟩
  simp [TunnelServer.onMessage, hupcall, TunnelServer.onUpcall, TunnelServer.tunnelCallbacks,
    TunnelServer.p2pRevData, hinterface, ← h.owner]

end Association

/-- An association as a machine. -/
def association (L : Llhttp) :
    Machine (Except AssociationFault (Association L)) AssociationEvent AssociationAction :=
  Effect.machine Association.enabled Association.handle

open Association

/-- The frames of an association are routed to the tunnel of its session if and only if its first
stream id happens to be the number it was accepted under, or the relay's socket has reported
nothing yet. -/
theorem association_routed_iff {L : Llhttp} {sessionId : UInt32} {genStreamId : Nat → UInt32}
    {readBuf : Nat → UInt8} {remotePort : UInt16} {es : List AssociationEvent}
    {out : List AssociationAction} {a : Association L}
    (hleft : Effect.Leaves enabled handle (started L sessionId genStreamId readBuf remotePort)
      es out a) (hprotocol : a.session.protocol = .udpAssociate) :
    RoutedToTunnel out a ↔ genStreamId 0 = sessionId ∨ ¬ Opened es := by
  have hinv := invariant_left hleft
  have hone : a.session.created ≤ 1 :=
    hinv.single.socks (by simp [Socks5Session.SocksProtocol, hprotocol])
  -- a session with one stream has the first id
  have hcurrent : ∀ i, a.session.session = some i → i = genStreamId 0 := by
    intro i hi
    rw [hinv.current] at hi
    split at hi
    · cases hi
    · next hzero =>
        rw [show a.session.created - 1 = 0 by omega] at hi
        exact (Option.some.inj hi).symm
  constructor
  · intro hrouted
    by_contra hnot
    rw [not_or, not_not] at hnot
    obtain ⟨success, hsent⟩ := hinv.reported hnot.2
    exact hnot.1 (hcurrent sessionId (hrouted.frames _ hsent sessionId rfl)).symm
  · intro hmeets
    -- a relay that has sent a frame has been made for a stream with its number
    have hrelay : ∀ x, .relay x ∈ out → ∀ id, x.frameId = some id →
        id = sessionId ∧ a.session.session = some id := by
      intro x hx id hid
      obtain ⟨hown, hreport⟩ := hinv.relayFrames x hx
      have hopened := hreport (by simp [hid])
      obtain ⟨i, hi⟩ := Option.isSome_iff_exists.mp
        (hinv.relay.asked (hinv.relay.made hopened))
      have hnumber := hown.number id hid
      have hequal : genStreamId 0 = sessionId := hmeets.resolve_right (not_not.mpr hopened)
      exact ⟨hnumber, by rw [hi, hcurrent i hi, hnumber, hequal]⟩
    constructor
    · intro x hx id hid
      cases x with
      | session x =>
          obtain ⟨k, hk, rfl⟩ := hinv.frames x hx id hid
          rw [hinv.current, if_neg (by omega), show a.session.created - 1 = k by omega]
      | relay x => exact (hrelay x hx id hid).2
    · intro id data p hsent i hi s tunnel hs hleads
      have hid := (hrelay _ hsent id rfl).2
      rw [hi] at hid
      cases hid
      obtain ⟨rfl, hdata⟩ := (hinv.relayFrames _ hsent).1.datagram _ _ _ rfl
      exact dispatched hs hleads hdata

/-- A browser that asks for a relay and gets one, with the answer of the server and the report of
the relay's socket. -/
def associated : List AssociationEvent :=
  [.session (.browserData [5, 1]), .session (.browserData [5, 3, 0, 1, 0, 0, 0, 0, 0, 0]),
    .session (.synack true .udpAssociate (some (⟨127, 0, 0, 1⟩, 9000))), .relay (.opened true)]

/-- A datagram of one byte for port 53 of 10.0.0.1. -/
def oneDatagram : AssociationEvent :=
  .relay (.datagram (text "127.0.0.1") 4000 [0, 0, 0, 1, 10, 0, 0, 1, 0, 53, 0x2A])

theorem association_routed_same_number :
    ∃ out a, Effect.Leaves enabled handle (started .idle 7 (fun _ => 7) (fun _ => 0) 0)
        (associated ++ [oneDatagram]) out a ∧ a.session.protocol = .udpAssociate ∧
      RoutedToTunnel out a := by
  obtain ⟨out, a, hrun, hprotocol⟩ : ∃ out a,
      (association .idle).run (.ok (started .idle 7 (fun _ => 7) (fun _ => 0) 0))
          (associated ++ [oneDatagram]) = some (.ok a, out) ∧
        a.session.protocol = .udpAssociate := ⟨_, _, rfl, rfl⟩
  have hleft := Effect.Leaves.of_run hrun
  exact ⟨out, a, hleft, hprotocol, (association_routed_iff hleft hprotocol).mpr (.inl rfl)⟩

/-- The session accepted under the number 1, whose stream has the id 5: its relay answers and
forwards on stream 1. -/
theorem datagrams_on_wrong_stream :
    ∃ out a, Effect.Leaves enabled handle (started .idle 1 (fun _ => 5) (fun _ => 0) 0)
        (associated ++ [oneDatagram]) out a ∧ a.session.protocol = .udpAssociate ∧
      a.session.session = some 5 ∧
      (∃ data, .relay (.sendData 1 data .udpAssociate) ∈ out) ∧ ¬ RoutedToTunnel out a := by
  obtain ⟨out, a, data, hrun, hprotocol, hsession, hsent⟩ : ∃ out a data,
      (association .idle).run (.ok (started .idle 1 (fun _ => 5) (fun _ => 0) 0))
          (associated ++ [oneDatagram]) = some (.ok a, out) ∧
        a.session.protocol = .udpAssociate ∧ a.session.session = some 5 ∧
        out.getLast? = some (.relay (.sendData 1 data .udpAssociate)) :=
    ⟨_, _, _, rfl, rfl, rfl, rfl⟩
  have hmem := List.mem_of_getLast? hsent
  refine ⟨out, a, Effect.Leaves.of_run hrun, hprotocol, hsession, ⟨data, hmem⟩, fun h => ?_⟩
  have hid := h.frames _ hmem 1 rfl
  rw [hsession] at hid
  exact absurd hid (by decide)

end RtcVpn
