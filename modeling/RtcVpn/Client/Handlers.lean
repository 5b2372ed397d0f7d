import RtcVpn.Client.Socks5Session

/-!
# What the handlers of a session are made of

Whatever a session does with the browser's data and with the frames of its
streams it does in a few kinds of steps: it changes members of the handshake
and its parsers, has the browser's socket send or close, forwards data, and
asks for a target or starts its relay. A relation that composes and admits each
of these holds of the whole handler, in whatever state.
-/

namespace RtcVpn

namespace Socks5Session

open Effect

variable {L : Llhttp} {β γ : Type}

/-- The members that the handshake and the parsers leave alone. -/
def core (s : Socks5Session L) :
    UInt32 × (Nat → UInt32) × Nat × Option UInt32 × Bool × Bool × Bool × Bool × Bool :=
  (s.sessionId, s.genStreamId, s.created, s.session, s.tcpSocket, s.udpSession, s.onClose,
    s.isClosed, s.isP2pClosed)

/-- The relation admits what both kinds of handlers do. -/
structure Admits (R : Socks5Session L → List ClientAction → Socks5Session L → Prop) : Prop where
  composes : Composes R
  send : ∀ s data, R s [.tcpSend data] s
  close : ∀ s, R s [.tcpClose] s
  forward : ∀ s id data, s.session = some id → R s [.sendData id data s.protocol] s

/-- The relation admits what the browser's data makes a session do, which leaves the response
parser alone. -/
structure AdmitsBrowser (R : Socks5Session L → List ClientAction → Socks5Session L → Prop) : Prop
    extends Admits R where
  update : ∀ {s t}, t.core = s.core → t.httpResponseParser = s.httpResponseParser → R s [] t
  request : ∀ s, R s [.createSession (s.genStreamId s.created),
    .sendSyn (s.genStreamId s.created) s.targetHost s.targetPort s.protocol] s.requested

/-- The relation admits what a `SYNACK` makes a session do, which leaves the response parser alone
too. -/
structure AdmitsSynack (R : Socks5Session L → List ClientAction → Socks5Session L → Prop) : Prop
    extends Admits R where
  update : ∀ {s t}, t.core = s.core → t.protocol = s.protocol →
    t.httpResponseParser = s.httpResponseParser →
    (t.phase = s.phase ∨ t.phase = .connected ∨ t.phase = .closed) → R s [] t
  relay : ∀ s, R s [.startRelay] { s with udpSession := true }

/-- The relation admits what the browser's data makes a session do. -/
structure AdmitsReads (R : Socks5Session L → List ClientAction → Socks5Session L → Prop) : Prop
    extends Admits R where
  update : ∀ {s t}, t.core = s.core → R s [] t
  request : ∀ s, R s [.createSession (s.genStreamId s.created),
    .sendSyn (s.genStreamId s.created) s.targetHost s.targetPort s.protocol] s.requested

/-- The relation admits what the frames of its streams make a session do. -/
structure AdmitsFrames (R : Socks5Session L → List ClientAction → Socks5Session L → Prop) : Prop
    extends Admits R where
  update : ∀ {s t}, t.core = s.core → t.protocol = s.protocol →
    (t.phase = s.phase ∨ t.phase = .connected ∨ t.phase = .closed) → R s [] t
  relay : ∀ s, R s [.startRelay] { s with udpSession := true }
  datagram : ∀ s data, R s [.revP2pData data] s

variable {R : Socks5Session L → List ClientAction → Socks5Session L → Prop}

namespace Admits

theorem relates_pure (h : Admits R) (b : β) : Relates R (pure b : Handler L β) :=
  .pure h.composes b

theorem relates_fail (h : Admits R) (fault : ClientFault) :
    Relates R (fail fault : Handler L β) :=
  .fail h.composes fault

theorem bind (h : Admits R) {x : Handler L β} {f : β → Handler L γ} (hx : Relates R x)
    (hf : ∀ b, Relates R (f b)) : Relates R (x >>= f) :=
  .bind h.composes hx hf

theorem get_bind (h : Admits R) {f : Socks5Session L → Handler L β} (hf : ∀ s, Relates R (f s)) :
    Relates R (get >>= f) :=
  h.bind (.get h.composes) hf

theorem tcp_send (h : Admits R) (data : Bytes) : Relates R (tcpSend data : Handler L Unit) := by
  intro s
  cases hsocket : s.tcpSocket with
  | true => simpa [tcpSend, hsocket] using h.send s data
  | false => simpa [tcpSend, hsocket] using h.composes.refl s

theorem tcp_close (h : Admits R) : Relates R (tcpClose : Handler L Unit) := by
  intro s
  cases hsocket : s.tcpSocket with
  | true => simpa [tcpClose, hsocket] using h.close s
  | false => simpa [tcpClose, hsocket] using h.composes.refl s

theorem mux_send_data (h : Admits R) (data : Bytes) :
    Relates R (muxSendData data : Handler L Unit) := by
  intro s
  cases hsession : s.session with
  | none => simpa [muxSendData, streamId, hsession] using h.composes.refl s
  | some id => simpa [muxSendData, streamId, hsession] using h.forward s id data hsession

end Admits

/-! ## The browser's data -/

namespace AdmitsBrowser

theorem modify (h : AdmitsBrowser R) {f : Socks5Session L → Socks5Session L}
    (hf : ∀ s, (f s).core = s.core ∧ (f s).httpResponseParser = s.httpResponseParser) :
    Relates R (modify f : Handler L Unit) :=
  fun s => h.update (hf s).1 (hf s).2

theorem request_remote_connect (h : AdmitsBrowser R) :
    Relates R (requestRemoteConnect : Handler L Unit) := by
  intro s
  rw [run_request_remote_connect]
  exact h.request s

/-- A handler of the handshake, whatever the phase. -/
theorem handler (h : AdmitsBrowser R) {p : Phase} {handler : Handler L Nat}
    (hp : handlerOf p = some handler) : Relates R handler := by
  have hphase : ∀ {n : Nat} {f : Socks5Session L → Socks5Session L},
      (∀ s, (f s).core = s.core ∧ (f s).httpResponseParser = s.httpResponseParser) →
      Relates R (do
        Effect.modify f
        pure n : Handler L Nat) :=
    fun hf => h.bind (h.modify hf) fun _ => h.relates_pure _
  have hreply : ∀ {n : Nat} {data : Bytes} {f : Socks5Session L → Socks5Session L},
      (∀ s, (f s).core = s.core ∧ (f s).httpResponseParser = s.httpResponseParser) →
      Relates R (do
        Effect.modify f
        tcpSend data
        pure n : Handler L Nat) :=
    fun hf => h.bind (h.modify hf) fun _ => h.bind (h.tcp_send _) fun _ => h.relates_pure _
  have hconnect : ∀ {n : Nat} {f : Socks5Session L → Socks5Session L},
      (∀ s, (f s).core = s.core ∧ (f s).httpResponseParser = s.httpResponseParser) →
      Relates R (do
        Effect.modify f
        requestRemoteConnect
        pure n : Handler L Nat) :=
    fun hf => h.bind (h.modify hf) fun _ => h.bind h.request_remote_connect fun _ =>
      h.relates_pure _
  have htcpudp : Relates R (handleSocksTcpUdp : Handler L Nat) :=
    h.get_bind fun s => .ite (hphase fun _ => ⟨rfl, rfl⟩) (.ite (hphase fun _ => ⟨rfl, rfl⟩)
      (h.bind (h.tcp_send _) fun _ => hphase fun _ => ⟨rfl, rfl⟩))
  cases p with
  | waitGreetingVersion =>
      cases hp
      exact h.get_bind fun s => .ite (hreply fun _ => ⟨rfl, rfl⟩) (hphase fun _ => ⟨rfl, rfl⟩)
  | waitSocksMethods =>
      cases hp
      exact h.get_bind fun s => .ite (hphase fun _ => ⟨rfl, rfl⟩)
        (.ite (hphase fun _ => ⟨rfl, rfl⟩) (hreply fun _ => ⟨rfl, rfl⟩))
  | waitSocksTCP => cases hp; exact htcpudp
  | waitSocksUDP => cases hp; exact htcpudp
  | waitSocksIpv4 => cases hp; exact hconnect fun _ => ⟨rfl, rfl⟩
  | waitSocksDomain => cases hp; exact h.get_bind fun s => hconnect fun _ => ⟨rfl, rfl⟩
  | waitSocksUdpAddr | waitHttpRequestHeaders | connecting | connected | closed => cases hp

theorem consume_loop (h : AdmitsBrowser R) (len turns consumed : Nat) :
    Relates R (consumeLoop len turns consumed : Handler L Unit) := by
  induction turns generalizing consumed with
  | zero => exact h.relates_pure ()
  | succ turns ih =>
      refine h.get_bind fun s => ?_
      cases hp : handlerOf (L := L) s.phase with
      | none => exact h.relates_pure ()
      | some handler =>
          refine .ite (h.relates_pure ()) (h.bind (h.handler hp) fun n => ?_)
          exact h.get_bind fun t => .ite h.tcp_close (ih _)

theorem request_target (h : AdmitsBrowser R) (msg : Message) :
    Relates R (requestTarget msg : Handler L Unit) :=
  h.get_bind fun _ => .ite h.tcp_close (h.bind (h.modify fun _ => ⟨rfl, rfl⟩) fun _ =>
    h.request_remote_connect)

theorem on_request_headers (h : AdmitsBrowser R) (msg : Message) :
    Relates R (onRequestHeaders msg : Handler L Unit) := by
  refine h.bind (h.modify fun _ => ⟨rfl, rfl⟩) fun _ => ?_
  split
  · split
    · exact h.bind (h.modify fun _ => ⟨rfl, rfl⟩) fun _ => h.request_target msg
    · exact h.relates_fail _
  · exact h.bind (h.modify fun _ => ⟨rfl, rfl⟩) fun _ => h.request_target msg

theorem feed_request (h : AdmitsBrowser R) (data : Bytes) :
    Relates R (requestSlot.feed requestCallbacks data : Handler L Bool) := by
  refine HttpSlot.relates_feed _ _ h.composes (fun s p => h.update rfl rfl) ?_ ?_ ?_ ?_ ?_ data
  · intro f m hf
    cases hf
    exact h.on_request_headers m
  · exact fun f data hf => by cases hf
  · exact fun f hf => by cases hf
  · intro f code reason hf
    cases hf
    exact h.tcp_close
  · exact fun f data hf => by cases hf

theorem process_data (h : AdmitsBrowser R) (data : Bytes) :
    Relates R (processData data : Handler L Unit) := by
  have hconsume : Relates R (consumePending data : Handler L Unit) := by
    refine h.bind (h.consume_loop _ _ _) fun _ => h.get_bind fun s => ?_
    exact .ite (h.bind (h.feed_request data) fun _ => h.modify fun _ => ⟨rfl, rfl⟩)
      (h.relates_pure ())
  refine h.get_bind fun s => ?_
  cases s.phase with
  | connected =>
      cases s.protocol with
      | socks5Connect | httpPlain | httpsConnect => exact h.mux_send_data data
      | unknown | udpAssociate | other => exact h.relates_pure ()
  | closed => exact .ite h.tcp_close (h.relates_pure ())
  | _ => exact hconsume

/-- The data callback of the browser's socket. -/
theorem browser_data (h : AdmitsBrowser R) (data : Bytes) :
    Relates R (handle (.browserData data) : Handler L Unit) :=
  h.bind (h.modify fun _ => ⟨rfl, rfl⟩) fun _ => .swallow _ (h.bind (h.process_data data) fun _ =>
    h.modify fun _ => ⟨rfl, rfl⟩)

end AdmitsBrowser

theorem AdmitsReads.to_browser (h : AdmitsReads R) : AdmitsBrowser R :=
  { h with update := fun hcore _ => h.update hcore }

/-- The data callback of the browser's socket. -/
theorem AdmitsReads.browser_data (h : AdmitsReads R) (data : Bytes) :
    Relates R (handle (.browserData data) : Handler L Unit) :=
  h.to_browser.browser_data data

/-! ## Frames -/

namespace AdmitsSynack

theorem modify (h : AdmitsSynack R) {f : Socks5Session L → Socks5Session L}
    (hf : ∀ s, (f s).core = s.core ∧ (f s).protocol = s.protocol ∧
      (f s).httpResponseParser = s.httpResponseParser ∧ (f s).phase = s.phase) :
    Relates R (modify f : Handler L Unit) :=
  fun s => h.update (hf s).1 (hf s).2.1 (hf s).2.2.1 (.inl (hf s).2.2.2)

theorem start_relay (h : AdmitsSynack R) : Relates R (startRelay : Handler L Unit) := by
  intro s
  cases hrelay : s.udpSession with
  | true => simpa [startRelay, hrelay] using h.composes.refl s
  | false => simpa [startRelay, hrelay] using h.relay s

theorem reply_to_browser (h : AdmitsSynack R) (ok : Bool) (protocol : Protocol)
    (relay : Option (AddressV4 × UInt16)) :
    Relates R (replyToBrowser ok protocol relay : Handler L Unit) := by
  have hudp : Relates R (udpConnected ok relay : Handler L Unit) := by
    refine .ite (h.tcp_send _) (h.bind h.start_relay fun _ => ?_)
    cases relay with
    | none => exact h.relates_fail _
    | some address => exact h.tcp_send _
  have hhttp : Relates R (httpConnected ok : Handler L Unit) :=
    h.get_bind fun s => .ite (h.bind (.forEach h.composes _ h.mux_send_data) fun _ =>
      h.modify fun _ => ⟨rfl, rfl, rfl, rfl⟩) (h.tcp_send _)
  cases protocol with
  | udpAssociate => exact hudp
  | httpPlain => exact hhttp
  | socks5Connect | httpsConnect => exact h.tcp_send _
  | unknown | other => exact h.relates_pure ()

/-- `p2p_synack`. -/
theorem synack (h : AdmitsSynack R) (ok : Bool) (protocol : Protocol)
    (relay : Option (AddressV4 × UInt16)) :
    Relates R (handle (.synack ok protocol relay) : Handler L Unit) := by
  refine .swallow _ (h.bind (h.reply_to_browser ok protocol relay) fun _ => .ite ?_ ?_)
  · exact h.bind (fun s => h.update rfl rfl rfl (.inr (.inr rfl))) fun _ => h.tcp_close
  · exact fun s => h.update rfl rfl rfl (.inr (.inl rfl))

end AdmitsSynack

namespace AdmitsFrames

theorem to_synack (h : AdmitsFrames R) : AdmitsSynack R :=
  { h with update := fun hcore hprotocol _ => h.update hcore hprotocol }

theorem modify (h : AdmitsFrames R) {f : Socks5Session L → Socks5Session L}
    (hf : ∀ s, (f s).core = s.core ∧ (f s).protocol = s.protocol ∧ (f s).phase = s.phase) :
    Relates R (modify f : Handler L Unit) :=
  fun s => h.update (hf s).1 (hf s).2.1 (.inl (hf s).2.2)

/-- `p2p_synack`. -/
theorem synack (h : AdmitsFrames R) (ok : Bool) (protocol : Protocol)
    (relay : Option (AddressV4 × UInt16)) :
    Relates R (handle (.synack ok protocol relay) : Handler L Unit) :=
  h.to_synack.synack ok protocol relay

theorem feed_response (h : AdmitsFrames R) (payload : Bytes) :
    Relates R (responseSlot.feed responseCallbacks payload : Handler L Bool) := by
  refine HttpSlot.relates_feed _ _ h.composes (fun s p => h.update rfl rfl (.inl rfl))
    ?_ ?_ ?_ ?_ ?_ payload
  · intro f m hf
    cases hf
    exact h.tcp_send _
  · intro f data hf
    cases hf
    exact h.get_bind fun s => .ite (h.tcp_send _) (h.tcp_send _)
  · intro f hf
    cases hf
    exact h.get_bind fun s => .ite (h.tcp_send _) (h.relates_pure ())
  · intro f code reason hf
    cases hf
    exact h.tcp_close
  · exact fun f data hf => by cases hf

/-- `p2p_data`. -/
theorem data (h : AdmitsFrames R) (payload : Bytes) (protocol : Protocol) :
    Relates R (handle (.data payload protocol) : Handler L Unit) := by
  refine .swallow _ ?_
  cases protocol with
  | udpAssociate =>
      intro s
      cases hrelay : s.udpSession with
      | true => simpa [p2pData, hrelay] using h.datagram s payload
      | false => simpa [p2pData, hrelay] using h.composes.refl s
  | httpPlain => exact h.bind (h.feed_response payload) fun _ => h.relates_pure ()
  | socks5Connect | httpsConnect => exact h.tcp_send _
  | unknown | other => exact h.relates_pure ()

end AdmitsFrames

end Socks5Session

end RtcVpn
