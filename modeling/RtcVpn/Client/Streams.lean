import RtcVpn.Client.Handlers
import RtcVpn.Client.Phases

/-!
# The streams of a session

Each `SYN` frame a session sends opens a stream with the next id of
`gen_stream_id`, and the session's other frames are for the stream it opened
last. `Tally` says what any handler does to this count, from any state;
`SingleStream` is why a SOCKS session opens one stream only.
-/

namespace RtcVpn

/-- The stream a frame that is sent belongs to. -/
def ClientAction.frameId : ClientAction → Option UInt32
  | .sendSyn id _ _ _ | .sendData id _ _ | .sendFin id _ | .sendDataCtrl id _ _ => some id
  | _ => none

/-- The stream a `SYN` frame opens. -/
def ClientAction.synId : ClientAction → Option UInt32
  | .sendSyn id _ _ _ => some id
  | _ => none

/-- Only a frame opens a stream. -/
theorem ClientAction.syn_id_of_frame_id {a : ClientAction} (h : a.frameId = none) :
    a.synId = none := by
  cases a with
  | sendSyn => cases h
  | _ => rfl

namespace Socks5Session

open Effect

variable {L : Llhttp} {β : Type}

/-- What a session knows of its streams. -/
def streams (s : Socks5Session L) : UInt32 × (Nat → UInt32) × Nat × Option UInt32 :=
  (s.sessionId, s.genStreamId, s.created, s.session)

/-- From `s` to `t` the session opens a stream for each new id, in order, is left with the last
one, and sends frames only for these and the one it had. -/
structure Tally (s : Socks5Session L) (out : List ClientAction) (t : Socks5Session L) : Prop where
  sessionId : t.sessionId = s.sessionId
  genStreamId : t.genStreamId = s.genStreamId
  created : s.created ≤ t.created
  syns : out.filterMap ClientAction.synId =
    (List.range' s.created (t.created - s.created)).map s.genStreamId
  session : t.session = if t.created = s.created then s.session
    else some (s.genStreamId (t.created - 1))
  frames : ∀ a ∈ out, ∀ id, a.frameId = some id →
    s.session = some id ∨ ∃ k, s.created ≤ k ∧ k < t.created ∧ id = s.genStreamId k

/-- From `s` to `t` the session opens no stream and sends frames for the one it has only; its
protocol stays, and its phase does unless it is connected or closed. -/
structure Settled (s : Socks5Session L) (out : List ClientAction) (t : Socks5Session L) :
    Prop where
  streams : t.streams = s.streams
  protocol : t.protocol = s.protocol
  phase : t.phase = s.phase ∨ t.phase = .connected ∨ t.phase = .closed
  syns : out.filterMap ClientAction.synId = []
  frames : ∀ a ∈ out, ∀ id, a.frameId = some id → s.session = some id

/-- Actions and changes that open no stream. -/
theorem Tally.of_same {s t : Socks5Session L} {out : List ClientAction}
    (h : t.streams = s.streams) (hsyns : out.filterMap ClientAction.synId = [])
    (hframes : ∀ a ∈ out, ∀ id, a.frameId = some id → s.session = some id) : Tally s out t := by
  simp only [Socks5Session.streams, Prod.mk.injEq] at h
  obtain ⟨hid, hgen, hcreated, hsession⟩ := h
  refine ⟨hid, hgen, hcreated.ge, ?_, ?_, fun a ha id h => .inl (hframes a ha id h)⟩
  · rw [hsyns, hcreated, Nat.sub_self]
    rfl
  · rw [if_pos hcreated, hsession]

theorem Settled.tally {s t : Socks5Session L} {out : List ClientAction} (h : Settled s out t) :
    Tally s out t :=
  .of_same h.streams h.syns h.frames

/-- What the browser's data makes the session do: it asks for streams, and starts no relay. -/
structure Asks (s : Socks5Session L) (out : List ClientAction) (t : Socks5Session L) : Prop
    extends Tally s out t where
  relay : .startRelay ∉ out

theorem composes_settled : Composes (Settled (L := L)) where
  refl s := ⟨rfl, rfl, .inl rfl, rfl, by simp⟩
  trans {s t u as bs} h h' := by
    have hsession : t.session = s.session := congrArg (fun x => x.2.2.2) h.streams
    refine ⟨h'.streams.trans h.streams, h'.protocol.trans h.protocol, ?_, ?_,
      fun a ha id hid => ?_⟩
    · rcases h'.phase with hphase | hphase
      · rw [hphase]
        exact h.phase
      · exact .inr hphase
    · rw [List.filterMap_append, h.syns, h'.syns, List.nil_append]
    · rcases List.mem_append.mp ha with ha | ha
      · exact h.frames a ha id hid
      · rw [← hsession]
        exact h'.frames a ha id hid

theorem composes_tally : Composes (Tally (L := L)) where
  refl s := .of_same rfl rfl (by simp)
  trans {s t u as bs} h h' := by
    have hle := h.created
    have hle' := h'.created
    refine ⟨h'.sessionId.trans h.sessionId, h'.genStreamId.trans h.genStreamId, by omega, ?_, ?_,
      fun a ha id hid => ?_⟩
    · have hsplit : List.range' s.created (u.created - s.created) =
          List.range' s.created (t.created - s.created) ++
            List.range' t.created (u.created - t.created) := by
        rw [show u.created - s.created = (t.created - s.created) + (u.created - t.created) by omega,
          ← List.range'_append_1, show s.created + (t.created - s.created) = t.created by omega]
      rw [List.filterMap_append, h.syns, h'.syns, h.genStreamId, hsplit, List.map_append]
    · rw [h'.session, h.session, h.genStreamId]
      by_cases hu : u.created = t.created
      · rw [if_pos hu, hu]
      · rw [if_neg hu, if_neg (by omega)]
    · rcases List.mem_append.mp ha with ha | ha
      · rcases h.frames a ha id hid with hs | ⟨k, hk, hlt, rfl⟩
        · exact .inl hs
        · exact .inr ⟨k, hk, by omega, rfl⟩
      · rcases h'.frames a ha id hid with ht | ⟨k, hk, hlt, hgen⟩
        · rw [h.session] at ht
          split at ht
          · exact .inl ht
          · exact .inr ⟨t.created - 1, by omega, by omega, (Option.some.inj ht).symm⟩
        · exact .inr ⟨k, by omega, hlt, by rw [hgen, h.genStreamId]⟩

theorem composes_asks : Composes (Asks (L := L)) where
  refl s := ⟨composes_tally.refl s, by simp⟩
  trans h h' := ⟨composes_tally.trans h.toTally h'.toTally, by simp [h.relay, h'.relay]⟩

/-! ## What each event does -/

/-- An action that is no frame. -/
theorem settled_emit {s : Socks5Session L} {a : ClientAction} (ha : a.frameId = none) :
    Settled s [a] s := by
  refine ⟨rfl, rfl, .inl rfl, ?_, ?_⟩
  · simp [ClientAction.syn_id_of_frame_id ha]
  · simp [ha]

theorem settled_forward {s : Socks5Session L} {id : UInt32} {data : Bytes}
    (h : s.session = some id) : Settled s [.sendData id data s.protocol] s :=
  ⟨rfl, rfl, .inl rfl, rfl, by simp [ClientAction.frameId, h]⟩

theorem streams_of_core {s t : Socks5Session L} (h : t.core = s.core) : t.streams = s.streams := by
  simp only [core, Prod.mk.injEq] at h
  simp [streams, h]

/-- The frames of its streams leave a session settled. -/
theorem settled_frames : AdmitsFrames (Settled (L := L)) where
  composes := composes_settled
  send _ _ := settled_emit rfl
  close _ := settled_emit rfl
  forward _ _ _ h := settled_forward h
  update hcore hprotocol hphase := ⟨streams_of_core hcore, hprotocol, hphase, rfl, by simp⟩
  relay _ := ⟨rfl, rfl, .inl rfl, rfl, by simp [ClientAction.frameId]⟩
  datagram _ _ := settled_emit rfl

/-- The browser's data makes a session ask. -/
theorem asks_reads : AdmitsReads (Asks (L := L)) where
  composes := composes_asks
  send _ _ := ⟨(settled_emit rfl).tally, by simp⟩
  close _ := ⟨(settled_emit rfl).tally, by simp⟩
  forward _ _ _ h := ⟨(settled_forward h).tally, by simp⟩
  update hcore := ⟨.of_same (streams_of_core hcore) rfl (by simp), by simp⟩
  request s := by
    refine ⟨⟨rfl, rfl, Nat.le_succ _, ?_, ?_, ?_⟩, by simp⟩
    · show [s.genStreamId s.created] = _
      simp [requested]
    · simp [requested]
    · intro a ha id hid
      refine .inr ⟨s.created, Nat.le_refl _, Nat.lt_succ_self _, ?_⟩
      simp only [List.mem_cons, List.not_mem_nil, or_false] at ha
      rcases ha with rfl | rfl
      · cases hid
      · exact (Option.some.inj hid).symm

theorem settled_close_session : Relates Settled (closeSession : Handler L Unit) := by
  intro s
  cases hsession : s.session <;> cases hp2p : s.isP2pClosed <;> cases hclosed : s.isClosed <;>
    cases hon : s.onClose <;>
    simp [closeSession, hsession, hp2p, hclosed, hon] <;>
    exact ⟨by simp [Socks5Session.streams, hsession], rfl, .inl rfl,
      by simp [ClientAction.synId], by simp [ClientAction.frameId, hsession]⟩

/-- Every event but the browser's data leaves the streams alone. -/
theorem settled_handle {e : ClientEvent} (he : ∀ data, e ≠ .browserData data) :
    Relates Settled (handle e : Handler L Unit) := by
  cases e with
  | browserData data => exact absurd rfl (he data)
  | browserClosed =>
      exact .bind composes_settled settled_close_session fun _ =>
        .modify fun _ => ⟨rfl, rfl, .inl rfl, rfl, by simp⟩
  | browserQueue status =>
      intro s
      cases hsession : s.session with
      | none =>
          rw [run_browser_queue_none hsession]
          exact composes_settled.refl s
      | some id =>
          rw [run_browser_queue hsession]
          exact ⟨rfl, rfl, .inl rfl, rfl, by simp [ClientAction.frameId, hsession]⟩
  | synack ok protocol relay => exact settled_frames.synack ok protocol relay
  | data payload protocol => exact settled_frames.data payload protocol
  | fin protocol =>
      intro s
      rw [run_fin]
      refine ⟨rfl, rfl, .inl rfl, ?_, ?_⟩ <;> split <;>
        simp [ClientAction.synId, ClientAction.frameId]
  | stop =>
      intro s
      rw [run_stop]
      refine ⟨rfl, rfl, .inl rfl, ?_, ?_⟩ <;> split <;>
        simp [ClientAction.synId, ClientAction.frameId]

/-- What the browser's data does to the streams of a session, in whatever state. -/
theorem asks_browser_data (data : Bytes) :
    Relates Asks (handle (.browserData data) : Handler L Unit) :=
  asks_reads.browser_data data

/-- What every event does to the streams of a session. -/
theorem tally_handle (e : ClientEvent) : Relates Tally (handle e : Handler L Unit) := by
  by_cases he : ∃ data, e = .browserData data
  · obtain ⟨data, rfl⟩ := he
    exact (asks_browser_data data).mono Asks.toTally
  · exact (settled_handle fun data h => he ⟨data, h⟩).mono Settled.tally

/-- Only the answer to a `SYN` makes a session start its relay. -/
theorem start_relay_handle {s : Socks5Session L} {e : ClientEvent}
    (he : ∀ ok protocol relay, e ≠ .synack ok protocol relay) :
    .startRelay ∉ ((handle e : Handler L Unit).run s).actions := by
  cases e with
  | browserData data => exact (asks_browser_data data s).relay
  | synack ok protocol relay => exact absurd rfl (he ok protocol relay)
  | data payload protocol =>
      have hdata := respects_data (I := fun _ : Socks5Session L => True)
        (A := fun a => a ≠ .startRelay) (fun _ _ _ => trivial) nofun nofun nofun payload protocol
      exact fun hmem => hdata.actions trivial _ hmem rfl
  | browserClosed =>
      cases hsession : s.session <;> cases hp2p : s.isP2pClosed <;> cases hclosed : s.isClosed <;>
        cases honClose : s.onClose <;>
        simp [handle, closeSession, hsession, hp2p, hclosed, honClose]
  | browserQueue status =>
      cases hsession : s.session <;> simp [handle, onWriteQueue, streamId, hsession]
  | fin protocol => rw [run_fin]; cases s.tcpSocket <;> simp
  | stop => rw [run_stop]; cases s.tcpSocket <;> simp

/-! ## Sessions with one stream -/

/-- There is no stream before the session connects, and one at most if it is a SOCKS session. -/
structure SingleStream (s : Socks5Session L) : Prop where
  early : s.phase ≠ .connecting → s.phase ≠ .connected → s.phase ≠ .closed → s.created = 0
  socks : SocksProtocol s.protocol → s.created ≤ 1

theorem SingleStream.of_zero {s : Socks5Session L} (h : s.created = 0) : SingleStream s :=
  ⟨fun _ _ _ => h, fun _ => by omega⟩

theorem SingleStream.of_connecting {s : Socks5Session L} (hphase : s.phase = .connecting)
    (h : SocksProtocol s.protocol → s.created ≤ 1) : SingleStream s :=
  ⟨fun hearly => absurd hphase hearly, h⟩

theorem SingleStream.settled {s t : Socks5Session L} {out : List ClientAction}
    (hs : SingleStream s) (h : Settled s out t) : SingleStream t := by
  have hcreated : t.created = s.created := congrArg (fun x => x.2.2.1) h.streams
  refine ⟨fun h1 h2 h3 => ?_, fun hsocks => ?_⟩
  · rcases h.phase with hphase | hphase | hphase
    · rw [hphase] at h1 h2 h3
      rw [hcreated]
      exact hs.early h1 h2 h3
    · exact absurd hphase h2
    · exact absurd hphase h3
  · rw [h.protocol] at hsocks
    rw [hcreated]
    exact hs.socks hsocks

/-- The handler leaves a session with one stream at most with one at most. -/
abbrev Single (x : Handler L β) : Prop := Triple SingleStream x fun t _ _ => SingleStream t

theorem single_of_settled {x : Handler L β} (h : Relates Settled x) : Single x :=
  fun s hs => hs.settled (h s)

theorem Single.bind {γ : Type} {x : Handler L β} {f : β → Handler L γ} (hx : Single x)
    (hf : ∀ b, Single (f b)) : Single (x >>= f) :=
  Triple.bind hx (fun _ b => hf b) fun _ _ _ h => h

/-- The handler of a phase finds no stream and opens one at most. -/
theorem single_handler {p : Phase} {handler : Handler L Nat} (hp : handlerOf p = some handler) :
    Triple (fun s => SingleStream s ∧ s.phase = p) handler fun t _ _ => SingleStream t := by
  rintro s ⟨hs, hphase⟩
  have hzero : s.created = 0 := by
    cases p <;> cases hp <;> exact hs.early (by simp [hphase]) (by simp [hphase]) (by simp [hphase])
  have htcpudp : SingleStream ((handleSocksTcpUdp : Handler L Nat).run s).state := by
    refine .of_zero ?_
    by_cases hipv4 : s.readBuf 3 = 0x01
    · simp [handleSocksTcpUdp, hipv4, hzero]
    · by_cases hdomain : s.readBuf 3 = 0x03
      · simp [handleSocksTcpUdp, hdomain, hzero]
      · cases htcp : s.tcpSocket <;>
          simp [handleSocksTcpUdp, hipv4, hdomain, sendSocksReply, tcpSend, htcp, hzero]
  cases p with
  | waitGreetingVersion =>
      cases hp
      refine .of_zero ?_
      by_cases hbyte : s.readBuf 0 = 0x05
      · cases htcp : s.tcpSocket <;> simp [handleGreetingVersion, tcpSend, hbyte, htcp, hzero]
      · simp [handleGreetingVersion, hbyte, hzero]
  | waitSocksMethods =>
      cases hp
      refine .of_zero ?_
      by_cases hconnect : s.readBuf 1 = 0x01
      · simp [handleSocksMethods, hconnect, hzero]
      · by_cases hudp : s.readBuf 1 = 0x03
        · simp [handleSocksMethods, hudp, hzero]
        · cases htcp : s.tcpSocket <;>
            simp [handleSocksMethods, hconnect, hudp, sendSocksReply, tcpSend, htcp, hzero]
  | waitSocksTCP => cases hp; exact htcpudp
  | waitSocksUDP => cases hp; exact htcpudp
  | waitSocksIpv4 =>
      cases hp
      exact .of_connecting rfl fun _ => by
        show s.created + 1 ≤ 1
        omega
  | waitSocksDomain =>
      cases hp
      exact .of_connecting rfl fun _ => by
        show s.created + 1 ≤ 1
        omega
  | waitSocksUdpAddr | waitHttpRequestHeaders | connecting | connected | closed => cases hp

theorem single_consume_loop (len turns consumed : Nat) :
    Single (consumeLoop len turns consumed : Handler L Unit) := by
  induction turns generalizing consumed with
  | zero => exact fun s hs => hs
  | succ turns ih =>
      refine Triple.get_bind fun s => ?_
      cases hp : handlerOf (L := L) s.phase with
      | none => exact fun t ht => ht.2
      | some handler =>
          dsimp only
          by_cases hlen : consumed ≥ len
          · rw [if_pos hlen]
            exact fun t ht => ht.2
          · rw [if_neg hlen]
            have hhandler : Triple (fun t => t = s ∧ SingleStream t) handler
                fun t _ _ => SingleStream t :=
              (single_handler hp).mono (fun t ht => ⟨ht.2, by rw [ht.1]⟩) fun _ _ _ h => h
            refine Triple.bind hhandler (fun _ n => ?_) fun _ _ _ h => h
            refine Triple.get_bind fun t => ?_
            by_cases hclosed : t.phase = .closed
            · rw [if_pos hclosed]
              exact (single_of_settled settled_frames.tcp_close).mono (fun _ h => h.2)
                fun _ _ _ h => h
            · rw [if_neg hclosed]
              exact (ih _).mono (fun _ h => h.2) fun _ _ _ h => h

/-- While an HTTP request is read a session has no stream yet, or is no SOCKS session. -/
def Asking (s : Socks5Session L) : Prop :=
  SingleStream s ∧ (s.created = 0 ∨ ¬ SocksProtocol s.protocol)

theorem asking_modify {f : Socks5Session L → Socks5Session L}
    (hf : ∀ s, (f s).core = s.core ∧ (f s).protocol = s.protocol ∧ (f s).phase = s.phase) :
    Keeps Asking (modify f : Handler L Unit) := by
  refine keeps_of_state fun s hs => ?_
  have hcreated : (f s).created = s.created := congrArg (fun x => x.2.2.1) (hf s).1
  refine ⟨hs.1.settled (settled_frames.modify hf s), ?_⟩
  show (f s).created = 0 ∨ ¬ SocksProtocol (f s).protocol
  rw [hcreated, (hf s).2.1]
  exact hs.2

theorem asking_tcp_close : Keeps Asking (tcpClose : Handler L Unit) :=
  Respects.get.bind fun _ => .ite (.emit trivial) (.fail _)

theorem asking_request_target (msg : Message) :
    Keeps Asking (requestTarget msg : Handler L Unit) := by
  refine keeps_of_state fun s hs => ?_
  have hhttp : ∀ p, p = (if msg.method = text "CONNECT" then Protocol.httpsConnect
      else .httpPlain) → ¬ SocksProtocol p := by
    rintro p rfl
    split <;> simp [SocksProtocol]
  cases hhost : s.targetHost.isEmpty with
  | true =>
      have hrun : (requestTarget msg).run s = tcpClose.run s := by
        show (if s.targetHost.isEmpty then tcpClose else _ : Handler L Unit).run s = _
        rw [if_pos hhost]
      rw [hrun]
      exact asking_tcp_close.state hs
  | false =>
      have hrun : (requestTarget msg).run s = requestRemoteConnect.run { s with
          protocol := if msg.method = text "CONNECT" then .httpsConnect else .httpPlain } := by
        show (if s.targetHost.isEmpty then tcpClose else _ : Handler L Unit).run s = _
        rw [if_neg (by simp [hhost])]
        rfl
      rw [hrun, run_request_remote_connect]
      exact ⟨.of_connecting rfl fun hsocks => absurd hsocks (hhttp _ rfl), .inr (hhttp _ rfl)⟩

theorem asking_on_request_headers (msg : Message) :
    Keeps Asking (onRequestHeaders msg : Handler L Unit) := by
  have hnext : ∀ f : Socks5Session L → Socks5Session L, (∀ s, (f s).core = s.core ∧
      (f s).protocol = s.protocol ∧ (f s).phase = s.phase) → Keeps Asking (do
        modify f
        requestTarget msg : Handler L Unit) :=
    fun f hf => (asking_modify hf).bind fun _ => asking_request_target msg
  refine Respects.bind (asking_modify ?_) fun _ => ?_
  · exact fun _ => ⟨rfl, rfl, rfl⟩
  · split
    · split
      · exact hnext _ fun _ => ⟨rfl, rfl, rfl⟩
      · exact Respects.fail _
    · exact hnext _ fun _ => ⟨rfl, rfl, rfl⟩

theorem asking_feed_request (data : Bytes) :
    Keeps Asking (requestSlot.feed requestCallbacks data : Handler L Bool) := by
  refine HttpSlot.respects_feed _ _ (fun s p hs => ?_) ?_ ?_ ?_ ?_ ?_ data
  · exact ⟨⟨hs.1.early, hs.1.socks⟩, hs.2⟩
  · rintro f m ⟨⟩
    exact asking_on_request_headers m
  · exact fun f data h => by cases h
  · exact fun f h => by cases h
  · rintro f code reason ⟨⟩
    exact asking_tcp_close
  · exact fun f data h => by cases h

theorem single_consume_pending (data : Bytes) :
    Single (consumePending data : Handler L Unit) := by
  refine Single.bind (single_consume_loop _ _ _) fun _ => Triple.get_bind fun s => ?_
  by_cases hphase : s.phase = .waitHttpRequestHeaders
  · rw [if_pos hphase]
    rintro t ⟨rfl, ht⟩
    have hask : Asking t := by
      refine ⟨ht, .inl (ht.early ?_ ?_ ?_)⟩ <;> simp [hphase]
    have hfeed : Keeps Asking (do
        let _ ← requestSlot.feed requestCallbacks data
        modify fun s => { s with pendingBuf := s.pendingBuf ++ [data] } : Handler L Unit) :=
      (asking_feed_request data).bind fun _ => asking_modify fun _ => ⟨rfl, rfl, rfl⟩
    exact (hfeed.state hask).1
  · rw [if_neg hphase]
    exact fun t ht => ht.2

theorem single_process_data (data : Bytes) : Single (processData data : Handler L Unit) := by
  refine Triple.get_bind fun s => ?_
  have hweak : ∀ {x : Handler L Unit}, Single x →
      Triple (fun t => t = s ∧ SingleStream t) x fun t _ _ => SingleStream t :=
    fun hx => hx.mono (fun _ h => h.2) fun _ _ _ h => h
  cases s.phase with
  | connected =>
      cases s.protocol with
      | socks5Connect | httpPlain | httpsConnect =>
          exact hweak (single_of_settled (settled_frames.mux_send_data data))
      | unknown | udpAssociate => exact hweak (single_of_settled (settled_frames.relates_pure ()))
      | other => exact hweak (single_of_settled (settled_frames.relates_pure ()))
  | closed =>
      exact hweak (single_of_settled
        (.ite settled_frames.tcp_close (settled_frames.relates_pure ())))
  | _ => exact hweak (single_consume_pending data)

/-- Every event leaves a session with one stream at most with one at most. -/
theorem single_handle (e : ClientEvent) : Single (handle e : Handler L Unit) := by
  by_cases he : ∃ data, e = .browserData data
  · obtain ⟨data, rfl⟩ := he
    refine Single.bind (single_of_settled (settled_frames.modify ?_)) fun _ => ?_
    · exact fun _ => ⟨rfl, rfl, rfl⟩
    have hread : Single (do
        processData data
        modify fun s => { s with reading := true } : Handler L Unit) :=
      Single.bind (single_process_data data) fun _ =>
        single_of_settled (settled_frames.modify fun _ => ⟨rfl, rfl, rfl⟩)
    intro s hs
    rw [swallow_state]
    exact hread s hs
  · exact single_of_settled (settled_handle fun data h => he ⟨data, h⟩)

end Socks5Session

end RtcVpn
