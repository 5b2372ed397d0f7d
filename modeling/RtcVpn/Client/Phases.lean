import RtcVpn.Client.Socks5Session

/-!
# The phases of a client session

What the phase says about the other members, `Orderly`, and what one read of
the browser's socket does in each phase. While a session is still shaking hands
it has no stream, and it sends no data; `consume_pending` leaves this state
only by sending a `SYN`, by closing or by an exception.
-/

namespace RtcVpn

namespace Socks5Session

open Effect

variable {L : Llhttp}

/-- The protocols of the two SOCKS5 commands. -/
def SocksProtocol (p : Protocol) : Prop := p = .socks5Connect ∨ p = .udpAssociate

/-- What the phase says about the stream and the protocol of a session. -/
def Orderly (s : Socks5Session L) : Prop :=
  match s.phase with
  | .waitGreetingVersion | .waitSocksMethods | .waitHttpRequestHeaders => s.session = none
  | .waitSocksTCP | .waitSocksUDP | .waitSocksIpv4 | .waitSocksDomain =>
      s.session = none ∧ SocksProtocol s.protocol
  | .waitSocksUdpAddr => False
  | .connecting | .connected => s.session.isSome = true
  | .closed => True

/-- An action other than `send_data`. -/
def NoData : ClientAction → Prop
  | .sendData _ _ _ => False
  | _ => True

/-- A handshake that was in phase `start` is under way or has just ended in a phase other than
`Connected`. -/
structure Shaking (start : Phase) (pending : List Bytes) (reading : Bool)
    (s : Socks5Session L) : Prop where
  orderly : Orderly s
  pendingBuf : s.pendingBuf = pending
  reading : s.reading = reading
  greeted : s.phase ≠ .waitGreetingVersion
  unconnected : s.phase ≠ .connected
  socks : s.phase = .connecting → SocksProtocol s.protocol
  refused : s.phase = .closed → s.session = none
  http : s.phase = .waitHttpRequestHeaders → start = .waitGreetingVersion

/-- An HTTP request is being read, or its `SYN` has been sent. -/
structure Requesting (pending : List Bytes) (reading : Bool) (s : Socks5Session L) : Prop where
  phase : (s.phase = .waitHttpRequestHeaders ∧ s.session = none) ∨
    (s.phase = .connecting ∧ s.session.isSome = true)
  pendingBuf : s.pendingBuf = pending
  reading : s.reading = reading

variable {start : Phase} {pending : List Bytes} {reading : Bool}

theorem Requesting.orderly {s : Socks5Session L} (h : Requesting pending reading s) :
    Orderly s := by
  rcases h.phase with ⟨hphase, hsession⟩ | ⟨hphase, hsession⟩ <;>
    simpa [Orderly, hphase] using hsession

/-- A session that waits for request headers has no stream yet. -/
theorem Shaking.requesting {s : Socks5Session L} (h : Shaking start pending reading s)
    (hphase : s.phase = .waitHttpRequestHeaders) : Requesting pending reading s where
  phase := .inl ⟨hphase, by simpa [Orderly, hphase] using h.orderly⟩
  pendingBuf := h.pendingBuf
  reading := h.reading

/-! ## The handlers of the handshake -/

/-- A state in which the handler of a phase is called. -/
def Awaits (p : Phase) (pending : List Bytes) (reading : Bool) (s : Socks5Session L) : Prop :=
  s.phase = p ∧ Orderly s ∧ s.pendingBuf = pending ∧ s.reading = reading

/-- What a handler of the handshake ends in. -/
def ShakesOn (start : Phase) (pending : List Bytes) (reading : Bool) (s : Socks5Session L)
    (out : List ClientAction) (_ : Except ClientFault Nat) : Prop :=
  Shaking start pending reading s ∧ ∀ a ∈ out, NoData a

/-- Once a handler has chosen a phase of the SOCKS5 handshake, or none. -/
theorem Shaking.of_phase {s : Socks5Session L} (horderly : Orderly s)
    (hpending : s.pendingBuf = pending) (hreading : s.reading = reading)
    (hphase : s.phase = .waitSocksMethods ∨ s.phase = .waitSocksTCP ∨ s.phase = .waitSocksUDP ∨
      s.phase = .waitSocksIpv4 ∨ s.phase = .waitSocksDomain ∨
      (s.phase = .closed ∧ s.session = none)) : Shaking start pending reading s := by
  rcases hphase with h | h | h | h | h | ⟨h, hsession⟩ <;>
    exact ⟨horderly, hpending, hreading, by simp [h], by simp [h], by simp [h], by simp [*],
      by simp [h]⟩

theorem triple_handle_greeting_version :
    Triple (Awaits .waitGreetingVersion pending reading)
      (handleGreetingVersion : Handler L Nat)
      (ShakesOn .waitGreetingVersion pending reading) := by
  intro s ⟨hphase, horderly, hpending, hreading⟩
  have hsession : s.session = none := by simpa [Orderly, hphase] using horderly
  by_cases hbyte : s.readBuf 0 = 0x05
  · cases htcp : s.tcpSocket <;> simp [handleGreetingVersion, tcpSend, hbyte, htcp] <;>
      exact ⟨.of_phase hsession hpending hreading (by simp), by simp [NoData]⟩
  · simp [handleGreetingVersion, hbyte]
    exact ⟨⟨hsession, hpending, hreading, by simp, by simp, by simp, by simp, fun _ => rfl⟩,
      by simp⟩

theorem triple_handle_socks_methods :
    Triple (Awaits .waitSocksMethods pending reading)
      (handleSocksMethods : Handler L Nat) (ShakesOn start pending reading) := by
  intro s ⟨hphase, horderly, hpending, hreading⟩
  have hsession : s.session = none := by simpa [Orderly, hphase] using horderly
  by_cases hconnect : s.readBuf 1 = 0x01
  · simp [handleSocksMethods, hconnect]
    exact ⟨.of_phase ⟨hsession, .inl rfl⟩ hpending hreading (by simp), by simp⟩
  · by_cases hudp : s.readBuf 1 = 0x03
    · simp [handleSocksMethods, hudp]
      exact ⟨.of_phase ⟨hsession, .inr rfl⟩ hpending hreading (by simp), by simp⟩
    · cases htcp : s.tcpSocket <;>
        simp [handleSocksMethods, hconnect, hudp, sendSocksReply, tcpSend, htcp] <;>
        exact ⟨.of_phase trivial hpending hreading (by simp [hsession]), by simp [NoData]⟩

theorem triple_handle_socks_tcp_udp {p : Phase} (hp : p = .waitSocksTCP ∨ p = .waitSocksUDP) :
    Triple (Awaits p pending reading)
      (handleSocksTcpUdp : Handler L Nat) (ShakesOn start pending reading) := by
  intro s ⟨hphase, horderly, hpending, hreading⟩
  have hopen : s.session = none ∧ SocksProtocol s.protocol := by
    rcases hp with rfl | rfl <;> simpa [Orderly, hphase] using horderly
  have hsame : Shaking start pending reading s := by
    refine .of_phase horderly hpending hreading ?_
    rcases hp with rfl | rfl <;> simp [hphase]
  by_cases hipv4 : s.readBuf 3 = 0x01
  · simp [handleSocksTcpUdp, hipv4]
    exact ⟨.of_phase hopen hpending hreading (by simp), by simp⟩
  · by_cases hdomain : s.readBuf 3 = 0x03
    · simp [handleSocksTcpUdp, hdomain]
      exact ⟨.of_phase hopen hpending hreading (by simp), by simp⟩
    · cases htcp : s.tcpSocket <;>
        simp [handleSocksTcpUdp, hipv4, hdomain, sendSocksReply, tcpSend, htcp]
      · exact ⟨hsame, by simp⟩
      · exact ⟨.of_phase trivial hpending hreading (by simp [hopen.1]), by simp [NoData]⟩

theorem triple_handle_socks_ipv4 :
    Triple (Awaits .waitSocksIpv4 pending reading)
      (handleSocksIpv4 : Handler L Nat) (ShakesOn start pending reading) := by
  intro s ⟨hphase, horderly, hpending, hreading⟩
  have hopen : s.session = none ∧ SocksProtocol s.protocol := by
    simpa [Orderly, hphase] using horderly
  simp [handleSocksIpv4, requestRemoteConnect]
  exact ⟨⟨rfl, hpending, hreading, by simp, by simp, fun _ => hopen.2, by simp, by simp⟩,
    by simp [NoData]⟩

theorem triple_handle_socks_domain :
    Triple (Awaits .waitSocksDomain pending reading)
      (handleSocksDomain : Handler L Nat) (ShakesOn start pending reading) := by
  intro s ⟨hphase, horderly, hpending, hreading⟩
  have hopen : s.session = none ∧ SocksProtocol s.protocol := by
    simpa [Orderly, hphase] using horderly
  simp [handleSocksDomain, requestRemoteConnect]
  exact ⟨⟨rfl, hpending, hreading, by simp, by simp, fun _ => hopen.2, by simp, by simp⟩,
    by simp [NoData]⟩

/-- The handler of a phase takes the handshake on; only the first one leaves it for HTTP. -/
theorem triple_handler {p : Phase} {handler : Handler L Nat} (hp : handlerOf p = some handler)
    (hstart : p = .waitGreetingVersion → start = .waitGreetingVersion) :
    Triple (Awaits p pending reading) handler (ShakesOn start pending reading) := by
  cases p <;> cases hp
  · rw [hstart rfl]
    exact triple_handle_greeting_version
  · exact triple_handle_socks_methods
  · exact triple_handle_socks_tcp_udp (.inl rfl)
  · exact triple_handle_socks_tcp_udp (.inr rfl)
  · exact triple_handle_socks_ipv4
  · exact triple_handle_socks_domain

/-! ## The loop -/

theorem respects_tcp_close {I : Socks5Session L → Prop} : Respects I NoData tcpClose :=
  Respects.get.bind fun _ => Respects.ite (Respects.emit trivial) (Respects.fail _)

/-- The loop does nothing in a phase that has no handler. -/
theorem run_consume_loop_none {s : Socks5Session L}
    (h : (handlerOf s.phase : Option (Handler L Nat)) = none)
    (len turns consumed : Nat) :
    (consumeLoop len turns consumed).run s = ⟨s, [], .ok ()⟩ := by
  cases turns with
  | zero => rfl
  | succ turns => simp [consumeLoop, h]

/-- One turn of the loop, in a phase that has a handler. -/
theorem triple_turn {p : Phase} {handler : Handler L Nat} (hp : handlerOf p = some handler)
    (hstart : p = .waitGreetingVersion → start = .waitGreetingVersion)
    {rest : Nat → Handler L Unit}
    (hrest : ∀ n, Respects (Shaking start pending reading) NoData (rest n)) :
    Triple (Awaits p pending reading)
      (handler >>= fun n => get >>= fun t => if t.phase = .closed then tcpClose else rest n)
      fun t out _ => Shaking start pending reading t ∧ ∀ a ∈ out, NoData a := by
  refine Triple.bind (triple_handler hp hstart) (fun as n s hs => ?_) fun s as e hs => hs
  have hgo : Respects (Shaking start pending reading) NoData
      (get >>= fun t => if t.phase = .closed then tcpClose else rest n) :=
    Respects.get.bind fun t => Respects.ite respects_tcp_close (hrest n)
  refine ⟨hgo.state hs.1, fun a ha => ?_⟩
  rcases List.mem_append.mp ha with h | h
  · exact hs.2 a h
  · exact hgo.actions hs.1 a h

/-- The loop keeps a handshake under way, and sends no data. -/
theorem respects_consume_loop (len turns consumed : Nat) :
    Respects (Shaking start pending reading) NoData
      (consumeLoop len turns consumed : Handler L Unit) := by
  induction turns generalizing consumed with
  | zero => exact Respects.pure ()
  | succ turns ih =>
      refine Triple.get_bind fun s => ?_
      intro s' ⟨hs', hshaking⟩
      subst hs'
      cases hp : (handlerOf s'.phase : Option (Handler L Nat)) with
      | none => exact ⟨hshaking, by simp⟩
      | some handler =>
          show Shaking start pending reading _ ∧ _
          dsimp only
          split
          · exact ⟨hshaking, by simp⟩
          · exact triple_turn hp (fun h => absurd h hshaking.greeted)
              (fun n => ih (consumed + n)) s'
              ⟨rfl, hshaking.orderly, hshaking.pendingBuf, hshaking.reading⟩

/-- The loop over a read that is not empty takes the handshake on from any of its phases. -/
theorem triple_consume_loop {p : Phase} {handler : Handler L Nat}
    (hp : handlerOf p = some handler) {len turns : Nat} (hlen : 0 < len) :
    Triple (Awaits p pending reading) (consumeLoop len (turns + 1) 0 : Handler L Unit)
      fun t out _ => Shaking p pending reading t ∧ ∀ a ∈ out, NoData a := by
  refine Triple.get_bind fun s => ?_
  intro s' ⟨hs', hawaits⟩
  subst hs'
  have hphase : (handlerOf s'.phase : Option (Handler L Nat)) = some handler := by
    rw [hawaits.1, hp]
  simp only [hphase, ge_iff_le, Nat.not_le.mpr hlen, if_false]
  exact triple_turn hp id (fun n => respects_consume_loop len turns (0 + n)) s' hawaits

/-! ## The request parser -/

theorem respects_request_remote_connect :
    Triple (fun s : Socks5Session L => s.pendingBuf = pending ∧ s.reading = reading)
      requestRemoteConnect fun t out _ => Requesting pending reading t ∧ ∀ a ∈ out, NoData a := by
  intro s ⟨hpending, hreading⟩
  simp [requestRemoteConnect]
  exact ⟨⟨.inr ⟨rfl, rfl⟩, hpending, hreading⟩, by simp [NoData]⟩

theorem respects_request_target (msg : Message) :
    Respects (Requesting pending reading) NoData (requestTarget msg : Handler L Unit) := by
  refine Respects.get.bind fun _ => Respects.ite respects_tcp_close ?_
  intro s hs
  exact respects_request_remote_connect _ ⟨hs.pendingBuf, hs.reading⟩

/-- Writing members that the invariant does not speak of. -/
theorem Requesting.of_eq {s t : Socks5Session L} (h : Requesting pending reading s)
    (hphase : t.phase = s.phase) (hsession : t.session = s.session)
    (hpending : t.pendingBuf = s.pendingBuf) (hreading : t.reading = s.reading) :
    Requesting pending reading t where
  phase := by rw [hphase, hsession]; exact h.phase
  pendingBuf := hpending.trans h.pendingBuf
  reading := hreading.trans h.reading

theorem respects_on_request_headers (msg : Message) :
    Respects (Requesting pending reading) NoData (onRequestHeaders msg : Handler L Unit) := by
  refine (Respects.modify fun s hs => hs.of_eq rfl rfl rfl rfl).bind fun _ => ?_
  split
  · split
    · exact (Respects.modify fun s hs => hs.of_eq rfl rfl rfl rfl).bind fun _ =>
        respects_request_target msg
    · exact Respects.fail _
  · exact (Respects.modify fun s hs => hs.of_eq rfl rfl rfl rfl).bind fun _ =>
      respects_request_target msg

/-- Feeding the request parser. -/
theorem respects_request_feed (data : Bytes) :
    Respects (Requesting pending reading) NoData
      (requestSlot.feed requestCallbacks data : Handler L Bool) := by
  refine HttpSlot.respects_feed _ _ (fun s p hs => hs.of_eq rfl rfl rfl rfl) ?_ ?_ ?_ ?_ ?_ data
  · intro f msg hf
    cases hf
    exact respects_on_request_headers msg
  · intro f data hf
    cases hf
  · intro f hf
    cases hf
  · intro f code reason hf
    cases hf
    exact respects_tcp_close
  · intro f data hf
    cases hf

/-! ## One read -/

/-- How `consume_pending` ends, begun in phase `start` with no stream: it has sent no data, and if
it returns then the read is kept exactly when the HTTP parser was fed. -/
structure Consumed (start : Phase) (pending : List Bytes) (reading : Bool) (data : Bytes)
    (t : Socks5Session L) (out : List ClientAction) (r : Except ClientFault Unit) : Prop where
  orderly : Orderly t
  reading : t.reading = reading
  greeted : t.phase ≠ .waitGreetingVersion
  unconnected : t.phase ≠ .connected
  refused : t.phase = .closed → t.session = none
  noData : ∀ a ∈ out, NoData a
  kept : r = .ok () →
    (t.pendingBuf = pending ∧ t.phase ≠ .waitHttpRequestHeaders ∧
      (t.phase = .connecting → SocksProtocol t.protocol)) ∨
    (t.pendingBuf = pending ++ [data] ∧
      (start = .waitGreetingVersion ∨ start = .waitHttpRequestHeaders))

/-- The HTTP branch of `consume_pending`. -/
def feedRequest (data : Bytes) : Handler L Unit := do
  let s ← get
  if s.phase = .waitHttpRequestHeaders then do
    let _ ← requestSlot.feed requestCallbacks data
    modify fun s => { s with pendingBuf := s.pendingBuf ++ [data] }
  else pure ()

theorem consume_pending_eq (data : Bytes) :
    (consumePending data : Handler L Unit) =
      (consumeLoop data.length data.length 0 >>= fun _ => feedRequest data) := rfl

theorem triple_feed_request
    (hstart : start = .waitGreetingVersion ∨ start = .waitHttpRequestHeaders) (data : Bytes) :
    Triple (fun s : Socks5Session L => s.phase = .waitHttpRequestHeaders ∧
      Requesting pending reading s) (feedRequest data) (Consumed start pending reading data) := by
  refine Triple.get_bind fun s => ?_
  intro s' ⟨hs', hphase, hrequesting⟩
  subst hs'
  rw [if_pos hphase]
  have hkept : Respects (Requesting pending reading) NoData
      (requestSlot.feed requestCallbacks data : Handler L Bool) := respects_request_feed data
  have hfeed := hkept s' hrequesting
  rw [run_bind]
  generalize Effect.run (requestSlot.feed requestCallbacks data) s' = o at hfeed ⊢
  obtain ⟨t, as, r⟩ := o
  obtain ⟨ht, hdata⟩ : Requesting pending reading t ∧ ∀ a ∈ as, NoData a := hfeed
  have hgreeted : t.phase ≠ .waitGreetingVersion := by
    rcases ht.phase with ⟨h, _⟩ | ⟨h, _⟩ <;> simp [h]
  have hunconnected : t.phase ≠ .connected := by
    rcases ht.phase with ⟨h, _⟩ | ⟨h, _⟩ <;> simp [h]
  have hrefused : t.phase = .closed → t.session = none := by
    rcases ht.phase with ⟨h, _⟩ | ⟨h, _⟩ <;> simp [h]
  cases r with
  | error e =>
      exact ⟨ht.orderly, ht.reading, hgreeted, hunconnected, hrefused, hdata, fun h => by cases h⟩
  | ok b =>
      have hpushed : Requesting (pending ++ [data]) reading
          { t with pendingBuf := t.pendingBuf ++ [data] } :=
        ⟨ht.phase, by rw [ht.pendingBuf], ht.reading⟩
      exact ⟨hpushed.orderly, ht.reading, hgreeted, hunconnected, hrefused, by simpa using hdata,
        fun _ => .inr ⟨hpushed.pendingBuf, hstart⟩⟩

/-- `consume_pending` in a phase of the SOCKS5 handshake. -/
theorem triple_consume_pending {p : Phase} {handler : Handler L Nat}
    (hp : handlerOf p = some handler) {data : Bytes} (hdata : 0 < data.length) :
    Triple (Awaits p pending reading) (consumePending data : Handler L Unit)
      (Consumed p pending reading data) := by
  obtain ⟨turns, hturns⟩ : ∃ turns, data.length = turns + 1 := ⟨data.length - 1, by omega⟩
  rw [consume_pending_eq, hturns]
  refine Triple.bind (triple_consume_loop hp (by omega)) (fun as _ s hs => ?_) fun s as e hs => ?_
  · obtain ⟨hshaking, hnone⟩ := hs
    by_cases hphase : s.phase = .waitHttpRequestHeaders
    · have hfed := triple_feed_request (.inl (hshaking.http hphase)) data s
        ⟨hphase, hshaking.requesting hphase⟩
      refine ⟨hfed.orderly, hfed.reading, hfed.greeted, hfed.unconnected, hfed.refused,
        fun a ha => ?_, hfed.kept⟩
      rcases List.mem_append.mp ha with h | h
      · exact hnone a h
      · exact hfed.noData a h
    · simp only [feedRequest, run_bind, run_get, andThen_ok, hphase, if_false, run_pure,
        List.append_nil]
      exact ⟨hshaking.orderly, hshaking.reading, hshaking.greeted, hshaking.unconnected,
        hshaking.refused, hnone, fun _ => .inl ⟨hshaking.pendingBuf, hphase, hshaking.socks⟩⟩
  · obtain ⟨hshaking, hnone⟩ := hs
    exact ⟨hshaking.orderly, hshaking.reading, hshaking.greeted, hshaking.unconnected,
      hshaking.refused, hnone, fun h => by cases h⟩

/-- `consume_pending` while request headers are read. -/
theorem triple_consume_pending_http (data : Bytes) :
    Triple (Awaits .waitHttpRequestHeaders pending reading) (consumePending data : Handler L Unit)
      (Consumed .waitHttpRequestHeaders pending reading data) := by
  intro s ⟨hphase, horderly, hpending, hreading⟩
  have hloop := run_consume_loop_none (L := L) (s := s) (by rw [hphase]; rfl)
    data.length data.length 0
  have hsession : s.session = none := by simpa [Orderly, hphase] using horderly
  have hfed := triple_feed_request (.inr rfl) data s
    ⟨hphase, .inl ⟨hphase, hsession⟩, hpending, hreading⟩
  rw [consume_pending_eq, run_bind, hloop]
  simpa using hfed

/-- `consume_pending` while the answer to the `SYN` is awaited: nothing happens. -/
theorem run_consume_pending_connecting {s : Socks5Session L} (h : s.phase = .connecting)
    (data : Bytes) : (consumePending data).run s = ⟨s, [], .ok ()⟩ := by
  have hloop := run_consume_loop_none (L := L) (s := s) (by rw [h]; rfl) data.length data.length 0
  rw [consume_pending_eq, run_bind, hloop]
  simp [feedRequest, h]

/-! ## Events -/

/-- The session once bytes have been read into the receive buffer. -/
def received (data : Bytes) (s : Socks5Session L) : Socks5Session L :=
  { s with readBuf := overlay data s.readBuf, reading := false }

/-- A data callback that returns lets the next read begin; one that throws does not. -/
theorem run_browser_data {s t : Socks5Session L} {data : Bytes} {out : List ClientAction}
    (h : (handle (.browserData data)).run s = ⟨t, out, .ok ()⟩) :
    ∃ u r, (processData data).run (received data s) = ⟨u, out, r⟩ ∧
      ((r = .ok () ∧ t = { u with reading := true }) ∨ (r = .error .exception ∧ t = u)) := by
  have hrun : (handle (.browserData data)).run s =
      (swallow (· == .exception) (processData data >>= fun _ =>
        modify fun s => { s with reading := true })).run (received data s) := rfl
  rw [hrun] at h
  have hstate := congrArg Outcome.state h
  have hactions := congrArg Outcome.actions h
  have hresult := congrArg Outcome.result h
  rw [swallow_state, run_bind] at hstate
  rw [swallow_actions, run_bind] at hactions
  rw [swallow_result, run_bind] at hresult
  generalize (processData data).run (received data s) = o at hstate hactions hresult
  obtain ⟨u, as, r⟩ := o
  cases r with
  | ok b =>
      simp only [andThen_ok, run_modify, List.append_nil] at hstate hactions
      exact ⟨u, .ok (), by rw [hactions], .inl ⟨rfl, hstate.symm⟩⟩
  | error e =>
      simp only [andThen_error] at hstate hactions hresult
      by_cases he : e = .exception
      · subst he
        exact ⟨u, .error .exception, by rw [hactions], .inr ⟨rfl, hstate.symm⟩⟩
      · rw [if_neg (by simpa using he)] at hresult
        cases hresult

/-- A read whose processing returns. -/
theorem run_browser_data_ok {s u : Socks5Session L} {data : Bytes} {out : List ClientAction}
    (h : (processData data).run (received data s) = ⟨u, out, .ok ()⟩) :
    (handle (.browserData data)).run s = ⟨{ u with reading := true }, out, .ok ()⟩ := by
  have hrun : (processData data >>= fun _ => modify fun s => { s with reading := true }).run
      (received data s) = ⟨{ u with reading := true }, out, .ok ()⟩ := by
    rw [run_bind, h]
    simp
  exact run_swallow_ok hrun

/-- Before the tunnel is there, and unless the session is closed, a read goes to
`consume_pending`. -/
theorem run_process_data {s : Socks5Session L} (hconnected : s.phase ≠ .connected)
    (hclosed : s.phase ≠ .closed) (data : Bytes) :
    (processData data).run s = (consumePending data).run s := by
  cases hphase : s.phase with
  | connected => exact absurd hphase hconnected
  | closed => exact absurd hphase hclosed
  | _ => simp [processData, hphase]

/-- The frames a read leads to once the tunnel is there. -/
def forwarded (s : Socks5Session L) (data : Bytes) : List ClientAction :=
  match s.protocol, s.session with
  | .socks5Connect, some id | .httpPlain, some id | .httpsConnect, some id =>
      [.sendData id data s.protocol]
  | _, _ => []

theorem run_process_data_connected {s : Socks5Session L} {id : UInt32}
    (hphase : s.phase = .connected) (hsession : s.session = some id) (data : Bytes) :
    (processData data).run s = ⟨s, forwarded s data, .ok ()⟩ := by
  cases hprotocol : s.protocol <;>
    simp [processData, hphase, hprotocol, muxSendData, streamId, hsession, forwarded]

theorem run_process_data_closed {s : Socks5Session L} (hphase : s.phase = .closed)
    (data : Bytes) :
    (processData data).run s = ⟨s, if s.tcpSocket then [.tcpClose] else [], .ok ()⟩ := by
  cases htcp : s.tcpSocket <;> simp [processData, hphase, htcp, tcpClose]

theorem run_process_data_connecting {s : Socks5Session L} (hphase : s.phase = .connecting)
    (data : Bytes) : (processData data).run s = ⟨s, [], .ok ()⟩ := by
  rw [run_process_data (by simp [hphase]) (by simp [hphase]),
    run_consume_pending_connecting hphase]

/-- What a read leaves, begun with no stream. -/
structure ShookHands (s : Socks5Session L) (data : Bytes) (t : Socks5Session L)
    (out : List ClientAction) : Prop where
  orderly : Orderly t
  greeted : t.phase ≠ .waitGreetingVersion
  unconnected : t.phase ≠ .connected
  refused : t.phase = .closed → t.session = none
  noData : ∀ a ∈ out, NoData a
  kept : t.reading = true →
    (t.pendingBuf = s.pendingBuf ∧ t.phase ≠ .waitHttpRequestHeaders ∧
      (t.phase = .connecting → SocksProtocol t.protocol)) ∨
    (t.pendingBuf = s.pendingBuf ++ [data] ∧
      (s.phase = .waitGreetingVersion ∨ s.phase = .waitHttpRequestHeaders))

/-- What a read does, by the phase it finds. -/
theorem read_cases {s t : Socks5Session L} {data : Bytes} {out : List ClientAction}
    (h : Orderly s) (hdata : 0 < data.length)
    (hrun : (handle (.browserData data)).run s = ⟨t, out, .ok ()⟩) :
    (s.phase = .connected ∧ t = { received data s with reading := true } ∧
        out = forwarded s data) ∨
    ((s.phase = .connecting ∨ s.phase = .closed) ∧
        t = { received data s with reading := true } ∧ ∀ a ∈ out, NoData a) ∨
    (s.phase ≠ .connected ∧ s.phase ≠ .connecting ∧ s.phase ≠ .closed ∧
        ShookHands s data t out) := by
  obtain ⟨u, r, hprocess, hend⟩ := run_browser_data hrun
  have hshook : Consumed s.phase s.pendingBuf false data u out r → ShookHands s data t out := by
    intro hconsumed
    rcases hend with ⟨hr, ht⟩ | ⟨_, ht⟩
    · subst ht
      exact ⟨hconsumed.orderly, hconsumed.greeted, hconsumed.unconnected, hconsumed.refused,
        hconsumed.noData,
        fun _ => hconsumed.kept hr⟩
    · subst ht
      exact ⟨hconsumed.orderly, hconsumed.greeted, hconsumed.unconnected, hconsumed.refused,
        hconsumed.noData,
        fun hreading => absurd hreading (by simp [hconsumed.reading])⟩
  have hhandshake : ∀ {p : Phase} {handler : Handler L Nat}, s.phase = p →
      handlerOf p = some handler → p ≠ .connected → p ≠ .closed → ShookHands s data t out := by
    intro p handler hphase hp hconnected hclosed
    refine hshook ?_
    have hconsumed := triple_consume_pending hp hdata (received data s) ⟨hphase, h, rfl, rfl⟩
    subst hphase
    rwa [← run_process_data (s := received data s) hconnected hclosed, hprocess] at hconsumed
  cases hphase : s.phase with
  | connected =>
      refine .inl ⟨rfl, ?_⟩
      have hsession : s.session.isSome = true := by simpa [Orderly, hphase] using h
      obtain ⟨id, hid⟩ := Option.isSome_iff_exists.mp hsession
      rw [run_process_data_connected (s := received data s) hphase hid] at hprocess
      cases hprocess
      rcases hend with ⟨_, ht⟩ | ⟨hr, _⟩
      · exact ⟨ht, rfl⟩
      · cases hr
  | closed =>
      refine .inr (.inl ⟨.inr rfl, ?_⟩)
      rw [run_process_data_closed (s := received data s) hphase] at hprocess
      cases hprocess
      rcases hend with ⟨_, ht⟩ | ⟨hr, _⟩
      · refine ⟨ht, ?_⟩
        split <;> simp [NoData]
      · cases hr
  | connecting =>
      refine .inr (.inl ⟨.inl rfl, ?_⟩)
      rw [run_process_data_connecting (s := received data s) hphase] at hprocess
      cases hprocess
      rcases hend with ⟨_, ht⟩ | ⟨hr, _⟩
      · exact ⟨ht, by simp⟩
      · cases hr
  | waitSocksUdpAddr => exact absurd h (by simp [Orderly, hphase])
  | waitHttpRequestHeaders =>
      refine .inr (.inr ⟨by simp, by simp, by simp, hshook ?_⟩)
      have hconsumed := triple_consume_pending_http data (received data s) ⟨hphase, h, rfl, rfl⟩
      have hphase' : (received data s).phase = .waitHttpRequestHeaders := hphase
      rw [← run_process_data (by simp [hphase']) (by simp [hphase']), hprocess] at hconsumed
      rwa [hphase]
  | waitGreetingVersion | waitSocksMethods | waitSocksTCP | waitSocksUDP | waitSocksIpv4 |
    waitSocksDomain =>
      exact .inr (.inr ⟨by simp, by simp, by simp, hhandshake hphase rfl (by simp) (by simp)⟩)

/-- The close callback always returns. -/
theorem run_browser_closed (s : Socks5Session L) :
    ∃ out, (handle .browserClosed).run s =
        ⟨{ s with isClosed := true, tcpSocket := false }, out, .ok ()⟩ ∧
      ∀ a ∈ out, NoData a := by
  cases hsession : s.session <;> cases hp2p : s.isP2pClosed <;> cases hclosed : s.isClosed <;>
    cases honClose : s.onClose <;>
    simp [handle, closeSession, hsession, hp2p, hclosed, honClose, NoData]

/-- The write queue callback returns if there is a session. -/
theorem run_browser_queue {s : Socks5Session L} {id : UInt32} (hsession : s.session = some id)
    (status : WriteQueueStatus) :
    (handle (.browserQueue status)).run s =
      ⟨s, [.sendDataCtrl id (if status = .danger then .pause else .receive) s.protocol],
        .ok ()⟩ := by
  simp [handle, onWriteQueue, streamId, hsession]

theorem run_browser_queue_none {s : Socks5Session L} (hsession : s.session = none)
    (status : WriteQueueStatus) :
    (handle (.browserQueue status)).run s = ⟨s, [], .error .nullSession⟩ := by
  simp [handle, onWriteQueue, streamId, hsession]

/-- `p2p_close` always returns. -/
theorem run_fin (s : Socks5Session L) (protocol : Protocol) :
    (handle (.fin protocol)).run s =
      ⟨{ s with isP2pClosed := true }, if s.tcpSocket then [.tcpClose] else [], .ok ()⟩ := by
  cases htcp : s.tcpSocket <;> simp [handle, p2pClose, close, tcpClose, htcp]

/-- `stop` always returns. -/
theorem run_stop (s : Socks5Session L) :
    (handle .stop).run s =
      ⟨{ s with onClose := false }, if s.tcpSocket then [.tcpClose] else [], .ok ()⟩ := by
  cases htcp : s.tcpSocket <;> simp [handle, close, tcpClose, htcp]

/-- A `DATA` frame leaves everything alone but the response parser, and has only the browser's
socket and the relay do something. -/
theorem respects_data {I : Socks5Session L → Prop} {A : ClientAction → Prop}
    (hwrite : ∀ s p, I s → I { s with httpResponseParser := p }) (hsend : ∀ data, A (.tcpSend data))
    (hclose : A .tcpClose) (hrelay : ∀ data, A (.revP2pData data)) (payload : Bytes)
    (protocol : Protocol) : Respects I A (handle (.data payload protocol)) := by
  have htcpSend : ∀ data, Respects I A (tcpSend data) :=
    fun data => Respects.get.bind fun _ => Respects.ite (Respects.emit (hsend data))
      (Respects.fail _)
  refine Respects.swallow _ ?_
  cases protocol with
  | udpAssociate =>
      exact Respects.get.bind fun s => Respects.ite (Respects.emit (hrelay _)) (Respects.fail _)
  | socks5Connect | httpsConnect => exact htcpSend payload
  | unknown | other => exact Respects.pure ()
  | httpPlain =>
      refine (HttpSlot.respects_feed _ _ hwrite ?_ ?_ ?_ ?_ ?_ payload).bind fun _ =>
        Respects.pure ()
      · intro f msg hf
        cases hf
        exact htcpSend _
      · intro f data hf
        cases hf
        exact Respects.get.bind fun s => Respects.ite (htcpSend _) (htcpSend _)
      · intro f hf
        cases hf
        exact Respects.get.bind fun s => Respects.ite (htcpSend _) (Respects.pure ())
      · intro f code reason hf
        cases hf
        exact Respects.get.bind fun _ => Respects.ite (Respects.emit hclose) (Respects.fail _)
      · intro f data hf
        cases hf

/-- Sending data needs the session's stream and changes nothing. -/
theorem run_mux_send_data {s : Socks5Session L} {id : UInt32} (hsession : s.session = some id)
    (data : Bytes) :
    (muxSendData data).run s = ⟨s, [.sendData id data s.protocol], .ok ()⟩ := by
  simp [muxSendData, streamId, hsession]

/-- Flushing buffers needs the session's stream. -/
theorem run_for_each_send {s : Socks5Session L} {id : UInt32} (hsession : s.session = some id)
    (bufs : List Bytes) :
    (forEach bufs muxSendData).run s =
      ⟨s, bufs.map fun buf => .sendData id buf s.protocol, .ok ()⟩ := by
  induction bufs with
  | nil => rfl
  | cons buf bufs ih => simp [run_mux_send_data hsession, ih]

/-- A `SYNACK` frame keeps the stream and agrees with the phase it sets. -/
theorem keeps_synack {id : UInt32} (ok : Bool) (protocol : Protocol)
    (relay : Option (AddressV4 × UInt16)) :
    Keeps (fun s : Socks5Session L => Orderly s ∧ s.session = some id)
      (handle (.synack ok protocol relay)) := by
  have hsend : ∀ data, Keeps (fun s : Socks5Session L => Orderly s ∧ s.session = some id)
      (tcpSend data) := fun data =>
    Respects.get.bind fun _ => Respects.ite (Respects.emit trivial) (Respects.fail _)
  have hclose : Keeps (fun s : Socks5Session L => Orderly s ∧ s.session = some id) tcpClose :=
    Respects.get.bind fun _ => Respects.ite (Respects.emit trivial) (Respects.fail _)
  have hreply : Keeps (fun s : Socks5Session L => Orderly s ∧ s.session = some id)
      (replyToBrowser ok protocol relay) := by
    cases protocol with
    | udpAssociate =>
        refine Respects.ite (hsend _) ((Respects.get.bind fun s => ?_).bind fun _ => ?_)
        · refine Respects.ite (Respects.pure ())
            (Respects.bind (Respects.modify fun s hs => ?_) fun _ => Respects.emit trivial)
          exact hs
        · cases relay with
          | none => exact Respects.fail _
          | some endpoint => exact hsend _
    | httpPlain =>
        refine Respects.get.bind fun s => Respects.ite ?_ (hsend _)
        refine (Respects.forEach _ fun data => ?_).bind fun _ => Respects.modify fun s hs => hs
        refine keeps_of_state fun s hs => ?_
        rw [run_mux_send_data hs.2]
        exact hs
    | socks5Connect | httpsConnect => exact hsend _
    | unknown | other => exact Respects.pure ()
  refine Respects.swallow _ (hreply.bind fun _ => Respects.ite ?_ ?_)
  · exact (Respects.modify fun s hs => ⟨trivial, hs.2⟩).bind fun _ => hclose
  · exact Respects.modify fun s hs => ⟨by simp [Orderly, hs.2], hs.2⟩

/-- A read is not empty. -/
theorem length_pos_of_enabled {s : Socks5Session L} {data : Bytes}
    (h : enabled s (.browserData data) = true) : 0 < data.length := by
  simp only [enabled, Bool.and_eq_true, Bool.not_eq_true', List.isEmpty_eq_false_iff] at h
  exact List.length_pos_iff.mpr h.1.2

/-- In the phases of the handshake there is no stream yet. -/
theorem Orderly.session_none {s : Socks5Session L} (h : Orderly s)
    (hconnected : s.phase ≠ .connected)
    (hconnecting : s.phase ≠ .connecting) (hclosed : s.phase ≠ .closed) : s.session = none := by
  cases hphase : s.phase <;> simp [Orderly, hphase] at h hconnected hconnecting hclosed <;>
    simp [h]

/-- Once there is a stream the handshake is over. -/
theorem Orderly.phase_of_session {s : Socks5Session L} (h : Orderly s)
    (hsession : s.session.isSome = true) :
    s.phase = .connected ∨ s.phase = .connecting ∨ s.phase = .closed := by
  by_contra hnot
  simp only [not_or] at hnot
  rw [h.session_none hnot.1 hnot.2.1 hnot.2.2] at hsession
  cases hsession

/-- Every step of a session agrees with its phase, and once there is a stream it stays. -/
theorem orderly_step {s t : Socks5Session L} {e : ClientEvent} {out : List ClientAction}
    (h : Orderly s) (hstep : (socks5Session L).step (.ok s) e = some (.ok t, out)) :
    Orderly t ∧ ∀ id, s.session = some id → t.session = some id := by
  obtain ⟨s', hs', henabled, hrun⟩ := machine_step_alive hstep
  cases hs'
  cases e with
  | browserData data =>
      rcases read_cases h (length_pos_of_enabled henabled) hrun with
        ⟨_, rfl, _⟩ | ⟨_, rfl, _⟩ | ⟨hconnected, hconnecting, hclosed, hshook⟩
      · exact ⟨h, fun id hid => hid⟩
      · exact ⟨h, fun id hid => hid⟩
      · refine ⟨hshook.orderly, fun id hid => ?_⟩
        rw [h.session_none hconnected hconnecting hclosed] at hid
        cases hid
  | browserClosed =>
      obtain ⟨out', hclosed, _⟩ := run_browser_closed s
      rw [hrun] at hclosed
      cases hclosed
      exact ⟨h, fun id hid => hid⟩
  | browserQueue status =>
      cases hsession : s.session with
      | none =>
          rw [run_browser_queue_none hsession] at hrun
          cases hrun
      | some id =>
          rw [run_browser_queue hsession] at hrun
          cases hrun
          exact ⟨h, fun id' hid => hsession.trans hid⟩
  | synack ok protocol relay =>
      obtain ⟨id, hid⟩ := Option.isSome_iff_exists.mp henabled
      have hkept := (keeps_synack ok protocol relay).state ⟨h, hid⟩
      rw [hrun] at hkept
      refine ⟨hkept.1, fun id' hid' => ?_⟩
      rw [hid] at hid'
      cases hid'
      exact hkept.2
  | data payload protocol =>
      have hkept := (respects_data (I := fun t : Socks5Session L => Orderly t ∧
        t.session = s.session) (A := NoData) (fun s p hs => hs) (fun _ => trivial) trivial
        (fun _ => trivial) payload protocol).state ⟨h, rfl⟩
      rw [hrun] at hkept
      exact ⟨hkept.1, fun id hid => hkept.2.trans hid⟩
  | fin protocol =>
      rw [run_fin] at hrun
      cases hrun
      exact ⟨h, fun id hid => hid⟩
  | stop =>
      rw [run_stop] at hrun
      cases hrun
      exact ⟨h, fun id hid => hid⟩

/-- What agrees with its phase still does at the end of a run. -/
theorem orderly_run {s t : Socks5Session L} {es : List ClientEvent} {out : List ClientAction}
    (h : Orderly s) (hrun : (socks5Session L).run (.ok s) es = some (.ok t, out)) :
    Orderly t ∧ ∀ id, s.session = some id → t.session = some id := by
  refine Machine.run_invariant (I := fun x => ∀ u, x = .ok u →
    Orderly u ∧ ∀ id, s.session = some id → u.session = some id) ?_ ?_ hrun t rfl
  · intro x e y new hx hstep u hu
    subst hu
    obtain ⟨v, rfl, _, _⟩ := machine_step_alive hstep
    obtain ⟨hv, hkept⟩ := hx v rfl
    obtain ⟨hu, hkeeps⟩ := orderly_step hv hstep
    exact ⟨hu, fun id hid => hkeeps id (hkept id hid)⟩
  · intro u hu
    cases hu
    exact ⟨h, fun id hid => hid⟩

theorem orderly_started (sessionId : UInt32) (genStreamId : Nat → UInt32)
    (readBuf : Nat → UInt8) : Orderly (started L sessionId genStreamId readBuf) := rfl

/-- A state a session can reach from its start. -/
def Reachable (s : Socks5Session L) : Prop :=
  ∃ sessionId genStreamId readBuf es out,
    (socks5Session L).run (.ok (started L sessionId genStreamId readBuf)) es = some (.ok s, out)

theorem Reachable.orderly {s : Socks5Session L} (h : Reachable s) : Orderly s := by
  obtain ⟨sessionId, genStreamId, readBuf, es, out, hrun⟩ := h
  exact (orderly_run (orderly_started sessionId genStreamId readBuf) hrun).1

/-- A browser that asks for a SOCKS5 connection to port 80 of 10.0.0.1, in two reads. -/
def socksConnect : List ClientEvent :=
  [.browserData [0x05, 0x01, 0x00],
    .browserData [0x05, 0x01, 0x00, 0x01, 10, 0, 0, 1, 0, 80]]

end Socks5Session

end RtcVpn
