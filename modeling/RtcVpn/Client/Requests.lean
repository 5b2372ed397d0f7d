import RtcVpn.Client.Phases
import RtcVpn.Client.Streams
import RtcVpn.Client.Targets

/-!
# The requests of a read

What the callback for request headers does depends on the request's authority
alone: its port is no number and the callback throws, its host is empty and the
browser's socket is closed, or a stream is opened for it. `requestsIn` counts
the requests of the last kind among what llhttp reports of a read. A read of the
SOCKS5 handshake opens one stream at most, as the last thing it does.
-/

namespace RtcVpn

/-- The host and the port of an authority, by way of the first colon; none if `std::stoi` throws. -/
def targetOf (authority : Bytes) : Option (Bytes × UInt16) :=
  match splitAtFirst 0x3A authority with
  | some (host, port) => (stoi port).map fun n => (host, UInt16.ofInt n)
  | none => some (authority, 80)

/-- The protocol of a request's tunnel. -/
def protocolOf (msg : Message) : Protocol :=
  if msg.method = text "CONNECT" then .httpsConnect else .httpPlain

namespace HttpParser

variable {L : Llhttp}

/-- What a callback of llhttp does to a parser whose owner takes no body. -/
def onEvent : LlhttpEvent → HttpParser L → HttpParser L
  | .messageBegin => onMessageBegin
  | .url span => onUrl span
  | .status span => onStatus span
  | .headerField span => onHeaderField span
  | .headerValue span => onHeaderValue span
  | .headersComplete info => onHeadersComplete info
  | .body span => appendBody span
  | .messageComplete => fun p => { p with messageComplete := true }

/-- The streams that the requests among some callbacks open, up to one whose port throws. -/
def requestsIn : HttpParser L → List LlhttpEvent → Nat
  | _, [] => 0
  | p, .headersComplete info :: es =>
      match targetOf (Socks5Session.authorityOf (p.onHeadersComplete info).message) with
      | none => 0
      | some (host, _) => (if host.isEmpty then 0 else 1) + requestsIn (p.onHeadersComplete info) es
  | p, e :: es => requestsIn (p.onEvent e) es

/-- The protocols of these streams. -/
def protocolsIn : HttpParser L → List LlhttpEvent → List Protocol
  | _, [] => []
  | p, .headersComplete info :: es =>
      match targetOf (Socks5Session.authorityOf (p.onHeadersComplete info).message) with
      | none => []
      | some (host, _) =>
          if host.isEmpty then protocolsIn (p.onHeadersComplete info) es
          else protocolOf (p.onHeadersComplete info).message ::
            protocolsIn (p.onHeadersComplete info) es
  | p, e :: es => protocolsIn (p.onEvent e) es

theorem protocols_length (p : HttpParser L) (es : List LlhttpEvent) :
    (p.protocolsIn es).length = p.requestsIn es := by
  induction es generalizing p with
  | nil => rfl
  | cons e es ih =>
      cases e with
      | headersComplete info =>
          rw [protocolsIn, requestsIn]
          cases targetOf (Socks5Session.authorityOf (p.onHeadersComplete info).message) with
          | none => rfl
          | some target =>
              by_cases hhost : target.1.isEmpty = true
              · simp [hhost, ih]
              · simp [hhost, ih, Nat.add_comm]
      | messageBegin | url | status | headerField | headerValue | body | messageComplete =>
          exact ih _

/-- A request is for a tunnel, or it is a plain one. -/
theorem mem_protocols_in {p : HttpParser L} {es : List LlhttpEvent} {protocol : Protocol}
    (h : protocol ∈ p.protocolsIn es) : protocol = .httpsConnect ∨ protocol = .httpPlain := by
  induction es generalizing p with
  | nil => cases h
  | cons e es ih =>
      cases e with
      | headersComplete info =>
          rw [protocolsIn] at h
          cases htarget : targetOf
              (Socks5Session.authorityOf (p.onHeadersComplete info).message) with
          | none =>
              rw [htarget] at h
              cases h
          | some target =>
              rw [htarget] at h
              by_cases hhost : target.1.isEmpty = true
              · simp only [hhost, if_true] at h
                exact ih h
              · simp only [hhost, Bool.false_eq_true, if_false, List.mem_cons] at h
                rcases h with rfl | h
                · unfold protocolOf
                  split
                  · exact .inl rfl
                  · exact .inr rfl
                · exact ih h
      | messageBegin | url | status | headerField | headerValue | body | messageComplete =>
          exact ih h

end HttpParser

/-- The protocol that a `SYN` frame names. -/
def ClientAction.synProtocol : ClientAction → Option Protocol
  | .sendSyn _ _ _ protocol => some protocol
  | _ => none

/-- The bytes that the browser's socket is given to send. -/
def ClientAction.sent : ClientAction → Option Bytes
  | .tcpSend data => some data
  | _ => none

namespace Socks5Session

open Effect

variable {L : Llhttp} {β : Type}

/-! ## The callback for headers -/

/-- The session once it knows the target of a request. -/
def targeted (s : Socks5Session L) (host : Bytes) (port : UInt16) : Socks5Session L :=
  { s with targetHost := host, targetPort := port }

theorem run_request_target (s : Socks5Session L) (msg : Message) :
    (requestTarget msg).run s =
      if s.targetHost.isEmpty then tcpClose.run s
      else requestRemoteConnect.run { s with protocol := protocolOf msg } := by
  show (if s.targetHost.isEmpty then tcpClose else _ : Handler L Unit).run s = _
  rw [run_ite]
  rfl

/-- What the callback for headers does. -/
theorem run_on_request_headers (s : Socks5Session L) (msg : Message) :
    (onRequestHeaders msg).run s =
      match targetOf (authorityOf msg) with
      | none => ⟨{ s with targetHost := authorityOf msg }, [], .error .exception⟩
      | some (host, port) => (requestTarget msg).run (s.targeted host port) := by
  have hauthority : (if msg.method = text "CONNECT" then msg.target
      else msg.getHeader (text "Host")) = authorityOf msg := rfl
  rw [targetOf, onRequestHeaders, hauthority]
  cases splitAtFirst 0x3A (authorityOf msg) with
  | none => rfl
  | some target =>
      obtain ⟨host, port⟩ := target
      dsimp only
      cases stoi port <;> rfl

/-- The number of streams that are opened. -/
def syns (as : List ClientAction) : Nat := (as.filterMap ClientAction.synId).length

theorem syns_append (as bs : List ClientAction) : syns (as ++ bs) = syns as + syns bs := by
  simp [syns, List.filterMap_append]

/-- The protocols that the `SYN` frames of a session name. -/
def synProtocols (as : List ClientAction) : List Protocol := as.filterMap ClientAction.synProtocol

theorem syn_protocols_append (as bs : List ClientAction) :
    synProtocols (as ++ bs) = synProtocols as ++ synProtocols bs :=
  List.filterMap_append

theorem syn_protocols_length (as : List ClientAction) : (synProtocols as).length = syns as := by
  induction as with
  | nil => rfl
  | cons a as ih =>
      rw [syns, synProtocols] at ih ⊢
      cases a with
      | sendSyn id host port protocol => exact congrArg Nat.succ ih
      | _ => exact ih

/-- What the callback for headers opens, and that it leaves the request parser alone. -/
theorem syns_on_request_headers (s : Socks5Session L) (msg : Message) :
    ((onRequestHeaders msg).run s).state.httpRequestParser = s.httpRequestParser ∧
      match targetOf (authorityOf msg) with
      | none => synProtocols ((onRequestHeaders msg).run s).actions = [] ∧
          ((onRequestHeaders msg).run s).result = .error .exception
      | some (host, _) => synProtocols ((onRequestHeaders msg).run s).actions =
          if host.isEmpty then [] else [protocolOf msg] := by
  rw [run_on_request_headers]
  cases targetOf (authorityOf msg) with
  | none => exact ⟨rfl, rfl, rfl⟩
  | some target =>
      obtain ⟨host, port⟩ := target
      dsimp only
      rw [run_request_target]
      by_cases hhost : host.isEmpty = true
      · have hempty : (s.targeted host port).targetHost.isEmpty = true := hhost
        rw [if_pos hempty, if_pos hhost]
        cases hsocket : s.tcpSocket <;>
          simp [tcpClose, targeted, hsocket, synProtocols, ClientAction.synProtocol]
      · have hfilled : ¬ (s.targeted host port).targetHost.isEmpty = true := hhost
        rw [if_neg hfilled, if_neg hhost]
        exact ⟨rfl, rfl⟩

/-! ## The request parser -/

/-- The streams that a read opens if it is fed to the request parser. -/
def requestsOf (s : Socks5Session L) (data : Bytes) : Nat :=
  if s.httpRequestParser.hadError then 0
  else s.httpRequestParser.requestsIn (L.execute s.httpRequestParser.parser data).2.1

/-- The protocols of these streams. -/
def protocolsOf (s : Socks5Session L) (data : Bytes) : List Protocol :=
  if s.httpRequestParser.hadError then []
  else s.httpRequestParser.protocolsIn (L.execute s.httpRequestParser.parser data).2.1

theorem protocols_of_length (s : Socks5Session L) (data : Bytes) :
    (protocolsOf s data).length = requestsOf s data := by
  unfold protocolsOf requestsOf
  split
  · rfl
  · exact HttpParser.protocols_length _ _

/-- The callbacks of a read open a stream for each request that has a target. -/
theorem syn_protocols_events (events : List LlhttpEvent) (s : Socks5Session L) :
    synProtocols ((forEach events (requestSlot.onEvent requestCallbacks)).run s).actions <+:
      s.httpRequestParser.protocolsIn events := by
  induction events generalizing s with
  | nil => exact List.prefix_refl []
  | cons e events ih =>
      rw [forEach_cons, run_bind]
      -- a callback that only changes the parser
      have hquiet : (requestSlot.onEvent requestCallbacks e).run s =
          ⟨{ s with httpRequestParser := s.httpRequestParser.onEvent e }, [], .ok ()⟩ →
          s.httpRequestParser.protocolsIn (e :: events) =
            (s.httpRequestParser.onEvent e).protocolsIn events →
          synProtocols (andThen ((requestSlot.onEvent requestCallbacks e).run s) fun _ =>
            forEach events (requestSlot.onEvent requestCallbacks)).actions <+:
              s.httpRequestParser.protocolsIn (e :: events) := by
        intro hrun hprotocols
        rw [hrun, andThen_ok, hprotocols, List.nil_append]
        exact ih { s with httpRequestParser := s.httpRequestParser.onEvent e }
      cases e with
      | headersComplete info =>
          have hrun : (requestSlot.onEvent requestCallbacks (.headersComplete info)).run s =
              (onRequestHeaders (s.httpRequestParser.onHeadersComplete info).message).run
                { s with httpRequestParser := s.httpRequestParser.onHeadersComplete info } := rfl
          obtain ⟨hparser, hsyns⟩ := syns_on_request_headers
            { s with httpRequestParser := s.httpRequestParser.onHeadersComplete info }
            (s.httpRequestParser.onHeadersComplete info).message
          rw [hrun, HttpParser.protocolsIn]
          generalize (onRequestHeaders _).run _ = o at hparser hsyns
          obtain ⟨t, as, result⟩ := o
          cases htarget : targetOf
              (authorityOf (s.httpRequestParser.onHeadersComplete info).message) with
          | none =>
              rw [htarget] at hsyns
              obtain ⟨hnone, rfl⟩ := hsyns
              rw [andThen_error]
              exact hnone ▸ List.nil_prefix
          | some target =>
              obtain ⟨host, port⟩ := target
              rw [htarget] at hsyns
              dsimp only at hsyns hparser ⊢
              -- the stream of this request, and those of the ones behind it
              have hwhole : (if host.isEmpty then
                  (s.httpRequestParser.onHeadersComplete info).protocolsIn events
                else protocolOf (s.httpRequestParser.onHeadersComplete info).message ::
                  (s.httpRequestParser.onHeadersComplete info).protocolsIn events) =
                  synProtocols as ++ t.httpRequestParser.protocolsIn events := by
                rw [hsyns, hparser]
                cases host.isEmpty <;> rfl
              rw [hwhole]
              cases result with
              | error fault =>
                  rw [andThen_error]
                  exact List.prefix_append _ _
              | ok _ =>
                  rw [andThen_ok, syn_protocols_append]
                  exact (List.prefix_append_right_inj _).mpr (ih t)
      | messageBegin | url | status | headerField | headerValue | body | messageComplete =>
          exact hquiet rfl rfl

/-- The end of a feed opens no stream. -/
theorem syns_finish (data : Bytes) (parser : L.State) (errno : LlhttpErrno)
    (s : Socks5Session L) :
    syns ((requestSlot.finish requestCallbacks data parser errno).run s).actions = 0 := by
  have hclose : Respects (fun _ : Socks5Session L => True)
      (fun a : ClientAction => a.synId = none) (tcpClose : Handler L Unit) :=
    Respects.get.bind fun _ => .ite (.emit rfl) (.fail _)
  have herrno : Respects (fun _ : Socks5Session L => True)
      (fun a : ClientAction => a.synId = none)
      (requestSlot.onErrno requestCallbacks data errno : Handler L Bool) := by
    cases errno with
    | ok => exact .pure true
    | pausedUpgrade consumed =>
        exact (Respects.modify fun _ _ => trivial).bind fun _ =>
          (Respects.modify fun _ _ => trivial).bind fun _ => Respects.get.bind fun _ =>
            (Respects.pure ()).bind fun _ => .pure false
    | error code reason =>
        exact (Respects.modify fun _ _ => trivial).bind fun _ => hclose.bind fun _ => .pure false
  have hfinish : Respects (fun _ : Socks5Session L => True)
      (fun a : ClientAction => a.synId = none)
      (requestSlot.finish requestCallbacks data parser errno : Handler L Bool) :=
    (Respects.modify fun _ _ => trivial).bind fun _ => herrno
  rw [syns, List.length_eq_zero_iff, List.filterMap_eq_nil_iff]
  exact hfinish.actions trivial

/-- Feeding a read opens a stream for each request that has a target, at most. -/
theorem syn_protocols_feed (s : Socks5Session L) (data : Bytes) :
    synProtocols ((requestSlot.feed requestCallbacks data).run s).actions <+:
      protocolsOf s data := by
  unfold protocolsOf
  cases herror : s.httpRequestParser.hadError with
  | true =>
      rw [requestSlot.run_feed_error requestCallbacks herror]
      exact List.nil_prefix
  | false =>
      have hevents := syn_protocols_events (L.execute (requestSlot.read s).parser data).2.1 s
      rw [requestSlot.run_feed requestCallbacks herror, if_neg Bool.false_ne_true]
      generalize (forEach (L.execute (requestSlot.read s).parser data).2.1
        (requestSlot.onEvent requestCallbacks)).run s = o at hevents
      obtain ⟨t, as, result⟩ := o
      cases result with
      | error fault => exact hevents
      | ok _ =>
          have hfinish := syns_finish data (L.execute (requestSlot.read s).parser data).1
            (L.execute (requestSlot.read s).parser data).2.2 t
          rw [← syn_protocols_length, List.length_eq_zero_iff] at hfinish
          rw [andThen_ok, syn_protocols_append, hfinish, List.append_nil]
          exact hevents

theorem syns_feed (s : Socks5Session L) (data : Bytes) :
    syns ((requestSlot.feed requestCallbacks data).run s).actions ≤ requestsOf s data := by
  rw [← syn_protocols_length, ← protocols_of_length]
  exact (syn_protocols_feed s data).length_le

/-- Feeding a read sends the browser nothing. -/
theorem sent_feed (s : Socks5Session L) (data : Bytes) :
    ∀ a ∈ ((requestSlot.feed requestCallbacks data).run s).actions, a.sent = none := by
  have hclose : Respects (fun _ : Socks5Session L => True)
      (fun a : ClientAction => a.sent = none) (tcpClose : Handler L Unit) :=
    Respects.get.bind fun _ => .ite (.emit rfl) (.fail _)
  have hrequest : Respects (fun _ : Socks5Session L => True)
      (fun a : ClientAction => a.sent = none) (requestRemoteConnect : Handler L Unit) := by
    intro s _
    rw [run_request_remote_connect]
    simp [ClientAction.sent]
  have htarget : ∀ msg, Respects (fun _ : Socks5Session L => True)
      (fun a : ClientAction => a.sent = none) (requestTarget msg : Handler L Unit) :=
    fun msg => Respects.get.bind fun _ => .ite hclose
      ((Respects.modify fun _ _ => trivial).bind fun _ => hrequest)
  refine (HttpSlot.respects_feed _ _ (fun _ _ _ => trivial) ?_ ?_ ?_ ?_ ?_ data :
    Respects (fun _ : Socks5Session L => True) _ _).actions trivial
  · intro f msg hf
    cases hf
    refine (Respects.modify fun _ _ => trivial).bind fun _ => ?_
    split
    · split
      · exact (Respects.modify fun _ _ => trivial).bind fun _ => htarget msg
      · exact .fail _
    · exact (Respects.modify fun _ _ => trivial).bind fun _ => htarget msg
  · exact fun f data hf => by cases hf
  · exact fun f hf => by cases hf
  · intro f code reason hf
    cases hf
    exact hclose
  · exact fun f data hf => by cases hf

/-! ## The handshake -/

/-- Nothing is sent to the browser behind a `SYN` frame. -/
def QuietAfterSyn (as : List ClientAction) : Prop :=
  ∀ before a after, as = before ++ a :: after → a.synId.isSome →
    after.filterMap ClientAction.sent = []

/-- No stream has been opened, or one has been as the last thing done. -/
def Ends (t : Socks5Session L) (as : List ClientAction) : Prop :=
  syns as = 0 ∨ (t.phase = .connecting ∧ ∃ before a, as = before ++ [a] ∧ syns before = 0)

theorem Ends.one {t : Socks5Session L} {as : List ClientAction} (h : Ends t as) : syns as ≤ 1 := by
  rcases h with h | ⟨-, before, a, rfl, h⟩
  · omega
  · rw [syns_append, h, Nat.zero_add]
    exact List.length_filterMap_le ..

theorem quiet_of_syns_eq_zero {as : List ClientAction} (h : syns as = 0) : QuietAfterSyn as := by
  rintro before a after rfl ha
  have hnone := List.filterMap_eq_nil_iff.mp (List.length_eq_zero_iff.mp h) a (by simp)
  rw [hnone] at ha
  cases ha

theorem Ends.quiet {t : Socks5Session L} {as : List ClientAction} (h : Ends t as) :
    QuietAfterSyn as := by
  rcases h with h | ⟨-, first, last, rfl, h⟩
  · exact quiet_of_syns_eq_zero h
  · intro before a after hsplit ha
    rcases List.eq_nil_or_concat after with rfl | ⟨init, b, rfl⟩
    · rfl
    · -- a stream opened before the last action
      have hbefore : first = before ++ a :: init := by
        rw [List.concat_eq_append, ← List.cons_append, ← List.append_assoc] at hsplit
        exact (List.append_inj' hsplit rfl).1
      exact absurd (quiet_of_syns_eq_zero h before a init hbefore ha) (by
        have hnone := List.filterMap_eq_nil_iff.mp (List.length_eq_zero_iff.mp h) a
          (by rw [hbefore]; simp)
        rw [hnone] at ha
        cases ha)

/-- The handler of a phase opens one stream at most, at its end. -/
theorem ends_handler {p : Phase} {handler : Handler L Nat} (hp : handlerOf p = some handler)
    (s : Socks5Session L) : Ends (handler.run s).state (handler.run s).actions := by
  have hrequest : ∀ t : Socks5Session L, Ends (requestRemoteConnect.run t).state
      (requestRemoteConnect.run t).actions := by
    intro t
    rw [run_request_remote_connect]
    exact .inr ⟨rfl, [_], _, rfl, rfl⟩
  have htcpudp : Ends (handleSocksTcpUdp.run s).state (handleSocksTcpUdp.run s).actions := by
    left
    by_cases hipv4 : s.readBuf 3 = 0x01
    · simp [handleSocksTcpUdp, hipv4, syns]
    · by_cases hdomain : s.readBuf 3 = 0x03
      · simp [handleSocksTcpUdp, hdomain, syns]
      · cases htcp : s.tcpSocket <;>
          simp [handleSocksTcpUdp, hipv4, hdomain, sendSocksReply, tcpSend, htcp, syns,
            ClientAction.synId]
  cases p with
  | waitGreetingVersion =>
      cases hp
      left
      by_cases hbyte : s.readBuf 0 = 0x05
      · cases htcp : s.tcpSocket <;>
          simp [handleGreetingVersion, tcpSend, hbyte, htcp, syns, ClientAction.synId]
      · simp [handleGreetingVersion, hbyte, syns]
  | waitSocksMethods =>
      cases hp
      left
      by_cases hconnect : s.readBuf 1 = 0x01
      · simp [handleSocksMethods, hconnect, syns]
      · by_cases hudp : s.readBuf 1 = 0x03
        · simp [handleSocksMethods, hudp, syns]
        · cases htcp : s.tcpSocket <;>
            simp [handleSocksMethods, hconnect, hudp, sendSocksReply, tcpSend, htcp, syns,
              ClientAction.synId]
  | waitSocksTCP => cases hp; exact htcpudp
  | waitSocksUDP => cases hp; exact htcpudp
  | waitSocksIpv4 => cases hp; exact hrequest _
  | waitSocksDomain => cases hp; exact hrequest _
  | waitSocksUdpAddr | waitHttpRequestHeaders | connecting | connected | closed => cases hp

/-- The loop of the handshake opens one stream at most, as the last thing it does. -/
theorem ends_consume_loop (len turns consumed : Nat) (s : Socks5Session L) :
    Ends ((consumeLoop len turns consumed).run s).state
      ((consumeLoop len turns consumed).run s).actions := by
  induction turns generalizing consumed s with
  | zero => exact .inl rfl
  | succ turns ih =>
      cases hp : (handlerOf s.phase : Option (Handler L Nat)) with
      | none =>
          rw [run_consume_loop_none hp]
          exact .inl rfl
      | some handler =>
          by_cases hlen : consumed ≥ len
          · have hrun : (consumeLoop len (turns + 1) consumed).run s = ⟨s, [], .ok ()⟩ := by
              simp [consumeLoop, hp, hlen]
            rw [hrun]
            exact .inl rfl
          · have hrun : (consumeLoop len (turns + 1) consumed).run s =
                andThen (handler.run s) fun n => get >>= fun t =>
                  if t.phase = .closed then tcpClose else consumeLoop len turns (consumed + n) := by
              simp [consumeLoop, hp, hlen]
            have hfirst := ends_handler hp s
            rw [hrun]
            generalize handler.run s = o at hfirst
            obtain ⟨t, as, result⟩ := o
            cases result with
            | error fault => exact hfirst
            | ok n =>
                rw [andThen_ok, run_bind, run_get, andThen_ok, run_ite]
                dsimp only at hfirst ⊢
                rw [List.nil_append]
                by_cases hclosed : t.phase = .closed
                · rw [if_pos hclosed]
                  rcases hfirst with hzero | ⟨hconnecting, -⟩
                  · left
                    rw [syns_append, hzero]
                    cases hsocket : t.tcpSocket <;>
                      simp [tcpClose, hsocket, syns, ClientAction.synId]
                  · rw [hconnecting] at hclosed
                    cases hclosed
                · rw [if_neg hclosed]
                  rcases hfirst with hzero | ⟨hconnecting, hlast⟩
                  · rcases ih (consumed + n) t with hrest | ⟨hphase, before, a, hbefore, hnone⟩
                    · exact .inl (by rw [syns_append, hzero, hrest])
                    · refine .inr ⟨hphase, as ++ before, a, ?_, ?_⟩
                      · rw [hbefore, List.append_assoc]
                      · rw [syns_append, hzero, hnone]
                  · have hnone : (handlerOf t.phase : Option (Handler L Nat)) = none := by
                      rw [hconnecting]
                      rfl
                    rw [run_consume_loop_none hnone, List.append_nil]
                    exact .inr ⟨hconnecting, hlast⟩

/-! ## Reads -/

/-- The handler of a phase never goes back to the first one, and goes on to HTTP from it only. -/
theorem phase_of_handler {p : Phase} {handler : Handler L Nat} (hp : handlerOf p = some handler)
    {s : Socks5Session L} (hphase : s.phase = p) :
    (handler.run s).state.phase ≠ .waitGreetingVersion ∧
      ((handler.run s).state.phase = .waitHttpRequestHeaders →
        p = .waitGreetingVersion ∧ s.readBuf 0 ≠ 0x05 ∧
          handler.run s = ⟨{ s with phase := .waitHttpRequestHeaders }, [], .ok 2⟩) := by
  have htcpudp : p ≠ .waitGreetingVersion → p ≠ .waitHttpRequestHeaders →
      (handleSocksTcpUdp.run s).state.phase ≠ .waitGreetingVersion ∧
        (handleSocksTcpUdp.run s).state.phase ≠ .waitHttpRequestHeaders := by
    intro hfirst hhttp
    by_cases hipv4 : s.readBuf 3 = 0x01
    · simp [handleSocksTcpUdp, hipv4]
    · by_cases hdomain : s.readBuf 3 = 0x03
      · simp [handleSocksTcpUdp, hdomain]
      · cases htcp : s.tcpSocket <;>
          simp [handleSocksTcpUdp, hipv4, hdomain, sendSocksReply, tcpSend, htcp, hphase, hfirst,
            hhttp]
  cases p with
  | waitGreetingVersion =>
      cases hp
      by_cases hbyte : s.readBuf 0 = 0x05
      · cases htcp : s.tcpSocket <;> simp [handleGreetingVersion, tcpSend, hbyte, htcp]
      · simp [handleGreetingVersion, hbyte]
  | waitSocksMethods =>
      cases hp
      by_cases hconnect : s.readBuf 1 = 0x01
      · simp [handleSocksMethods, hconnect]
      · by_cases hudp : s.readBuf 1 = 0x03
        · simp [handleSocksMethods, hudp]
        · cases htcp : s.tcpSocket <;>
            simp [handleSocksMethods, hconnect, hudp, sendSocksReply, tcpSend, htcp]
  | waitSocksTCP =>
      cases hp
      have hnext := htcpudp (by decide) (by decide)
      exact ⟨hnext.1, fun h => absurd h hnext.2⟩
  | waitSocksUDP =>
      cases hp
      have hnext := htcpudp (by decide) (by decide)
      exact ⟨hnext.1, fun h => absurd h hnext.2⟩
  | waitSocksIpv4 =>
      cases hp
      have hnext : (handleSocksIpv4.run s).state.phase = .connecting := rfl
      rw [hnext]
      exact ⟨by decide, fun h => absurd h (by decide)⟩
  | waitSocksDomain =>
      cases hp
      have hnext : (handleSocksDomain.run s).state.phase = .connecting := rfl
      rw [hnext]
      exact ⟨by decide, fun h => absurd h (by decide)⟩
  | waitSocksUdpAddr | waitHttpRequestHeaders | connecting | connected | closed => cases hp

/-- The loop ends while an HTTP request is read only if it was being read before, or if the read
begins it. -/
theorem consume_loop_http (len turns consumed : Nat) {s : Socks5Session L}
    (h : ((consumeLoop len turns consumed).run s).state.phase = .waitHttpRequestHeaders) :
    (s.phase = .waitHttpRequestHeaders ∨
        (s.phase = .waitGreetingVersion ∧ s.readBuf 0 ≠ 0x05)) ∧
      (consumeLoop len turns consumed).run s =
        ⟨{ s with phase := .waitHttpRequestHeaders }, [], .ok ()⟩ := by
  induction turns generalizing consumed s with
  | zero =>
      have hphase : s.phase = .waitHttpRequestHeaders := h
      refine ⟨.inl hphase, ?_⟩
      rw [← hphase]
      rfl
  | succ turns ih =>
      cases hp : (handlerOf s.phase : Option (Handler L Nat)) with
      | none =>
          rw [run_consume_loop_none hp] at h ⊢
          have hphase : s.phase = .waitHttpRequestHeaders := h
          refine ⟨.inl hphase, ?_⟩
          rw [← hphase]
      | some handler =>
          have hnot : s.phase ≠ .waitHttpRequestHeaders := by
            intro hphase
            rw [hphase] at hp
            cases hp
          by_cases hlen : consumed ≥ len
          · have hrun : (consumeLoop len (turns + 1) consumed).run s = ⟨s, [], .ok ()⟩ := by
              simp [consumeLoop, hp, hlen]
            rw [hrun] at h
            exact absurd h hnot
          · have hrun : (consumeLoop len (turns + 1) consumed).run s =
                andThen (handler.run s) fun n => get >>= fun t =>
                  if t.phase = .closed then tcpClose else consumeLoop len turns (consumed + n) := by
              simp [consumeLoop, hp, hlen]
            obtain ⟨hgreeted, hhttp⟩ := phase_of_handler hp (s := s) rfl
            rw [hrun] at h ⊢
            cases hfirst : handler.run s with
            | mk t as result =>
                rw [hfirst] at h hgreeted hhttp
                dsimp only at hgreeted hhttp
                cases result with
                | error fault =>
                    obtain ⟨-, -, herror⟩ := hhttp h
                    cases herror
                | ok n =>
                    rw [andThen_ok, run_bind, run_get, andThen_ok, run_ite] at h ⊢
                    dsimp only at h ⊢
                    rw [List.nil_append]
                    by_cases hclosed : t.phase = .closed
                    · rw [if_pos hclosed] at h
                      have hclose : (tcpClose.run t).state = t := by
                        cases hsocket : t.tcpSocket <;> simp [tcpClose, hsocket]
                      rw [hclose, hclosed] at h
                      cases h
                    · rw [if_neg hclosed] at h ⊢
                      obtain ⟨ht | ⟨ht, -⟩, hrest⟩ := ih (consumed + n) h
                      · obtain ⟨hstart, hbyte, hone⟩ := hhttp ht
                        cases hone
                        rw [hrest]
                        exact ⟨.inr ⟨hstart, hbyte⟩, rfl⟩
                      · exact absurd ht hgreeted

/-- The read is fed to the request parser. -/
def Feeds (s : Socks5Session L) (data : Bytes) : Prop :=
  s.phase = .waitHttpRequestHeaders ∨
    (s.phase = .waitGreetingVersion ∧ data.head? ≠ some 0x05)

/-- Such a read goes past the handshake. -/
theorem run_feeding {s : Socks5Session L} {data : Bytes} (hdata : 0 < data.length)
    (h : Feeds s data) :
    (processData data).run (received data s) =
      (feedRequest data).run { received data s with phase := .waitHttpRequestHeaders } := by
  have hearly : (received data s).phase ≠ .connected ∧ (received data s).phase ≠ .closed := by
    rcases h with hphase | ⟨hphase, -⟩
    · exact ⟨by simp [received, hphase], by simp [received, hphase]⟩
    · exact ⟨by simp [received, hphase], by simp [received, hphase]⟩
  -- the loop of the handshake ends at once, or with its first turn
  have hdone : ∀ turns consumed, (consumeLoop data.length turns consumed).run
      { received data s with phase := .waitHttpRequestHeaders } =
        ⟨{ received data s with phase := .waitHttpRequestHeaders }, [], .ok ()⟩ :=
    fun turns consumed => run_consume_loop_none rfl _ _ _
  have hloop : ∀ turns, 0 < turns → (consumeLoop data.length turns 0).run (received data s) =
      ⟨{ received data s with phase := .waitHttpRequestHeaders }, [], .ok ()⟩ := by
    intro turns hturns
    rcases h with hphase | ⟨hphase, hhead⟩
    · have hsame : received data s =
          { received data s with phase := .waitHttpRequestHeaders } := by
        rw [received, hphase]
      rw [hsame]
      exact hdone _ _
    · obtain ⟨turns, rfl⟩ : ∃ k, turns = k + 1 := ⟨turns - 1, by omega⟩
      have hbyte : (received data s).readBuf 0 ≠ 0x05 := by
        obtain ⟨b, rest, rfl⟩ := List.exists_cons_of_length_pos hdata
        exact fun hb => hhead (congrArg some hb)
      have hphase' : (received data s).phase = .waitGreetingVersion := hphase
      have hturn : (consumeLoop data.length (turns + 1) 0).run (received data s) =
          (consumeLoop data.length turns 2).run
            { received data s with phase := .waitHttpRequestHeaders } := by
        have hlen : ¬ 0 ≥ data.length := by omega
        simp [consumeLoop, hphase', handlerOf, handleGreetingVersion, hbyte, hlen]
      rw [hturn]
      exact hdone _ _
  rw [run_process_data hearly.1 hearly.2, consume_pending_eq, run_bind, hloop _ hdata, andThen_ok]
  rfl

/-- A data callback does what `process_data` does. -/
theorem browser_data_actions (s : Socks5Session L) (data : Bytes) :
    ((handle (.browserData data)).run s).actions =
      ((processData data).run (received data s)).actions := by
  have hrun : (handle (.browserData data)).run s =
      (swallow (· == .exception) (processData data >>= fun _ =>
        modify fun s => { s with reading := true })).run (received data s) := rfl
  rw [hrun, swallow_actions, run_bind]
  generalize (processData data).run (received data s) = o
  obtain ⟨t, as, _ | _⟩ := o
  · rfl
  · rw [andThen_ok, run_modify, List.append_nil]

/-- Once the handshake is over a read opens no stream and sends the browser nothing. -/
theorem read_over {s : Socks5Session L}
    (h : s.phase = .connecting ∨ s.phase = .connected ∨ s.phase = .closed) (data : Bytes) :
    ∀ a ∈ ((handle (.browserData data)).run s).actions, a.synId = none ∧ a.sent = none := by
  have hprocess : ∀ a ∈ ((processData data).run (received data s)).actions,
      a.synId = none ∧ a.sent = none := by
    rcases h with hphase | hphase | hphase
    · rw [run_process_data_connecting (s := received data s) hphase]
      simp
    · have hforward : ∀ a ∈ (muxSendData data |>.run (received data s)).actions,
          a.synId = none ∧ a.sent = none := by
        cases hsession : (received data s).session <;>
          simp [muxSendData, streamId, hsession, ClientAction.synId, ClientAction.sent]
      have hphase' : (received data s).phase = .connected := hphase
      cases hprotocol : (received data s).protocol with
      | socks5Connect | httpPlain | httpsConnect =>
          simpa [processData, hphase', hprotocol] using hforward
      | unknown | udpAssociate | other => simp [processData, hphase', hprotocol]
    · rw [run_process_data_closed (s := received data s) hphase]
      intro a ha
      dsimp only at ha
      split at ha
      · rw [List.mem_singleton.mp ha]
        exact ⟨rfl, rfl⟩
      · cases ha
  rw [browser_data_actions]
  exact hprocess

/-- A read that is fed to the request parser opens a stream for each request that has a target, at
most. -/
theorem syn_protocols_read {s : Socks5Session L} {data : Bytes} (hdata : 0 < data.length)
    (h : Feeds s data) :
    synProtocols ((handle (.browserData data)).run s).actions <+: protocolsOf s data := by
  rw [browser_data_actions, run_feeding hdata h, feedRequest, run_bind, run_get, andThen_ok,
    run_ite, if_pos rfl, run_bind]
  have hsyns := syn_protocols_feed { received data s with phase := .waitHttpRequestHeaders } data
  generalize (requestSlot.feed requestCallbacks data).run _ = o at hsyns
  obtain ⟨t, as, _ | _⟩ := o
  · exact hsyns
  · rw [andThen_ok, run_modify, List.append_nil]
    exact hsyns

/-- A read that feeds the request parser one request at most opens one stream at most, and a read
sends the browser nothing behind a `SYN` frame. -/
theorem read_one {s : Socks5Session L} {data : Bytes} (hdata : 0 < data.length) :
    ((Feeds s data → requestsOf s data ≤ 1) →
      syns ((handle (.browserData data)).run s).actions ≤ 1) ∧
      QuietAfterSyn ((handle (.browserData data)).run s).actions := by
  by_cases hover : s.phase = .connecting ∨ s.phase = .connected ∨ s.phase = .closed
  · have hnone := fun a ha => (read_over hover data a ha).1
    have hzero : syns ((handle (.browserData data)).run s).actions = 0 := by
      rw [syns, List.length_eq_zero_iff, List.filterMap_eq_nil_iff]
      exact hnone
    exact ⟨fun _ => hzero.le.trans (Nat.zero_le 1), quiet_of_syns_eq_zero hzero⟩
  · have hconnected : (received data s).phase ≠ .connected := fun h => hover (.inr (.inl h))
    have hclosed : (received data s).phase ≠ .closed := fun h => hover (.inr (.inr h))
    rw [browser_data_actions, run_process_data hconnected hclosed, consume_pending_eq, run_bind]
    have hloop := ends_consume_loop data.length data.length 0 (received data s)
    have hhttp := @consume_loop_http L data.length data.length 0 (received data s)
    cases hfirst : (consumeLoop data.length data.length 0).run (received data s) with
    | mk t as result =>
        rw [hfirst] at hloop hhttp
        dsimp only at hloop hhttp
        cases result with
        | error fault => exact ⟨fun _ => hloop.one, hloop.quiet⟩
        | ok _ =>
            rw [andThen_ok, feedRequest, run_bind, run_get, andThen_ok, run_ite]
            dsimp only
            rw [List.nil_append]
            by_cases hphase : t.phase = .waitHttpRequestHeaders
            · obtain ⟨hstart, hrun⟩ := hhttp hphase
              cases hrun
              have hfeeds : Feeds s data := by
                refine hstart.imp id fun h => ⟨h.1, fun hhead => h.2 ?_⟩
                obtain ⟨b, rest, rfl⟩ := List.exists_cons_of_length_pos hdata
                exact Option.some.inj hhead
              rw [if_pos rfl, run_bind, List.nil_append]
              have hsyns := syns_feed { received data s with phase := .waitHttpRequestHeaders } data
              have hsent := sent_feed { received data s with phase := .waitHttpRequestHeaders } data
              generalize (requestSlot.feed requestCallbacks data).run _ = o at hsyns hsent
              have hactions : (andThen o fun _ => modify fun s : Socks5Session L =>
                  { s with pendingBuf := s.pendingBuf ++ [data] }).actions = o.actions := by
                obtain ⟨u, bs, _ | _⟩ := o
                · rfl
                · rw [andThen_ok, run_modify, List.append_nil]
              rw [hactions]
              refine ⟨fun hone => hsyns.trans (hone hfeeds), ?_⟩
              rintro before a after hsplit -
              rw [List.filterMap_eq_nil_iff]
              exact fun b hb => hsent b (by rw [hsplit]; simp [hb])
            · rw [if_neg hphase, run_pure, List.append_nil]
              exact ⟨fun _ => hloop.one, hloop.quiet⟩

end Socks5Session

end RtcVpn
