import RtcVpn.Client.Phases

/-!
# Pointer safety of the client

The handlers of a client session use `tcp_socket_` and `udp_session_`. The
close callback of the browser's socket empties the first, the second is empty
until a UDP relay has been opened, and the callbacks of the multiplexer's
session choose what they use by the protocol byte of the frame. `Safe` says
which frame meets the pointers its handler needs; nothing else that happens
after the `SYN` needs any.
-/

namespace RtcVpn

namespace HttpParser

/-- The callback is one a response is relayed by. -/
def relays (isChunked : Bool) : LlhttpEvent → Bool
  | .headersComplete _ => true
  | .body _ => true
  | .messageComplete => isChunked
  | _ => false

/-- Parsing has failed. -/
def fails : LlhttpErrno → Bool
  | .error _ _ => true
  | _ => false

/-- Feeding `data` leads to a callback of a response parser's owner. -/
def forwards {L : Llhttp} (p : HttpParser L) (data : Bytes) : Bool :=
  !p.hadError && ((L.execute p.parser data).2.1.any (relays p.isChunked) ||
    fails (L.execute p.parser data).2.2)

end HttpParser

namespace Socks5Session

open Effect

variable {L : Llhttp}

/-- The pointers that the handler of an event uses are not empty. -/
def Safe (s : Socks5Session L) : ClientEvent → Prop
  | .synack ok protocol relay =>
      match protocol with
      | .socks5Connect | .httpsConnect => s.tcpSocket = true
      | .udpAssociate => s.tcpSocket = true ∨ (ok = true ∧ relay = none)
      | _ => s.tcpSocket = true ∨ ok = true
  | .data payload protocol =>
      match protocol with
      | .udpAssociate => s.udpSession = true
      | .socks5Connect | .httpsConnect => s.tcpSocket = true
      | .httpPlain => s.tcpSocket = true ∨ s.httpResponseParser.forwards payload = false
      | _ => True
  | _ => True

/-- The handler has returned, or has used an empty pointer if `safe` does not hold. -/
def Used (safe : Prop) (r : Except ClientFault Unit) : Prop :=
  (safe → r = .ok ()) ∧ (¬ safe → r = .error .nullTcpSocket ∨ r = .error .nullUdpSession)

/-! ## Relaying a response -/

theorem run_tcp_send {s : Socks5Session L} (htcp : s.tcpSocket = true) (data : Bytes) :
    (tcpSend data).run s = ⟨s, [.tcpSend data], .ok ()⟩ := by
  simp [tcpSend, htcp]

theorem run_tcp_send_empty {s : Socks5Session L} (htcp : s.tcpSocket = false) (data : Bytes) :
    (tcpSend data).run s = ⟨s, [], .error .nullTcpSocket⟩ := by
  simp [tcpSend, htcp]

/-- With the browser's socket there, a callback of the response parser returns. -/
theorem run_response_event {s : Socks5Session L} (htcp : s.tcpSocket = true) (e : LlhttpEvent) :
    ∃ t out, (responseSlot.onEvent responseCallbacks e).run s = ⟨t, out, .ok ()⟩ ∧
      t.tcpSocket = true := by
  cases e with
  | body span =>
      cases hchunked : s.httpResponseParser.isChunked <;>
        simp [HttpSlot.onEvent, responseCallbacks, onResponseBody, hchunked,
          run_tcp_send htcp, htcp]
  | messageComplete =>
      cases hchunked : s.httpResponseParser.isChunked <;>
        simp [HttpSlot.onEvent, HttpSlot.update, HttpSlot.notify, responseCallbacks, responseSlot,
          onResponseComplete, hchunked, tcpSend, htcp]
  | headersComplete info =>
      simp [HttpSlot.onEvent, HttpSlot.update, HttpSlot.notify, responseCallbacks, responseSlot,
        tcpSend, htcp]
  | messageBegin | url | status | headerField | headerValue =>
      simp [HttpSlot.onEvent, HttpSlot.update, responseSlot, htcp]

/-- Without it, a callback that relays faults, and any other leaves it at that. -/
theorem run_response_event_empty {s : Socks5Session L} (htcp : s.tcpSocket = false)
    (e : LlhttpEvent) :
    if HttpParser.relays s.httpResponseParser.isChunked e then
      ((responseSlot.onEvent responseCallbacks e).run s).result = .error .nullTcpSocket
    else
      ∃ t out, (responseSlot.onEvent responseCallbacks e).run s = ⟨t, out, .ok ()⟩ ∧
        t.tcpSocket = false ∧
        t.httpResponseParser.isChunked = s.httpResponseParser.isChunked := by
  cases e with
  | body span =>
      cases hchunked : s.httpResponseParser.isChunked <;>
        simp [HttpParser.relays, HttpSlot.onEvent, responseCallbacks, onResponseBody, hchunked,
          run_tcp_send_empty htcp]
  | messageComplete =>
      cases hchunked : s.httpResponseParser.isChunked <;>
        simp [HttpParser.relays, HttpSlot.onEvent, HttpSlot.update, HttpSlot.notify,
          responseCallbacks, responseSlot, onResponseComplete, hchunked, tcpSend, htcp]
  | headersComplete info =>
      simp [HttpParser.relays, HttpSlot.onEvent, HttpSlot.update, HttpSlot.notify,
        responseCallbacks, responseSlot, tcpSend, htcp]
  | headerField span =>
      cases hvalue : s.httpResponseParser.inHeaderValue <;>
        simp [HttpParser.relays, HttpSlot.onEvent, HttpSlot.update, responseSlot, htcp,
          HttpParser.onHeaderField, HttpParser.pushHeader, hvalue]
  | messageBegin | url | status | headerValue =>
      simp [HttpParser.relays, HttpSlot.onEvent, HttpSlot.update, responseSlot, htcp,
        HttpParser.onMessageBegin, HttpParser.onUrl, HttpParser.onStatus, HttpParser.onHeaderValue]

/-- The callbacks of one read, with the browser's socket there. -/
theorem run_response_events {s : Socks5Session L} (htcp : s.tcpSocket = true)
    (events : List LlhttpEvent) :
    ∃ t out, (forEach events (responseSlot.onEvent responseCallbacks)).run s = ⟨t, out, .ok ()⟩ ∧
      t.tcpSocket = true := by
  induction events generalizing s with
  | nil => exact ⟨s, [], rfl, htcp⟩
  | cons e events ih =>
      obtain ⟨t, first, he, ht⟩ := run_response_event htcp e
      obtain ⟨u, rest, hrest, hu⟩ := ih ht
      exact ⟨u, first ++ rest, by simp [he, hrest], hu⟩

/-- The callbacks of one read, without it. -/
theorem run_response_events_empty {s : Socks5Session L} (htcp : s.tcpSocket = false)
    (events : List LlhttpEvent) :
    if events.any (HttpParser.relays s.httpResponseParser.isChunked) then
      ((forEach events (responseSlot.onEvent responseCallbacks)).run s).result =
        .error .nullTcpSocket
    else
      ∃ t out, (forEach events (responseSlot.onEvent responseCallbacks)).run s = ⟨t, out, .ok ()⟩ ∧
        t.tcpSocket = false := by
  induction events generalizing s with
  | nil => exact ⟨s, [], rfl, htcp⟩
  | cons e events ih =>
      have he := run_response_event_empty htcp e
      by_cases hrelays : HttpParser.relays s.httpResponseParser.isChunked e = true
      · rw [if_pos hrelays] at he
        rw [if_pos (by simp [hrelays]), forEach_cons, run_bind]
        generalize (responseSlot.onEvent responseCallbacks e).run s = o at he ⊢
        obtain ⟨t, out, r⟩ := o
        cases he
        rfl
      · rw [if_neg hrelays] at he
        obtain ⟨t, first, he, ht, hchunked⟩ := he
        have hrest := ih ht
        rw [hchunked] at hrest
        simp only [List.any_cons, hrelays, Bool.false_or, forEach_cons, run_bind, he, andThen_ok]
        split
        · next hany => rwa [if_pos hany] at hrest
        · next hany =>
            rw [if_neg hany] at hrest
            obtain ⟨u, rest, hrest, hu⟩ := hrest
            exact ⟨u, first ++ rest, by rw [hrest], hu⟩

/-- The end of a feed uses the browser's socket when parsing has failed. -/
theorem response_errno_result (s : Socks5Session L) (payload : Bytes) (errno : LlhttpErrno) :
    if HttpParser.fails errno = true ∧ s.tcpSocket = false then
      ((responseSlot.onErrno responseCallbacks payload errno).run s).result =
        .error .nullTcpSocket
    else
      ∃ b, ((responseSlot.onErrno responseCallbacks payload errno).run s).result = .ok b := by
  cases errno with
  | ok => simp [HttpParser.fails, HttpSlot.onErrno]
  | pausedUpgrade consumed =>
      simp [HttpParser.fails, HttpSlot.onErrno, HttpSlot.update, HttpSlot.notify,
        responseCallbacks]
  | error code reason =>
      cases htcp : s.tcpSocket <;>
        simp [HttpParser.fails, HttpSlot.onErrno, HttpSlot.update, HttpSlot.notify,
          responseCallbacks, responseSlot, tcpClose, htcp]

/-- Feeding the response parser uses the browser's socket exactly when it is forwarding. -/
theorem response_feed_result (s : Socks5Session L) (payload : Bytes) :
    if s.tcpSocket = false ∧ s.httpResponseParser.forwards payload = true then
      ((responseSlot.feed responseCallbacks payload).run s).result = .error .nullTcpSocket
    else ∃ b, ((responseSlot.feed responseCallbacks payload).run s).result = .ok b := by
  cases herror : s.httpResponseParser.hadError with
  | true => simp [HttpParser.forwards, HttpSlot.feed, responseSlot, herror]
  | false =>
      rcases hexecute : L.execute s.httpResponseParser.parser payload with ⟨parser, events, errno⟩
      have hfeed : (responseSlot.feed responseCallbacks payload).run s =
          andThen ((forEach events (responseSlot.onEvent responseCallbacks)).run s) fun _ =>
            (responseSlot.update fun p => { p with parser := parser }) >>= fun _ =>
              responseSlot.onErrno responseCallbacks payload errno := by
        have hread : responseSlot.read s = s.httpResponseParser := rfl
        simp [HttpSlot.feed, hread, herror, hexecute]
      have hforwards : s.httpResponseParser.forwards payload =
          (events.any (HttpParser.relays s.httpResponseParser.isChunked) ||
            HttpParser.fails errno) := by
        simp [HttpParser.forwards, herror, hexecute]
      rw [hfeed, hforwards]
      cases htcp : s.tcpSocket with
      | true =>
          obtain ⟨t, out, hevents, ht⟩ := run_response_events htcp events
          have hend := response_errno_result
            (responseSlot.write { t.httpResponseParser with parser := parser } t) payload errno
          rw [if_neg (by simp [responseSlot, ht])] at hend
          rw [if_neg (by simp), hevents]
          exact hend
      | false =>
          have hevents := run_response_events_empty htcp events
          cases hany : events.any (HttpParser.relays s.httpResponseParser.isChunked) with
          | true =>
              rw [if_pos hany] at hevents
              generalize (forEach events (responseSlot.onEvent responseCallbacks)).run s = o
                at hevents ⊢
              obtain ⟨t, out, r⟩ := o
              cases hevents
              simp
          | false =>
              rw [if_neg (by simp [hany])] at hevents
              obtain ⟨t, out, hevents, ht⟩ := hevents
              have hend := response_errno_result
                (responseSlot.write { t.httpResponseParser with parser := parser } t) payload errno
              have htcp' : (responseSlot.write { t.httpResponseParser with parser := parser }
                t).tcpSocket = false := ht
              simp only [htcp', and_true] at hend
              rw [hevents]
              simp only [Bool.false_or, true_and]
              exact hend

/-! ## Every event -/

theorem used_data (s : Socks5Session L) (payload : Bytes) (protocol : Protocol) :
    Used (Safe s (.data payload protocol)) ((handle (.data payload protocol)).run s).result := by
  cases protocol with
  | udpAssociate => cases hudp : s.udpSession <;> simp [Used, Safe, handle, p2pData, hudp]
  | socks5Connect | httpsConnect =>
      cases htcp : s.tcpSocket <;> simp [Used, Safe, handle, p2pData, tcpSend, htcp]
  | unknown | other => simp [Used, Safe, handle, p2pData]
  | httpPlain =>
      have hfeed := response_feed_result s payload
      generalize hrun : (responseSlot.feed responseCallbacks payload).run s = o at hfeed
      obtain ⟨t, out, r⟩ := o
      dsimp only at hfeed
      by_cases h : s.tcpSocket = false ∧ s.httpResponseParser.forwards payload = true
      · rw [if_pos h] at hfeed
        subst hfeed
        have hresult : ((handle (.data payload .httpPlain)).run s).result =
            .error .nullTcpSocket := by
          simp [handle, p2pData, hrun]
        rw [hresult]
        exact ⟨fun hsafe => absurd hsafe (by simp [Safe, h]), fun _ => .inl rfl⟩
      · rw [if_neg h] at hfeed
        obtain ⟨b, rfl⟩ := hfeed
        have hresult : ((handle (.data payload .httpPlain)).run s).result = .ok () := by
          simp [handle, p2pData, hrun]
        rw [hresult]
        refine ⟨fun _ => rfl, fun hunsafe => absurd hunsafe ?_⟩
        simpa [Safe, ← or_iff_not_imp_left] using h

theorem used_synack {s : Socks5Session L} {id : UInt32} (hsession : s.session = some id)
    (ok : Bool) (protocol : Protocol) (relay : Option (AddressV4 × UInt16)) :
    Used (Safe s (.synack ok protocol relay))
      ((handle (.synack ok protocol relay)).run s).result := by
  cases protocol with
  | udpAssociate =>
      cases ok <;> cases relay <;> cases htcp : s.tcpSocket <;> cases hudp : s.udpSession <;>
        simp [Used, Safe, handle, p2pSynack, replyToBrowser, udpConnected, startRelay,
          sendSocksReply, sendUdpReply, tcpSend, tcpClose, htcp, hudp]
  | httpPlain =>
      cases ok <;> cases htcp : s.tcpSocket <;>
        simp [Used, Safe, handle, p2pSynack, replyToBrowser, httpConnected, tcpSend, tcpClose,
          run_for_each_send hsession, htcp]
  | socks5Connect | httpsConnect =>
      cases ok <;> cases htcp : s.tcpSocket <;>
        simp [Used, Safe, handle, p2pSynack, replyToBrowser, sendSocksReply, httpsConnected,
          tcpSend, tcpClose, htcp]
  | unknown | other =>
      cases ok <;> cases htcp : s.tcpSocket <;>
        simp [Used, Safe, handle, p2pSynack, replyToBrowser, tcpClose, htcp]

/-- Once there is a stream, a read uses no pointer that may be empty. -/
theorem browser_data_result {s : Socks5Session L} {id : UInt32} (h : Orderly s)
    (hsession : s.session = some id) (data : Bytes) :
    ((handle (.browserData data)).run s).result = .ok () := by
  have hprocess : ∃ out, (processData data).run (received data s) =
      ⟨received data s, out, .ok ()⟩ := by
    rcases h.phase_of_session (by simp [hsession]) with hphase | hphase | hphase
    · exact ⟨_, run_process_data_connected (s := received data s) hphase hsession data⟩
    · exact ⟨_, run_process_data_connecting (s := received data s) hphase data⟩
    · exact ⟨_, run_process_data_closed (s := received data s) hphase data⟩
  obtain ⟨out, hout⟩ := hprocess
  rw [run_browser_data_ok hout]

/-- Once there is a stream, the handler of an event returns if the event is safe and uses an
empty pointer otherwise. -/
theorem used_handle {s : Socks5Session L} {id : UInt32} (h : Orderly s)
    (hsession : s.session = some id) (e : ClientEvent) :
    Used (Safe s e) ((handle e).run s).result := by
  cases e with
  | browserData data => exact ⟨fun _ => browser_data_result h hsession data, by simp [Safe]⟩
  | browserClosed =>
      obtain ⟨out, hclosed, _⟩ := run_browser_closed s
      rw [hclosed]
      exact ⟨fun _ => rfl, by simp [Safe]⟩
  | browserQueue status =>
      rw [run_browser_queue hsession]
      exact ⟨fun _ => rfl, by simp [Safe]⟩
  | synack ok protocol relay => exact used_synack hsession ok protocol relay
  | data payload protocol => exact used_data s payload protocol
  | fin protocol =>
      rw [run_fin]
      exact ⟨fun _ => rfl, by simp [Safe]⟩
  | stop =>
      rw [run_stop]
      exact ⟨fun _ => rfl, by simp [Safe]⟩

/-- A step that does not end in the use of an empty `tcp_socket_` or `udp_session_`. -/
def NoEmptyPointer (_ : Except ClientFault (Socks5Session L)) (_ : ClientEvent)
    (y : Except ClientFault (Socks5Session L)) (_ : List ClientAction) : Prop :=
  y ≠ .error .nullTcpSocket ∧ y ≠ .error .nullUdpSession

theorem no_empty_pointer_iff {s : Socks5Session L} {id : UInt32} (h : Orderly s)
    (hsession : s.session = some id) {e : ClientEvent} {y : Except ClientFault (Socks5Session L)}
    {out : List ClientAction} (hstep : (socks5Session L).step (.ok s) e = some (y, out)) :
    NoEmptyPointer (.ok s) e y out ↔ Safe s e := by
  obtain ⟨s', hs', _, hy, _⟩ := machine_step_eq_some hstep
  cases hs'
  obtain ⟨hsafe, hunsafe⟩ := used_handle h hsession e
  constructor
  · intro hnone
    by_contra hnot
    rcases hunsafe hnot with hresult | hresult
    · rw [hresult] at hy
      exact hnone.1 hy
    · rw [hresult] at hy
      exact hnone.2 hy
  · intro hs
    rw [hsafe hs] at hy
    rw [hy]
    exact ⟨nofun, nofun⟩

end Socks5Session

open Socks5Session

variable {L : Llhttp}

/-- From any reachable state of a client session that has sent its `SYN`, no handler of a run uses
an empty `tcp_socket_` or `udp_session_` if and only if every event of the run is safe in the state
it finds. -/
theorem client_pointers_safe_iff {s : Socks5Session L} (h : Reachable s)
    (hsyn : s.session.isSome = true) {es : List ClientEvent}
    {r : Except ClientFault (Socks5Session L)} {out : List ClientAction}
    (hrun : (socks5Session L).run (.ok s) es = some (r, out)) :
    (socks5Session L).AllSteps NoEmptyPointer (.ok s) es ↔
      (socks5Session L).Meets (Effect.WhenAlive Safe) (.ok s) es := by
  obtain ⟨id, hid⟩ := Option.isSome_iff_exists.mp hsyn
  refine Machine.all_steps_iff_meets hrun fun before mid x e y new hbefore hstep => ?_
  obtain ⟨t, rfl, _, _, _⟩ := Effect.machine_step_eq_some hstep
  obtain ⟨ht, hkept⟩ := orderly_run h.orderly hbefore
  rw [Effect.when_alive_ok]
  exact no_empty_pointer_iff ht (hkept id hid) hstep

theorem client_pointers_safe_connect :
    ∃ s : Socks5Session .idle, Reachable s ∧ s.session.isSome = true ∧
      (socks5Session .idle).AllSteps NoEmptyPointer (.ok s)
        [.synack true .socks5Connect none, .browserClosed] := by
  obtain ⟨s, t, u, hconnect, hsyn, htcp, hsynack, hclosed⟩ : ∃ s t u,
      (socks5Session .idle).run (.ok (started .idle 1 (fun _ => 7) fun _ => 0)) socksConnect =
        some (.ok s, [.tcpSend [0x05, 0x00], .createSession 7,
          .sendSyn 7 (text "10.0.0.1") 80 .socks5Connect]) ∧
      s.session.isSome = true ∧ s.tcpSocket = true ∧
      (socks5Session .idle).run (.ok s) [.synack true .socks5Connect none] =
        some (.ok t, [.tcpSend [0x05, 0x00, 0x00, 0x01, 0, 0, 0, 0, 0, 0]]) ∧
      (socks5Session .idle).run (.ok s) [.synack true .socks5Connect none, .browserClosed] =
        some (.ok u, [.tcpSend [0x05, 0x00, 0x00, 0x01, 0, 0, 0, 0, 0, 0],
          .sendFin 7 .socks5Connect, .onClose 1]) :=
    ⟨_, _, _, rfl, rfl, rfl, rfl, rfl⟩
  have hreachable : Reachable s := ⟨1, _, _, _, _, hconnect⟩
  refine ⟨s, hreachable, hsyn, (client_pointers_safe_iff hreachable hsyn hclosed).mpr ?_⟩
  have hfirst : (socks5Session .idle).Meets (Effect.WhenAlive Safe) (.ok s)
      [.synack true .socks5Connect none] :=
    (Machine.meets_nil _).snoc rfl (Effect.when_alive_ok.mpr htcp)
  exact hfirst.snoc hsynack (Effect.when_alive_ok.mpr trivial)

/-- A `DATA` frame with the protocol byte of a UDP association, sent to a session that carries a
SOCKS5 connection. -/
theorem relay_data_uses_empty_pointer :
    ∃ s : Socks5Session .idle, Reachable s ∧ s.session.isSome = true ∧
      (socks5Session .idle).run (.ok s) [.data [] .udpAssociate] =
        some (.error .nullUdpSession, []) ∧
      ¬ (socks5Session .idle).AllSteps NoEmptyPointer (.ok s) [.data [] .udpAssociate] := by
  obtain ⟨s, hconnect, hsyn, hrun⟩ : ∃ s,
      (socks5Session .idle).run (.ok (started .idle 1 (fun _ => 7) fun _ => 0)) socksConnect =
        some (.ok s, [.tcpSend [0x05, 0x00], .createSession 7,
          .sendSyn 7 (text "10.0.0.1") 80 .socks5Connect]) ∧
      s.session.isSome = true ∧
      (socks5Session .idle).run (.ok s) [.data [] .udpAssociate] =
        some (.error .nullUdpSession, []) := ⟨_, rfl, rfl, rfl⟩
  refine ⟨s, ⟨1, _, _, _, _, hconnect⟩, hsyn, hrun, fun hall => ?_⟩
  have hsafe := hall [] (.data [] .udpAssociate) [] _ _ _ _ rfl rfl (Machine.run_singleton.mp hrun)
  exact hsafe.2 rfl

end RtcVpn
