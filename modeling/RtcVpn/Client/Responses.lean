import RtcVpn.Client.Handlers
import RtcVpn.Http.RelayRuns

/-!
# The responses of a plain HTTP tunnel

What the tunnel of a session brings under the protocol of plain HTTP is parsed
as responses, each of which is written to the browser's socket. Nothing else
that a session does touches the response parser.
-/

namespace RtcVpn

namespace Socks5Session

open Effect

variable {L : Llhttp}

/-- What the session does with what llhttp reports of responses. -/
def responseRelay (L : Llhttp) : Relay L where
  rewrite msg := msg
  isChunked p := p.isChunked

/-- The buffer that an event brings to the response parser. -/
def responsePayload : ClientEvent → Option Bytes
  | .data payload .httpPlain => some payload
  | _ => none

/-- What is sent to the browser at an event that brings a buffer to the response parser. -/
def responseSent (e : ClientEvent) : ClientAction → Option Bytes
  | .tcpSend data => (responsePayload e).map fun _ => data
  | _ => none

theorem lawful_response_relay : (responseRelay L).Lawful where
  complete info p := rfl
  field span p := by
    show (p.onHeaderField span).isChunked = p.isChunked
    rw [HttpParser.onHeaderField]
    split <;> rfl
  value span p := rfl
  parser x p := rfl

theorem lawful_response_slot : (responseSlot (L := L)).Lawful where
  read_write _ _ := rfl
  write_write _ _ _ := rfl
  write_read _ := rfl

/-- Sending, if it returns. -/
theorem tcp_send_ok {data : Bytes} {s t : Socks5Session L} {as : List ClientAction}
    (h : (tcpSend data).run s = ⟨t, as, .ok ()⟩) : t = s ∧ as = [.tcpSend data] := by
  have hsplit : (tcpSend data).run s =
      (if s.tcpSocket then emit (.tcpSend data) else fail .nullTcpSocket : Handler L Unit).run s :=
    rfl
  rw [hsplit] at h
  cases hsocket : s.tcpSocket <;> rw [hsocket] at h <;> cases h
  exact ⟨rfl, rfl⟩

/-- The callbacks do what the relay does. -/
theorem relays_response_callbacks :
    (responseSlot (L := L)).Relays responseCallbacks (responseRelay L) .tcpSend := by
  intro e s t as h
  cases e with
  | messageBegin | url _ | status _ | headerField _ | headerValue _ =>
      cases h
      exact ⟨rfl, rfl⟩
  | headersComplete info =>
      have hsplit : (responseSlot.onEvent responseCallbacks (.headersComplete info)).run s =
          (tcpSend ((s.httpResponseParser.onHeadersComplete info).message.serializeHeadersOnly
            false none)).run (responseSlot.write ((responseRelay L).next (.headersComplete info)
              s.httpResponseParser) s) := rfl
      rw [hsplit] at h
      exact tcp_send_ok h
  | body span =>
      have hsplit : (responseSlot.onEvent responseCallbacks (.body span)).run s =
          (if s.httpResponseParser.isChunked then tcpSend (Relay.chunk span)
            else tcpSend span : Handler L Unit).run s := rfl
      have hchunked : (responseRelay L).isChunked s.httpResponseParser =
          s.httpResponseParser.isChunked := rfl
      rw [hsplit] at h
      show _ ∧ as = [if (responseRelay L).isChunked s.httpResponseParser then _ else _].map _
      rw [hchunked]
      cases hflag : s.httpResponseParser.isChunked <;> rw [hflag] at h <;>
        exact tcp_send_ok h
  | messageComplete =>
      have hsplit : (responseSlot.onEvent responseCallbacks .messageComplete).run s =
          (if s.httpResponseParser.isChunked then tcpSend Relay.lastChunk
            else pure () : Handler L Unit).run
              (responseSlot.write
                ((responseRelay L).next .messageComplete s.httpResponseParser) s) :=
        rfl
      have hchunked : (responseRelay L).isChunked s.httpResponseParser =
          s.httpResponseParser.isChunked := rfl
      rw [hsplit] at h
      show _ ∧ as = (if (responseRelay L).isChunked s.httpResponseParser then _ else _ :
        List Bytes).map _
      rw [hchunked]
      cases hflag : s.httpResponseParser.isChunked <;> rw [hflag] at h
      · cases h
        exact ⟨rfl, rfl⟩
      · exact tcp_send_ok h

/-! ## Other events -/

/-- The response parser is left alone. -/
def SameParser (s : Socks5Session L) (_ : List ClientAction) (t : Socks5Session L) : Prop :=
  t.httpResponseParser = s.httpResponseParser

theorem same_parser_admits : Admits (SameParser (L := L)) where
  composes := ⟨fun _ => rfl, fun h h' => h'.trans h⟩
  send _ _ := rfl
  close _ := rfl
  forward _ _ _ _ := rfl

theorem same_parser_browser : AdmitsBrowser (SameParser (L := L)) :=
  { same_parser_admits with
    update := fun _ h => h
    request := fun _ => rfl }

theorem same_parser_synack : AdmitsSynack (SameParser (L := L)) :=
  { same_parser_admits with
    update := fun _ _ h _ => h
    relay := fun _ => rfl }

/-- Only what the tunnel brings as plain HTTP is parsed. -/
theorem same_parser_handle {e : ClientEvent} (he : responsePayload e = none) :
    Relates SameParser (handle e : Handler L Unit) := by
  have h := same_parser_admits (L := L)
  have hmodify : ∀ {f : Socks5Session L → Socks5Session L},
      (∀ s, (f s).httpResponseParser = s.httpResponseParser) →
      Relates SameParser (modify f : Handler L Unit) := fun hf s => hf s
  have hemit : ∀ a, Relates SameParser (emit a : Handler L Unit) := fun a s => rfl
  have hclose : Relates SameParser (close : Handler L Unit) :=
    h.get_bind fun s => .ite h.tcp_close (h.relates_pure ())
  have hsession : Relates SameParser (closeSession : Handler L Unit) := by
    intro s
    cases hsession : s.session <;> cases hp2p : s.isP2pClosed <;> cases hclosed : s.isClosed <;>
      cases hon : s.onClose <;> simp [closeSession, hsession, hp2p, hclosed, hon, SameParser]
  have hid : Relates SameParser (streamId : Handler L UInt32) := by
    refine h.get_bind fun s => ?_
    cases s.session with
    | none => exact h.relates_fail _
    | some id => exact h.relates_pure id
  cases e with
  | browserData data => exact same_parser_browser.browser_data data
  | browserClosed => exact h.bind hsession fun _ => hmodify fun _ => rfl
  | browserQueue status => exact h.bind hid fun _ => h.get_bind fun _ => hemit _
  | synack ok protocol relay => exact same_parser_synack.synack ok protocol relay
  | fin protocol => exact h.bind (hmodify fun _ => rfl) fun _ => hclose
  | stop => exact h.bind (hmodify fun _ => rfl) fun _ => hclose
  | data payload protocol =>
      refine .swallow _ ?_
      cases protocol with
      | httpPlain => cases he
      | udpAssociate => exact h.get_bind fun s => .ite (hemit _) (h.relates_fail _)
      | socks5Connect | httpsConnect => exact h.tcp_send payload
      | unknown | other => exact h.relates_pure ()

/-! ## The session as an end that relays -/

/-- Nothing that is made of a response throws. -/
theorem never_feed_response (data : Bytes) :
    Never .exception (responseSlot.feed responseCallbacks data : Handler L Bool) := by
  have hsend : ∀ data, Never .exception (tcpSend data : Handler L Unit) :=
    fun data => .bind .get fun s => .ite (.emit _) (.fail nofun)
  refine HttpSlot.never_feed _ _ ?_ ?_ ?_ ?_ ?_ data
  · intro f m hf
    cases hf
    exact hsend _
  · intro f data hf
    cases hf
    exact .bind .get fun s => .ite (hsend _) (hsend _)
  · intro f hf
    cases hf
    exact .bind .get fun s => .ite (hsend _) (.pure ())
  · intro f code reason hf
    cases hf
    exact .bind .get fun s => .ite (.emit _) (.fail nofun)
  · exact fun f data hf => by cases hf

/-- A step at an event that brings a buffer is a feed. -/
theorem feed_step {s t : Socks5Session L} {e : ClientEvent} {out : List ClientAction}
    {data : Bytes} (hrun : (handle e).run s = ⟨t, out, .ok ()⟩)
    (he : responsePayload e = some data) :
    ∃ b, (responseSlot.feed responseCallbacks data).run s = ⟨t, out, .ok b⟩ := by
  have hfeed : ∀ payload, (handle (.data payload .httpPlain)).run s = ⟨t, out, .ok ()⟩ →
      ∃ b, (responseSlot.feed responseCallbacks payload).run s = ⟨t, out, .ok b⟩ := by
    intro payload h
    have hnever : Never .exception (p2pData payload .httpPlain : Handler L Unit) :=
      .bind (never_feed_response payload) fun _ => .pure ()
    rw [handle, hnever.run_swallow, p2pData, run_bind] at h
    obtain ⟨u, first, b, rest, hfirst, hrest, rfl⟩ := andThen_eq_ok h
    cases hrest
    exact ⟨b, by rw [hfirst, List.append_nil]⟩
  cases e with
  | data payload protocol =>
      cases protocol with
      | httpPlain =>
          cases he
          exact hfeed _ hrun
      | _ => cases he
  | _ => cases he

theorem response_sent_sends {e : ClientEvent} {data : Bytes} (he : responsePayload e = some data)
    (sends : List Bytes) :
    (sends.map ClientAction.tcpSend).filterMap (responseSent e) = sends := by
  induction sends with
  | nil => rfl
  | cons data sends ih => simp [responseSent, he, ih]

/-- The session is an end that relays. -/
theorem response_end :
    RelayEnd (socks5Session L) (responseRelay L) responsePayload httpResponseParser
      responseSent where
  lawful := lawful_response_relay
  other := fun {s t e out} hstep he => by
    obtain ⟨s, hs, _, hrun⟩ := machine_step_alive hstep
    cases hs
    have hsame := same_parser_handle he s
    rw [hrun] at hsame
    refine ⟨hsame, List.filterMap_eq_nil_iff.mpr fun a _ => ?_⟩
    cases a <;> simp [responseSent, he]
  fed hstep he hok hexecute := by
    obtain ⟨s, hs, _, hrun⟩ := machine_step_alive hstep
    cases hs
    obtain ⟨b, hfeed⟩ := feed_step hrun he
    obtain ⟨rfl, rfl⟩ := HttpSlot.run_feed_ok lawful_response_slot relays_response_callbacks hok
      hexecute hfeed
    exact ⟨rfl, response_sent_sends he _⟩
  paused hstep he hok hexecute := by
    obtain ⟨s, hs, _, hrun⟩ := machine_step_alive hstep
    cases hs
    obtain ⟨b, hfeed⟩ := feed_step hrun he
    obtain ⟨hparser, rfl⟩ := HttpSlot.run_feed_paused lawful_response_slot
      relays_response_callbacks rfl hok hexecute hfeed
    exact ⟨hparser, response_sent_sends he _⟩

end Socks5Session

end RtcVpn
