import RtcVpn.Http.RelayRuns
import RtcVpn.Server.Targets

/-!
# The server's end of a plain HTTP tunnel

`HttpSession` of `http_session`, the `SessionInterface` of a tunnel for plain
HTTP: what the tunnel brings is parsed as requests, each of which is written to
the target's socket with its target in origin form. What the socket reports is
handed to the functions that `TunnelSession::init` binds, of which the one for
its write queue is not bound.
-/

namespace RtcVpn

/-- `ToOriginForm` of `session_protocol`. -/
def toOriginForm (target : Bytes) : Bytes :=
  match target with
  | [] => text "/"
  | c :: _ =>
      if c = 0x2F then target
      else
        let pos :=
          if (text "http://").isPrefixOf target then some (text "http://").length
          else if (text "https://").isPrefixOf target then some (text "https://").length
          else none
        match pos with
        | none => target
        | some pos =>
            match splitAtFirst 0x2F (target.drop pos) with
            | none => text "/"
            | some (_, path) => 0x2F :: path

example : toOriginForm (text "http://a.b:81/c?d") = text "/c?d" := by decide

/-- `HttpSession`: what it has of `SessionInterface`, whether `target_socket_` is there, and its
parser. -/
structure HttpSession (L : Llhttp) where
  interface : SessionInterface := {}
  targetSocket : Bool := true
  httpParseRequest : HttpParser L := .make L .request

/-- The functions of the interface, and the callbacks of the target's socket. -/
inductive HttpSessionEvent where
  | start (host : Bytes) (port : UInt16)
  | stop
  | revP2pData (data : Bytes)
  | startReceive
  | pauseReceive
  | target (report : TargetReport)
  deriving DecidableEq, Repr

/-- What the session has the target's socket do, and the bound functions it calls. -/
inductive HttpSessionAction where
  | targetConnect (host : Bytes) (port : UInt16)
  | targetSend (data : Bytes)
  | targetClose
  | startReading
  | stopReading
  | sendSynack (success : Bool)
  | sendData (data : Bytes)
  | sendFinish
  | closeFunc
  deriving DecidableEq, Repr

/-- An empty `target_socket_` is dereferenced, or a function is called that is not bound. -/
inductive HttpSessionFault where
  | nullTargetSocket
  | badFunctionCall
  deriving DecidableEq, Repr

namespace HttpSession

open Effect

variable {L : Llhttp}

/-- A handler of the session. -/
abbrev Handler (L : Llhttp) (β : Type) : Type :=
  Effect (HttpSession L) HttpSessionAction HttpSessionFault β

/-- A call of a function of `target_socket_`. -/
def onTarget (action : HttpSessionAction) : Handler L Unit := do
  let s ← get
  if s.targetSocket then emit action else fail .nullTargetSocket

/-- `target_socket_->send`. -/
def targetSend (data : Bytes) : Handler L Unit := onTarget (.targetSend data)

/-- `close`. -/
def close : Handler L Unit := onTarget .targetClose

/-! ## The parser's callbacks -/

/-- The callback for headers: it changes the message of the parser. -/
def onRequestHead (msg : Message) : Handler L Unit := do
  let msg := { msg with target := toOriginForm msg.target }
  modify fun s => { s with httpParseRequest := { s.httpParseRequest with message := msg } }
  targetSend (msg.serializeHeadersOnly false none)

/-- The callback for a piece of the body. -/
def onRequestBody (data : Bytes) : Handler L Unit := do
  let s ← get
  if s.httpParseRequest.message.chunked then
    targetSend (hexadecimal data.length ++ [0x0D, 0x0A] ++ data ++ [0x0D, 0x0A])
  else targetSend data

/-- The callback for the end of a message. -/
def onRequestComplete : Handler L Unit := do
  let s ← get
  if s.httpParseRequest.message.chunked then targetSend [0x30, 0x0D, 0x0A, 0x0D, 0x0A] else pure ()

/-- The callbacks set on `http_parse_request_`. -/
def requestCallbacks : HttpCallbacks (HttpSession L) HttpSessionAction HttpSessionFault where
  onHeadersComplete := some onRequestHead
  onBody := some onRequestBody
  onMessageComplete := some onRequestComplete
  onError := some fun _ _ => close

/-- Where `http_parse_request_` is. -/
def requestSlot : HttpSlot L (HttpSession L) where
  read := httpParseRequest
  write p s := { s with httpParseRequest := p }

/-! ## The machine -/

/-- `closeSession`. -/
def closeSession : Handler L Unit := do
  let s ← get
  if s.interface.isClosed then pure ()
  else do
    if s.interface.isP2pClosed then pure () else emit .sendFinish
    modify fun s => { s with interface := { s.interface with isClosed := true } }
    emit .closeFunc

/-- The handler of each event. -/
def handle : HttpSessionEvent → Handler L Unit
  | .start host port => onTarget (.targetConnect host port)
  | .stop => do
      modify fun s => { s with interface := { s.interface with isP2pClosed := true } }
      close
  | .revP2pData data => do
      let _ ← requestSlot.feed requestCallbacks data
      pure ()
  | .startReceive => onTarget .startReading
  | .pauseReceive => onTarget .stopReading
  | .target (.connected success) => emit (.sendSynack success)
  | .target (.data data) => emit (.sendData data)
  | .target (.queue _) => fail .badFunctionCall
  | .target .closed => do
      closeSession
      modify fun s => { s with targetSocket := false }

/-- A target's socket whose close has been reported reports no more. -/
def enabled (s : HttpSession L) : HttpSessionEvent → Bool
  | .target _ => s.targetSocket
  | _ => true

end HttpSession

/-- The session as a machine. -/
def httpSession (L : Llhttp) :
    Machine (Except HttpSessionFault (HttpSession L)) HttpSessionEvent HttpSessionAction :=
  Effect.machine HttpSession.enabled HttpSession.handle

namespace HttpSession

open Effect

variable {L : Llhttp}

/-! ## The session as an end that relays -/

/-- What the session does with what llhttp reports. -/
def relay (L : Llhttp) : Relay L where
  rewrite msg := { msg with target := toOriginForm msg.target }
  isChunked p := p.message.chunked

/-- The buffer that an event brings. -/
def payload : HttpSessionEvent → Option Bytes
  | .revP2pData data => some data
  | _ => none

/-- What is sent to the target. -/
def sent : HttpSessionAction → Option Bytes
  | .targetSend data => some data
  | _ => none

theorem lawful_relay : (relay L).Lawful where
  complete info p := rfl
  field span p := by
    show (p.onHeaderField span).message.chunked = p.message.chunked
    rw [HttpParser.onHeaderField]
    split <;> rfl
  value span p := rfl
  parser x p := rfl

theorem lawful_request_slot : (requestSlot (L := L)).Lawful where
  read_write _ _ := rfl
  write_write _ _ _ := rfl
  write_read _ := rfl

/-- Sending, if it returns. -/
theorem target_send_ok {data : Bytes} {s t : HttpSession L} {as : List HttpSessionAction}
    (h : (targetSend data).run s = ⟨t, as, .ok ()⟩) : t = s ∧ as = [.targetSend data] := by
  have hsplit : (targetSend data).run s =
      (if s.targetSocket then emit (.targetSend data) else fail .nullTargetSocket :
        Handler L Unit).run s := rfl
  rw [hsplit] at h
  cases hsocket : s.targetSocket <;> rw [hsocket] at h <;> cases h
  exact ⟨rfl, rfl⟩

/-- The callbacks do what the relay does. -/
theorem relays_request_callbacks :
    (requestSlot (L := L)).Relays requestCallbacks (relay L) .targetSend := by
  intro e s t as h
  cases e with
  | messageBegin | url _ | status _ | headerField _ | headerValue _ =>
      cases h
      exact ⟨rfl, rfl⟩
  | headersComplete info =>
      have hsplit : (requestSlot.onEvent requestCallbacks (.headersComplete info)).run s =
          (targetSend (((relay L).rewrite
            (s.httpParseRequest.onHeadersComplete info).message).serializeHeadersOnly
              false none)).run (requestSlot.write ((relay L).next (.headersComplete info)
                s.httpParseRequest) s) := rfl
      rw [hsplit] at h
      exact target_send_ok h
  | body span =>
      have hsplit : (requestSlot.onEvent requestCallbacks (.body span)).run s =
          (if s.httpParseRequest.message.chunked then targetSend (Relay.chunk span)
            else targetSend span : Handler L Unit).run s := rfl
      rw [hsplit] at h
      have hchunked : (relay L).isChunked s.httpParseRequest =
          s.httpParseRequest.message.chunked := rfl
      show _ ∧ as = [if (relay L).isChunked s.httpParseRequest then _ else _].map _
      rw [hchunked]
      cases hflag : s.httpParseRequest.message.chunked <;> rw [hflag] at h <;>
        exact target_send_ok h
  | messageComplete =>
      have hsplit : (requestSlot.onEvent requestCallbacks .messageComplete).run s =
          (if s.httpParseRequest.message.chunked then targetSend Relay.lastChunk
            else pure () : Handler L Unit).run
              (requestSlot.write ((relay L).next .messageComplete s.httpParseRequest) s) := rfl
      rw [hsplit] at h
      have hchunked : (relay L).isChunked s.httpParseRequest =
          s.httpParseRequest.message.chunked := rfl
      show _ ∧ as = (if (relay L).isChunked s.httpParseRequest then _ else _ : List Bytes).map _
      rw [hchunked]
      cases hflag : s.httpParseRequest.message.chunked <;> rw [hflag] at h
      · cases h
        exact ⟨rfl, rfl⟩
      · exact target_send_ok h

/-- A step at an event that brings no buffer leaves the parser alone and sends nothing. -/
theorem other_step {s t : HttpSession L} {e : HttpSessionEvent} {out : List HttpSessionAction}
    (hrun : (handle e).run s = ⟨t, out, .ok ()⟩) (he : payload e = none) :
    t.httpParseRequest = s.httpParseRequest ∧ out.filterMap sent = [] := by
  have htarget : ∀ {action : HttpSessionAction} {s t : HttpSession L} {out},
      (onTarget action).run s = ⟨t, out, .ok ()⟩ → sent action = none →
      t.httpParseRequest = s.httpParseRequest ∧ out.filterMap sent = [] := by
    intro action s t out h hsent
    have hsplit : (onTarget action).run s =
        (if s.targetSocket then emit action else fail .nullTargetSocket : Handler L Unit).run s :=
      rfl
    rw [hsplit] at h
    cases hsocket : s.targetSocket <;> rw [hsocket] at h <;> cases h
    exact ⟨rfl, by simp [hsent]⟩
  cases e with
  | start host port => exact htarget hrun rfl
  | stop =>
      have hsplit : (handle .stop).run s =
          close.run { s with interface := { s.interface with isP2pClosed := true } } := rfl
      rw [hsplit] at hrun
      have hclose := @htarget .targetClose _ _ _ hrun rfl
      exact hclose
  | revP2pData data => cases he
  | startReceive => exact htarget hrun rfl
  | pauseReceive => exact htarget hrun rfl
  | target report =>
      cases report with
      | connected success => cases hrun; exact ⟨rfl, rfl⟩
      | data data => cases hrun; exact ⟨rfl, rfl⟩
      | queue status => cases hrun
      | closed =>
          obtain ⟨⟨p2pClosed, closed⟩, socket, p⟩ := s
          cases closed <;> cases p2pClosed <;> cases hrun <;> exact ⟨rfl, rfl⟩

/-- A step at an event that brings a buffer is a feed. -/
theorem feed_step {s t : HttpSession L} {e : HttpSessionEvent} {out : List HttpSessionAction}
    {data : Bytes} (hrun : (handle e).run s = ⟨t, out, .ok ()⟩) (he : payload e = some data) :
    ∃ b, (requestSlot.feed requestCallbacks data).run s = ⟨t, out, .ok b⟩ := by
  cases e with
  | revP2pData data' =>
      cases he
      rw [handle, run_bind] at hrun
      obtain ⟨u, first, b, rest, hfirst, hrest, rfl⟩ := andThen_eq_ok hrun
      cases hrest
      exact ⟨b, by rw [hfirst, List.append_nil]⟩
  | start _ _ | stop | startReceive | pauseReceive | target _ => cases he

theorem sent_sends (sends : List Bytes) :
    (sends.map HttpSessionAction.targetSend).filterMap sent = sends := by
  induction sends with
  | nil => rfl
  | cons data sends ih => simp [sent, ih]

/-- The session is an end that relays. -/
theorem relay_end :
    RelayEnd (httpSession L) (relay L) payload httpParseRequest fun _ => sent where
  lawful := lawful_relay
  other hstep he := by
    obtain ⟨s, hs, _, hrun⟩ := machine_step_alive hstep
    cases hs
    exact other_step hrun he
  fed hstep he hok hexecute := by
    obtain ⟨s, hs, _, hrun⟩ := machine_step_alive hstep
    cases hs
    obtain ⟨b, hfeed⟩ := feed_step hrun he
    obtain ⟨rfl, rfl⟩ := HttpSlot.run_feed_ok lawful_request_slot relays_request_callbacks hok
      hexecute hfeed
    exact ⟨rfl, sent_sends _⟩
  paused hstep he hok hexecute := by
    obtain ⟨s, hs, _, hrun⟩ := machine_step_alive hstep
    cases hs
    obtain ⟨b, hfeed⟩ := feed_step hrun he
    obtain ⟨hparser, rfl⟩ := HttpSlot.run_feed_paused lawful_request_slot relays_request_callbacks
      rfl hok hexecute hfeed
    exact ⟨hparser, sent_sends _⟩

end HttpSession

end RtcVpn
