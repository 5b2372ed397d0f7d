import RtcVpn.Client.Requests
import RtcVpn.Tunnel.Segmentation

/-!
# The heads that a session parses

`hears` is what llhttp reports of reads that are fed to it one after the other.
A session opens streams for what the heads among it ask for, and for nothing
else. Its request parser collects them as a relay that rewrites nothing does, so
what is known of relays applies to it.
-/

namespace RtcVpn

/-! ## What llhttp reports -/

/-- What llhttp reports of buffers it reads one after the other, resumed after an upgrade and
stopped at an error. -/
def Llhttp.hears (L : Llhttp) : L.State → List Bytes → List LlhttpEvent
  | _, [] => []
  | x, data :: feeds =>
      match L.execute x data with
      | (y, events, .ok) => events ++ L.hears y feeds
      | (y, events, .pausedUpgrade _) => events ++ L.hears (L.resumeAfterUpgrade y) feeds
      | (_, events, .error _ _) => events

/-- More buffers only add to it. -/
theorem Llhttp.hears_prefix {L : Llhttp} (x : L.State) (feeds more : List Bytes) :
    L.hears x feeds <+: L.hears x (feeds ++ more) := by
  induction feeds generalizing x with
  | nil => exact List.nil_prefix
  | cons data feeds ih =>
      rw [List.cons_append, hears, hears]
      obtain ⟨y, events, errno⟩ := L.execute x data
      cases errno with
      | ok => exact (List.prefix_append_right_inj events).mpr (ih y)
      | pausedUpgrade consumed =>
          exact (List.prefix_append_right_inj events).mpr (ih (L.resumeAfterUpgrade y))
      | error code reason => exact List.prefix_refl events

namespace Relay

variable {L : Llhttp} (r : Relay L)

theorem messages_append (p : HttpParser L) (es fs : List LlhttpEvent) :
    r.messages p (es ++ fs) = r.messages p es ++ r.messages (r.after p es) fs := by
  induction es generalizing p with
  | nil => rfl
  | cons e es ih =>
      rw [List.cons_append, after_cons]
      cases e with
      | headersComplete info => exact congrArg (_ :: ·) (ih _)
      | _ => exact ih _

end Relay

namespace HttpParser

variable {L : Llhttp}

/-- The parser without what it keeps of bodies, of upgrades and of llhttp. -/
def bare (p : HttpParser L) : HttpParser L :=
  { p with
    parser := L.init p.type
    hadError := false
    remainingAfterUpgrade := []
    message := { p.message with body := [] } }

/-- The parser after some callbacks of llhttp. -/
def afterEvents (p : HttpParser L) (es : List LlhttpEvent) : HttpParser L :=
  es.foldl (fun p e => p.onEvent e) p

/-- The parser at the end of a feed. -/
def finished (data : Bytes) (x : L.State) : LlhttpErrno → HttpParser L → HttpParser L
  | .ok, p => { p with parser := x }
  | .pausedUpgrade consumed, p => HttpSlot.resumed data x consumed p
  | .error _ _, p => { p with parser := x, hadError := true }

/-- The start line and the headers are collected as they are by a relay that rewrites nothing. -/
theorem bare_on_event (e : LlhttpEvent) (p : HttpParser L) :
    (p.onEvent e).bare = (Socks5Session.responseRelay L).next e p.bare := by
  cases e with
  | headerField span =>
      show (p.onHeaderField span).bare = p.bare.onHeaderField span
      rw [onHeaderField, onHeaderField]
      cases hvalue : p.inHeaderValue <;> simp [bare, hvalue, pushHeader]
  | headersComplete info =>
      show (p.onHeadersComplete info).bare = p.bare.onHeadersComplete info
      rw [onHeadersComplete, onHeadersComplete]
      have hpush : (!p.bare.curHeaderField.isEmpty || p.bare.inHeaderValue) =
          (!p.curHeaderField.isEmpty || p.inHeaderValue) := rfl
      rw [hpush]
      cases htype : p.type <;> split <;> simp [bare, fillStartLine, htype, pushHeader]
  | _ => rfl

theorem bare_after_events (es : List LlhttpEvent) (p : HttpParser L) :
    (p.afterEvents es).bare = (Socks5Session.responseRelay L).after p.bare es := by
  induction es generalizing p with
  | nil => rfl
  | cons e es ih =>
      rw [Relay.after_cons, ← bare_on_event]
      exact ih (p.onEvent e)

theorem had_error_on_event (e : LlhttpEvent) (p : HttpParser L) :
    (p.onEvent e).hadError = p.hadError := by
  have hnext := (Socks5Session.responseRelay L).next_had_error e p
  cases e with
  | body span => rfl
  | _ => exact hnext

theorem had_error_after_events (es : List LlhttpEvent) (p : HttpParser L) :
    (p.afterEvents es).hadError = p.hadError := by
  induction es generalizing p with
  | nil => rfl
  | cons e es ih => exact (ih (p.onEvent e)).trans (had_error_on_event e p)

theorem bare_finished (data : Bytes) (x : L.State) (errno : LlhttpErrno) (p : HttpParser L) :
    (finished data x errno p).bare = p.bare := by
  cases errno with
  | ok | error code reason => rfl
  | pausedUpgrade consumed =>
      cases consumed with
      | none => rfl
      | some n =>
          show (HttpSlot.resumed data x (some n) p).bare = p.bare
          simp only [HttpSlot.resumed, keepRemaining]
          split <;> rfl

/-- A parser has been fed reads, of which llhttp has reported some events. -/
structure Heard (reads : List Bytes) (events : List LlhttpEvent) (p : HttpParser L) : Prop where
  hears : ∀ rest, L.hears (L.init .request) (reads ++ rest) =
    events ++ if p.hadError then [] else L.hears p.parser rest
  bare : p.bare = (Socks5Session.responseRelay L).after (.make L .request) events

theorem heard_make : Heard [] [] (.make L .request) where
  hears _ := rfl
  bare := rfl

/-- A parser that has seen an error is fed no more. -/
theorem Heard.error {reads : List Bytes} {events : List LlhttpEvent} {p : HttpParser L}
    (h : Heard reads events p) (herror : p.hadError = true) (data : Bytes) :
    Heard (reads ++ [data]) events p where
  hears rest := by
    have hmore := h.hears (data :: rest)
    rw [if_pos herror] at hmore ⊢
    rwa [List.append_assoc]
  bare := h.bare

/-- One more read. -/
theorem Heard.feed {reads : List Bytes} {events es : List LlhttpEvent} {p : HttpParser L}
    (h : Heard reads events p) (hok : p.hadError = false) {data : Bytes} {x : L.State}
    {errno : LlhttpErrno} (hexecute : L.execute p.parser data = (x, es, errno)) :
    Heard (reads ++ [data]) (events ++ es) (finished data x errno (p.afterEvents es)) where
  hears rest := by
    have hmore := h.hears (data :: rest)
    have hsame : (p.afterEvents es).hadError = false := (had_error_after_events es p).trans hok
    rw [if_neg (by simp [hok]), Llhttp.hears, hexecute] at hmore
    rw [List.append_assoc, List.singleton_append, List.append_assoc]
    cases errno with
    | ok =>
        have hfed : (finished data x .ok (p.afterEvents es)).hadError = false := hsame
        rw [if_neg (by simp [hfed])]
        exact hmore
    | pausedUpgrade consumed =>
        have hfed : (finished data x (.pausedUpgrade consumed) (p.afterEvents es)).hadError =
            false := (keep_remaining_had_error _ data consumed).trans hsame
        have hparser : (finished data x (.pausedUpgrade consumed) (p.afterEvents es)).parser =
            L.resumeAfterUpgrade x := by
          cases consumed with
          | none => rfl
          | some n =>
              simp only [finished, HttpSlot.resumed, keepRemaining]
              split <;> rfl
        rw [if_neg (by simp [hfed]), hparser]
        exact hmore
    | error code reason =>
        have hfed : (finished data x (.error code reason) (p.afterEvents es)).hadError = true := rfl
        rw [if_pos hfed, List.append_nil]
        exact hmore
  bare := by
    rw [bare_finished, bare_after_events, h.bare, Relay.after_append]

end HttpParser

namespace Socks5Session

open Effect HttpParser

variable {L : Llhttp}

/-! ## What streams are opened for -/

/-- The heads of the requests that llhttp reports of some reads. -/
def headsOf (L : Llhttp) (reads : List Bytes) : List Message :=
  (responseRelay L).messages (.make L .request) (L.hears (L.init .request) reads)

/-- A head asks for a target. -/
structure AsksFor (msg : Message) (host : Bytes) (port : UInt16) (protocol : Protocol) : Prop where
  target : targetOf (authorityOf msg) = some (host, port)
  host_ne_nil : host ≠ []
  protocol : protocol = protocolOf msg

/-- Each `SYN` frame is for a target that one of some heads asks for. -/
def SynsFor (msgs : List Message) (out : List ClientAction) : Prop :=
  ∀ id host port protocol, .sendSyn id host port protocol ∈ out →
    ∃ msg ∈ msgs, AsksFor msg host port protocol

theorem SynsFor.append {msgs : List Message} {out new : List ClientAction} (h : SynsFor msgs out)
    (h' : SynsFor msgs new) : SynsFor msgs (out ++ new) := by
  intro id host port protocol hmem
  exact (List.mem_append.mp hmem).elim (h id host port protocol) (h' id host port protocol)

theorem SynsFor.mono {msgs more : List Message} {out : List ClientAction} (h : SynsFor msgs out)
    (hsub : msgs ⊆ more) : SynsFor more out := by
  intro id host port protocol hmem
  obtain ⟨msg, hmsg, hasks⟩ := h id host port protocol hmem
  exact ⟨msg, hsub hmsg, hasks⟩

/-- Actions that open no stream. -/
theorem SynsFor.of_none {msgs : List Message} {out : List ClientAction}
    (h : out.filterMap ClientAction.synId = []) : SynsFor msgs out := by
  intro id host port protocol hmem
  have hnone := List.filterMap_eq_nil_iff.mp h _ hmem
  cases hnone

/-- The callback for headers opens a stream for what they ask for, if it opens one. -/
theorem syns_for_on_request_headers (s : Socks5Session L) (msg : Message) :
    SynsFor [msg] ((onRequestHeaders msg).run s).actions := by
  rw [run_on_request_headers]
  cases htarget : targetOf (authorityOf msg) with
  | none => exact .of_none rfl
  | some target =>
      obtain ⟨host, port⟩ := target
      dsimp only
      rw [run_request_target]
      by_cases hhost : host = []
      · have hempty : (s.targeted host port).targetHost.isEmpty = true := by
          show host.isEmpty = true
          rw [hhost]
          rfl
        rw [if_pos hempty]
        refine .of_none ?_
        cases hsocket : s.tcpSocket <;> simp [tcpClose, targeted, hsocket, ClientAction.synId]
      · have hfilled : ¬ (s.targeted host port).targetHost.isEmpty = true := by
          show ¬ host.isEmpty = true
          simpa using hhost
        rw [if_neg hfilled, run_request_remote_connect]
        intro id host' port' protocol hmem
        simp only [List.mem_cons, reduceCtorEq, ClientAction.sendSyn.injEq, List.not_mem_nil,
          or_false, false_or] at hmem
        obtain ⟨-, rfl, rfl, rfl⟩ := hmem
        exact ⟨msg, List.mem_singleton_self msg, htarget, hhost, rfl⟩

/-- The callbacks of a read open streams for what its heads ask for, and leave the parser to
llhttp. -/
theorem syns_for_events (events : List LlhttpEvent) (s : Socks5Session L) :
    SynsFor ((responseRelay L).messages s.httpRequestParser.bare events)
        ((forEach events (requestSlot.onEvent requestCallbacks)).run s).actions ∧
      (((forEach events (requestSlot.onEvent requestCallbacks)).run s).result = .ok () →
        ((forEach events (requestSlot.onEvent requestCallbacks)).run s).state.httpRequestParser =
          s.httpRequestParser.afterEvents events) := by
  induction events generalizing s with
  | nil => exact ⟨.of_none rfl, fun _ => rfl⟩
  | cons e events ih =>
      rw [forEach_cons, run_bind]
      have hbare := bare_on_event e s.httpRequestParser
      -- a callback that only changes the parser
      have hquiet : (requestSlot.onEvent requestCallbacks e).run s =
          ⟨{ s with httpRequestParser := s.httpRequestParser.onEvent e }, [], .ok ()⟩ →
          (responseRelay L).messages s.httpRequestParser.bare (e :: events) =
            (responseRelay L).messages ((responseRelay L).next e s.httpRequestParser.bare) events →
          SynsFor ((responseRelay L).messages s.httpRequestParser.bare (e :: events))
              (andThen ((requestSlot.onEvent requestCallbacks e).run s) fun _ =>
                forEach events (requestSlot.onEvent requestCallbacks)).actions ∧
            ((andThen ((requestSlot.onEvent requestCallbacks e).run s) fun _ =>
                forEach events (requestSlot.onEvent requestCallbacks)).result = .ok () →
              (andThen ((requestSlot.onEvent requestCallbacks e).run s) fun _ =>
                forEach events (requestSlot.onEvent requestCallbacks)).state.httpRequestParser =
                s.httpRequestParser.afterEvents (e :: events)) := by
        intro hrun hmessages
        rw [hrun, andThen_ok, hmessages, ← hbare, List.nil_append]
        exact ih { s with httpRequestParser := s.httpRequestParser.onEvent e }
      cases e with
      | headersComplete info =>
          have hrun : (requestSlot.onEvent requestCallbacks (.headersComplete info)).run s =
              (onRequestHeaders (s.httpRequestParser.onHeadersComplete info).message).run
                { s with httpRequestParser := s.httpRequestParser.onHeadersComplete info } := rfl
          have hparser := (syns_on_request_headers
            { s with httpRequestParser := s.httpRequestParser.onHeadersComplete info }
            (s.httpRequestParser.onHeadersComplete info).message).1
          have hsyns := syns_for_on_request_headers
            { s with httpRequestParser := s.httpRequestParser.onHeadersComplete info }
            (s.httpRequestParser.onHeadersComplete info).message
          -- what a head asks for does not depend on a body
          have hhead : (s.httpRequestParser.bare.onHeadersComplete info).message =
              { (s.httpRequestParser.onHeadersComplete info).message with body := [] } :=
            (congrArg HttpParser.message hbare).symm
          have hfirst : SynsFor [(s.httpRequestParser.bare.onHeadersComplete info).message]
              ((onRequestHeaders (s.httpRequestParser.onHeadersComplete info).message).run
                { s with
                  httpRequestParser := s.httpRequestParser.onHeadersComplete info }).actions := by
            intro id host port protocol hmem
            obtain ⟨msg, hmsg, htarget, hhost, hprotocol⟩ := hsyns id host port protocol hmem
            rw [List.mem_singleton.mp hmsg] at htarget hprotocol
            refine ⟨_, List.mem_singleton_self _, ?_, hhost, ?_⟩
            · rw [hhead]
              exact htarget
            · rw [hhead]
              exact hprotocol
          rw [hrun]
          generalize (onRequestHeaders _).run _ = o at hparser hfirst
          obtain ⟨t, as, result⟩ := o
          have hmessages : (responseRelay L).messages s.httpRequestParser.bare
              (.headersComplete info :: events) =
              (s.httpRequestParser.bare.onHeadersComplete info).message ::
                (responseRelay L).messages t.httpRequestParser.bare events := by
            rw [hparser]
            show _ = _ :: (responseRelay L).messages
              (s.httpRequestParser.onEvent (.headersComplete info)).bare events
            rw [hbare]
            rfl
          rw [hmessages]
          cases result with
          | error fault =>
              rw [andThen_error]
              exact ⟨hfirst.mono (by simp), nofun⟩
          | ok _ =>
              obtain ⟨hrest, hafter⟩ := ih t
              rw [andThen_ok]
              refine ⟨(hfirst.mono (by simp)).append (hrest.mono (by simp)), fun hok => ?_⟩
              rw [hafter hok, hparser]
              rfl
      | messageBegin | url | status | headerField | headerValue | body | messageComplete =>
          exact hquiet rfl rfl

/-- The parser at the end of a feed. -/
theorem parser_after_finish (data : Bytes) (x : L.State) (errno : LlhttpErrno)
    (s : Socks5Session L) :
    ((requestSlot.finish requestCallbacks data x errno).run s).state.httpRequestParser =
      finished data x errno s.httpRequestParser := by
  cases errno with
  | ok => rfl
  | pausedUpgrade consumed => rfl
  | error code reason =>
      have hclose : ∀ t : Socks5Session L, (tcpClose.run t).state = t := by
        intro t
        cases hsocket : t.tcpSocket <;> simp [tcpClose, hsocket]
      let parser := finished data x (.error code reason) s.httpRequestParser
      have hrun : (requestSlot.finish requestCallbacks data x (.error code reason)).run s =
          andThen (tcpClose.run { s with httpRequestParser := parser }) fun _ => pure false := rfl
      have hstate := hclose { s with httpRequestParser := parser }
      rw [hrun]
      generalize tcpClose.run { s with httpRequestParser := parser } = o at hstate
      obtain ⟨t, as, _ | _⟩ := o
      · rw [andThen_error]
        exact congrArg Socks5Session.httpRequestParser hstate
      · rw [andThen_ok]
        exact congrArg Socks5Session.httpRequestParser hstate

/-- A feed opens streams for what its heads ask for. -/
theorem syns_for_feed {reads : List Bytes} {events : List LlhttpEvent} {s : Socks5Session L}
    (h : Heard reads events s.httpRequestParser) (data : Bytes) :
    SynsFor (headsOf L (reads ++ [data]))
        ((requestSlot.feed requestCallbacks data).run s).actions ∧
      ∀ b, ((requestSlot.feed requestCallbacks data).run s).result = .ok b →
        ∃ more, Heard (reads ++ [data]) more
          ((requestSlot.feed requestCallbacks data).run s).state.httpRequestParser := by
  cases herror : s.httpRequestParser.hadError with
  | true =>
      rw [requestSlot.run_feed_error requestCallbacks herror]
      exact ⟨.of_none rfl, fun _ _ => ⟨events, h.error herror data⟩⟩
  | false =>
      obtain ⟨x, es, errno, hexecute⟩ : ∃ x es errno,
          L.execute s.httpRequestParser.parser data = (x, es, errno) := ⟨_, _, _, rfl⟩
      have hfed := h.feed herror hexecute
      have hheard : L.hears (L.init .request) (reads ++ [data]) = events ++ es := by
        rw [h.hears, if_neg (by simp [herror]), Llhttp.hears, hexecute]
        cases errno <;> simp [Llhttp.hears]
      have hheads : (responseRelay L).messages s.httpRequestParser.bare es ⊆
          headsOf L (reads ++ [data]) := by
        rw [headsOf, hheard, Relay.messages_append, h.bare]
        exact List.subset_append_right _ _
      obtain ⟨hsyns, hafter⟩ := syns_for_events es s
      have hrun : (requestSlot.feed requestCallbacks data).run s =
          andThen ((forEach es (requestSlot.onEvent requestCallbacks)).run s) fun _ =>
            requestSlot.finish requestCallbacks data x errno := by
        have hfeed := requestSlot.run_feed (s := s) requestCallbacks herror data
        have hread : L.execute (requestSlot.read s).parser data = (x, es, errno) := hexecute
        rwa [hread] at hfeed
      rw [hrun]
      generalize (forEach es (requestSlot.onEvent requestCallbacks)).run s = o at hsyns hafter
      obtain ⟨t, as, result⟩ := o
      cases result with
      | error fault =>
          rw [andThen_error]
          exact ⟨hsyns.mono hheads, nofun⟩
      | ok _ =>
          have hnone : ((requestSlot.finish requestCallbacks data x errno).run t).actions.filterMap
              ClientAction.synId = [] := List.length_eq_zero_iff.mp (syns_finish data x errno t)
          have hparser : t.httpRequestParser = s.httpRequestParser.afterEvents es := hafter rfl
          rw [andThen_ok]
          refine ⟨(hsyns.mono hheads).append (.of_none hnone), fun b _ => ⟨events ++ es, ?_⟩⟩
          show Heard _ _
            ((requestSlot.finish requestCallbacks data x errno).run t).state.httpRequestParser
          rw [parser_after_finish, hparser]
          exact hfed

/-- What a read that is fed to the request parser does. -/
structure Parsed (s : Socks5Session L) (reads : List Bytes) (data : Bytes) (t : Socks5Session L)
    (new : List ClientAction) : Prop where
  syns : SynsFor (headsOf L (reads ++ [data])) new
  noData : ∀ a ∈ new, NoData a
  phase : t.phase = .waitHttpRequestHeaders ∨ t.phase = .connecting
  heard : t.reading = true → ∃ events, Heard (reads ++ [data]) events t.httpRequestParser
  pendingBuf : t.pendingBuf = s.pendingBuf ∨ t.pendingBuf = s.pendingBuf ++ [data]

theorem parsed_of_feeds {s t : Socks5Session L} {reads : List Bytes} {events : List LlhttpEvent}
    {data : Bytes} {new : List ClientAction} (hsession : s.session = none)
    (hdata : 0 < data.length) (hfeeds : Feeds s data)
    (h : Heard reads events s.httpRequestParser)
    (hrun : (handle (.browserData data)).run s = ⟨t, new, .ok ()⟩) : Parsed s reads data t new := by
  obtain ⟨u, r, hprocess, hend⟩ := run_browser_data hrun
  rw [run_feeding hdata hfeeds, feedRequest, run_bind, run_get, andThen_ok, run_ite, if_pos rfl,
    run_bind] at hprocess
  let v : Socks5Session L := { received data s with phase := .waitHttpRequestHeaders }
  have hv : Heard reads events v.httpRequestParser := h
  obtain ⟨hsyns, hheard⟩ := syns_for_feed hv data
  have hkept := @respects_request_feed L s.pendingBuf false data v ⟨.inl ⟨rfl, hsession⟩, rfl, rfl⟩
  generalize (requestSlot.feed requestCallbacks data).run v = o at hprocess hsyns hheard hkept
  obtain ⟨w, as, result⟩ := o
  obtain ⟨hrequesting, hnone⟩ : Requesting s.pendingBuf false w ∧ ∀ a ∈ as, NoData a := hkept
  have hphase : w.phase = .waitHttpRequestHeaders ∨ w.phase = .connecting :=
    hrequesting.phase.imp And.left And.left
  cases result with
  | error fault =>
      cases hprocess
      rcases hend with ⟨hr, -⟩ | ⟨-, rfl⟩
      · cases hr
      · refine ⟨hsyns, hnone, hphase, fun hreading => ?_, .inl hrequesting.pendingBuf⟩
        rw [hrequesting.reading] at hreading
        cases hreading
  | ok b =>
      cases hprocess
      rcases hend with ⟨-, rfl⟩ | ⟨hr, -⟩
      · refine ⟨?_, ?_, hphase, fun _ => hheard b rfl, .inr ?_⟩
        · simpa using hsyns
        · simpa using hnone
        · show w.pendingBuf ++ [data] = _
          rw [hrequesting.pendingBuf]
      · cases hr

end Socks5Session

end RtcVpn
