import RtcVpn.Tunnel.Segmentation

/-!
# Bytes behind an upgrade

At the end of a message that changes the protocol llhttp pauses, and tells where
in the buffer the bytes of the other protocol begin. `HttpParser` keeps those of
that buffer for its owner, which takes them at neither end, and parses the next
buffer as before. What is behind an upgrade is passed through if and only if
there is nothing.
-/

namespace RtcVpn

/-- Llhttp reads some buffers, and pauses for an upgrade in the next one, at the byte it tells. An
empty buffer tells it nothing once it is resumed. -/
structure Pause (L : Llhttp) (type : HttpType) (feeds : List Bytes) (data : Bytes) where
  read : L.State
  first : List LlhttpEvent
  paused : L.State
  last : List LlhttpEvent
  consumed : Nat
  reports : L.reports (L.init type) feeds = some (read, first)
  execute : L.execute read data = (paused, last, .pausedUpgrade (some consumed))
  within : consumed ≤ data.length
  silent : L.execute (L.resumeAfterUpgrade paused) [] = (L.resumeAfterUpgrade paused, [], .ok)

namespace Pause

variable {L : Llhttp} {type : HttpType} {feeds : List Bytes} {data : Bytes}

/-- What llhttp reports up to the upgrade. -/
def events (p : Pause L type feeds data) : List LlhttpEvent := p.first ++ p.last

/-- The bytes of the buffer that are behind the upgrade. -/
def rest (p : Pause L type feeds data) : Bytes := data.drop p.consumed

end Pause

/-- What is behind an upgrade is passed through: the rest of the buffer and the later buffers are
sent as they are, behind what was sent for the messages, and no byte of a later buffer is handed to
llhttp, as `feed` does unless an error has been seen. -/
structure PassedThrough {L : Llhttp} {σ ε α φ : Type} (m : Machine (Except φ σ) ε α)
    (payload : ε → Option Bytes) (parser : σ → HttpParser L) (s₀ : σ) (before after : List ε)
    (messages rest : Bytes) (sends : List Bytes) : Prop where
  delivered : sends.flatten = messages ++ rest ++ (RelayEnd.feeds payload after).flatten
  unparsed : ∀ {es e fs t out data}, after = es ++ e :: fs →
    m.run (.ok s₀) (before ++ es) = some (.ok t, out) → payload e = some data → data ≠ [] →
    (parser t).hadError = true

/-- In a state in which an empty buffer tells it nothing, llhttp reports nothing of any number of
them. -/
theorem Llhttp.reports_empty {L : Llhttp} {x : L.State} (hsilent : L.execute x [] = (x, [], .ok))
    {feeds : List Bytes} (h : ∀ data ∈ feeds, data = []) : L.reports x feeds = some (x, []) := by
  induction feeds with
  | nil => rfl
  | cons data feeds ih =>
      rw [List.forall_mem_cons] at h
      rw [h.1, reports, hsilent]
      show (L.reports x feeds).map _ = _
      rw [ih h.2]
      rfl

namespace RelayEnd

variable {L : Llhttp} {σ ε α φ : Type} {m : Machine (Except φ σ) ε α} {r : Relay L}
  {payload : ε → Option Bytes} {parser : σ → HttpParser L} {sent : ε → α → Option Bytes}

/-- A list of events feeds empty buffers only, or there is a first that is not empty. -/
theorem first_fed (payload : ε → Option Bytes) (es : List ε) :
    (∀ data ∈ feeds payload es, data = []) ∨
      ∃ before e after data, es = before ++ e :: after ∧
        (∀ data ∈ feeds payload before, data = []) ∧ payload e = some data ∧ data ≠ [] := by
  induction es with
  | nil => exact .inl (by simp [feeds])
  | cons e es ih =>
      cases hpayload : payload e with
      | none =>
          have hfeeds : ∀ es, feeds payload (e :: es) = feeds payload es :=
            fun es => List.filterMap_cons_none hpayload
          rcases ih with hall | ⟨before, f, after, data, rfl, hbefore, hf, hne⟩
          · exact .inl (by rwa [hfeeds])
          · exact .inr ⟨e :: before, f, after, data, rfl, by rwa [hfeeds], hf, hne⟩
      | some first =>
          have hfeeds : ∀ es, feeds payload (e :: es) = first :: feeds payload es :=
            fun es => List.filterMap_cons_some hpayload
          by_cases hfirst : first = []
          · rcases ih with hall | ⟨before, f, after, data, rfl, hbefore, hf, hne⟩
            · exact .inl (by rw [hfeeds]; exact List.forall_mem_cons.mpr ⟨hfirst, hall⟩)
            · exact .inr ⟨e :: before, f, after, data, rfl,
                by rw [hfeeds]; exact List.forall_mem_cons.mpr ⟨hfirst, hbefore⟩, hf, hne⟩
          · exact .inr ⟨[], e, es, first, rfl, by simp [feeds], hpayload, hfirst⟩

/-- At an upgrade the messages before it have been sent, and the parser has been resumed. -/
theorem run_paused (h : RelayEnd m r payload parser sent)
    (hdead : ∀ f e, m.step (.error f) e = none) {type : HttpType} {s₀ : σ}
    (hs₀ : parser s₀ = .make L type) {before : List ε} {e : ε} {data : Bytes}
    (he : payload e = some data) (p : Pause L type (feeds payload before) data) {u : σ}
    {out : List α} (hrun : m.run (.ok s₀) (before ++ [e]) = some (.ok u, out)) :
    (parser u).hadError = false ∧ (parser u).parser = L.resumeAfterUpgrade p.paused ∧
      m.collect sent (.ok s₀) (before ++ [e]) = r.sends (.make L type) p.events := by
  obtain ⟨x, first, new, hbefore, hstep, rfl⟩ := Machine.run_snoc.mp hrun
  obtain ⟨s, rfl⟩ := Machine.alive_of_run hdead (Machine.run_singleton.mpr hstep)
  have hok : (parser s₀).hadError = false := by rw [hs₀]; rfl
  obtain ⟨hparser, hsends⟩ := h.run hdead hok hbefore (by rw [hs₀]; exact p.reports)
  rw [hs₀] at hparser hsends
  have herror : (parser s).hadError = false := by
    rw [hparser]
    exact r.after_had_error p.first _
  have hexecute : L.execute (parser s).parser data =
      (p.paused, p.last, .pausedUpgrade (some p.consumed)) := by
    rw [hparser]
    exact p.execute
  obtain ⟨hresumed, hsent⟩ := h.paused hstep he herror hexecute
  refine ⟨?_, ?_, ?_⟩
  · rw [hresumed]
    show (HttpParser.keepRemaining data _ _).hadError = false
    rw [HttpParser.keep_remaining_had_error]
    exact (r.after_had_error p.last _).trans herror
  · rw [hresumed]
    show L.resumeAfterUpgrade (HttpParser.keepRemaining data _ _).parser = _
    rw [HttpParser.keepRemaining, if_pos p.within]
  · rw [Machine.collect_snoc sent hbefore hstep, hsends, hsent, hparser, Pause.events,
      r.sends_append]
    exact congrArg (r.sends _ p.first ++ ·) (r.sends_with_state h.lawful _ p.last _)

/-- An end passes through what is behind an upgrade if and only if there is nothing. -/
theorem passed_through_iff (h : RelayEnd m r payload parser sent)
    (hdead : ∀ f e, m.step (.error f) e = none) {type : HttpType} {s₀ : σ}
    (hs₀ : parser s₀ = .make L type) {before after : List ε} {e : ε} {data : Bytes}
    (he : payload e = some data) (p : Pause L type (feeds payload before) data) {s : σ}
    {out : List α} (hrun : m.run (.ok s₀) (before ++ [e] ++ after) = some (.ok s, out)) :
    PassedThrough m payload parser s₀ (before ++ [e]) after
        (r.sends (.make L type) p.events).flatten p.rest
        (m.collect sent (.ok s₀) (before ++ [e] ++ after)) ↔
      p.rest ++ (feeds payload after).flatten = [] := by
  obtain ⟨x, first, rest, hfront, hafter, rfl⟩ := Machine.run_append.mp hrun
  obtain ⟨u, rfl⟩ := Machine.alive_of_run hdead hafter
  obtain ⟨herror, hstate, hsends⟩ := h.run_paused hdead hs₀ he p hfront
  rw [Machine.collect_append sent after hfront, hsends]
  -- as long as the buffers are empty the parser stays as it is and nothing is sent
  have hempty : ∀ {es t out}, m.run (.ok u) es = some (.ok t, out) →
      (∀ data ∈ feeds payload es, data = []) →
      (parser t).hadError = false ∧ m.collect sent (.ok u) es = [] := by
    intro es t out hes hall
    have hreports : L.reports (parser u).parser (feeds payload es) =
        some (L.resumeAfterUpgrade p.paused, []) := by
      rw [hstate]
      exact Llhttp.reports_empty p.silent hall
    obtain ⟨hparser, hnone⟩ := h.run hdead herror hes hreports
    exact ⟨by rw [hparser]; exact herror, hnone⟩
  rcases first_fed payload after with hall | ⟨es, f, fs, later, rfl, hbefore, hf, hne⟩
  · have hlater : (feeds payload after).flatten = [] := List.flatten_eq_nil_iff.mpr hall
    rw [(hempty hafter hall).2, List.append_nil, hlater, List.append_nil]
    constructor
    · intro hpassed
      have hdelivered := hpassed.delivered
      rw [hlater, List.append_nil] at hdelivered
      exact List.self_eq_append_right.mp hdelivered
    · intro hrest
      refine ⟨by rw [hrest, hlater, List.append_nil, List.append_nil], ?_⟩
      rintro es f fs t mid later rfl - hf hne
      exact absurd (hall later (List.mem_filterMap.mpr ⟨f, by simp, hf⟩)) hne
  · -- the first buffer with a byte in it is handed to llhttp
    constructor
    · intro hpassed
      obtain ⟨y, _, _, hes, hlast, -⟩ := Machine.run_append.mp hafter
      obtain ⟨t, rfl⟩ := Machine.alive_of_run hdead hlast
      have hparsed :=
        hpassed.unparsed rfl (Machine.run_append.mpr ⟨_, _, _, hfront, hes, rfl⟩) hf hne
      rw [(hempty hes hbefore).1] at hparsed
      cases hparsed
    · intro hnone
      have hmem : later ∈ feeds payload (es ++ f :: fs) :=
        List.mem_filterMap.mpr ⟨f, by simp, hf⟩
      exact absurd (List.flatten_eq_nil_iff.mp (List.append_eq_nil_iff.mp hnone).2 later hmem) hne

end RelayEnd

section

variable {L : Llhttp} {sessionId : UInt32} {genStreamId : Nat → UInt32} {readBuf : Nat → UInt8}

/-- At both ends what is behind an upgrade is passed through if and only if there is nothing. -/
theorem upgrade_passed_through_iff :
    (∀ {before after data s out} (p : Pause L .request (RelayEnd.feeds HttpSession.payload before)
        data),
      (httpSession L).run (.ok {}) (before ++ [.revP2pData data] ++ after) = some (.ok s, out) →
      (PassedThrough (httpSession L) HttpSession.payload HttpSession.httpParseRequest {}
          (before ++ [.revP2pData data]) after
          ((HttpSession.relay L).sends (.make L .request) p.events).flatten p.rest
          (out.filterMap HttpSession.sent) ↔
        p.rest ++ (RelayEnd.feeds HttpSession.payload after).flatten = [])) ∧
    (∀ {before after data s out} (p : Pause L .response
        (RelayEnd.feeds Socks5Session.responsePayload before) data),
      (socks5Session L).run (.ok (.started L sessionId genStreamId readBuf))
        (before ++ [.data data .httpPlain] ++ after) = some (.ok s, out) →
      (PassedThrough (socks5Session L) Socks5Session.responsePayload
          Socks5Session.httpResponseParser (.started L sessionId genStreamId readBuf)
          (before ++ [.data data .httpPlain]) after
          ((Socks5Session.responseRelay L).sends (.make L .response) p.events).flatten p.rest
          ((Socks5Session.started L sessionId genStreamId readBuf).responsesOf
            (before ++ [.data data .httpPlain] ++ after)) ↔
        p.rest ++ (RelayEnd.feeds Socks5Session.responsePayload after).flatten = [])) := by
  constructor
  · intro before after data s out p hrun
    rw [← Machine.collect_const HttpSession.sent hrun]
    exact HttpSession.relay_end.passed_through_iff Effect.machine_step_error rfl rfl p hrun
  · intro before after data s out p hrun
    exact Socks5Session.response_end.passed_through_iff Effect.machine_step_error rfl rfl p hrun

end

/-- A request for another protocol, the response that agrees to it, and bytes of that protocol. -/
def upgradeRequest : Bytes :=
  text "GET http://a/ HTTP/1.1\r\nHost: a\r\nConnection: Upgrade\r\nUpgrade: x\r\n\r\n"

def upgradeResponse : Bytes :=
  text "HTTP/1.1 101 Switching Protocols\r\nConnection: Upgrade\r\nUpgrade: x\r\n\r\n"

def upgradedBytes : Bytes := [0x81, 0x02, 0x68, 0x69]

/-- The end of a head that changes the protocol. -/
def upgradeHead (method : String) (status : Nat) : List LlhttpEvent :=
  [.headerField (text "Connection"), .headerValue (text "Upgrade"), .headerField (text "Upgrade"),
    .headerValue (text "x"),
    .headersComplete { plainInfo method status false with upgrade := true }, .messageComplete]

/-- Llhttp on the two messages, with and without bytes behind them in the same buffer, and on such
bytes in a buffer of their own. -/
def upgradeParser : Llhttp :=
  .scripted [(upgradeRequest, [.messageBegin, .url (text "http://a/"), .headerField (text "Host"),
      .headerValue (text "a")] ++ upgradeHead "GET" 0, .pausedUpgrade (some upgradeRequest.length)),
    (upgradeResponse, [.messageBegin, .status (text "Switching Protocols")] ++ upgradeHead "" 101,
      .pausedUpgrade (some upgradeResponse.length)),
    (upgradeResponse ++ upgradedBytes, [.messageBegin, .status (text "Switching Protocols")] ++
      upgradeHead "" 101, .pausedUpgrade (some upgradeResponse.length)),
    (upgradedBytes, [], .error 8 (text "Expected HTTP/")), ([], [], .ok)]

/-- The pause at a request. -/
def requestPause : Pause upgradeParser .request [] upgradeRequest where
  read := ()
  first := []
  paused := ()
  last := _
  consumed := _
  reports := rfl
  execute := rfl
  within := Nat.le_refl _
  silent := rfl

/-- The pause at a response, with some bytes behind it. -/
def responsePause (rest : Bytes) (hrest : rest = [] ∨ rest = upgradedBytes) :
    Pause upgradeParser .response [] (upgradeResponse ++ rest) where
  read := ()
  first := []
  paused := ()
  last := [.messageBegin, .status (text "Switching Protocols")] ++ upgradeHead "" 101
  consumed := upgradeResponse.length
  reports := rfl
  execute := by rcases hrest with rfl | rfl <;> rfl
  within := by simp
  silent := rfl

/-- The tunnel of the browser's request. -/
def upgradeArrives : List ClientEvent := [.browserData upgradeRequest, .synack true .httpPlain none]

/-- An upgrade behind which nothing comes, at both ends. -/
theorem upgrade_passed_through_silent :
    (∃ s out, (httpSession upgradeParser).run (.ok {}) [.revP2pData upgradeRequest] =
        some (.ok s, out) ∧
      PassedThrough (httpSession upgradeParser) HttpSession.payload HttpSession.httpParseRequest {}
        [.revP2pData upgradeRequest] []
        ((HttpSession.relay upgradeParser).sends (.make _ .request) requestPause.events).flatten
        requestPause.rest (out.filterMap HttpSession.sent)) ∧
    PassedThrough (socks5Session upgradeParser) Socks5Session.responsePayload
      Socks5Session.httpResponseParser (.started upgradeParser 1 (fun _ => 5) fun _ => 0)
      (upgradeArrives ++ [.data upgradeResponse .httpPlain]) []
      ((Socks5Session.responseRelay upgradeParser).sends (.make _ .response)
        (responsePause [] (.inl rfl)).events).flatten (responsePause [] (.inl rfl)).rest
      ((Socks5Session.started upgradeParser 1 (fun _ => 5) fun _ => 0).responsesOf
        (upgradeArrives ++ [.data upgradeResponse .httpPlain])) := by
  obtain ⟨s, out, hrun⟩ : ∃ s out, (httpSession upgradeParser).run (.ok {})
      [.revP2pData upgradeRequest] = some (.ok s, out) := ⟨_, _, rfl⟩
  obtain ⟨t, new, hrun'⟩ : ∃ s out, (socks5Session upgradeParser).run
      (.ok (.started upgradeParser 1 (fun _ => 5) fun _ => 0))
      (upgradeArrives ++ [.data upgradeResponse .httpPlain]) = some (.ok s, out) := ⟨_, _, rfl⟩
  obtain ⟨hserver, hclient⟩ :=
    @upgrade_passed_through_iff upgradeParser 1 (fun _ => 5) (fun _ => 0)
  have hrequest := @hserver [] [] upgradeRequest s out requestPause hrun
  have hresponse := @hclient upgradeArrives [] (upgradeResponse ++ []) t new
    (responsePause [] (.inl rfl)) hrun'
  exact ⟨⟨s, out, hrun, hrequest.mpr rfl⟩, hresponse.mpr rfl⟩

/-- Bytes behind the response to an upgrade, in its buffer and in one of their own. -/
theorem bytes_behind_upgrade_are_lost :
    (∃ s out, (socks5Session upgradeParser).run
      (.ok (.started upgradeParser 1 (fun _ => 5) fun _ => 0))
      (upgradeArrives ++ [.data (upgradeResponse ++ upgradedBytes) .httpPlain]) =
        some (.ok s, out)) ∧
    ¬ PassedThrough (socks5Session upgradeParser) Socks5Session.responsePayload
      Socks5Session.httpResponseParser (.started upgradeParser 1 (fun _ => 5) fun _ => 0)
      (upgradeArrives ++ [.data (upgradeResponse ++ upgradedBytes) .httpPlain]) []
      ((Socks5Session.responseRelay upgradeParser).sends (.make _ .response)
        (responsePause upgradedBytes (.inr rfl)).events).flatten upgradedBytes
      ((Socks5Session.started upgradeParser 1 (fun _ => 5) fun _ => 0).responsesOf
        (upgradeArrives ++ [.data (upgradeResponse ++ upgradedBytes) .httpPlain])) ∧
    (∃ s out, (socks5Session upgradeParser).run
      (.ok (.started upgradeParser 1 (fun _ => 5) fun _ => 0))
      (upgradeArrives ++ [.data upgradeResponse .httpPlain] ++ [.data upgradedBytes .httpPlain]) =
        some (.ok s, out)) ∧
    ¬ PassedThrough (socks5Session upgradeParser) Socks5Session.responsePayload
      Socks5Session.httpResponseParser (.started upgradeParser 1 (fun _ => 5) fun _ => 0)
      (upgradeArrives ++ [.data upgradeResponse .httpPlain]) [.data upgradedBytes .httpPlain]
      ((Socks5Session.responseRelay upgradeParser).sends (.make _ .response)
        (responsePause [] (.inl rfl)).events).flatten []
      ((Socks5Session.started upgradeParser 1 (fun _ => 5) fun _ => 0).responsesOf
        (upgradeArrives ++ [.data upgradeResponse .httpPlain] ++
          [.data upgradedBytes .httpPlain])) := by
  have hend := @Socks5Session.response_end upgradeParser
  obtain ⟨s, out, hrun⟩ : ∃ s out, (socks5Session upgradeParser).run
      (.ok (.started upgradeParser 1 (fun _ => 5) fun _ => 0))
      (upgradeArrives ++ [.data (upgradeResponse ++ upgradedBytes) .httpPlain] ++ []) =
        some (.ok s, out) := ⟨_, _, rfl⟩
  obtain ⟨t, new, hrun'⟩ : ∃ s out, (socks5Session upgradeParser).run
      (.ok (.started upgradeParser 1 (fun _ => 5) fun _ => 0))
      (upgradeArrives ++ [.data upgradeResponse .httpPlain] ++ [.data upgradedBytes .httpPlain]) =
        some (.ok s, out) := ⟨_, _, rfl⟩
  refine ⟨⟨s, out, hrun⟩, fun h => ?_, ⟨t, new, hrun'⟩, fun h => ?_⟩
  · have hiff := hend.passed_through_iff Effect.machine_step_error rfl rfl
      (responsePause upgradedBytes (.inr rfl)) hrun
    exact absurd (hiff.mp h) (by decide)
  · have hiff := hend.passed_through_iff Effect.machine_step_error rfl rfl
      (responsePause [] (.inl rfl)) hrun'
    exact absurd (hiff.mp h) (by decide)

end RtcVpn
