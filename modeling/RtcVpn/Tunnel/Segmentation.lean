import RtcVpn.Client.Responses
import RtcVpn.Server.HttpSession

/-!
# Segmentation of plain HTTP

Where the network cuts a stream decides where llhttp cuts the spans it reports.
Two runs of the same end, in which llhttp reports the same parts of messages cut
in two ways, see the same messages and write the same bytes, but for the sizes
of the chunks of a body in chunks.
-/

namespace RtcVpn

namespace Relay

variable {L : Llhttp} (r : Relay L)

/-- The message of the parser each time headers are complete. -/
def messages : HttpParser L → List LlhttpEvent → List Message
  | _, [] => []
  | p, .headersComplete info :: es =>
      (p.onHeadersComplete info).message :: messages (r.next (.headersComplete info) p) es
  | p, e :: es => messages (r.next e p) es

theorem written_message (p : HttpParser L) (es : List LlhttpEvent) :
    (r.written p es).map Written.message = r.messages p es := by
  induction es generalizing p with
  | nil => rfl
  | cons e es ih =>
      cases e with
      | headersComplete info => exact congrArg (_ :: ·) (ih _)
      | _ => exact ih _

/-- What two ends write for a message is the same, or two ways to send one body in chunks. -/
structure SameContent (w₁ w₂ : Written) : Prop where
  message : w₁.message = w₂.message
  plain : w₁.message.chunked = false → w₁.content = w₂.content
  chunked : w₁.message.chunked = true → ∃ body behind,
    HttpWire.dechunk w₁.content = some (body, behind) ∧
    HttpWire.dechunk w₂.content = some (body, behind)

/-- Two streams of callbacks, and what is sent for each, agree. -/
structure Agree (type : HttpType) (events₁ events₂ : List LlhttpEvent)
    (sends₁ sends₂ : List Bytes) :
    Prop where
  messages : r.messages (.make L type) events₁ = r.messages (.make L type) events₂
  written : ∃ ws₁ ws₂ : List Written, ws₁.map Written.message = r.messages (.make L type) events₁ ∧
    sends₁.flatten = ws₁.flatMap r.bytes ∧ sends₂.flatten = ws₂.flatMap r.bytes ∧
    List.Forall₂ SameContent ws₁ ws₂

/-- What carries a body in chunks is read as the body. -/
theorem Carries.dechunk {complete : Bool} {body out : Bytes} (h : Carries true complete body out) :
    HttpWire.dechunk out = some (body, if complete then some HttpWire.crlf else none) := by
  obtain ⟨pieces, hpieces, rfl, rfl⟩ := h
  have hchunk : ∀ data, chunk data = HttpWire.chunk data := fun _ => rfl
  cases complete with
  | false =>
      have hopen := HttpWire.dechunk_open hpieces
      simpa [funext hchunk] using hopen
  | true =>
      have hclosed := HttpWire.dechunk_closed hpieces HttpWire.crlf
      have hlast : lastChunk = HttpWire.lastChunk ++ HttpWire.crlf := by decide
      simpa [funext hchunk, hlast] using hclosed

/-- What the parts of a message tell decides what is written for it. -/
theorem Faithful.same {d : Told} {w₁ w₂ : Written} (h₁ : Faithful d w₁) (h₂ : Faithful d w₂) :
    SameContent w₁ w₂ where
  message := h₁.message.trans h₂.message.symm
  plain hplain := by
    have hplain' : d.message.chunked = false := h₁.message ▸ hplain
    obtain ⟨pieces₁, _, _, hout₁⟩ := h₁.content
    obtain ⟨pieces₂, _, _, hout₂⟩ := h₂.content
    rw [hplain'] at hout₁ hout₂
    exact hout₁.trans hout₂.symm
  chunked hchunked := by
    have hchunked' : d.message.chunked = true := h₁.message ▸ hchunked
    have hc₁ := h₁.content
    have hc₂ := h₂.content
    rw [hchunked'] at hc₁ hc₂
    exact ⟨_, _, hc₁.dechunk, hc₂.dechunk⟩

/-- In the order of a stream, nothing is written before the first head. -/
theorem sends_of_stream (hr : r.Lawful) {type : HttpType} {tokens events : List LlhttpEvent}
    (horder : InOrder .idle tokens) (hseg : Segments tokens events) :
    (r.sends (.make L type) events).flatten =
    (r.written (.make L type) events).flatMap r.bytes := by
  obtain ⟨hnone, _⟩ := r.content_at hr horder hseg (.make L type)
  rw [r.flatten_sends, hnone, List.nil_append]

/-- Two ways to cut the parts of a stream agree. -/
theorem agree (hr : r.Lawful) {type : HttpType} {tokens events₁ events₂ : List LlhttpEvent}
    (horder : InOrder .idle tokens) (h₁ : Segments tokens events₁) (h₂ : Segments tokens events₂) :
    r.Agree type events₁ events₂ (r.sends (.make L type) events₁)
      (r.sends (.make L type) events₂) := by
  have hf₁ := r.written_faithful hr horder h₁ (.make L type)
  have hf₂ := r.written_faithful hr horder h₂ (.make L type)
  have hsame : List.Forall₂ SameContent (r.written (.make L type) events₁)
      (r.written (.make L type) events₂) := by
    revert hf₁ hf₂
    generalize r.told _ tokens = ds
    generalize r.written _ events₁ = ws₁
    generalize r.written _ events₂ = ws₂
    intro hf₁ hf₂
    induction hf₁ generalizing ws₂ with
    | nil => cases hf₂; exact .nil
    | cons h _ ih =>
        cases hf₂ with
        | cons h' hrest => exact .cons (h.same h') (ih _ hrest)
  refine ⟨?_, _, _, r.written_message _ _, r.sends_of_stream hr horder h₁,
    r.sends_of_stream hr horder h₂, hsame⟩
  rw [← r.written_message, ← r.written_message]
  revert hsame
  generalize r.written _ events₁ = ws₁
  generalize r.written _ events₂ = ws₂
  intro hsame
  induction hsame with
  | nil => rfl
  | cons h _ ih => rw [List.map_cons, List.map_cons, h.message, ih]

end Relay

/-- Llhttp reports the parts of messages, cut as the events tell. -/
structure Reported (L : Llhttp) (type : HttpType) (feeds : List Bytes)
    (tokens events : List LlhttpEvent) : Prop where
  reports : ∃ x, L.reports (L.init type) feeds = some (x, events)
  segments : Segments tokens events

/-- What the server's end sends to the target, in a run in which llhttp reports to the end. -/
theorem HttpSession.run_reported {L : Llhttp} {es : List HttpSessionEvent} {s : HttpSession L}
    {out : List HttpSessionAction} (hrun : (httpSession L).run (.ok {}) es = some (.ok s, out))
    {tokens events : List LlhttpEvent}
    (h : Reported L .request (RelayEnd.feeds payload es) tokens events) :
    out.filterMap sent = (relay L).sends (.make L .request) events := by
  obtain ⟨x, hreports⟩ := h.reports
  rw [← Machine.collect_const sent hrun]
  exact (relay_end.run Effect.machine_step_error rfl hrun hreports).2

/-- The bytes a session sends to its browser for what its tunnel brings as plain HTTP. -/
def Socks5Session.responsesOf {L : Llhttp} (s : Socks5Session L) (es : List ClientEvent) :
    List Bytes :=
  (socks5Session L).collect responseSent (.ok s) es

/-- What the client's end sends to the browser, in a run in which llhttp reports to the end. -/
theorem Socks5Session.run_reported {L : Llhttp} {s₀ s : Socks5Session L} {es : List ClientEvent}
    {out : List ClientAction} (hparser : s₀.httpResponseParser = .make L .response)
    (hrun : (socks5Session L).run (.ok s₀) es = some (.ok s, out))
    {tokens events : List LlhttpEvent}
    (h : Reported L .response (RelayEnd.feeds responsePayload es) tokens events) :
    s₀.responsesOf es = (responseRelay L).sends (.make L .response) events := by
  obtain ⟨x, hreports⟩ := h.reports
  have hok : s₀.httpResponseParser.hadError = false := by rw [hparser]; rfl
  have hsends := (response_end.run Effect.machine_step_error hok hrun
    (by rw [hparser]; exact hreports)).2
  rwa [hparser] at hsends

section

variable {L : Llhttp} {sessionId : UInt32} {genStreamId : Nat → UInt32} {readBuf : Nat → UInt8}

/-- Whatever the parts of a stream of messages and however they are cut in two runs, both ends see
the same messages and send the same start lines, headers and bodies, and chunks that are read as
the same bodies. -/
theorem http_relay_segmentation :
    (∀ {tokens events₁ events₂ es₁ es₂ s₁ s₂ out₁ out₂}, InOrder .idle tokens →
      (httpSession L).run (.ok {}) es₁ = some (.ok s₁, out₁) →
      (httpSession L).run (.ok {}) es₂ = some (.ok s₂, out₂) →
      Reported L .request (RelayEnd.feeds HttpSession.payload es₁) tokens events₁ →
      Reported L .request (RelayEnd.feeds HttpSession.payload es₂) tokens events₂ →
      (HttpSession.relay L).Agree .request events₁ events₂ (out₁.filterMap HttpSession.sent)
        (out₂.filterMap HttpSession.sent)) ∧
    (∀ {tokens events₁ events₂ es₁ es₂ s₁ s₂ out₁ out₂}, InOrder .idle tokens →
      (socks5Session L).run (.ok (.started L sessionId genStreamId readBuf)) es₁ =
        some (.ok s₁, out₁) →
      (socks5Session L).run (.ok (.started L sessionId genStreamId readBuf)) es₂ =
        some (.ok s₂, out₂) →
      Reported L .response (RelayEnd.feeds Socks5Session.responsePayload es₁) tokens events₁ →
      Reported L .response (RelayEnd.feeds Socks5Session.responsePayload es₂) tokens events₂ →
      (Socks5Session.responseRelay L).Agree .response events₁ events₂
        ((Socks5Session.started L sessionId genStreamId readBuf).responsesOf es₁)
        ((Socks5Session.started L sessionId genStreamId readBuf).responsesOf es₂)) := by
  constructor
  · intro tokens events₁ events₂ es₁ es₂ s₁ s₂ out₁ out₂ horder hrun₁ hrun₂ h₁ h₂
    rw [HttpSession.run_reported hrun₁ h₁, HttpSession.run_reported hrun₂ h₂]
    exact Relay.agree _ HttpSession.lawful_relay horder h₁.segments h₂.segments
  · intro tokens events₁ events₂ es₁ es₂ s₁ s₂ out₁ out₂ horder hrun₁ hrun₂ h₁ h₂
    rw [Socks5Session.run_reported rfl hrun₁ h₁, Socks5Session.run_reported rfl hrun₂ h₂]
    exact Relay.agree _ Socks5Session.lawful_response_relay horder h₁.segments h₂.segments

end

/-- What is told of headers in an example. -/
def plainInfo (method : String) (status : Nat) (chunked : Bool) : HeadersInfo where
  httpMajor := 1
  httpMinor := 1
  methodName := text method
  statusCode := status
  chunked := chunked
  upgrade := false
  connectionKeepAlive := false
  connectionClose := false
  shouldKeepAlive := true
  contentLength := none

/-- The parts of a response with a body in chunks. -/
def okTokens : List LlhttpEvent :=
  [.messageBegin, .status (text "OK"), .headerField (text "Transfer-Encoding"),
    .headerValue (text "chunked"), .headersComplete (plainInfo "" 200 true), .body (text "abc"),
    .messageComplete]

/-- Its parts, cut in the header and in the body. -/
def okCut : List LlhttpEvent :=
  [.messageBegin, .status (text "OK"), .headerField (text "Transfer-"),
    .headerField (text "Encoding"),
    .headerValue (text "chunked"), .headersComplete (plainInfo "" 200 true), .body (text "a"),
    .body (text "bc"), .messageComplete]

/-- The parts of a request with a body in chunks. -/
def postTokens : List LlhttpEvent :=
  [.messageBegin, .url (text "http://a/b"), .headerField (text "Transfer-Encoding"),
    .headerValue (text "chunked"), .headersComplete (plainInfo "POST" 0 true), .body (text "abc"),
    .messageComplete]

/-- Its parts, cut in the url and in the body. -/
def postCut : List LlhttpEvent :=
  [.messageBegin, .url (text "http:"), .url (text "//a/b"), .headerField (text "Transfer-Encoding"),
    .headerValue (text "chunked"), .headersComplete (plainInfo "POST" 0 true), .body (text "ab"),
    .body (text "c"), .messageComplete]

/-- A request in one piece, and in three. -/
def postWhole : List Bytes :=
  [text "POST http://a/b HTTP/1.1\r\nTransfer-Encoding: chunked\r\n\r\n3\r\nabc\r\n0\r\n\r\n"]

def postPieces : List Bytes :=
  [text "POST http:", text "//a/b HTTP/1.1\r\nTransfer-Encoding: chunked\r\n\r\n3\r\nab",
    text "c\r\n0\r\n\r\n"]

/-- A response in one piece, and in three. -/
def okWhole : List Bytes :=
  [text "HTTP/1.1 200 OK\r\nTransfer-Encoding: chunked\r\n\r\n3\r\nabc\r\n0\r\n\r\n"]

def okPieces : List Bytes :=
  [text "HTTP/1.1 200 OK\r\nTransfer-", text "Encoding: chunked\r\n\r\n3\r\na",
    text "bc\r\n0\r\n\r\n"]

/-- The request of a browser. -/
def browserGet : Bytes := text "GET http://a/ HTTP/1.1\r\nHost: a\r\n\r\n"

/-- Llhttp on the request of a browser, and on the two messages in one piece and in three. -/
def cutParser : Llhttp :=
  .scripted ([(browserGet,
      [.messageBegin, .url (text "http://a/"), .headerField (text "Host"), .headerValue (text "a"),
        .headersComplete (plainInfo "GET" 0 false), .messageComplete], .ok)] ++
    (postWhole.zip [(postTokens, .ok)]) ++ (okWhole.zip [(okTokens, .ok)]) ++
    (postPieces.zip
      [(postCut.take 2, .ok), ((postCut.drop 2).take 5, .ok), (postCut.drop 7, .ok)]) ++
    (okPieces.zip [(okCut.take 3, .ok), ((okCut.drop 3).take 4, .ok), (okCut.drop 7, .ok)]))

/-- The client's end once the tunnel of the browser's request is there, and brings a response. -/
def okArrives (feeds : List Bytes) : List ClientEvent :=
  [.browserData browserGet, .synack true .httpPlain none] ++
    feeds.map fun data => .data data .httpPlain

/-- A request and a response, each read in one piece and in three. -/
theorem http_relay_segmentation_in_pieces :
    (∃ out₁ out₂, (∃ s, (httpSession cutParser).run (.ok {}) (postWhole.map .revP2pData) =
        some (.ok s, out₁)) ∧
      (∃ s, (httpSession cutParser).run (.ok {}) (postPieces.map .revP2pData) =
        some (.ok s, out₂)) ∧
      (HttpSession.relay cutParser).Agree .request postTokens postCut
        (out₁.filterMap HttpSession.sent) (out₂.filterMap HttpSession.sent)) ∧
    (Socks5Session.responseRelay cutParser).Agree .response okTokens okCut
      ((Socks5Session.started cutParser 1 (fun _ => 5) fun _ => 0).responsesOf (okArrives okWhole))
      ((Socks5Session.started cutParser 1 (fun _ => 5) fun _ => 0).responsesOf
        (okArrives okPieces)) := by
  have hpost : Segments postTokens postTokens :=
    .cons .messageBegin <| .cons (.url [text "http://a/b"]) <|
    .cons (@Cut.headerField [text "Transfer-Encoding"] (by simp)) <|
    .cons (@Cut.headerValue [text "chunked"] (by simp)) <| .cons (.headersComplete _) <|
    .cons (@Cut.body [text "abc"] (by decide)) <| .cons .messageComplete .nil
  have hpost' : Segments postTokens postCut :=
    .cons .messageBegin <| .cons (.url [text "http:", text "//a/b"]) <|
    .cons (@Cut.headerField [text "Transfer-Encoding"] (by simp)) <|
    .cons (@Cut.headerValue [text "chunked"] (by simp)) <| .cons (.headersComplete _) <|
    .cons (@Cut.body [text "ab", text "c"] (by decide)) <| .cons .messageComplete .nil
  have hok : Segments okTokens okTokens :=
    .cons .messageBegin <| .cons (.status [text "OK"]) <|
    .cons (@Cut.headerField [text "Transfer-Encoding"] (by simp)) <|
    .cons (@Cut.headerValue [text "chunked"] (by simp)) <| .cons (.headersComplete _) <|
    .cons (@Cut.body [text "abc"] (by decide)) <| .cons .messageComplete .nil
  have hok' : Segments okTokens okCut :=
    .cons .messageBegin <| .cons (.status [text "OK"]) <|
    .cons (@Cut.headerField [text "Transfer-", text "Encoding"] (by simp)) <|
    .cons (@Cut.headerValue [text "chunked"] (by simp)) <| .cons (.headersComplete _) <|
    .cons (@Cut.body [text "a", text "bc"] (by decide)) <| .cons .messageComplete .nil
  obtain ⟨s₁, out₁, hrun₁⟩ : ∃ s out, (httpSession cutParser).run (.ok {})
      (postWhole.map .revP2pData) = some (.ok s, out) := ⟨_, _, rfl⟩
  obtain ⟨s₂, out₂, hrun₂⟩ : ∃ s out, (httpSession cutParser).run (.ok {})
      (postPieces.map .revP2pData) = some (.ok s, out) := ⟨_, _, rfl⟩
  obtain ⟨t₁, new₁, hrun₃⟩ : ∃ s out, (socks5Session cutParser).run
      (.ok (.started cutParser 1 (fun _ => 5) fun _ => 0)) (okArrives okWhole) =
        some (.ok s, out) := ⟨_, _, rfl⟩
  obtain ⟨t₂, new₂, hrun₄⟩ : ∃ s out, (socks5Session cutParser).run
      (.ok (.started cutParser 1 (fun _ => 5) fun _ => 0)) (okArrives okPieces) =
        some (.ok s, out) := ⟨_, _, rfl⟩
  have horder : InOrder .idle postTokens := trivial
  have horder' : InOrder .idle okTokens := trivial
  have hboth := @http_relay_segmentation cutParser 1 (fun _ => 5) (fun _ => 0)
  exact ⟨⟨out₁, out₂, ⟨s₁, hrun₁⟩, ⟨s₂, hrun₂⟩, hboth.1 horder hrun₁ hrun₂ ⟨⟨(), rfl⟩, hpost⟩
    ⟨⟨(), rfl⟩, hpost'⟩⟩, hboth.2 horder' hrun₃ hrun₄ ⟨⟨(), rfl⟩, hok⟩ ⟨⟨(), rfl⟩, hok'⟩⟩

end RtcVpn
