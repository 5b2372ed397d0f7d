import RtcVpn.Http.RelayRuns

/-!
# Messages as llhttp reports them

A message on the wire is reported by its start line, its fields, what the head
tells, its body, its trailer and its end. The parser collects the fields one
behind the other, so that its message has them all when the headers are
complete, and a relay writes the head of the message it was reported, with its
start line rewritten.
-/

namespace RtcVpn

open HttpWire

/-! ## What is reported -/

/-- The part that reports a start line. -/
def startToken : StartLine → LlhttpEvent
  | .request _ target _ => .url target
  | .status _ _ reason => .status reason

/-- The parts that report fields. -/
def fieldTokens (fields : List Field) : List LlhttpEvent :=
  fields.flatMap fun f => [.headerField f.name, .headerValue f.value]

/-- The parts that report a message. The end of one that ends with the connection is not
reported. -/
def messageTokens (m : WireMessage) (info : HeadersInfo) : List LlhttpEvent :=
  [.messageBegin, startToken m.start] ++ fieldTokens m.fields ++ [.headersComplete info] ++
    ([.body m.body] ++ fieldTokens m.trailers ++ if m.ended then [.messageComplete] else [])

/-- The parts that report messages. -/
def streamTokens (ms : List (WireMessage × HeadersInfo)) : List LlhttpEvent :=
  ms.flatMap fun (m, info) => messageTokens m info

/-- What is told of a head is what it says. -/
structure Describes (m : WireMessage) (info : HeadersInfo) : Prop where
  start : match m.start with
    | .request method _ version => info.methodName = method ∧ info.httpMajor = 1 ∧
        info.httpMinor = (match version with | .http10 => 0 | .http11 => 1)
    | .status version code _ => info.statusCode = code ∧ info.httpMajor = 1 ∧
        info.httpMinor = (match version with | .http10 => 0 | .http11 => 1)
  chunked : info.chunked = isChunked m.fields

/-- Messages of one kind, one behind the other, with what is told of their heads: only the last one
ends with the connection. -/
inductive Sequence (kind : Kind) : List (WireMessage × HeadersInfo) → Prop where
  | nil : Sequence kind []
  | cons {m : WireMessage} {info : HeadersInfo} {ms : List (WireMessage × HeadersInfo)}
      (hkind : m.start.kind = kind) (hinfo : Describes m info) (hended : m.ended = false → ms = [])
      (hrest : Sequence kind ms) : Sequence kind ((m, info) :: ms)

/-- Messages that can be on one connection. -/
structure Stream (kind : Kind) (ms : List (WireMessage × HeadersInfo)) : Prop where
  sequence : Sequence kind ms
  printable : ∀ x ∈ ms, x.1.Printable

theorem Sequence.kinds {kind : Kind} {ms : List (WireMessage × HeadersInfo)}
    (h : Sequence kind ms) : ∀ x ∈ ms, x.1.start.kind = kind := by
  induction h with
  | nil => simp
  | cons hkind _ _ _ ih =>
      intro x hx
      rcases List.mem_cons.mp hx with rfl | hx
      · exact hkind
      · exact ih x hx

theorem field_tokens_complete (fields : List Field) :
    ∀ t ∈ fieldTokens fields, ¬ Relay.CompletesHeaders t := by
  intro t ht
  obtain ⟨f, _, ht⟩ := List.mem_flatMap.mp ht
  rcases List.mem_cons.mp ht with rfl | ht
  · exact id
  · rw [List.mem_singleton.mp ht]
    exact id

/-- Fields are in order in a head and in a body. -/
theorem in_order_fields (fields : List Field) {stage : Stage} (hstage : stage ≠ .idle)
    (ts : List LlhttpEvent) : InOrder stage (fieldTokens fields ++ ts) ↔ InOrder stage ts := by
  induction fields with
  | nil => exact Iff.rfl
  | cons f fields ih =>
      have hsplit : fieldTokens (f :: fields) ++ ts =
          .headerField f.name :: .headerValue f.value :: (fieldTokens fields ++ ts) := by
        simp [fieldTokens]
      rw [hsplit, ← ih]
      cases stage with
      | idle => exact absurd rfl hstage
      | head | body => exact Iff.rfl

/-- The parts of messages come in order. -/
theorem in_order_stream {kind : Kind} {ms : List (WireMessage × HeadersInfo)}
    (h : Sequence kind ms) : InOrder .idle (streamTokens ms) := by
  induction h with
  | nil => trivial
  | @cons m info ms _ _ hended _ ih =>
      have hsplit : streamTokens ((m, info) :: ms) = .messageBegin :: startToken m.start ::
          (fieldTokens m.fields ++ (.headersComplete info :: .body m.body ::
            (fieldTokens m.trailers ++ ((if m.ended then [.messageComplete] else []) ++
              streamTokens ms)))) := by
        simp [streamTokens, messageTokens]
      have hend : InOrder .body ((if m.ended then [.messageComplete] else []) ++
          streamTokens ms) := by
        cases hm : m.ended with
        | true => exact ih
        | false =>
            rw [hended hm]
            trivial
      have htrailer : InOrder .body (.body m.body :: (fieldTokens m.trailers ++
          ((if m.ended then [.messageComplete] else []) ++ streamTokens ms))) :=
        (in_order_fields m.trailers (show Stage.body ≠ .idle from nofun) _).mpr hend
      have hfields : InOrder .head (fieldTokens m.fields ++
          (.headersComplete info :: .body m.body ::
            (fieldTokens m.trailers ++ ((if m.ended then [.messageComplete] else []) ++
              streamTokens ms)))) :=
        (in_order_fields m.fields (show Stage.head ≠ .idle from nofun) _).mpr htrailer
      rw [hsplit]
      cases m.start <;> exact hfields

/-! ## What the parser collects -/

/-- The header that a field becomes. -/
def headerOf (f : Field) : Header := ⟨f.name, f.value⟩

namespace HttpParser

variable {L : Llhttp}

/-- The parser has collected a start line and headers, the last of which may not be pushed yet. -/
structure Collected (p : HttpParser L) (url status : Bytes) (headers : List Header) : Prop where
  type : p.message.type = p.type
  url : p.curUrl = url
  status : p.curStatus = status
  headers : (p.inHeaderValue = false ∧ p.curHeaderField = [] ∧ p.curHeaderValue = [] ∧
      p.message.headers = headers) ∨
    (p.inHeaderValue = true ∧ p.message.headers ++ [⟨p.curHeaderField, p.curHeaderValue⟩] = headers)

/-- A field more. -/
theorem Collected.field {p : HttpParser L} {url status : Bytes} {headers : List Header}
    (h : p.Collected url status headers) (f : Field) :
    ((p.onHeaderField f.name).onHeaderValue f.value).Collected url status
      (headers ++ [headerOf f]) := by
  obtain ⟨htype, hurl, hstatus, ⟨hvalue, hfield, hempty, hheaders⟩ | ⟨hvalue, hheaders⟩⟩ := h
  · refine ⟨?_, ?_, ?_, .inr ⟨rfl, ?_⟩⟩ <;>
      simp [onHeaderField, onHeaderValue, hvalue, htype, hurl, hstatus, hfield, hempty, hheaders,
        headerOf]
  · refine ⟨?_, ?_, ?_, .inr ⟨rfl, ?_⟩⟩ <;>
      simp [onHeaderField, onHeaderValue, pushHeader, hvalue, htype, hurl, hstatus, ← hheaders,
        headerOf]

/-- The message when the headers are complete. -/
theorem Collected.complete {p : HttpParser L} {url status : Bytes} {headers : List Header}
    (h : p.Collected url status headers) (info : HeadersInfo) :
    (p.onHeadersComplete info).message.headers = headers ∧
      (p.onHeadersComplete info).message.type = p.type ∧
      (p.onHeadersComplete info).message.version = info.httpMajor * 10 + info.httpMinor ∧
      (p.onHeadersComplete info).message.chunked = info.chunked ∧
      (p.type = .request → (p.onHeadersComplete info).message.method = info.methodName ∧
        (p.onHeadersComplete info).message.target = url) ∧
      (p.type = .response → (p.onHeadersComplete info).message.statusCode = info.statusCode ∧
        (p.onHeadersComplete info).message.reason = status) := by
  obtain ⟨htype, hurl, hstatus, ⟨hvalue, hfield, _, hheaders⟩ | ⟨hvalue, hheaders⟩⟩ := h <;>
    cases hp : p.type <;>
    simp [onHeadersComplete, fillStartLine, pushHeader, *]

end HttpParser

namespace Relay

variable {L : Llhttp} (r : Relay L)

theorem next_type (e : LlhttpEvent) (p : HttpParser L) : (r.next e p).type = p.type := by
  cases e with
  | headerField span =>
      simp only [next, HttpParser.onHeaderField]
      split <;> rfl
  | headersComplete info =>
      simp only [next, HttpParser.onHeadersComplete]
      split <;> rfl
  | _ => rfl

theorem after_type (es : List LlhttpEvent) (p : HttpParser L) :
    (r.after p es).type = p.type := by
  induction es generalizing p with
  | nil => rfl
  | cons e es ih => rw [after_cons, ih, next_type]

/-- Fields are collected behind each other. -/
theorem collected_fields {p : HttpParser L} {url status : Bytes} {headers : List Header}
    (h : p.Collected url status headers) (fields : List Field) :
    (r.after p (fieldTokens fields)).Collected url status (headers ++ fields.map headerOf) := by
  induction fields generalizing p headers with
  | nil => simpa [fieldTokens] using h
  | cons f fields ih =>
      have hrest := ih (h.field f)
      rw [List.append_assoc, List.singleton_append] at hrest
      exact hrest

/-- What is collected of a message when its headers are complete. -/
theorem collected_message (p : HttpParser L) (start : StartLine) (fields : List Field) :
    (r.after p ([.messageBegin, startToken start] ++ fieldTokens fields)).Collected
      (match start with | .request _ target _ => target | .status _ _ _ => [])
      (match start with | .request _ _ _ => [] | .status _ _ reason => reason)
      (fields.map headerOf) := by
  have hstart : (r.after p [.messageBegin, startToken start]).Collected
      (match start with | .request _ target _ => target | .status _ _ _ => [])
      (match start with | .request _ _ _ => [] | .status _ _ reason => reason) [] := by
    cases start <;> exact ⟨rfl, rfl, rfl, .inl ⟨rfl, rfl, rfl, rfl⟩⟩
  rw [r.after_append]
  simpa using r.collected_fields hstart fields

/-! ## What the parts tell -/

theorem told_append {ts : List LlhttpEvent} (h : ∀ t ∈ ts, ¬ CompletesHeaders t)
    (p : HttpParser L) (rest : List LlhttpEvent) :
    r.told p (ts ++ rest) = r.told (r.after p ts) rest := by
  induction ts generalizing p with
  | nil => rfl
  | cons t ts ih =>
      rw [List.cons_append, r.told_cons (h t List.mem_cons_self), after_cons]
      exact ih (fun t' ht' => h t' (List.mem_cons_of_mem t ht')) _

/-- Outside a body the parts tell of none. -/
theorem contentOf_of_order {stage : Stage} (hstage : stage ≠ .body) {ts : List LlhttpEvent}
    (h : InOrder stage ts) : contentOf ts = ([], false) := by
  have hhead : Stage.head ≠ .body := fun h => by cases h
  induction ts generalizing stage with
  | nil => rfl
  | cons t ts ih =>
      rw [InOrder] at h
      cases stage with
      | body => exact absurd rfl hstage
      | idle =>
          cases t with
          | messageBegin => exact ih hhead h
          | _ => exact h.elim
      | head =>
          cases t with
          | headersComplete info => rfl
          | url _ | status _ | headerField _ | headerValue _ => exact ih hhead h
          | _ => exact h.elim

theorem contentOf_fields (fields : List Field) (ts : List LlhttpEvent) :
    contentOf (fieldTokens fields ++ ts) = contentOf ts := by
  induction fields with
  | nil => rfl
  | cons f fields ih => exact ih

/-- What the parts tell of a message. -/
structure Tells (side : HttpType) (m : WireMessage) (info : HeadersInfo) (d : Told) : Prop where
  headers : d.message.headers = m.fields.map headerOf
  type : d.message.type = side
  version : d.message.version = info.httpMajor * 10 + info.httpMinor
  chunked : d.message.chunked = info.chunked
  request : side = .request → d.message.method = info.methodName ∧
    ∀ method target version, m.start = .request method target version → d.message.target = target
  response : side = .response → d.message.statusCode = info.statusCode ∧
    ∀ version code reason, m.start = .status version code reason → d.message.reason = reason
  body : d.body = m.body
  complete : d.complete = m.ended

/-- The parts of messages tell of each of them. -/
theorem told_stream {kind : Kind} {ms : List (WireMessage × HeadersInfo)} (h : Sequence kind ms)
    (p : HttpParser L) :
    List.Forall₂ (fun (x : WireMessage × HeadersInfo) d => Tells p.type x.1 x.2 d) ms
      (r.told p (streamTokens ms)) := by
  induction h generalizing p with
  | nil => exact .nil
  | @cons m info ms _ _ hended hstream ih =>
      -- the parser at the end of the head, and after the message
      let q := r.after p ([.messageBegin, startToken m.start] ++ fieldTokens m.fields)
      let body : List LlhttpEvent :=
        [.body m.body] ++ fieldTokens m.trailers ++ if m.ended then [.messageComplete] else []
      have hsplit : streamTokens ((m, info) :: ms) =
          ([.messageBegin, startToken m.start] ++ fieldTokens m.fields) ++
            (.headersComplete info :: (body ++ streamTokens ms)) := by
        simp [streamTokens, messageTokens, body]
      have hhead : ∀ t ∈ [.messageBegin, startToken m.start] ++ fieldTokens m.fields,
          ¬ CompletesHeaders t := by
        intro t ht
        rcases List.mem_append.mp ht with ht | ht
        · rcases List.mem_cons.mp ht with rfl | ht
          · exact id
          · rw [List.mem_singleton.mp ht]
            cases m.start <;> exact id
        · exact field_tokens_complete m.fields t ht
      have hbody : ∀ t ∈ body, ¬ CompletesHeaders t := by
        intro t ht
        rcases List.mem_append.mp ht with ht | ht
        · rcases List.mem_append.mp ht with ht | ht
          · rw [List.mem_singleton.mp ht]
            exact id
          · exact field_tokens_complete m.trailers t ht
        · cases hm : m.ended <;> simp only [hm] at ht
          · cases ht
          · rw [List.mem_singleton.mp ht]
            exact id
      have hcontent : contentOf (body ++ streamTokens ms) = (m.body, m.ended) := by
        have hnone :=
          contentOf_of_order (show Stage.idle ≠ .body from nofun) (in_order_stream hstream)
        have hend : contentOf ((if m.ended then [.messageComplete] else []) ++
            streamTokens ms) = ([], m.ended) := by
          cases hm : m.ended with
          | true => simp [contentOf, hnone]
          | false => simpa using hnone
        have hbody' : body ++ streamTokens ms = .body m.body :: (fieldTokens m.trailers ++
            ((if m.ended then [.messageComplete] else []) ++ streamTokens ms)) := by
          simp [body]
        rw [hbody', contentOf, contentOf_fields, hend, List.append_nil]
      have hq := r.collected_message p m.start m.fields
      obtain ⟨hheaders, htype, hversion, hchunked, hrequest, hresponse⟩ := hq.complete info
      have hqtype : q.type = p.type := r.after_type _ p
      rw [hsplit, r.told_append hhead, told, r.told_append hbody, hcontent]
      refine .cons ⟨hheaders, htype.trans hqtype, hversion, hchunked, ?_, ?_, rfl, rfl⟩ ?_
      · intro hreq
        obtain ⟨hmethod, htarget⟩ := hrequest (hqtype.trans hreq)
        refine ⟨hmethod, fun method target version hstart => ?_⟩
        exact htarget.trans (by rw [hstart])
      · intro hresp
        obtain ⟨hcode, hreason⟩ := hresponse (hqtype.trans hresp)
        refine ⟨hcode, fun version code reason hstart => ?_⟩
        exact hreason.trans (by rw [hstart])
      · have hnext := ih (r.after (r.next (.headersComplete info) q) body)
        rw [r.after_type, r.next_type, hqtype] at hnext
        exact hnext

end Relay

end RtcVpn
