import RtcVpn.Http.HttpParser
import RtcVpn.Library.HttpWire

/-!
# Relaying messages through the parser

Both ends of a tunnel put an `HttpParser` between what they receive and what
they send: the head of a message is written when its headers are complete, its
body as it comes, in chunks again if it came in chunks, and its end when it is
reported. A `Relay` is what they do with the callbacks of llhttp. `Segments`
tells how the spans of a message may be cut into calls, and what a relay writes
does not depend on it but for the sizes of chunks.
-/

namespace RtcVpn

/-! ## What llhttp reports -/

/-- What llhttp reports of buffers it reads one after the other; none if it stops at one. -/
def Llhttp.reports (L : Llhttp) : L.State → List Bytes → Option (L.State × List LlhttpEvent)
  | s, [] => some (s, [])
  | s, data :: feeds =>
      match L.execute s data with
      | (t, events, .ok) => (L.reports t feeds).map fun (u, more) => (u, events ++ more)
      | _ => none

theorem Llhttp.reports_append {L : Llhttp} {s u : L.State} {feeds more : List Bytes}
    {events : List LlhttpEvent} :
    L.reports s (feeds ++ more) = some (u, events) ↔
      ∃ t before after, L.reports s feeds = some (t, before) ∧
        L.reports t more = some (u, after) ∧ events = before ++ after := by
  induction feeds generalizing s events with
  | nil => simp [reports]
  | cons data feeds ih =>
      rw [List.cons_append, reports, reports]
      obtain ⟨t, first, errno⟩ := L.execute s data
      cases errno with
      | ok =>
          simp only [Option.map_eq_some_iff, Prod.exists, Prod.mk.injEq]
          constructor
          · rintro ⟨w, rest, hrest, rfl, rfl⟩
            obtain ⟨v, before, after, hfeeds, hmore, rfl⟩ := ih.mp hrest
            exact ⟨v, first ++ before, after, ⟨v, before, hfeeds, rfl, rfl⟩, hmore,
              (List.append_assoc _ _ _).symm⟩
          · rintro ⟨v, front, after, ⟨_, before, hfeeds, rfl, rfl⟩, hmore, rfl⟩
            exact ⟨u, before ++ after, ih.mpr ⟨_, before, after, hfeeds, hmore, rfl⟩, rfl,
              (List.append_assoc _ _ _).symm⟩
      | pausedUpgrade _ | error _ _ => simp

/-- One more buffer. -/
theorem Llhttp.reports_snoc {L : Llhttp} {s u : L.State} {feeds : List Bytes} {data : Bytes}
    {events : List LlhttpEvent} :
    L.reports s (feeds ++ [data]) = some (u, events) ↔
      ∃ t before after, L.reports s feeds = some (t, before) ∧
        L.execute t data = (u, after, .ok) ∧ events = before ++ after := by
  have hone : ∀ t after, L.reports t [data] = some (u, after) ↔
      L.execute t data = (u, after, .ok) := by
    intro t after
    rw [reports]
    obtain ⟨v, first, errno⟩ := L.execute t data
    cases errno <;> simp [reports]
  rw [reports_append]
  simp only [hone]

/-! ## Relays -/

/-- What differs between the two ends: what is done to a message before it is written, and where
the end looks whether it is chunked. -/
structure Relay (L : Llhttp) where
  rewrite : Message → Message
  isChunked : HttpParser L → Bool

namespace Relay

variable {L : Llhttp} (r : Relay L)

/-- What is written of a piece of a body in chunks. -/
def chunk (data : Bytes) : Bytes :=
  hexadecimal data.length ++ [0x0D, 0x0A] ++ data ++ [0x0D, 0x0A]

/-- What is written at the end of a message in chunks. -/
def lastChunk : Bytes := [0x30, 0x0D, 0x0A, 0x0D, 0x0A]

/-- The parser after a callback. -/
def next : LlhttpEvent → HttpParser L → HttpParser L
  | .messageBegin, p => p.onMessageBegin
  | .url span, p => p.onUrl span
  | .status span, p => p.onStatus span
  | .headerField span, p => p.onHeaderField span
  | .headerValue span, p => p.onHeaderValue span
  | .headersComplete info, p =>
      { p.onHeadersComplete info with message := r.rewrite (p.onHeadersComplete info).message }
  | .body _, p => p
  | .messageComplete, p => { p with messageComplete := true }

/-- What is written at a callback. -/
def writes : LlhttpEvent → HttpParser L → List Bytes
  | .headersComplete info, p =>
      [(r.rewrite (p.onHeadersComplete info).message).serializeHeadersOnly false none]
  | .body span, p => [if r.isChunked p then chunk span else span]
  | .messageComplete, p => if r.isChunked p then [lastChunk] else []
  | _, _ => []

/-- The parser after some callbacks. -/
def after (p : HttpParser L) (es : List LlhttpEvent) : HttpParser L :=
  es.foldl (fun p e => r.next e p) p

/-- What is written at some callbacks. -/
def sends : HttpParser L → List LlhttpEvent → List Bytes
  | _, [] => []
  | p, e :: es => r.writes e p ++ sends (r.next e p) es

/-- What a relay relies on: the flag is that of the headers, until the end of the message. -/
structure Lawful : Prop where
  complete : ∀ info p, r.isChunked (r.next (.headersComplete info) p) = info.chunked
  field : ∀ span p, r.isChunked (p.onHeaderField span) = r.isChunked p
  value : ∀ span p, r.isChunked (p.onHeaderValue span) = r.isChunked p
  parser : ∀ x (p : HttpParser L), r.isChunked { p with parser := x } = r.isChunked p

@[simp] theorem after_nil (p : HttpParser L) : r.after p [] = p := rfl

@[simp] theorem after_cons (p : HttpParser L) (e : LlhttpEvent) (es : List LlhttpEvent) :
    r.after p (e :: es) = r.after (r.next e p) es := rfl

theorem after_append (p : HttpParser L) (es fs : List LlhttpEvent) :
    r.after p (es ++ fs) = r.after (r.after p es) fs :=
  List.foldl_append

theorem sends_append (p : HttpParser L) (es fs : List LlhttpEvent) :
    r.sends p (es ++ fs) = r.sends p es ++ r.sends (r.after p es) fs := by
  induction es generalizing p with
  | nil => rfl
  | cons e es ih => simp [sends, ih, List.append_assoc]

/-! ## The parser within -/

theorem next_with_state (x : L.State) (e : LlhttpEvent) (p : HttpParser L) :
    r.next e { p with parser := x } = { r.next e p with parser := x } := by
  cases e with
  | headerField span =>
      simp only [next, HttpParser.onHeaderField]
      split <;> rfl
  | headersComplete info =>
      have hcomplete : HttpParser.onHeadersComplete info { p with parser := x } =
          { p.onHeadersComplete info with parser := x } := by
        simp only [HttpParser.onHeadersComplete]
        split <;> rfl
      simp only [next, hcomplete]
  | _ => rfl

theorem writes_with_state (hr : r.Lawful) (x : L.State) (e : LlhttpEvent) (p : HttpParser L) :
    r.writes e { p with parser := x } = r.writes e p := by
  cases e with
  | headersComplete info =>
      have hcomplete : (HttpParser.onHeadersComplete info { p with parser := x }).message =
          (p.onHeadersComplete info).message := by
        simp only [HttpParser.onHeadersComplete]
        split <;> rfl
      simp only [writes, hcomplete]
  | body span => simp only [writes, hr.parser]
  | messageComplete => simp only [writes, hr.parser]
  | _ => rfl

theorem after_with_state (x : L.State) (es : List LlhttpEvent) (p : HttpParser L) :
    r.after { p with parser := x } es = { r.after p es with parser := x } := by
  induction es generalizing p with
  | nil => rfl
  | cons e es ih => rw [after_cons, after_cons, next_with_state, ih]

theorem sends_with_state (hr : r.Lawful) (x : L.State) (es : List LlhttpEvent) (p : HttpParser L) :
    r.sends { p with parser := x } es = r.sends p es := by
  induction es generalizing p with
  | nil => rfl
  | cons e es ih => rw [sends, sends, writes_with_state r hr, next_with_state, ih]

theorem next_had_error (e : LlhttpEvent) (p : HttpParser L) :
    (r.next e p).hadError = p.hadError := by
  cases e with
  | headerField span =>
      simp only [next, HttpParser.onHeaderField]
      split <;> rfl
  | headersComplete info =>
      simp only [next, HttpParser.onHeadersComplete]
      split <;> rfl
  | _ => rfl

theorem after_had_error (es : List LlhttpEvent) (p : HttpParser L) :
    (r.after p es).hadError = p.hadError := by
  induction es generalizing p with
  | nil => rfl
  | cons e es ih => rw [after_cons, ih, next_had_error]

/-! ## What is written for each message -/

/-- What is written for a message: its value when its headers are complete, and what follows the
head. -/
structure Written where
  message : Message
  content : Bytes

/-- The bytes of what is written for a message. -/
def bytes (w : Written) : Bytes :=
  (r.rewrite w.message).serializeHeadersOnly false none ++ w.content

/-- What is written before the next head. -/
def content : HttpParser L → List LlhttpEvent → Bytes
  | _, [] => []
  | _, .headersComplete _ :: _ => []
  | p, e :: es => (r.writes e p).flatten ++ content (r.next e p) es

/-- What is written for each message whose headers are complete. -/
def written : HttpParser L → List LlhttpEvent → List Written
  | _, [] => []
  | p, .headersComplete info :: es =>
      ⟨(p.onHeadersComplete info).message, r.content (r.next (.headersComplete info) p) es⟩ ::
        written (r.next (.headersComplete info) p) es
  | p, e :: es => written (r.next e p) es

/-- All that is written is what is written for each message. -/
theorem flatten_sends (p : HttpParser L) (es : List LlhttpEvent) :
    (r.sends p es).flatten = r.content p es ++ (r.written p es).flatMap r.bytes := by
  induction es generalizing p with
  | nil => rfl
  | cons e es ih =>
      cases e with
      | headersComplete info =>
          simp [sends, content, written, writes, bytes, ih]
      | _ => simp [sends, content, written, ih, List.append_assoc]

end Relay

/-! ## Spans -/

/-- The calls that report a part of a message. A span may be cut anywhere; a field and a value are
reported by one call at least, and no call reports an empty piece of a body. -/
inductive Cut : LlhttpEvent → List LlhttpEvent → Prop where
  | messageBegin : Cut .messageBegin [.messageBegin]
  | url (spans : List Bytes) : Cut (.url spans.flatten) (spans.map .url)
  | status (spans : List Bytes) : Cut (.status spans.flatten) (spans.map .status)
  | headerField {spans : List Bytes} (h : spans ≠ []) :
      Cut (.headerField spans.flatten) (spans.map .headerField)
  | headerValue {spans : List Bytes} (h : spans ≠ []) :
      Cut (.headerValue spans.flatten) (spans.map .headerValue)
  | headersComplete (info : HeadersInfo) : Cut (.headersComplete info) [.headersComplete info]
  | body {spans : List Bytes} (h : ∀ s ∈ spans, s ≠ []) :
      Cut (.body spans.flatten) (spans.map .body)
  | messageComplete : Cut .messageComplete [.messageComplete]

/-- The calls that report the parts of messages, in order. -/
inductive Segments : List LlhttpEvent → List LlhttpEvent → Prop where
  | nil : Segments [] []
  | cons {t : LlhttpEvent} {ts es fs : List LlhttpEvent} (hcut : Cut t es)
      (hrest : Segments ts fs) : Segments (t :: ts) (es ++ fs)

/-- Where in a message llhttp is. -/
inductive Stage where
  | idle
  | head
  | body
  deriving DecidableEq, Repr

/-- A message begins, has its start line and its headers, and then its body and its trailer until
it is complete. -/
def Stage.next : Stage → LlhttpEvent → Option Stage
  | .idle, .messageBegin => some .head
  | .head, .url _ | .head, .status _ | .head, .headerField _ | .head, .headerValue _ => some .head
  | .head, .headersComplete _ => some .body
  | .body, .body _ | .body, .headerField _ | .body, .headerValue _ => some .body
  | .body, .messageComplete => some .idle
  | _, _ => none

/-- The parts come in the order of a stream of messages. -/
def InOrder : Stage → List LlhttpEvent → Prop
  | _, [] => True
  | stage, t :: ts =>
      match stage.next t with
      | some stage => InOrder stage ts
      | none => False

namespace Relay

variable {L : Llhttp} (r : Relay L)

/-- What the parts of a message tell of its body, and whether its end is among them. -/
def contentOf : List LlhttpEvent → Bytes × Bool
  | [] => ([], false)
  | .headersComplete _ :: _ => ([], false)
  | .body data :: ts => (data ++ (contentOf ts).1, (contentOf ts).2)
  | .messageComplete :: ts => ((contentOf ts).1, true)
  | _ :: ts => contentOf ts

/-- What the parts tell of each message: its value, its body, and whether it is complete. -/
structure Told where
  message : Message
  body : Bytes
  complete : Bool

/-- What some parts tell of the messages whose headers are complete. -/
def told : HttpParser L → List LlhttpEvent → List Told
  | _, [] => []
  | p, .headersComplete info :: ts =>
      ⟨(p.onHeadersComplete info).message, (contentOf ts).1, (contentOf ts).2⟩ ::
        told (r.next (.headersComplete info) p) ts
  | p, t :: ts => told (r.next t p) ts

/-- The bytes carry a body, in chunks if it is to be. -/
def Carries (chunked complete : Bool) (body out : Bytes) : Prop :=
  ∃ pieces : List Bytes, (∀ p ∈ pieces, p ≠ []) ∧ pieces.flatten = body ∧
    out = if chunked then pieces.flatMap chunk ++ (if complete then lastChunk else []) else body

/-- What is written for a message is what the parts tell of it. -/
structure Faithful (d : Told) (w : Written) : Prop where
  message : w.message = d.message
  content : Carries d.message.chunked d.complete d.body w.content

/-! ## Cuts -/

/-- The parser after a part does not depend on how the part is cut. -/
theorem after_cut {t : LlhttpEvent} {es : List LlhttpEvent} (h : Cut t es) (p : HttpParser L) :
    r.after p es = r.next t p := by
  cases h with
  | messageBegin | headersComplete _ | messageComplete => rfl
  | url spans =>
      induction spans generalizing p with
      | nil => simp [next, HttpParser.onUrl]
      | cons s spans ih =>
          rw [List.map_cons, after_cons, ih]
          simp [next, HttpParser.onUrl]
  | status spans =>
      induction spans generalizing p with
      | nil => simp [next, HttpParser.onStatus]
      | cons s spans ih =>
          rw [List.map_cons, after_cons, ih]
          simp [next, HttpParser.onStatus]
  | @headerField spans hne =>
      -- the first call pushes the header before, the others find none to push
      have hmore : ∀ (more : List Bytes) (q : HttpParser L), q.inHeaderValue = false →
          r.after q (more.map .headerField) =
            { q with curHeaderField := q.curHeaderField ++ more.flatten } := by
        intro more
        induction more with
        | nil => simp
        | cons s more ih =>
            intro q hq
            have hnext : r.next (.headerField s) q =
                { q with curHeaderField := q.curHeaderField ++ s } := by
              simp [next, HttpParser.onHeaderField, hq]
            rw [List.map_cons, after_cons, hnext,
              ih { q with curHeaderField := q.curHeaderField ++ s } hq]
            simp
      cases spans with
      | nil => exact absurd rfl hne
      | cons s spans =>
          have hvalue : (r.next (.headerField s) p).inHeaderValue = false := by
            simp only [next, HttpParser.onHeaderField]
            split
            · rfl
            · next h => simpa using h
          rw [List.map_cons, after_cons, hmore spans _ hvalue]
          simp only [next, HttpParser.onHeaderField]
          split <;> simp
  | @headerValue spans hne =>
      cases spans with
      | nil => exact absurd rfl hne
      | cons s spans =>
          clear hne
          induction spans generalizing p s with
          | nil => simp [next, HttpParser.onHeaderValue]
          | cons s' spans ih =>
              rw [List.map_cons, after_cons, ih _ s']
              simp [next, HttpParser.onHeaderValue]
  | @body spans h =>
      clear h
      induction spans with
      | nil => rfl
      | cons s spans ih => exact ih

/-- The part completes the headers. -/
def CompletesHeaders : LlhttpEvent → Prop
  | .headersComplete _ => True
  | _ => False

theorem content_cons {e : LlhttpEvent} (he : ¬ CompletesHeaders e) (p : HttpParser L)
    (es : List LlhttpEvent) :
    r.content p (e :: es) = (r.writes e p).flatten ++ r.content (r.next e p) es := by
  cases e with
  | headersComplete info => exact absurd trivial he
  | _ => rfl

theorem written_cons {e : LlhttpEvent} (he : ¬ CompletesHeaders e) (p : HttpParser L)
    (es : List LlhttpEvent) : r.written p (e :: es) = r.written (r.next e p) es := by
  cases e with
  | headersComplete info => exact absurd trivial he
  | _ => rfl

theorem told_cons {t : LlhttpEvent} (ht : ¬ CompletesHeaders t) (p : HttpParser L)
    (ts : List LlhttpEvent) : r.told p (t :: ts) = r.told (r.next t p) ts := by
  cases t with
  | headersComplete info => exact absurd trivial ht
  | _ => rfl

/-- No call of a part completes headers if the part does not. -/
theorem completes_of_cut {t : LlhttpEvent} {es : List LlhttpEvent} (h : Cut t es)
    (ht : ¬ CompletesHeaders t) : ∀ e ∈ es, ¬ CompletesHeaders e := by
  cases h with
  | headersComplete info => exact absurd trivial ht
  | _ => simp [CompletesHeaders]

/-- A part other than the headers does not end what is written for a message. -/
theorem content_cut {t : LlhttpEvent} {es : List LlhttpEvent} (h : Cut t es)
    (ht : ¬ CompletesHeaders t) (p : HttpParser L) (rest : List LlhttpEvent) :
    r.content p (es ++ rest) = (r.sends p es).flatten ++ r.content (r.next t p) rest ∧
      r.written p (es ++ rest) = r.written (r.next t p) rest := by
  have hall := completes_of_cut h ht
  rw [← r.after_cut h]
  clear h ht t
  induction es generalizing p with
  | nil => exact ⟨rfl, rfl⟩
  | cons e es ih =>
      have he := hall e List.mem_cons_self
      obtain ⟨hcontent, hwritten⟩ :=
        ih (r.next e p) fun e' he' => hall e' (List.mem_cons_of_mem e he')
      rw [List.cons_append, r.content_cons he, r.written_cons he, hcontent, hwritten, sends,
        List.flatten_append, List.append_assoc]
      exact ⟨rfl, rfl⟩

/-- The part is one of those for which nothing is written. -/
def Quiet : LlhttpEvent → Prop
  | .headersComplete _ | .body _ | .messageComplete => False
  | _ => True

theorem sends_quiet {t : LlhttpEvent} {es : List LlhttpEvent} (h : Cut t es) (ht : Quiet t)
    (p : HttpParser L) : r.sends p es = [] := by
  have hall : ∀ e ∈ es, ∀ q, r.writes e q = [] := by
    cases h with
    | headersComplete _ | body _ | messageComplete => exact ht.elim
    | messageBegin | url | status | headerField _ | headerValue _ => simp [writes]
  clear h ht t
  induction es generalizing p with
  | nil => rfl
  | cons e es ih =>
      rw [sends, hall e List.mem_cons_self p, List.nil_append]
      exact ih _ fun e' he' => hall e' (List.mem_cons_of_mem e he')

/-- What is written for a part of a body. -/
theorem sends_body (p : HttpParser L) (spans : List Bytes) :
    (r.sends p (spans.map .body)).flatten =
      if r.isChunked p then spans.flatMap chunk else spans.flatten := by
  induction spans with
  | nil => simp [sends]
  | cons s spans ih =>
      rw [List.map_cons, sends, List.flatten_append]
      show _ ++ (r.sends p _).flatten = _
      rw [ih]
      cases hflag : r.isChunked p <;> simp [writes, hflag]

/-- What is written until the next head, by where in a message the parts begin. -/
def ContentAt (stage : Stage) (p : HttpParser L) (ts : List LlhttpEvent) (out : Bytes) : Prop :=
  match stage with
  | .body => Carries (r.isChunked p) (contentOf ts).2 (contentOf ts).1 out
  | .idle | .head => out = [] ∧ contentOf ts = ([], false)

/-- Parts that are not reported by calls that write leave what is written as it is. -/
theorem content_at_quiet (hr : r.Lawful) {stage stage' : Stage} {t : LlhttpEvent} (ht : Quiet t)
    (hnext : stage.next t = some stage') (p : HttpParser L) (ts : List LlhttpEvent) (out : Bytes)
    (h : r.ContentAt stage' (r.next t p) ts out) : r.ContentAt stage p (t :: ts) out := by
  have htold : contentOf (t :: ts) = contentOf ts := by
    cases t with
    | headersComplete _ | body _ | messageComplete => exact ht.elim
    | _ => rfl
  cases stage with
  | idle =>
      cases t with
      | messageBegin => cases hnext; exact h
      | _ => cases hnext
  | head =>
      cases t with
      | headersComplete _ => exact ht.elim
      | url _ | status _ | headerField _ | headerValue _ => cases hnext; exact h
      | _ => cases hnext
  | body =>
      cases t with
      | body _ | messageComplete => exact ht.elim
      | headerField span =>
          cases hnext
          have hflag : r.isChunked (r.next (.headerField span) p) = r.isChunked p := hr.field span p
          rw [ContentAt, hflag] at h
          rwa [ContentAt, htold]
      | headerValue span =>
          cases hnext
          have hflag : r.isChunked (r.next (.headerValue span) p) = r.isChunked p := hr.value span p
          rw [ContentAt, hflag] at h
          rwa [ContentAt, htold]
      | _ => cases hnext

/-- What is written carries what the parts tell, wherever they are cut. -/
theorem content_at (hr : r.Lawful) {stage : Stage} {ts es : List LlhttpEvent}
    (horder : InOrder stage ts) (hseg : Segments ts es) (p : HttpParser L) :
    r.ContentAt stage p ts (r.content p es) := by
  induction hseg generalizing stage p with
  | nil =>
      cases stage with
      | idle | head => exact ⟨rfl, rfl⟩
      | body => exact ⟨[], by simp, rfl, by simp [content, contentOf]⟩
  | @cons t ts es rest hcut _ ih =>
      rw [InOrder] at horder
      cases hnext : stage.next t with
      | none => rw [hnext] at horder; exact horder.elim
      | some stage' =>
          rw [hnext] at horder
          have hrest := ih horder (r.next t p)
          cases t with
          | headersComplete info =>
              -- the head ends what is written before it
              cases hcut
              cases stage with
              | idle | body => cases hnext
              | head => exact ⟨rfl, rfl⟩
          | body data =>
              rw [(r.content_cut hcut id p rest).1]
              cases stage with
              | idle | head => cases hnext
              | body =>
                cases hnext
                cases hcut with
                | @body spans hspans =>
                    obtain ⟨pieces, hpieces, hflat, hout⟩ := hrest
                    refine ⟨spans ++ pieces, ?_, ?_, ?_⟩
                    · intro q hq
                      exact (List.mem_append.mp hq).elim (hspans q) (hpieces q)
                    · rw [List.flatten_append, hflat]
                      rfl
                    · rw [sends_body, hout]
                      show _ = if r.isChunked p then _ ++ (if (contentOf ts).2 then _ else _) else
                        spans.flatten ++ (contentOf ts).1
                      show _ ++ (if r.isChunked p then _ else _) = _
                      cases r.isChunked p <;> simp
          | messageComplete =>
              rw [(r.content_cut hcut id p rest).1]
              cases stage with
              | idle | head => cases hnext
              | body =>
                cases hnext
                cases hcut
                -- nothing is written before the next head
                obtain ⟨hout, htold⟩ := hrest
                rw [hout, List.append_nil]
                refine ⟨[], by simp, by simp [contentOf, htold], ?_⟩
                cases hflag : r.isChunked p <;> simp [sends, writes, contentOf, htold, hflag]
          | _ =>
              rw [(r.content_cut hcut id p rest).1, r.sends_quiet hcut trivial]
              refine r.content_at_quiet hr ?_ hnext p ts _ hrest
              exact trivial

/-- What is written for the messages of a stream is what its parts tell of them, wherever they are
cut. -/
theorem written_faithful (hr : r.Lawful) {stage : Stage} {ts es : List LlhttpEvent}
    (horder : InOrder stage ts) (hseg : Segments ts es) (p : HttpParser L) :
    List.Forall₂ Faithful (r.told p ts) (r.written p es) := by
  induction hseg generalizing stage p with
  | nil => exact .nil
  | @cons t ts es rest hcut hseg ih =>
      rw [InOrder] at horder
      cases hnext : stage.next t with
      | none => rw [hnext] at horder; exact horder.elim
      | some stage' =>
          rw [hnext] at horder
          have hrest := ih horder (r.next t p)
          by_cases ht : CompletesHeaders t
          · cases t with
            | headersComplete info =>
                cases hcut
                cases stage with
                | idle | body => cases hnext
                | head =>
                    cases hnext
                    refine .cons ⟨rfl, ?_⟩ hrest
                    have hcontent := r.content_at hr horder hseg (r.next (.headersComplete info) p)
                    rw [ContentAt, hr.complete] at hcontent
                    exact hcontent
            | _ => exact ht.elim
          · rw [r.told_cons ht, (r.content_cut hcut ht p rest).2]
            exact hrest

end Relay

end RtcVpn
