import RtcVpn.Library.Effect
import RtcVpn.Library.Text
import RtcVpn.Protocol.SessionProtocol

/-!
# The HTTP parser

`HttpParser` of `http_parse`, a wrapper around the parser llhttp, which is not
part of the repository and is a parameter here: an `Llhttp` reads a buffer and
reports what it saw as a list of callbacks, with its error code. What it sees
may depend on what the callbacks return. The wrapper collects the spans of a
message and calls its owner, whose handlers are an `HttpCallbacks` and whose
state holds the parser in an `HttpSlot`.
-/

namespace RtcVpn

/-! ## What is used of llhttp -/

/-- `HttpParser::Type`; `Unknown` is only ever an argument and stands for `Request`. -/
inductive HttpType where
  | request
  | response
  deriving DecidableEq, Repr

/-- What `on_headers_complete_cb` reads from the parser: the version, the name of the method, the
status code, the flags and `llhttp_should_keep_alive`. -/
structure HeadersInfo where
  httpMajor : Nat
  httpMinor : Nat
  methodName : Bytes
  statusCode : Nat
  chunked : Bool
  upgrade : Bool
  connectionKeepAlive : Bool
  connectionClose : Bool
  shouldKeepAlive : Bool
  contentLength : Option Nat
  deriving DecidableEq, Repr

/-- A callback of llhttp. -/
inductive LlhttpEvent where
  | messageBegin
  | url (span : Bytes)
  | status (span : Bytes)
  | headerField (span : Bytes)
  | headerValue (span : Bytes)
  | headersComplete (info : HeadersInfo)
  | body (span : Bytes)
  | messageComplete
  deriving DecidableEq, Repr

/-- The error code of `llhttp_execute`. `HPE_PAUSED_UPGRADE` comes with the offset of the error
position in the buffer, if it lies in or behind it. -/
inductive LlhttpErrno where
  | ok
  | pausedUpgrade (consumed : Option Nat)
  | error (code : Int) (reason : Bytes)
  deriving DecidableEq, Repr

/-- The parser llhttp: `llhttp_init`, `llhttp_execute`, with what the callbacks return, and
`llhttp_resume_after_upgrade`. -/
structure Llhttp where
  State : Type
  init : HttpType → State
  executeWith : (LlhttpEvent → Int) → State → Bytes → State × List LlhttpEvent × LlhttpErrno
  resumeAfterUpgrade : State → State

/-- What the callbacks of `HttpParser` return. With 1, `on_headers_complete_cb` would have the body
skipped. -/
def HttpParser.callbackResult : LlhttpEvent → Int
  | .messageBegin => 0
  | .url _ => 0
  | .status _ => 0
  | .headerField _ => 0
  | .headerValue _ => 0
  | .headersComplete _ => 0
  | .body _ => 0
  | .messageComplete => 0

/-- `llhttp_execute` as `HttpParser` calls it. -/
def Llhttp.execute (L : Llhttp) : L.State → Bytes → L.State × List LlhttpEvent × LlhttpErrno :=
  L.executeWith HttpParser.callbackResult

/-- What llhttp does with no input: it stands for it in runs that never feed a parser. -/
def Llhttp.idle : Llhttp where
  State := Unit
  init _ := ()
  executeWith _ _ _ := ((), [], .ok)
  resumeAfterUpgrade _ := ()

/-- What llhttp does with a few buffers that are written down: it stands for it in runs on them. -/
def Llhttp.scripted (script : List (List UInt8 × List LlhttpEvent × LlhttpErrno)) : Llhttp where
  State := Unit
  init _ := ()
  executeWith _ _ data :=
    match script.lookup data with
    | some (events, errno) => ((), events, errno)
    | none => ((), [], .error 1 [])
  resumeAfterUpgrade _ := ()

/-! ## Messages -/

/-- `HttpParser::Header`. -/
structure Header where
  name : Bytes
  value : Bytes
  deriving DecidableEq, Repr

/-- `HttpParser::Message`. -/
structure Message where
  type : HttpType
  version : Nat := 0
  method : Bytes := []
  target : Bytes := []
  path : Bytes := []
  query : Bytes := []
  statusCode : Nat := 0
  reason : Bytes := []
  headers : List Header := []
  trailers : List Header := []
  body : Bytes := []
  keepAlive : Bool := false
  connectionClose : Bool := false
  connectionKeepAlive : Bool := false
  chunked : Bool := false
  upgrade : Bool := false
  connect : Bool := false
  hasBody : Bool := false
  contentLength : Option Nat := none
  deriving DecidableEq, Repr

namespace Message

/-- `iequals`. -/
def iequals (a b : Bytes) : Bool := a.map toLower == b.map toLower

/-- `get_header`: the value of the first header of that name, or the empty string. -/
def getHeader (m : Message) (name : Bytes) : Bytes :=
  match m.headers.find? fun h => iequals h.name name with
  | some h => h.value
  | none => []

/-- `has_header`. -/
def hasHeader (m : Message) (name : Bytes) : Bool := m.headers.any fun h => iequals h.name name

/-- `default_reason_phrase`. -/
def defaultReasonPhrase (status : Nat) : Bytes :=
  match status with
  | 200 => text "OK"
  | 201 => text "Created"
  | 204 => text "No Content"
  | 301 => text "Moved Permanently"
  | 302 => text "Found"
  | 304 => text "Not Modified"
  | 400 => text "Bad Request"
  | 401 => text "Unauthorized"
  | 403 => text "Forbidden"
  | 404 => text "Not Found"
  | 405 => text "Method Not Allowed"
  | 408 => text "Request Timeout"
  | 413 => text "Payload Too Large"
  | 414 => text "URI Too Long"
  | 431 => text "Request Header Fields Too Large"
  | 500 => text "Internal Server Error"
  | 501 => text "Not Implemented"
  | 502 => text "Bad Gateway"
  | 503 => text "Service Unavailable"
  | 504 => text "Gateway Timeout"
  | _ => text "Unknown"

/-- The end of a line. -/
def crlf : Bytes := [0x0D, 0x0A]

/-- The first line as it is serialized. -/
def startLine (m : Message) : Bytes :=
  let httpVersion := if m.version = 10 then text "HTTP/1.0" else text "HTTP/1.1"
  match m.type with
  | .response =>
      httpVersion ++ text " " ++ decimal m.statusCode ++ text " " ++
        (if m.reason.isEmpty then defaultReasonPhrase m.statusCode else m.reason) ++ crlf
  | .request =>
      (if m.method.isEmpty then text "GET" else m.method) ++ text " " ++
        (if m.target.isEmpty then text "/" else m.target) ++ text " " ++ httpVersion ++ crlf

/-- A header as it is serialized. -/
def headerLine (h : Header) : Bytes := h.name ++ text ": " ++ h.value ++ crlf

/-- `serialize_headers_only`. -/
def serializeHeadersOnly (m : Message) (forceChunked : Bool) (forceContentLength : Option Nat) :
    Bytes :=
  let framing :=
    if !m.hasHeader (text "Content-Length") && !m.hasHeader (text "Transfer-Encoding") then
      if forceChunked then text "Transfer-Encoding: chunked" ++ crlf
      else match forceContentLength with
        | some n => text "Content-Length: " ++ decimal n ++ crlf
        | none => []
    else []
  m.startLine ++ (m.headers.map headerLine).flatten ++ framing ++ crlf

end Message

/-! ## The wrapper -/

/-- `HttpParser`: the members that are not callbacks. -/
structure HttpParser (L : Llhttp) where
  parser : L.State
  type : HttpType
  message : Message
  curHeaderField : Bytes := []
  curHeaderValue : Bytes := []
  inHeaderValue : Bool := false
  curUrl : Bytes := []
  curStatus : Bytes := []
  messageComplete : Bool := false
  hadError : Bool := false
  remainingAfterUpgrade : Bytes := []
  isChunked : Bool := false

namespace HttpParser

variable {L : Llhttp}

/-- `HttpParser::HttpParser`, by way of `init`. -/
def make (L : Llhttp) (type : HttpType) : HttpParser L where
  parser := L.init type
  type := type
  message := { type := type }

/-- `on_message_begin_cb`. -/
def onMessageBegin (p : HttpParser L) : HttpParser L :=
  { p with
    message := { type := p.type }
    curHeaderField := []
    curHeaderValue := []
    curUrl := []
    curStatus := []
    inHeaderValue := false
    messageComplete := false }

/-- `on_url_cb`. -/
def onUrl (span : Bytes) (p : HttpParser L) : HttpParser L := { p with curUrl := p.curUrl ++ span }

/-- `on_status_cb`. -/
def onStatus (span : Bytes) (p : HttpParser L) : HttpParser L :=
  { p with curStatus := p.curStatus ++ span }

/-- Push the collected header. -/
def pushHeader (p : HttpParser L) : HttpParser L :=
  { p with
    message := { p.message with
      headers := p.message.headers ++ [⟨p.curHeaderField, p.curHeaderValue⟩] }
    curHeaderField := []
    curHeaderValue := []
    inHeaderValue := false }

/-- `on_header_field_cb`. -/
def onHeaderField (span : Bytes) (p : HttpParser L) : HttpParser L :=
  let p := if p.inHeaderValue then p.pushHeader else p
  { p with curHeaderField := p.curHeaderField ++ span }

/-- `on_header_value_cb`. -/
def onHeaderValue (span : Bytes) (p : HttpParser L) : HttpParser L :=
  { p with inHeaderValue := true, curHeaderValue := p.curHeaderValue ++ span }

/-- The fields of the message that depend on its type. -/
def fillStartLine (info : HeadersInfo) (p : HttpParser L) : Message :=
  match p.type with
  | .request =>
      let (path, query) := match splitAtFirst 0x3F p.curUrl with
        | some (path, query) => (path, query)
        | none => (p.curUrl, p.message.query)
      { p.message with
        method := info.methodName
        target := p.curUrl
        connect := info.methodName == text "CONNECT"
        path := path
        query := query }
  | .response => { p.message with statusCode := info.statusCode, reason := p.curStatus }

/-- `on_headers_complete_cb`, up to the call of its owner. -/
def onHeadersComplete (info : HeadersInfo) (p : HttpParser L) : HttpParser L :=
  let p := if !p.curHeaderField.isEmpty || p.inHeaderValue then p.pushHeader else p
  let contentLength := match info.contentLength with
    | some n => some n
    | none => p.message.contentLength
  { p with
    isChunked := info.chunked
    message := { p.fillStartLine info with
      version := info.httpMajor * 10 + info.httpMinor
      chunked := info.chunked
      upgrade := info.upgrade
      connectionKeepAlive := info.connectionKeepAlive
      connectionClose := info.connectionClose
      keepAlive := info.shouldKeepAlive
      contentLength := contentLength
      hasBody := contentLength != some 0 || info.chunked } }

/-- `on_body_cb` when no callback is set. -/
def appendBody (span : Bytes) (p : HttpParser L) : HttpParser L :=
  { p with message := { p.message with body := p.message.body ++ span } }

/-- The bytes `feed` keeps when llhttp pauses for an upgrade. -/
def keepRemaining (data : Bytes) (consumed : Option Nat) (p : HttpParser L) : HttpParser L :=
  match consumed with
  | some n => if n ≤ data.length then { p with remainingAfterUpgrade := data.drop n } else p
  | none => p

end HttpParser

/-! ## Feeding -/

/-- The callbacks of an owner; `none` is one that is not set. -/
structure HttpCallbacks (σ α φ : Type) where
  onHeadersComplete : Option (Message → Effect σ α φ Unit) := none
  onBody : Option (Bytes → Effect σ α φ Unit) := none
  onMessageComplete : Option (Effect σ α φ Unit) := none
  onError : Option (Int → Bytes → Effect σ α φ Unit) := none
  onPausedUpgrade : Option (Bytes → Effect σ α φ Unit) := none

/-- Where an owner keeps a parser. -/
structure HttpSlot (L : Llhttp) (σ : Type) where
  read : σ → HttpParser L
  write : HttpParser L → σ → σ

namespace HttpSlot

open Effect

variable {L : Llhttp} {σ α φ : Type} (slot : HttpSlot L σ) (callbacks : HttpCallbacks σ α φ)

/-- Change the parser in its slot. -/
def update (f : HttpParser L → HttpParser L) : Effect σ α φ Unit :=
  modify fun s => slot.write (f (slot.read s)) s

@[simp] theorem run_update (f : HttpParser L → HttpParser L) (s : σ) :
    (slot.update f : Effect σ α φ Unit).run s = ⟨slot.write (f (slot.read s)) s, [], .ok ()⟩ := rfl

/-- Call a callback if it is set. -/
def notify (callback : Option (Effect σ α φ Unit)) : Effect σ α φ Unit :=
  match callback with
  | some run => run
  | none => pure ()

/-- A callback of llhttp, and the callback of the owner it leads to. Its result is
`HttpParser.callbackResult`. -/
def onEvent : LlhttpEvent → Effect σ α φ Unit
  | .messageBegin => slot.update HttpParser.onMessageBegin
  | .url span => slot.update (HttpParser.onUrl span)
  | .status span => slot.update (HttpParser.onStatus span)
  | .headerField span => slot.update (HttpParser.onHeaderField span)
  | .headerValue span => slot.update (HttpParser.onHeaderValue span)
  | .headersComplete info => do
      slot.update (HttpParser.onHeadersComplete info)
      let s ← get
      notify (callbacks.onHeadersComplete.map fun callback => callback (slot.read s).message)
  | .body span =>
      match callbacks.onBody with
      | some callback => callback span
      | none => slot.update (HttpParser.appendBody span)
  | .messageComplete => do
      slot.update fun p => { p with messageComplete := true }
      notify callbacks.onMessageComplete

/-- The end of `feed`, by the error code. -/
def onErrno (data : Bytes) : LlhttpErrno → Effect σ α φ Bool
  | .ok => pure true
  | .pausedUpgrade consumed => do
      slot.update (HttpParser.keepRemaining data consumed)
      slot.update fun p => { p with parser := L.resumeAfterUpgrade p.parser }
      let s ← get
      notify (callbacks.onPausedUpgrade.map fun callback =>
        callback (slot.read s).remainingAfterUpgrade)
      pure false
  | .error code reason => do
      slot.update fun p => { p with hadError := true }
      notify (callbacks.onError.map fun callback => callback code reason)
      pure false

/-- `feed`. -/
def feed (data : Bytes) : Effect σ α φ Bool := do
  let s ← get
  if (slot.read s).hadError then pure false
  else
    let (parser, events, errno) := L.execute (slot.read s).parser data
    forEach events (slot.onEvent callbacks)
    slot.update fun p => { p with parser := parser }
    slot.onErrno callbacks data errno

/-! ## What a feed does -/

/-- What `feed` does once llhttp has called its callbacks. -/
def finish (data : Bytes) (parser : L.State) (errno : LlhttpErrno) : Effect σ α φ Bool := do
  slot.update fun p => { p with parser := parser }
  slot.onErrno callbacks data errno

/-- A parser that has seen an error is fed no more. -/
theorem run_feed_error {s : σ} (h : (slot.read s).hadError = true) (data : Bytes) :
    (slot.feed callbacks data).run s = ⟨s, [], .ok false⟩ := by
  show Effect.run (if (slot.read s).hadError then _ else _) s = _
  rw [if_pos h]
  rfl

/-- A feed calls the callbacks of llhttp, in order, and then looks at its error code. -/
theorem run_feed {s : σ} (h : (slot.read s).hadError = false) (data : Bytes) :
    (slot.feed callbacks data).run s =
      andThen ((forEach (L.execute (slot.read s).parser data).2.1 (slot.onEvent callbacks)).run s)
        fun _ => slot.finish callbacks data (L.execute (slot.read s).parser data).1
          (L.execute (slot.read s).parser data).2.2 := by
  show Effect.run (if (slot.read s).hadError then _ else _) s = _
  rw [if_neg (by simp [h])]
  rfl

/-- A feed does what the callbacks do, any number of times, if writing the parser to its slot is
of the kind. -/
theorem relates_feed {R : σ → List α → σ → Prop} (hR : Composes R)
    (hwrite : ∀ s p, R s [] (slot.write p s))
    (hheaders : ∀ f m, callbacks.onHeadersComplete = some f → Relates R (f m))
    (hbody : ∀ f data, callbacks.onBody = some f → Relates R (f data))
    (hcomplete : ∀ f, callbacks.onMessageComplete = some f → Relates R f)
    (herror : ∀ f code reason, callbacks.onError = some f → Relates R (f code reason))
    (hupgrade : ∀ f data, callbacks.onPausedUpgrade = some f → Relates R (f data))
    (data : Bytes) : Relates R (slot.feed callbacks data) := by
  have hupdate : ∀ f, Relates R (slot.update f : Effect σ α φ Unit) :=
    fun f => Relates.modify fun s => hwrite s _
  have hnotify : ∀ callback : Option (Effect σ α φ Unit), (∀ x, callback = some x → Relates R x) →
      Relates R (notify callback) := by
    intro callback h
    cases callback with
    | none => exact Relates.pure hR ()
    | some x => exact h x rfl
  have hevent : ∀ e, Relates R (slot.onEvent callbacks e) := by
    intro e
    cases e with
    | headersComplete info =>
        refine .bind hR (hupdate _) fun _ => .bind hR (.get hR) fun s => hnotify _ fun x hx => ?_
        obtain ⟨f, hf, rfl⟩ := Option.map_eq_some_iff.mp hx
        exact hheaders f _ hf
    | body span =>
        show Relates R (match callbacks.onBody with | some f => f span | none => _)
        split
        · next f hf => exact hbody f span hf
        · exact hupdate _
    | messageComplete => exact .bind hR (hupdate _) fun _ => hnotify _ hcomplete
    | messageBegin | url | status | headerField | headerValue => exact hupdate _
  have herrno : ∀ errno, Relates R (slot.onErrno callbacks data errno) := by
    intro errno
    cases errno with
    | ok => exact .pure hR true
    | pausedUpgrade consumed =>
        refine .bind hR (hupdate _) fun _ => .bind hR (hupdate _) fun _ => .bind hR (.get hR)
          fun s => .bind hR (hnotify _ fun x hx => ?_) fun _ => .pure hR false
        obtain ⟨f, hf, rfl⟩ := Option.map_eq_some_iff.mp hx
        exact hupgrade f _ hf
    | error code reason =>
        refine .bind hR (hupdate _) fun _ => .bind hR (hnotify _ fun x hx => ?_) fun _ =>
          .pure hR false
        obtain ⟨f, hf, rfl⟩ := Option.map_eq_some_iff.mp hx
        exact herror f code reason hf
  refine .bind hR (.get hR) fun s => Relates.ite (.pure hR false) ?_
  exact .bind hR (.forEach hR _ hevent) fun _ => .bind hR (hupdate _) fun _ => herrno _

/-- A feed respects what the callbacks respect, if writing the parser to its slot does. -/
theorem respects_feed {I : σ → Prop} {A : α → Prop} (hwrite : ∀ s p, I s → I (slot.write p s))
    (hheaders : ∀ f m, callbacks.onHeadersComplete = some f → Respects I A (f m))
    (hbody : ∀ f data, callbacks.onBody = some f → Respects I A (f data))
    (hcomplete : ∀ f, callbacks.onMessageComplete = some f → Respects I A f)
    (herror : ∀ f code reason, callbacks.onError = some f → Respects I A (f code reason))
    (hupgrade : ∀ f data, callbacks.onPausedUpgrade = some f → Respects I A (f data))
    (data : Bytes) : Respects I A (slot.feed callbacks data) :=
  relates_feed slot callbacks (composes_respects I A) (fun s p hs => ⟨hwrite s p hs, by simp⟩)
    hheaders hbody hcomplete herror hupgrade data

/-- A feed never stops at a fault at which no callback stops. -/
theorem never_feed {e : φ}
    (hheaders : ∀ f m, callbacks.onHeadersComplete = some f → Never e (f m))
    (hbody : ∀ f data, callbacks.onBody = some f → Never e (f data))
    (hcomplete : ∀ f, callbacks.onMessageComplete = some f → Never e f)
    (herror : ∀ f code reason, callbacks.onError = some f → Never e (f code reason))
    (hupgrade : ∀ f data, callbacks.onPausedUpgrade = some f → Never e (f data))
    (data : Bytes) : Never e (slot.feed callbacks data) := by
  have hupdate : ∀ f, Never e (slot.update f : Effect σ α φ Unit) := fun f => Never.modify _
  have hnotify : ∀ callback : Option (Effect σ α φ Unit), (∀ x, callback = some x → Never e x) →
      Never e (notify callback) := by
    intro callback h
    cases callback with
    | none => exact Never.pure ()
    | some x => exact h x rfl
  have hevent : ∀ event, Never e (slot.onEvent callbacks event) := by
    intro event
    cases event with
    | headersComplete info =>
        refine .bind (hupdate _) fun _ => .bind .get fun s => hnotify _ fun x hx => ?_
        obtain ⟨f, hf, rfl⟩ := Option.map_eq_some_iff.mp hx
        exact hheaders f _ hf
    | body span =>
        show Never e (match callbacks.onBody with | some f => f span | none => _)
        split
        · next f hf => exact hbody f span hf
        · exact hupdate _
    | messageComplete => exact .bind (hupdate _) fun _ => hnotify _ hcomplete
    | messageBegin | url | status | headerField | headerValue => exact hupdate _
  have herrno : ∀ errno, Never e (slot.onErrno callbacks data errno) := by
    intro errno
    cases errno with
    | ok => exact .pure true
    | pausedUpgrade consumed =>
        refine .bind (hupdate _) fun _ => .bind (hupdate _) fun _ => .bind .get fun s =>
          .bind (hnotify _ fun x hx => ?_) fun _ => .pure false
        obtain ⟨f, hf, rfl⟩ := Option.map_eq_some_iff.mp hx
        exact hupgrade f _ hf
    | error code reason =>
        refine .bind (hupdate _) fun _ => .bind (hnotify _ fun x hx => ?_) fun _ => .pure false
        obtain ⟨f, hf, rfl⟩ := Option.map_eq_some_iff.mp hx
        exact herror f code reason hf
  refine .bind .get fun s => Never.ite (.pure false) ?_
  exact .bind (.forEach _ hevent) fun _ => .bind (hupdate _) fun _ => herrno _

/-- A feed ignores a change that spares the parser, if the callbacks do. -/
theorem ignores_feed {f : σ → σ} (hread : ∀ s, slot.read (f s) = slot.read s)
    (hwrite : ∀ p s, slot.write p (f s) = f (slot.write p s))
    (hheaders : ∀ g m, callbacks.onHeadersComplete = some g → Ignores f (g m))
    (hbody : ∀ g data, callbacks.onBody = some g → Ignores f (g data))
    (hcomplete : ∀ g, callbacks.onMessageComplete = some g → Ignores f g)
    (herror : ∀ g code reason, callbacks.onError = some g → Ignores f (g code reason))
    (hupgrade : ∀ g data, callbacks.onPausedUpgrade = some g → Ignores f (g data))
    (data : Bytes) : Ignores f (slot.feed callbacks data) := by
  have hupdate : ∀ g, Ignores f (slot.update g : Effect σ α φ Unit) :=
    fun g => Ignores.modify fun s => by rw [hread, hwrite]
  have hnotify : ∀ callback : Option (Effect σ α φ Unit), (∀ x, callback = some x → Ignores f x) →
      Ignores f (notify callback) := by
    intro callback h
    cases callback with
    | none => exact Ignores.pure ()
    | some x => exact h x rfl
  have hevent : ∀ event, Ignores f (slot.onEvent callbacks event) := by
    intro event
    cases event with
    | headersComplete info =>
        refine .bind (hupdate _) fun _ => .get_bind (fun s => by rw [hread]) fun s =>
          hnotify _ fun x hx => ?_
        obtain ⟨g, hg, rfl⟩ := Option.map_eq_some_iff.mp hx
        exact hheaders g _ hg
    | body span =>
        show Ignores f (match callbacks.onBody with | some g => g span | none => _)
        split
        · next g hg => exact hbody g span hg
        · exact hupdate _
    | messageComplete => exact .bind (hupdate _) fun _ => hnotify _ hcomplete
    | messageBegin | url | status | headerField | headerValue => exact hupdate _
  have herrno : ∀ errno, Ignores f (slot.onErrno callbacks data errno) := by
    intro errno
    cases errno with
    | ok => exact .pure true
    | pausedUpgrade consumed =>
        refine .bind (hupdate _) fun _ => .bind (hupdate _) fun _ => .get_bind
          (fun s => by rw [hread]) fun s => .bind (hnotify _ fun x hx => ?_) fun _ => .pure false
        obtain ⟨g, hg, rfl⟩ := Option.map_eq_some_iff.mp hx
        exact hupgrade g _ hg
    | error code reason =>
        refine .bind (hupdate _) fun _ => .bind (hnotify _ fun x hx => ?_) fun _ => .pure false
        obtain ⟨g, hg, rfl⟩ := Option.map_eq_some_iff.mp hx
        exact herror g code reason hg
  refine .get_bind (fun s => by rw [hread]) fun s => Ignores.ite (.pure false) ?_
  exact .bind (.forEach _ hevent) fun _ => .bind (hupdate _) fun _ => herrno _

end HttpSlot

end RtcVpn
