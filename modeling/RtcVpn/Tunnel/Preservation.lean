import RtcVpn.Http.Messages
import RtcVpn.Tunnel.Segmentation

/-!
# What a plain HTTP tunnel makes of messages

What either end writes is read as HTTP again. The messages are those it was
reported, with their targets in origin form, if none of them has a trailer and
none has no body by its status and is marked as chunked all the same. A trailer
is never written, and such a response is followed by the end of a body in chunks
that it does not have.
-/

namespace RtcVpn

open HttpWire

/-! ## Messages that are the same -/

/-- A message is the same but for the form of its target, or for a reason that was empty. -/
structure SameMessage (m m' : WireMessage) : Prop where
  start : match m.start, m'.start with
    | .request method target version, .request method' target' version' =>
        method' = method ∧ target' = toOriginForm target ∧ version' = version
    | .status version code reason, .status version' code' reason' =>
        version' = version ∧ code' = code ∧ (reason ≠ [] → reason' = reason)
    | _, _ => False
  fields : m'.fields = m.fields
  body : m'.body = m.body
  trailers : m'.trailers = m.trailers

/-- Bytes are read as the same messages. -/
def Preserved (kind : Kind) (ms : List WireMessage) (out : Bytes) : Prop :=
  ∃ ms', readAll kind out = some ms' ∧ List.Forall₂ SameMessage ms ms'

/-- A response that has no body by its status and is marked as chunked all the same. -/
def Stray (m : WireMessage) : Prop := m.start.bodiless = true ∧ isChunked m.fields = true

/-! ## Start lines -/

/-- A change of start lines that keeps what is read from them. -/
structure Rewrites (f : StartLine → StartLine) : Prop where
  kind : ∀ start, (f start).kind = start.kind
  printable : ∀ start, start.Printable → (f start).Printable
  framing : ∀ start fields, HttpWire.framing (f start) fields = HttpWire.framing start fields

/-- The start line that the server's end writes. -/
def serverStart : StartLine → StartLine
  | .request method target version => .request method (toOriginForm target) version
  | start => start

/-- The start line that the client's end writes. -/
def clientStart : StartLine → StartLine
  | .status version code reason =>
      .status version code (if reason.isEmpty then Message.defaultReasonPhrase code else reason)
  | start => start

theorem mem_to_origin_form {target : Bytes} {c : UInt8} (h : c ∈ toOriginForm target) :
    c ∈ target ∨ c = 0x2F := by
  unfold toOriginForm at h
  split at h
  · have hslash : text "/" = [0x2F] := by decide
    rw [hslash] at h
    exact .inr (List.mem_singleton.mp h)
  · split at h
    · exact .inl h
    · dsimp only at h
      split at h
      · exact .inl h
      · next pos _ =>
          split at h
          · have hslash : text "/" = [0x2F] := by decide
            rw [hslash] at h
            exact .inr (List.mem_singleton.mp h)
          · next before path hsplit =>
              rcases List.mem_cons.mp h with rfl | h
              · exact .inr rfl
              · refine .inl (List.mem_of_mem_drop (i := pos) ?_)
                rw [(splitAtFirst_eq_some hsplit).1]
                exact List.mem_append_right _ (List.mem_cons_of_mem _ h)

theorem to_origin_form_ne_nil (target : Bytes) : toOriginForm target ≠ [] := by
  have hslash : text "/" ≠ [] := by decide
  unfold toOriginForm
  split
  · exact hslash
  · split
    · exact List.cons_ne_nil _ _
    · dsimp only
      split
      · exact List.cons_ne_nil _ _
      · split
        · exact hslash
        · exact List.cons_ne_nil _ _

theorem default_reason_line (code : Nat) : OneLine (Message.defaultReasonPhrase code) := by
  unfold Message.defaultReasonPhrase
  split <;> decide

theorem rewrites_server : Rewrites serverStart where
  kind start := by cases start <;> rfl
  framing start fields := by cases start <;> rfl
  printable start h := by
    cases start with
    | status version code reason => exact h
    | request method target version =>
        obtain ⟨hmethod, hline, hspace, _, ⟨hcr, hlf⟩, htarget⟩ := h
        refine ⟨hmethod, hline, hspace, to_origin_form_ne_nil target, ⟨?_, ?_⟩, ?_⟩
        · exact fun hmem => (mem_to_origin_form hmem).elim hcr (by decide)
        · exact fun hmem => (mem_to_origin_form hmem).elim hlf (by decide)
        · exact fun hmem => (mem_to_origin_form hmem).elim htarget (by decide)

theorem rewrites_client : Rewrites clientStart where
  kind start := by cases start <;> rfl
  framing start fields := by cases start <;> rfl
  printable start h := by
    cases start with
    | request method target version => exact h
    | status version code reason =>
        refine ⟨h.1, h.2.1, ?_⟩
        cases hempty : reason.isEmpty with
        | true => simpa using default_reason_line code
        | false => simpa using h.2.2

/-! ## Reading what is written -/

/-- The bytes are the head of a message, with its start line changed, and carry its body. -/
def Relayed (f : StartLine → StartLine) (m : WireMessage) (out : Bytes) : Prop :=
  ∃ content, out = head (f m.start) m.fields ++ content ∧
    Relay.Carries (isChunked m.fields) m.ended m.body content

/-- What is read of a message that was written: its trailer is lost. -/
def received (f : StartLine → StartLine) (m : WireMessage) : WireMessage :=
  { m with start := f m.start, trailers := [] }

theorem framing_bodiless {start : StartLine} (h : start.bodiless = true) (fields : List Field) :
    framing start fields = some .empty := by
  unfold framing
  rw [if_pos h]

theorem framing_chunked {start : StartLine} (h : start.bodiless = false) {fields : List Field}
    (hchunked : isChunked fields = true) : framing start fields = some .chunked := by
  unfold framing
  rw [if_neg (by simp [h]), if_pos hchunked]

/-- The framing is by chunks only if the fields tell so. -/
theorem isChunked_of_framing {start : StartLine} {fields : List Field}
    (h : framing start fields = some .chunked) : isChunked fields = true := by
  cases hchunked : isChunked fields with
  | true => rfl
  | false =>
      unfold framing at h
      rw [hchunked] at h
      split at h
      · cases h
      · rw [if_neg Bool.false_ne_true] at h
        split at h
        · cases start <;> cases h
        · split at h
          · cases start <;> cases h
          · split at h <;> cases h

theorem received_printable {f : StartLine → StartLine} (hf : Rewrites f) {m : WireMessage}
    (h : m.Printable) : (received f m).Printable := by
  obtain ⟨g, hg, hframed⟩ := h.framed
  refine ⟨hf.printable _ h.start, h.fields, by simp [received], g, ?_, ?_⟩
  · exact (hf.framing _ _).trans hg
  · cases g with
    | empty | length _ => exact ⟨hframed.1, rfl, hframed.2.2⟩
    | chunked => exact hframed
    | untilClose => exact ⟨rfl, hframed.2⟩

/-- What is written for a message is what is printed for what is read of it, and what is stray. -/
theorem relayed_eq {f : StartLine → StartLine} {m : WireMessage} (h : m.Printable) {out : Bytes}
    (hout : Relayed f m out) {g : Framing} (hg : framing m.start m.fields = some g) :
    ∃ pieces : List Bytes, (∀ p ∈ pieces, p ≠ []) ∧ pieces.flatten = m.body ∧
      ((¬ Stray m → out = head (f m.start) m.fields ++ body g pieces []) ∧
      (Stray m → out = head (f m.start) m.fields ++ (body g pieces [] ++ Relay.lastChunk))) := by
  obtain ⟨content, rfl, pieces, hpieces, hflat, rfl⟩ := hout
  obtain ⟨g', hg', hframed⟩ := h.framed
  rw [hg] at hg'
  cases hg'
  refine ⟨pieces, hpieces, hflat, ?_⟩
  cases hchunked : isChunked m.fields with
  | false =>
      -- the body as it is
      have hbody : body g pieces [] = m.body := by
        cases g with
        | chunked => rw [isChunked_of_framing hg] at hchunked; cases hchunked
        | empty | length _ | untilClose => exact hflat
      refine ⟨fun _ => by rw [hbody]; rfl, fun hstray => ?_⟩
      rw [hstray.2] at hchunked
      cases hchunked
  | true =>
      cases hbodiless : m.start.bodiless with
      | false =>
          rw [framing_chunked hbodiless hchunked] at hg
          cases hg
          have hended : m.ended = true := hframed
          refine ⟨fun _ => ?_, fun hstray => ?_⟩
          · have hlast : Relay.lastChunk = HttpWire.lastChunk ++ fieldLines [] := by decide
            have hchunk : Relay.chunk = HttpWire.chunk := rfl
            simp [body, hended, hlast, hchunk]
          · rw [hstray.1] at hbodiless
            cases hbodiless
      | true =>
          -- there is no body, and so no piece of it
          rw [framing_bodiless hbodiless] at hg
          cases hg
          obtain ⟨hempty, _, hended⟩ := hframed
          have hnil : pieces = [] := by
            cases pieces with
            | nil => rfl
            | cons p pieces =>
                rw [hempty] at hflat
                exact absurd (List.append_eq_nil_iff.mp hflat).1 (hpieces p List.mem_cons_self)
          subst hnil
          refine ⟨fun hstray => absurd ⟨hbodiless, hchunked⟩ hstray, fun _ => ?_⟩
          simp [body, hended]

/-- Nothing is read where a body in chunks ends. -/
theorem readMessages_stray (kind : Kind) (messages : Nat) (rest : Bytes) :
    readMessages kind messages (Relay.lastChunk ++ rest) = none := by
  cases messages with
  | zero => rfl
  | succ messages =>
      have hstart : readStart kind [0x30] = none := by cases kind <;> rfl
      have hread : readMessage kind (Relay.lastChunk ++ rest) = none := by
        have hline : readLine (Relay.lastChunk ++ rest) = some ([0x30], 0x0D :: 0x0A :: rest) := rfl
        simp [readMessage, readHead, hline, hstart]
      have hsplit : Relay.lastChunk ++ rest =
          0x30 :: ([0x0D, 0x0A, 0x0D, 0x0A] ++ rest) := rfl
      rw [hsplit] at hread ⊢
      rw [readMessages, hread]
      · rfl
      · exact List.cons_ne_nil _ _

theorem head_ne_nil (start : StartLine) (fields : List Field) : head start fields ≠ [] := by
  simp [head, fieldLines, crlf]

/-- What is written for messages is read as what is received of them, unless one is stray. -/
theorem read_relayed {kind : Kind} {f : StartLine → StartLine} (hf : Rewrites f)
    {ms : List (WireMessage × HeadersInfo)} (hsequence : Sequence kind ms)
    (hprintable : ∀ x ∈ ms, x.1.Printable) {outs : List Bytes}
    (houts : List.Forall₂ (fun (x : WireMessage × HeadersInfo) out => Relayed f x.1 out) ms outs)
    {messages : Nat} (hlength : outs.flatten.length ≤ messages) :
    ((∀ x ∈ ms, ¬ Stray x.1) →
      readMessages kind messages outs.flatten = some (ms.map fun x => received f x.1)) ∧
    ((∃ x ∈ ms, Stray x.1) → readMessages kind messages outs.flatten = none) := by
  induction hsequence generalizing outs messages with
  | nil =>
      cases houts
      refine ⟨fun _ => ?_, fun ⟨x, hx, _⟩ => by cases hx⟩
      cases messages <;> rfl
  | @cons m info ms hkind hinfo hended hsequence ih =>
      cases houts with
      | @cons _ out _ outs hout hrest =>
          have hm : m.Printable := hprintable _ List.mem_cons_self
          obtain ⟨g, hg, -⟩ := hm.framed
          obtain ⟨pieces, hpieces, hflat, hplain, hstray⟩ := relayed_eq hm hout hg
          have hg' : framing (received f m).start (received f m).fields = some g :=
            (hf.framing _ _).trans hg
          have hread : ∀ rest : Bytes, (m.ended = false → rest = []) →
              readMessage kind (head (f m.start) m.fields ++ (body g pieces [] ++ rest)) =
                some (received f m, rest) := by
            intro rest hrest
            have hmessage := readMessage_printed (received_printable hf hm) hg' hpieces
              hflat hrest
            rw [← hkind, ← hf.kind m.start]
            exact hmessage
          have hnil : m.ended = false → outs = [] := by
            intro hm
            have hms := hended hm
            subst hms
            cases hrest
            rfl
          have hpos : 0 < out.length := by
            obtain ⟨content, rfl, -⟩ := hout
            exact List.length_pos_of_ne_nil (by simp [head_ne_nil])
          rw [List.flatten_cons, List.length_append] at hlength
          cases messages with
          | zero => omega
          | succ messages =>
              have hshorter : outs.flatten.length ≤ messages := by omega
              obtain ⟨hgood, hbad⟩ :=
                ih (fun x hx => hprintable x (List.mem_cons_of_mem _ hx)) hrest hshorter
              rw [List.flatten_cons]
              by_cases hms : Stray m
              · refine ⟨fun hall => absurd hms (hall _ List.mem_cons_self), fun _ => ?_⟩
                have hended' : m.ended = true := by
                  rw [framing_bodiless hms.1] at hg
                  cases hg
                  obtain ⟨g', hg', hframed⟩ := hm.framed
                  rw [framing_bodiless hms.1] at hg'
                  cases hg'
                  exact hframed.2.2
                rw [hstray hms, List.append_assoc, List.append_assoc,
                  readMessages_cons (by simp [head_ne_nil])
                    (hread (Relay.lastChunk ++ outs.flatten) fun h => by
                      rw [hended'] at h; cases h),
                  readMessages_stray]
                rfl
              · have hone : readMessages kind (messages + 1) (out ++ outs.flatten) =
                    (readMessages kind messages outs.flatten).map (received f m :: ·) := by
                  rw [hplain hms, List.append_assoc]
                  exact readMessages_cons (by simp [head_ne_nil])
                    (hread outs.flatten fun h => by rw [hnil h]; rfl) messages
                rw [hone]
                refine ⟨fun hall => ?_, fun ⟨x, hx, hxstray⟩ => ?_⟩
                · rw [hgood fun x hx => hall x (List.mem_cons_of_mem _ hx)]
                  rfl
                · rcases List.mem_cons.mp hx with rfl | hx
                  · exact absurd hxstray hms
                  · rw [hbad ⟨x, hx, hxstray⟩]
                    rfl

/-! ## What is written -/

/-- The head that is written of a message with the fields of a head. -/
theorem serialize_head {msg : Message} {fields : List Field}
    (h : msg.headers = fields.map headerOf) :
    msg.serializeHeadersOnly false none = msg.startLine ++ fieldLines fields := by
  have hlines : (msg.headers.map Message.headerLine).flatten =
      fields.flatMap fun f => f.line ++ crlf := by
    rw [h, List.map_map, List.flatMap_def]
    rfl
  have hcrlf : Message.crlf = crlf := rfl
  simp [Message.serializeHeadersOnly, hlines, hcrlf, fieldLines]

theorem version_bytes (version : Version) (n : Nat)
    (h : n = match version with | .http10 => 0 | .http11 => 1) :
    (if 1 * 10 + n = 10 then text "HTTP/1.0" else text "HTTP/1.1") = version.bytes := by
  cases version <;> subst h <;> rfl

section

variable {L : Llhttp} {m : WireMessage} {info : HeadersInfo} {d : Relay.Told}

/-- The head that the server's end writes. -/
theorem server_head (hkind : m.start.kind = .request) (hprintable : m.Printable)
    (hinfo : Describes m info) (h : Relay.Tells .request m info d) :
    ((HttpSession.relay L).rewrite d.message).serializeHeadersOnly false none =
      head (serverStart m.start) m.fields := by
  have hheaders : ((HttpSession.relay L).rewrite d.message).headers = m.fields.map headerOf :=
    h.headers
  rw [serialize_head hheaders, head]
  congr 1
  cases hstart : m.start with
  | status version code reason => rw [hstart] at hkind; cases hkind
  | request method target version =>
      obtain ⟨hmethod, htarget⟩ := h.request rfl
      have hdescribes := hinfo.start
      rw [hstart] at hdescribes
      obtain ⟨hname, hmajor, hminor⟩ := hdescribes
      have hne : method ≠ [] := by
        have hline := hprintable.start
        rw [hstart] at hline
        exact hline.1
      have hv : (if d.message.version = 10 then text "HTTP/1.0" else text "HTTP/1.1") =
          version.bytes := by
        rw [h.version, hmajor]
        exact version_bytes version _ hminor
      have htype : d.message.type = .request := h.type
      simp only [HttpSession.relay, Message.startLine, htype, hv, hmethod, hname,
        htarget _ _ _ hstart, List.isEmpty_iff, hne, to_origin_form_ne_nil, if_false, serverStart,
        StartLine.line]
      rfl

/-- The head that the client's end writes. -/
theorem client_head (hkind : m.start.kind = .response) (hinfo : Describes m info)
    (h : Relay.Tells .response m info d) :
    ((Socks5Session.responseRelay L).rewrite d.message).serializeHeadersOnly false none =
      head (clientStart m.start) m.fields := by
  have hrewrite : (Socks5Session.responseRelay L).rewrite d.message = d.message := rfl
  rw [hrewrite, serialize_head h.headers, head]
  congr 1
  cases hstart : m.start with
  | request method target version => rw [hstart] at hkind; cases hkind
  | status version code reason =>
      obtain ⟨hcode, hreason⟩ := h.response rfl
      have hdescribes := hinfo.start
      rw [hstart] at hdescribes
      obtain ⟨hname, hmajor, hminor⟩ := hdescribes
      have hv : (if d.message.version = 10 then text "HTTP/1.0" else text "HTTP/1.1") =
          version.bytes := by
        rw [h.version, hmajor]
        exact version_bytes version _ hminor
      have htype : d.message.type = .response := h.type
      simp only [Message.startLine, htype, hv, hcode, hname, hreason _ _ _ hstart, clientStart,
        StartLine.line]
      rfl

/-- What a faithful end writes for a message is its head and carries its body. -/
theorem relayed_of_faithful {r : Relay L} {f : StartLine → StartLine} {side : HttpType}
    {w : Relay.Written} (htells : Relay.Tells side m info d) (hinfo : Describes m info)
    (hhead : (r.rewrite d.message).serializeHeadersOnly false none = head (f m.start) m.fields)
    (hw : Relay.Faithful d w) : Relayed f m (r.bytes w) := by
  refine ⟨w.content, ?_, ?_⟩
  · rw [Relay.bytes, hw.message, hhead]
  · have hcontent := hw.content
    rwa [htells.chunked, hinfo.chunked, htells.body, htells.complete] at hcontent

end

/-- What is read of messages is the same messages if and only if none has a trailer and none is
stray. -/
theorem preserved_iff {kind : Kind} {f : StartLine → StartLine} (hf : Rewrites f)
    (hsame : ∀ m : WireMessage, m.start.kind = kind → m.trailers = [] →
      SameMessage m (received f m))
    {ms : List (WireMessage × HeadersInfo)} (hstream : Stream kind ms) {outs : List Bytes}
    (houts : List.Forall₂ (fun (x : WireMessage × HeadersInfo) out => Relayed f x.1 out) ms outs) :
    Preserved kind (ms.map Prod.fst) outs.flatten ↔
      ∀ m ∈ ms.map Prod.fst, m.trailers = [] ∧ ¬ Stray m := by
  obtain ⟨hgood, hbad⟩ := read_relayed hf hstream.sequence hstream.printable houts (Nat.le_refl _)
  have hkinds := hstream.sequence.kinds
  constructor
  · rintro ⟨ms', hread, hall⟩
    have hnone : ∀ x ∈ ms, ¬ Stray x.1 := by
      intro x hx hstray
      rw [readAll, hbad ⟨x, hx, hstray⟩] at hread
      cases hread
    rw [readAll, hgood hnone] at hread
    cases hread
    intro m hm
    obtain ⟨x, hx, rfl⟩ := List.mem_map.mp hm
    refine ⟨?_, hnone x hx⟩
    rw [List.forall₂_map_left_iff, List.forall₂_map_right_iff, List.forall₂_same] at hall
    exact (hall x hx).trailers.symm
  · intro hall
    refine ⟨_, hgood fun x hx => (hall _ (List.mem_map_of_mem hx)).2, ?_⟩
    rw [List.forall₂_map_left_iff, List.forall₂_map_right_iff, List.forall₂_same]
    exact fun x hx => hsame _ (hkinds x hx) (hall _ (List.mem_map_of_mem hx)).1

/-- What an end sends for the parts of messages is written for each of them. -/
theorem sends_stream {L : Llhttp} {r : Relay L} (hr : r.Lawful) {f : StartLine → StartLine}
    {kind : Kind} {side : HttpType}
    {ms : List (WireMessage × HeadersInfo)} (hsequence : Sequence kind ms)
    (hhead : ∀ {m info d}, (m, info) ∈ ms → m.start.kind = kind → Describes m info →
      Relay.Tells side m info d →
      (r.rewrite d.message).serializeHeadersOnly false none = head (f m.start) m.fields)
    {events : List LlhttpEvent} (hseg : Segments (streamTokens ms) events) :
    ∃ outs : List Bytes, (r.sends (.make L side) events).flatten = outs.flatten ∧
      List.Forall₂ (fun (x : WireMessage × HeadersInfo) out => Relayed f x.1 out) ms outs := by
  have horder := in_order_stream hsequence
  have hfaithful := r.written_faithful hr horder hseg (.make L side)
  have htold := r.told_stream hsequence (.make L side)
  refine ⟨(r.written (.make L side) events).map r.bytes, ?_, ?_⟩
  · rw [r.sends_of_stream hr horder hseg, List.flatMap_def]
  · have hside : (HttpParser.make L side).type = side := rfl
    rw [hside] at htold
    clear horder hseg
    generalize r.written (.make L side) events = ws at hfaithful ⊢
    generalize r.told (.make L side) (streamTokens ms) = ds at hfaithful htold
    induction hsequence generalizing ds ws with
    | nil =>
        cases htold
        cases hfaithful
        exact .nil
    | cons hkind hinfo _ _ ih =>
        cases htold with
        | cons htells htold =>
            cases hfaithful with
            | cons hw hfaithful =>
                exact .cons (relayed_of_faithful htells hinfo
                  (hhead List.mem_cons_self hkind hinfo htells) hw)
                  (ih (fun hx => hhead (List.mem_cons_of_mem _ hx)) _ _ hfaithful htold)

section

variable {L : Llhttp} {sessionId : UInt32} {genStreamId : Nat → UInt32} {readBuf : Nat → UInt8}

/-- What the ends write for messages is read as the same messages if and only if none of them has
a trailer and none is a response that has no body by its status and is marked as chunked. -/
theorem http_relay_preserves_iff :
    (∀ {ms events es s out}, Stream .request ms →
      (httpSession L).run (.ok {}) es = some (.ok s, out) →
      Reported L .request (RelayEnd.feeds HttpSession.payload es) (streamTokens ms) events →
      (Preserved .request (ms.map Prod.fst) (out.filterMap HttpSession.sent).flatten ↔
        ∀ m ∈ ms.map Prod.fst, m.trailers = [] ∧ ¬ Stray m)) ∧
    (∀ {ms events es s out}, Stream .response ms →
      (socks5Session L).run (.ok (.started L sessionId genStreamId readBuf)) es =
        some (.ok s, out) →
      Reported L .response (RelayEnd.feeds Socks5Session.responsePayload es) (streamTokens ms)
        events →
      (Preserved .response (ms.map Prod.fst)
          ((Socks5Session.started L sessionId genStreamId readBuf).responsesOf es).flatten ↔
        ∀ m ∈ ms.map Prod.fst, m.trailers = [] ∧ ¬ Stray m)) := by
  constructor
  · intro ms events es s out hstream hrun h
    have hsame : ∀ m : WireMessage, m.start.kind = .request → m.trailers = [] →
        SameMessage m (received serverStart m) := by
      intro m hkind hnone
      refine ⟨?_, rfl, rfl, hnone.symm⟩
      cases hstart : m.start with
      | status _ _ _ => rw [hstart] at hkind; cases hkind
      | request _ _ _ => simp [received, hstart, serverStart]
    obtain ⟨outs, hflat, houts⟩ := sends_stream HttpSession.lawful_relay hstream.sequence
      (fun hx hkind hinfo htells => server_head hkind (hstream.printable _ hx) hinfo htells)
      h.segments
    rw [HttpSession.run_reported hrun h, hflat]
    exact preserved_iff rewrites_server hsame hstream houts
  · intro ms events es s out hstream hrun h
    have hsame : ∀ m : WireMessage, m.start.kind = .response → m.trailers = [] →
        SameMessage m (received clientStart m) := by
      intro m hkind hnone
      refine ⟨?_, rfl, rfl, hnone.symm⟩
      cases hstart : m.start with
      | request _ _ _ => rw [hstart] at hkind; cases hkind
      | status version code reason => simp +contextual [received, hstart, clientStart]
    obtain ⟨outs, hflat, houts⟩ := sends_stream Socks5Session.lawful_response_relay
      hstream.sequence (fun _ hkind hinfo htells => client_head hkind hinfo htells) h.segments
    rw [Socks5Session.run_reported rfl hrun h, hflat]
    exact preserved_iff rewrites_client hsame hstream houts

end

/-- The request of the examples of segmentation. -/
def postMessage : WireMessage where
  start := .request (text "POST") (text "http://a/b") .http11
  fields := [⟨text "Transfer-Encoding", text "chunked"⟩]
  body := text "abc"
  trailers := []
  ended := true

/-- The response of the examples of segmentation. -/
def okMessage : WireMessage where
  start := .status .http11 200 (text "OK")
  fields := [⟨text "Transfer-Encoding", text "chunked"⟩]
  body := text "abc"
  trailers := []
  ended := true

/-- A request and a response with bodies in chunks, each read in three pieces. -/
theorem http_relay_preserves_chunks :
    (∃ out, (∃ s, (httpSession cutParser).run (.ok {}) (postPieces.map .revP2pData) =
        some (.ok s, out)) ∧
      Preserved .request [postMessage] (out.filterMap HttpSession.sent).flatten) ∧
    Preserved .response [okMessage]
      ((Socks5Session.started cutParser 1 (fun _ => 5) fun _ => 0).responsesOf
        (okArrives okPieces)).flatten := by
  have hpost : Stream .request [(postMessage, plainInfo "POST" 0 true)] :=
    ⟨.cons rfl ⟨⟨rfl, rfl, rfl⟩, by decide⟩ (by decide) .nil, fun x hx => by
      rw [List.mem_singleton.mp hx]
      exact ⟨by decide, by decide, by decide, .chunked, by decide, rfl⟩⟩
  have hok : Stream .response [(okMessage, plainInfo "" 200 true)] :=
    ⟨.cons rfl ⟨⟨rfl, rfl, rfl⟩, by decide⟩ (by decide) .nil, fun x hx => by
      rw [List.mem_singleton.mp hx]
      exact ⟨by decide, by decide, by decide, .chunked, by decide, rfl⟩⟩
  have hpostcut : Segments (streamTokens [(postMessage, plainInfo "POST" 0 true)]) postCut :=
    .cons .messageBegin <| .cons (.url [text "http:", text "//a/b"]) <|
    .cons (@Cut.headerField [text "Transfer-Encoding"] (by simp)) <|
    .cons (@Cut.headerValue [text "chunked"] (by simp)) <| .cons (.headersComplete _) <|
    .cons (@Cut.body [text "ab", text "c"] (by decide)) <| .cons .messageComplete .nil
  have hokcut : Segments (streamTokens [(okMessage, plainInfo "" 200 true)]) okCut :=
    .cons .messageBegin <| .cons (.status [text "OK"]) <|
    .cons (@Cut.headerField [text "Transfer-", text "Encoding"] (by simp)) <|
    .cons (@Cut.headerValue [text "chunked"] (by simp)) <| .cons (.headersComplete _) <|
    .cons (@Cut.body [text "a", text "bc"] (by decide)) <| .cons .messageComplete .nil
  have hfine : ∀ m : WireMessage, m.start.bodiless = false → m.trailers = [] →
      ∀ m' ∈ [m], m'.trailers = [] ∧ ¬ Stray m' := by
    intro m hbodiless htrailers m' hm'
    rw [List.mem_singleton.mp hm']
    refine ⟨htrailers, fun hstray => ?_⟩
    rw [hstray.1] at hbodiless
    cases hbodiless
  obtain ⟨s, out, hrun⟩ : ∃ s out, (httpSession cutParser).run (.ok {})
      (postPieces.map .revP2pData) = some (.ok s, out) := ⟨_, _, rfl⟩
  obtain ⟨t, new, hrun'⟩ : ∃ s out, (socks5Session cutParser).run
      (.ok (.started cutParser 1 (fun _ => 5) fun _ => 0)) (okArrives okPieces) =
        some (.ok s, out) := ⟨_, _, rfl⟩
  have hboth := @http_relay_preserves_iff cutParser 1 (fun _ => 5) (fun _ => 0)
  exact ⟨⟨out, ⟨s, hrun⟩, (hboth.1 hpost hrun ⟨⟨(), rfl⟩, hpostcut⟩).mpr (hfine _ rfl rfl)⟩,
    (hboth.2 hok hrun' ⟨⟨(), rfl⟩, hokcut⟩).mpr (hfine _ rfl rfl)⟩

/-- A request with a body in chunks and a trailer. -/
def trailerPost : WireMessage := { postMessage with trailers := [⟨text "Sum", text "1"⟩] }

/-- A response that has no body by its status and is marked as chunked. -/
def strayResponse : WireMessage where
  start := .status .http11 204 (text "No Content")
  fields := [⟨text "Transfer-Encoding", text "chunked"⟩]
  body := []
  trailers := []
  ended := true

/-- The two on the wire. -/
def trailerPostBytes : Bytes :=
  text "POST http://a/b HTTP/1.1\r\nTransfer-Encoding: chunked\r\n\r\n3\r\nabc\r\n0\r\nSum: 1\r\n\r\n"

def strayBytes : Bytes := text "HTTP/1.1 204 No Content\r\nTransfer-Encoding: chunked\r\n\r\n"

/-- What llhttp reports of them. -/
def trailerPostEvents : List LlhttpEvent :=
  [.messageBegin, .url (text "http://a/b"), .headerField (text "Transfer-Encoding"),
    .headerValue (text "chunked"), .headersComplete (plainInfo "POST" 0 true), .body (text "abc"),
    .headerField (text "Sum"), .headerValue (text "1"), .messageComplete]

def strayEvents : List LlhttpEvent :=
  [.messageBegin, .status (text "No Content"), .headerField (text "Transfer-Encoding"),
    .headerValue (text "chunked"), .headersComplete (plainInfo "" 204 true), .messageComplete]

def strayParser : Llhttp :=
  .scripted [
    (browserGet, [.messageBegin, .url (text "http://a/"), .headerField (text "Host"),
      .headerValue (text "a"), .headersComplete (plainInfo "GET" 0 false), .messageComplete], .ok),
    (trailerPostBytes, trailerPostEvents, .ok), (strayBytes, strayEvents, .ok)]

/-- A request whose trailer is lost, and a response behind which a last chunk is written. -/
theorem trailers_are_lost :
    (Stream .request [(trailerPost, plainInfo "POST" 0 true)] ∧
      Reported strayParser .request [trailerPostBytes]
        (streamTokens [(trailerPost, plainInfo "POST" 0 true)]) trailerPostEvents ∧
      ∃ out, (∃ s, (httpSession strayParser).run (.ok {}) [.revP2pData trailerPostBytes] =
          some (.ok s, out)) ∧
        ¬ Preserved .request [trailerPost] (out.filterMap HttpSession.sent).flatten) ∧
    Stream .response [(strayResponse, plainInfo "" 204 true)] ∧
      Reported strayParser .response [strayBytes]
        (streamTokens [(strayResponse, plainInfo "" 204 true)]) strayEvents ∧
      ¬ Preserved .response [strayResponse]
        ((Socks5Session.started strayParser 1 (fun _ => 5) fun _ => 0).responsesOf
          (okArrives [strayBytes])).flatten := by
  have hpost : Segments (streamTokens [(trailerPost, plainInfo "POST" 0 true)])
      trailerPostEvents :=
    .cons .messageBegin <| .cons (.url [text "http://a/b"]) <|
    .cons (@Cut.headerField [text "Transfer-Encoding"] (by simp)) <|
    .cons (@Cut.headerValue [text "chunked"] (by simp)) <| .cons (.headersComplete _) <|
    .cons (@Cut.body [text "abc"] (by decide)) <|
    .cons (@Cut.headerField [text "Sum"] (by simp)) <|
    .cons (@Cut.headerValue [text "1"] (by simp)) <| .cons .messageComplete .nil
  have hstray : Segments (streamTokens [(strayResponse, plainInfo "" 204 true)]) strayEvents :=
    .cons .messageBegin <| .cons (.status [text "No Content"]) <|
    .cons (@Cut.headerField [text "Transfer-Encoding"] (by simp)) <|
    .cons (@Cut.headerValue [text "chunked"] (by simp)) <| .cons (.headersComplete _) <|
    .cons (@Cut.body [] (by simp)) <| .cons .messageComplete .nil
  have hpost' : Stream .request [(trailerPost, plainInfo "POST" 0 true)] :=
    ⟨.cons rfl ⟨⟨rfl, rfl, rfl⟩, by decide⟩ (by decide) .nil, fun x hx => by
      rw [List.mem_singleton.mp hx]
      exact ⟨by decide, by decide, by decide, .chunked, by decide, rfl⟩⟩
  have hstray' : Stream .response [(strayResponse, plainInfo "" 204 true)] :=
    ⟨.cons rfl ⟨⟨rfl, rfl, rfl⟩, by decide⟩ (by decide) .nil, fun x hx => by
      rw [List.mem_singleton.mp hx]
      exact ⟨by decide, by decide, by decide, .empty, by decide, rfl, rfl, rfl⟩⟩
  refine ⟨⟨hpost', ⟨⟨(), rfl⟩, hpost⟩,
      [.targetSend (text "POST /b HTTP/1.1\r\nTransfer-Encoding: chunked\r\n\r\n"),
        .targetSend (text "3\r\nabc\r\n"), .targetSend (text "0\r\n\r\n")], ⟨_, rfl⟩, ?_⟩,
    hstray', ⟨⟨(), rfl⟩, hstray⟩, ?_⟩
  · -- the message is read without its trailer
    rintro ⟨ms', hread, hall⟩
    have hlost : readAll .request ([
        .targetSend (text "POST /b HTTP/1.1\r\nTransfer-Encoding: chunked\r\n\r\n"),
        .targetSend (text "3\r\nabc\r\n"), .targetSend (text "0\r\n\r\n")].filterMap
          HttpSession.sent).flatten = some [received serverStart trailerPost] := by decide +kernel
    rw [hlost] at hread
    cases hread
    cases hall with
    | cons hsame _ => exact absurd hsame.trailers (by decide)
  · -- what follows the response is not read
    rintro ⟨ms', hread, -⟩
    have hnone : readAll .response ((Socks5Session.started strayParser 1 (fun _ => 5)
        fun _ => 0).responsesOf (okArrives [strayBytes])).flatten = none := by decide +kernel
    rw [hnone] at hread
    cases hread

end RtcVpn
