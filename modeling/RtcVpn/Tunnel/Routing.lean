import RtcVpn.Client.Authority
import RtcVpn.Client.Upstream
import RtcVpn.Http.Messages
import RtcVpn.Tunnel.Heads

/-!
# Where the requests of a connection go

A session opens a stream for a request while it parses what it reads, and stops
to parse once it has. From then on every read goes to the stream it has opened
last, whatever the requests in it name. The requests of a connection are routed
to their own targets if all of them name the same one.
-/

namespace RtcVpn

open HttpWire

namespace Socks5Session

open Effect HttpParser

variable {L : Llhttp}

/-! ## What is sent -/

/-- Reads, each with the number of bytes that were read before it. -/
def placed : Nat → List Bytes → List (Nat × Bytes)
  | _, [] => []
  | n, data :: reads => (n, data) :: placed (n + data.length) reads

theorem placed_snoc (n : Nat) (reads : List Bytes) (data : Bytes) :
    placed n (reads ++ [data]) = placed n reads ++ [(n + reads.flatten.length, data)] := by
  induction reads generalizing n with
  | nil => rfl
  | cons first reads ih =>
      rw [List.cons_append, placed, ih, placed, List.flatten_cons, List.length_append,
        Nat.add_assoc, List.cons_append]

/-- The payloads sent, each with its stream. -/
def payloads (out : List ClientAction) : List (UInt32 × Bytes) :=
  out.filterMap fun a => match a with
    | .sendData id data _ => some (id, data)
    | _ => none

theorem payloads_append (out new : List ClientAction) :
    payloads (out ++ new) = payloads out ++ payloads new :=
  List.filterMap_append

theorem payloads_no_data {out : List ClientAction} (h : ∀ a ∈ out, NoData a) :
    payloads out = [] := by
  refine List.filterMap_eq_nil_iff.mpr fun a ha => ?_
  have hnone := h a ha
  cases a with
  | sendData id data protocol => exact hnone.elim
  | _ => rfl

theorem payloads_map (id : UInt32) (protocol : Protocol) (bufs : List Bytes) :
    payloads (bufs.map fun buf => .sendData id buf protocol) = bufs.map fun buf => (id, buf) := by
  induction bufs with
  | nil => rfl
  | cons buf bufs ih => exact congrArg (_ :: ·) ih

/-- What has been sent and what is kept has been read, each at a place of its own. -/
def Accounted (reads sent kept : List Bytes) : Prop :=
  ∃ froms rest : List (Nat × Bytes), (froms ++ rest).Subperm (placed 0 reads) ∧
    froms.map Prod.snd = sent ∧ rest.map Prod.snd = kept

namespace Accounted

variable {reads sent kept : List Bytes}

/-- A read that is dropped. -/
theorem drop (h : Accounted reads sent kept) (data : Bytes) :
    Accounted (reads ++ [data]) sent kept := by
  obtain ⟨froms, rest, hsub, hsent, hkept⟩ := h
  refine ⟨froms, rest, hsub.trans ?_, hsent, hkept⟩
  rw [placed_snoc]
  exact (List.sublist_append_left _ _).subperm

/-- A read that is kept. -/
theorem keep (h : Accounted reads sent kept) (data : Bytes) :
    Accounted (reads ++ [data]) sent (kept ++ [data]) := by
  obtain ⟨froms, rest, hsub, hsent, rfl⟩ := h
  refine ⟨froms, rest ++ [(0 + reads.flatten.length, data)], ?_, hsent, by simp⟩
  rw [placed_snoc, ← List.append_assoc]
  exact (List.subperm_append_right _).mpr hsub

/-- A read that is sent. -/
theorem send (h : Accounted reads sent kept) (data : Bytes) :
    Accounted (reads ++ [data]) (sent ++ [data]) kept := by
  obtain ⟨froms, rest, hsub, rfl, hkept⟩ := h
  refine ⟨froms ++ [(0 + reads.flatten.length, data)], rest, ?_, by simp, hkept⟩
  have hlast : ((froms ++ [(0 + reads.flatten.length, data)]) ++ rest).Perm
      ((froms ++ rest) ++ [(0 + reads.flatten.length, data)]) := by
    rw [List.append_assoc, List.append_assoc]
    exact List.perm_append_comm.append_left froms
  rw [placed_snoc]
  exact hlast.subperm.trans ((List.subperm_append_right _).mpr hsub)

/-- What has been kept is sent. -/
theorem flush (h : Accounted reads sent kept) : Accounted reads (sent ++ kept) [] := by
  obtain ⟨froms, rest, hsub, rfl, rfl⟩ := h
  exact ⟨froms ++ rest, [], by rwa [List.append_nil], List.map_append, rfl⟩

end Accounted

/-! ## Runs -/

/-- A session of plain HTTP: what it may still parse, what its streams are for, and where what it
has read has gone. -/
structure Route (es : List ClientEvent) (out : List ClientAction) (s : Socks5Session L) :
    Prop where
  phase : s.phase = .waitGreetingVersion ∨ s.phase = .waitHttpRequestHeaders ∨
    s.phase = .connecting ∨ s.phase = .connected ∨ s.phase = .closed
  fresh : s.phase = .waitGreetingVersion → readsOf es = []
  heard : s.phase = .waitGreetingVersion ∨ s.phase = .waitHttpRequestHeaders →
    s.reading = true → ∃ events, Heard (readsOf es) events s.httpRequestParser
  syns : SynsFor (headsOf L (readsOf es)) out
  accounted : Accounted (readsOf es) ((payloads out).map Prod.snd) s.pendingBuf

theorem heads_of_front (L : Llhttp) (reads more : List Bytes) :
    headsOf L reads ⊆ headsOf L (reads ++ more) := by
  obtain ⟨rest, hrest⟩ := Llhttp.hears_prefix (L.init .request) reads more
  rw [headsOf, headsOf, ← hrest, Relay.messages_append]
  exact List.subset_append_left _ _

/-- A step that reads nothing, opens no stream, sends no data and parses nothing. -/
theorem Route.frame {es : List ClientEvent} {out new : List ClientAction}
    {s t : Socks5Session L} {e : ClientEvent} (h : Route es out s)
    (hreads : readsOf (es ++ [e]) = readsOf es)
    (hphase : t.phase = s.phase ∨ t.phase = .connected ∨ t.phase = .closed)
    (hparser : s.phase = .waitGreetingVersion ∨ s.phase = .waitHttpRequestHeaders →
      t.httpRequestParser = s.httpRequestParser)
    (hpending : t.pendingBuf = s.pendingBuf) (hreading : t.reading = s.reading)
    (hsyns : new.filterMap ClientAction.synId = []) (hnew : ∀ a ∈ new, NoData a) :
    Route (es ++ [e]) (out ++ new) t where
  phase := by
    rcases hphase with hphase | hphase | hphase
    · rw [hphase]
      exact h.phase
    · simp [hphase]
    · simp [hphase]
  fresh hfresh := by
    rw [hreads]
    rcases hphase with hphase | hphase | hphase
    · exact h.fresh (hphase.symm.trans hfresh)
    · rw [hphase] at hfresh
      cases hfresh
    · rw [hphase] at hfresh
      cases hfresh
  heard hearly hread := by
    rw [hreads]
    rw [hreading] at hread
    rcases hphase with hphase | hphase | hphase
    · rw [hphase] at hearly
      rw [hparser hearly]
      exact h.heard hearly hread
    · rw [hphase] at hearly
      rcases hearly with hearly | hearly <;> cases hearly
    · rw [hphase] at hearly
      rcases hearly with hearly | hearly <;> cases hearly
  syns := by
    rw [hreads]
    exact h.syns.append (.of_none hsyns)
  accounted := by
    rw [hreads, hpending, payloads_append, payloads_no_data hnew, List.append_nil]
    exact h.accounted

/-- A read is parsed, dropped or forwarded. -/
theorem route_read {es : List ClientEvent} {out new : List ClientAction} {s t : Socks5Session L}
    {data : Bytes} (horderly : Orderly s) (h : Route es out s)
    (hfirst : (readsOf (es ++ [.browserData data])).flatten.head? ≠ some 0x05)
    (henabled : enabled s (.browserData data) = true)
    (hrun : (handle (.browserData data)).run s = ⟨t, new, .ok ()⟩) :
    Route (es ++ [.browserData data]) (out ++ new) t := by
  have hdata := length_pos_of_enabled henabled
  have hreads : readsOf (es ++ [.browserData data]) = readsOf es ++ [data] := reads_of_snoc es _
  have hbefore : SynsFor (headsOf L (readsOf es ++ [data])) out :=
    h.syns.mono (heads_of_front L _ _)
  have hnosyns : s.phase = .connecting ∨ s.phase = .connected ∨ s.phase = .closed →
      new.filterMap ClientAction.synId = [] := by
    intro hover
    have hnone := read_over hover data
    rw [hrun] at hnone
    exact List.filterMap_eq_nil_iff.mpr fun a ha => (hnone a ha).1
  -- a read once the handshake is over changes the receive buffer only
  have hover : ∀ (hphase : s.phase = .connecting ∨ s.phase = .connected ∨ s.phase = .closed)
      (_ : t = { received data s with reading := true })
      (_ : Accounted (readsOf es ++ [data]) ((payloads (out ++ new)).map Prod.snd) s.pendingBuf),
      Route (es ++ [.browserData data]) (out ++ new) t := by
    rintro hphase rfl haccounted
    have hlate : ¬ (s.phase = .waitGreetingVersion ∨ s.phase = .waitHttpRequestHeaders) := by
      rcases hphase with hphase | hphase | hphase <;> simp [hphase]
    refine ⟨.inr (.inr hphase), fun hfresh => absurd (.inl hfresh) hlate,
      fun hearly => absurd hearly hlate, ?_, ?_⟩
    · rw [hreads]
      exact hbefore.append (.of_none (hnosyns hphase))
    · rw [hreads]
      exact haccounted
  rcases read_cases horderly hdata hrun with
    ⟨hphase, ht, rfl⟩ | ⟨hphase, ht, hnew⟩ | ⟨hconnected, hconnecting, hclosed, -⟩
  · -- the tunnel is there
    refine hover (.inr (.inl hphase)) ht ?_
    have hsome : s.session.isSome = true := by simpa [Orderly, hphase] using horderly
    obtain ⟨id, hid⟩ := Option.isSome_iff_exists.mp hsome
    rw [payloads_append]
    cases hprotocol : s.protocol with
    | socks5Connect | httpPlain | httpsConnect =>
        have hone : payloads (forwarded s data) = [(id, data)] := by
          simp [forwarded, hprotocol, hid, payloads]
        rw [hone, List.map_append]
        exact h.accounted.send data
    | unknown | udpAssociate | other =>
        have hnone : payloads (forwarded s data) = [] := by
          simp [forwarded, hprotocol, payloads]
        rw [hnone, List.append_nil]
        exact h.accounted.drop data
  · refine hover (hphase.imp_right .inr) ht ?_
    rw [payloads_append, payloads_no_data hnew, List.append_nil]
    exact h.accounted.drop data
  · -- the read is parsed
    have hearly : s.phase = .waitGreetingVersion ∨ s.phase = .waitHttpRequestHeaders := by
      rcases h.phase with hphase | hphase | hphase | hphase | hphase
      · exact .inl hphase
      · exact .inr hphase
      · exact absurd hphase hconnecting
      · exact absurd hphase hconnected
      · exact absurd hphase hclosed
    have hfeeds : Feeds s data := by
      rcases hearly with hphase | hphase
      · rw [hreads, h.fresh hphase] at hfirst
        exact .inr ⟨hphase, by simpa using hfirst⟩
      · exact .inl hphase
    have hreading : s.reading = true := by
      simp only [enabled, Bool.and_eq_true] at henabled
      exact henabled.1.1
    obtain ⟨events, hevents⟩ := h.heard hearly hreading
    have hparsed := parsed_of_feeds (horderly.session_none hconnected hconnecting hclosed) hdata
      hfeeds hevents hrun
    have hphase : t.phase ≠ .waitGreetingVersion := by
      rcases hparsed.phase with hphase | hphase <;> simp [hphase]
    refine ⟨?_, fun hfresh => absurd hfresh hphase, fun _ hread => ?_, ?_, ?_⟩
    · exact .inr (hparsed.phase.imp_right .inl)
    · rw [hreads]
      exact hparsed.heard hread
    · rw [hreads]
      exact hbefore.append hparsed.syns
    · rw [hreads, payloads_append, payloads_no_data hparsed.noData, List.append_nil]
      rcases hparsed.pendingBuf with hpending | hpending
      · rw [hpending]
        exact h.accounted.drop data
      · rw [hpending]
        exact h.accounted.keep data

/-- A step of a session that stays alive. -/
theorem route_step {es : List ClientEvent} {out new : List ClientAction} {s t : Socks5Session L}
    {e : ClientEvent} (horderly : Orderly s) (h : Route es out s)
    (hfirst : (readsOf (es ++ [e])).flatten.head? ≠ some 0x05)
    (hstep : (socks5Session L).step (.ok s) e = some (.ok t, new)) :
    Route (es ++ [e]) (out ++ new) t := by
  obtain ⟨s', hs', henabled, hrun⟩ := machine_step_alive hstep
  cases hs'
  by_cases hread : ∃ data, e = .browserData data
  · obtain ⟨data, rfl⟩ := hread
    exact route_read horderly h hfirst henabled hrun
  have hsettled := settled_handle (L := L) (fun data he => hread ⟨data, he⟩) s
  rw [hrun] at hsettled
  have hphase := hsettled.phase
  have hsyns : new.filterMap ClientAction.synId = [] := hsettled.syns
  cases e with
  | browserData data => exact absurd ⟨data, rfl⟩ hread
  | browserClosed =>
      obtain ⟨out', hclosed, hnew⟩ := run_browser_closed s
      rw [hrun] at hclosed
      cases hclosed
      exact h.frame (reads_of_snoc es _) hphase (fun _ => rfl) rfl rfl hsyns hnew
  | browserQueue status =>
      cases hsession : s.session with
      | none =>
          rw [run_browser_queue_none hsession] at hrun
          cases hrun
      | some id =>
          rw [run_browser_queue hsession] at hrun
          cases hrun
          exact h.frame (reads_of_snoc es _) hphase (fun _ => rfl) rfl rfl hsyns (by simp [NoData])
  | data payload protocol =>
      have hdata := respects_data (I := fun t : Socks5Session L =>
        t.httpRequestParser = s.httpRequestParser ∧ t.pendingBuf = s.pendingBuf ∧
        t.reading = s.reading) (A := NoData) (fun s p hs => hs) (fun _ => trivial) trivial
        (fun _ => trivial) payload protocol s ⟨rfl, rfl, rfl⟩
      rw [hrun] at hdata
      obtain ⟨⟨hparser, hpending, hreading⟩, hnew⟩ := hdata
      exact h.frame (reads_of_snoc es _) hphase (fun _ => hparser) hpending hreading hsyns hnew
  | fin protocol =>
      rw [run_fin] at hrun
      cases hrun
      refine h.frame (reads_of_snoc es _) hphase (fun _ => rfl) rfl rfl hsyns ?_
      split <;> simp [NoData]
  | stop =>
      rw [run_stop] at hrun
      cases hrun
      refine h.frame (reads_of_snoc es _) hphase (fun _ => rfl) rfl rfl hsyns ?_
      split <;> simp [NoData]
  | synack ok protocol relay =>
      obtain ⟨id, hid⟩ := Option.isSome_iff_exists.mp henabled
      obtain ⟨⟨-, -, hreading⟩, hcases⟩ := synack_cases hid hrun
      have hlate : s.phase = .waitGreetingVersion ∨ s.phase = .waitHttpRequestHeaders →
          t.httpRequestParser = s.httpRequestParser := by
        intro hearly
        have hnone : s.session = none := by
          rcases hearly with hearly | hearly <;> simpa [Orderly, hearly] using horderly
        rw [hid] at hnone
        cases hnone
      rcases hcases with ⟨-, -, hpending, hnew⟩ | ⟨-, -, hconnected, hpending, rfl⟩ |
        ⟨-, -, -, hpending, hnew⟩
      · exact h.frame (reads_of_snoc es _) hphase hlate hpending hreading hsyns hnew
      · -- what has been kept is sent
        have hreads : readsOf (es ++ [.synack ok protocol relay]) = readsOf es := reads_of_snoc es _
        refine ⟨by simp [hconnected], fun hfresh => ?_, fun hearly => ?_, ?_, ?_⟩
        · rw [hconnected] at hfresh
          cases hfresh
        · rw [hconnected] at hearly
          rcases hearly with hearly | hearly <;> cases hearly
        · rw [hreads]
          exact h.syns.append (.of_none hsyns)
        · rw [hreads, hpending, payloads_append, payloads_map, List.map_append, List.map_map]
          have hsame : s.pendingBuf.map (Prod.snd ∘ fun buf => (id, buf)) = s.pendingBuf :=
            List.map_id _
          rw [hsame]
          exact h.accounted.flush
      · exact h.frame (reads_of_snoc es _) hphase hlate hpending hreading hsyns hnew

/-- A run of a session whose browser does not begin as SOCKS5 does. -/
theorem route_run {sessionId : UInt32} {genStreamId : Nat → UInt32} {readBuf : Nat → UInt8}
    {es : List ClientEvent} {out : List ClientAction} {t : Socks5Session L}
    (hrun : (socks5Session L).run (.ok (started L sessionId genStreamId readBuf)) es =
      some (.ok t, out))
    (hfirst : (readsOf es).flatten.head? ≠ some 0x05) : Route es out t := by
  refine Machine.run_induction (P := fun es out x => ∀ s, x = .ok s →
    (readsOf es).flatten.head? ≠ some 0x05 → Route es out s) ?_ ?_ hrun t rfl hfirst
  · rintro _ ⟨⟩ -
    refine ⟨.inl rfl, fun _ => rfl, fun _ _ => ⟨[], heard_make⟩, .of_none rfl, [], [], ?_, rfl, rfl⟩
    exact List.nil_subperm
  · intro es out x e y new hes ih hstep u hu hlast
    subst hu
    obtain ⟨s, rfl, -, -⟩ := machine_step_alive hstep
    refine route_step (orderly_run (orderly_started _ _ _) hes).1 (ih s rfl fun hhead => hlast ?_)
      hlast hstep
    -- the first byte stays the first
    have hreads : readsOf (es ++ [e]) = readsOf es ++ readsOf [e] := List.filterMap_append
    rw [hreads, List.flatten_append, List.head?_append, hhead]
    rfl

end Socks5Session

/-! ## Requests -/

/-- A request of a browser: its message, what llhttp tells of its head, and its bytes. -/
structure SentRequest where
  message : WireMessage
  info : HeadersInfo
  wire : Bytes

namespace SentRequest

open Socks5Session

/-- A request of plain HTTP: it is read from its bytes whatever follows them, and its method is not
`CONNECT` and is made of visible characters. -/
structure Plain (x : SentRequest) : Prop where
  method : ∀ method target version, x.message.start = .request method target version →
    method ≠ text "CONNECT" ∧ ∀ c ∈ method, 0x20 < c
  describes : Describes x.message x.info
  read : ∀ rest, readMessage .request (x.wire ++ rest) = some (x.message, rest)

/-- The value of the `Host` field; empty if there is none. -/
def host (x : SentRequest) : Bytes := (valuesOf (text "host") x.message.fields).head?.getD []

/-- A host and a port are those that the `Host` field designates. -/
def Names (x : SentRequest) (host : Bytes) (port : UInt16) : Prop :=
  ∃ n, Designates x.host host n ∧ port = UInt16.ofNat n

/-- A read holds bytes of a request: the two overlap on the connection. -/
def HeldBy (xs : List SentRequest) (place : Nat × Bytes) (x : SentRequest) : Prop :=
  ∃ before after, xs = before ++ x :: after ∧
    place.1 < (before.flatMap wire).length + x.wire.length ∧
    (before.flatMap wire).length < place.1 + place.2.length

/-- Whatever target the callback for headers takes from the host of a request, it fits a `SYN`
frame and all requests name it. -/
def OneTarget (xs : List SentRequest) : Prop :=
  ∀ x ∈ xs, ∀ host port, targetOf x.host = some (host, port) → host ≠ [] →
    host.length ≤ 255 ∧ ∀ y ∈ xs, y.Names host port

/-- The events that llhttp reports of some reads are of requests among these, up to the last of
which it has read. -/
def ReportedBy (L : Llhttp) (xs : List SentRequest) (reads : List Bytes) : Prop :=
  ∃ ms more, ms.Sublist (xs.map fun x => (x.message, x.info)) ∧
    Segments (streamTokens ms) (L.hears (L.init .request) reads ++ more)

/-- A stream has been opened for the host and the port of a request, as the server is told. -/
def OpenedFor (out : List ClientAction) (id : UInt32) (x : SentRequest) : Prop :=
  ∃ host port, .sendSyn id host port .httpPlain ∈ out ∧ SynArrives id host port .httpPlain ∧
    x.Names host port

/-- The bytes of each request are forwarded only on a stream that has been opened for its host and
port: what is sent are reads, each sent once at most, and a read that holds bytes of a request is
sent on such a stream. -/
def Routed (xs : List SentRequest) (reads : List Bytes) (out : List ClientAction) : Prop :=
  ∃ places : List (Nat × Bytes), places.Subperm (placed 0 reads) ∧
    List.Forall₂ (fun sent place => sent.2 = place.2 ∧
      ∀ x, HeldBy xs place x → OpenedFor out sent.1 x) (payloads out) places

/-- Each element of the first list is related to one of the second. -/
theorem exists_of_forall₂ {α β : Type} {R : α → β → Prop} {as : List α} {bs : List β}
    (h : List.Forall₂ R as bs) {a : α} (ha : a ∈ as) : ∃ b ∈ bs, R a b := by
  induction h with
  | nil => cases ha
  | cons hab _ ih =>
      rcases List.mem_cons.mp ha with rfl | ha
      · exact ⟨_, List.mem_cons_self, hab⟩
      · obtain ⟨b, hb, hr⟩ := ih ha
        exact ⟨b, List.mem_cons_of_mem _ hb, hr⟩

/-- No request begins as SOCKS5 does. -/
theorem Plain.first {x : SentRequest} (h : x.Plain) (rest : Bytes) :
    ∃ c tail, x.wire ++ rest = c :: tail ∧ c ≠ 0x05 := by
  obtain ⟨-, method, target, version, behind, hstart, hne, heq⟩ := readMessage_request (h.read rest)
  obtain ⟨c, letters, rfl⟩ := List.exists_cons_of_ne_nil hne
  refine ⟨c, letters ++ behind, heq, ?_⟩
  rintro rfl
  exact absurd ((h.method _ _ _ hstart).2 0x05 List.mem_cons_self) (by decide)

/-- What the callback for headers takes for the authority of a request is its host. -/
theorem authority_eq_host {x : SentRequest} {msg : Message} (hplain : x.Plain)
    (hheaders : msg.headers = x.message.fields.map headerOf)
    (hmethod : msg.method = x.info.methodName) :
    authorityOf msg = x.host ∧ protocolOf msg = .httpPlain := by
  obtain ⟨-, method, target, version, -, hstart, -⟩ := readMessage_request (hplain.read [])
  have hname := hplain.describes.start
  rw [hstart] at hname
  have hconnect : msg.method ≠ text "CONNECT" := by
    rw [hmethod, hname.1]
    exact (hplain.method _ _ _ hstart).1
  refine ⟨?_, if_neg hconnect⟩
  rw [authorityOf, if_neg hconnect, Message.getHeader, hheaders, host, valuesOf, List.head?_map,
    List.head?_filter, List.find?_map]
  have hsame : ((fun h : Header => Message.iequals h.name (text "Host")) ∘ headerOf) =
      fun f : Field => f.name.map toLower == text "host" := by
    funext f
    show (f.name.map toLower == (text "Host").map toLower) = _
    have hlower : (text "Host").map toLower = text "host" := by decide
    rw [hlower]
  rw [hsame]
  cases x.message.fields.find? fun f => f.name.map toLower == text "host" <;> rfl

/-- The messages of requests come one behind the other. -/
theorem sequence_of_plain {xs : List SentRequest} (h : ∀ x ∈ xs, x.Plain)
    {ms : List (WireMessage × HeadersInfo)}
    (hsub : ms.Sublist (xs.map fun x => (x.message, x.info))) : Sequence .request ms := by
  have hall : ∀ m ∈ ms, ∃ x ∈ xs, (x.message, x.info) = m := fun m hm =>
    List.mem_map.mp (hsub.subset hm)
  clear hsub
  induction ms with
  | nil => exact .nil
  | cons m ms ih =>
      obtain ⟨x, hx, rfl⟩ := hall _ List.mem_cons_self
      obtain ⟨hended, method, target, version, -, hstart, -⟩ :=
        readMessage_request ((h x hx).read [])
      refine .cons ?_ (h x hx).describes (fun hopen => ?_)
        (ih fun m hm => hall m (List.mem_cons_of_mem _ hm))
      · rw [hstart]
        rfl
      · rw [hended] at hopen
        cases hopen

/-- A head that llhttp reports is that of a request. -/
theorem head_of_request {L : Llhttp} {xs : List SentRequest} (hplain : ∀ x ∈ xs, x.Plain)
    {reads : List Bytes} (hreported : ReportedBy L xs reads) {msg : Message}
    (hmsg : msg ∈ headsOf L reads) :
    ∃ x ∈ xs, authorityOf msg = x.host ∧ protocolOf msg = .httpPlain := by
  obtain ⟨ms, more, hsub, hseg⟩ := hreported
  have hsequence := sequence_of_plain hplain hsub
  have hfaithful := (responseRelay L).written_faithful lawful_response_relay
    (in_order_stream hsequence) hseg (.make L .request)
  have htold := (responseRelay L).told_stream hsequence (.make L .request)
  have hwritten : msg ∈ ((responseRelay L).written (.make L .request)
      (L.hears (L.init .request) reads ++ more)).map Relay.Written.message := by
    rw [Relay.written_message, Relay.messages_append]
    exact List.mem_append_left _ hmsg
  obtain ⟨w, hw, rfl⟩ := List.mem_map.mp hwritten
  obtain ⟨d, hd, hsame⟩ := exists_of_forall₂ hfaithful.flip hw
  obtain ⟨m, hm, htells⟩ := exists_of_forall₂ htold.flip hd
  obtain ⟨x, hx, rfl⟩ := List.mem_map.mp (hsub.subset hm)
  refine ⟨x, hx, authority_eq_host (hplain x hx) ?_ ?_⟩
  · rw [hsame.message]
    exact htells.headers
  · rw [hsame.message]
    exact (htells.request rfl).1

/-- A stream that is sent on has been opened for the target of a request. -/
theorem opened_for_request {L : Llhttp} {sessionId : UInt32} {genStreamId : Nat → UInt32}
    {readBuf : Nat → UInt8} {xs : List SentRequest} (hplain : ∀ x ∈ xs, x.Plain)
    {es : List ClientEvent} {t : Socks5Session L} {out : List ClientAction}
    (hrun : (socks5Session L).run (.ok (started L sessionId genStreamId readBuf)) es =
      some (.ok t, out))
    (hsyns : SynsFor (headsOf L (readsOf es)) out) (hreported : ReportedBy L xs (readsOf es))
    {id : UInt32} {data : Bytes} {protocol : Protocol} (hsent : .sendData id data protocol ∈ out) :
    ∃ x ∈ xs, ∃ host port, .sendSyn id host port .httpPlain ∈ out ∧
      targetOf x.host = some (host, port) ∧ host ≠ [] := by
  have htally : Tally (started L sessionId genStreamId readBuf) out t :=
    (Effect.Leaves.of_run hrun).relates composes_tally tally_handle
  obtain hnone | ⟨k, hk, hlt, hid⟩ := htally.frames _ hsent id rfl
  · cases hnone
  have hmem : id ∈ out.filterMap ClientAction.synId := by
    rw [htally.syns, hid]
    refine List.mem_map_of_mem (List.mem_range'_1.mpr ⟨hk, ?_⟩)
    omega
  obtain ⟨a, ha, hsyn⟩ := List.mem_filterMap.mp hmem
  cases a with
  | sendSyn i host port p =>
      obtain rfl : i = id := Option.some.inj hsyn
      obtain ⟨msg, hmsg, htarget, hhost, hprotocol⟩ := hsyns i host port p ha
      obtain ⟨x, hx, hauthority, hplain⟩ := head_of_request hplain hreported hmsg
      rw [hprotocol, hplain] at ha
      rw [hauthority] at htarget
      exact ⟨x, hx, host, port, ha, htarget, hhost⟩
  | _ => cases hsyn

end SentRequest

open SentRequest Socks5Session

/-- In every run of a session whose browser sends requests of plain HTTP all of which name the
target that the callback for headers takes from any of them, each is routed to its own. -/
theorem plain_requests_routed {L : Llhttp} {sessionId : UInt32} {genStreamId : Nat → UInt32}
    {readBuf : Nat → UInt8} {xs : List SentRequest} {es : List ClientEvent}
    {t : Socks5Session L} {out : List ClientAction} (hplain : ∀ x ∈ xs, x.Plain)
    (hrun : (socks5Session L).run (.ok (started L sessionId genStreamId readBuf)) es =
      some (.ok t, out))
    (hreads : (readsOf es).flatten <+: xs.flatMap SentRequest.wire)
    (hreported : ReportedBy L xs (readsOf es)) (hone : OneTarget xs) :
    Routed xs (readsOf es) out := by
  have hfirst : (readsOf es).flatten.head? ≠ some 0x05 := by
    intro hhead
    obtain ⟨rest, hrest⟩ := hreads
    cases xs with
    | nil =>
        rw [List.flatMap_nil, List.append_eq_nil_iff] at hrest
        rw [hrest.1] at hhead
        cases hhead
    | cons x xs =>
        obtain ⟨c, tail, hwire, hc⟩ :=
          (hplain x List.mem_cons_self).first (xs.flatMap SentRequest.wire)
        have hall : ((readsOf es).flatten ++ rest).head? = some c := by
          rw [hrest, List.flatMap_cons, hwire]
          rfl
        rw [List.head?_append, hhead] at hall
        exact hc (Option.some.inj hall).symm
  have hroute := route_run hrun hfirst
  obtain ⟨places, kept, hsub, hplaces, -⟩ := hroute.accounted
  refine ⟨places, (List.sublist_append_left places kept).subperm.trans hsub, ?_⟩
  have hsame : List.Forall₂ (fun (sent : UInt32 × Bytes) (place : Nat × Bytes) =>
      sent.2 = place.2) (payloads out) places := by
    rw [← List.forall₂_map_left_iff (f := Prod.snd) (R := fun data (place : Nat × Bytes) =>
      data = place.2), ← hplaces, List.forall₂_map_left_iff, List.forall₂_same]
    exact fun _ _ => rfl
  -- every stream that is sent on was opened for the one target
  have hopened : ∀ sent ∈ payloads out, ∀ y ∈ xs, OpenedFor out sent.1 y := by
    intro sent hsent y hy
    obtain ⟨a, ha, hpayload⟩ := List.mem_filterMap.mp hsent
    cases a with
    | sendData id data protocol =>
        obtain rfl : (id, data) = sent := Option.some.inj hpayload
        obtain ⟨x, hx, host, port, hsyn, htarget, hhost⟩ :=
          opened_for_request hplain hrun hroute.syns hreported ha
        obtain ⟨hlong, hnamed⟩ := hone x hx host port htarget hhost
        exact ⟨host, port, hsyn, syn_arrives_iff.mpr hlong, hnamed y hy⟩
    | _ => cases hpayload
  refine ((List.forall₂_and_left _ _).mpr ⟨hopened, hsame⟩).imp ?_
  rintro sent place ⟨hnamed, hdata⟩
  refine ⟨hdata, fun x hheld => ?_⟩
  obtain ⟨before, after, rfl, -, -⟩ := hheld
  exact hnamed x (by simp)

/-- A request for the start page of a host. -/
def getPage (host : String) : SentRequest where
  message := {
    start := .request (text "GET") (text "/") .http11
    fields := [⟨text "Host", text host⟩]
    body := []
    trailers := []
    ended := true }
  info := plainInfo "GET" 0 false
  wire := text "GET / HTTP/1.1\r\nHost: " ++ text host ++ text "\r\n\r\n"

/-- What llhttp reports of it. -/
def getPageEvents (host : String) : List LlhttpEvent :=
  [.messageBegin, .url (text "/"), .headerField (text "Host"), .headerValue (text host),
    .headersComplete (plainInfo "GET" 0 false), .messageComplete]

/-- Llhttp on requests to two hosts. -/
def pagesParser : Llhttp :=
  .scripted [((getPage "a").wire, getPageEvents "a", .ok),
      ((getPage "b").wire, getPageEvents "b", .ok)]

/-- A browser that sends a request, is answered, and sends another one. -/
def twoPages (second : String) : List ClientEvent :=
  [.browserData (getPage "a").wire, .synack true .httpPlain none,
    .browserData (getPage second).wire]

theorem plain_get_page {host : String} (hprintable : (getPage host).message.Printable)
    (hframing : framing (getPage host).message.start (getPage host).message.fields = some .empty)
    (hwire : (getPage host).wire =
      head (getPage host).message.start (getPage host).message.fields) : (getPage host).Plain where
  method method target version h := by
    cases h
    refine ⟨by decide, fun c hc => ?_⟩
    have hall : (text "GET").all (fun c => decide (0x20 < c)) = true := rfl
    exact of_decide_eq_true (List.all_eq_true.mp hall c hc)
  describes := ⟨⟨rfl, rfl, rfl⟩, rfl⟩
  read rest := by
    have hpieces : ∀ p ∈ ([] : List Bytes), p ≠ [] := by simp
    have hended : (getPage host).message.ended = false → rest = [] := nofun
    rw [hwire]
    exact readMessage_printed hprintable hframing hpieces rfl hended

theorem segments_pages (hosts : List String) :
    Segments (streamTokens (hosts.map fun host => ((getPage host).message, (getPage host).info)))
      (hosts.flatMap getPageEvents) := by
  induction hosts with
  | nil => exact .nil
  | cons host hosts ih =>
      have hbody : ∀ s ∈ ([] : List Bytes), s ≠ [] := by simp
      have hurl : Cut (.url (text "/")) [.url (text "/")] := .url [text "/"]
      have hfield : Cut (.headerField (text "Host")) [.headerField (text "Host")] :=
        @Cut.headerField [text "Host"] (by simp)
      have hvalue : Cut (.headerValue (text host)) [.headerValue (text host)] := by
        have hcut := @Cut.headerValue [text host] (by simp)
        simpa using hcut
      have hall := Segments.cons .messageBegin <| .cons hurl <| .cons hfield <| .cons hvalue <|
        .cons (.headersComplete (getPage host).info) <| .cons (.body hbody) <|
        .cons .messageComplete ih
      exact hall

/-- Two requests to one host. -/
theorem plain_requests_routed_one_host :
    ∃ t out, (socks5Session pagesParser).run (.ok (started pagesParser 1 (fun _ => 5) fun _ => 0))
        (twoPages "a") = some (.ok t, out) ∧
      Routed [getPage "a", getPage "a"] (readsOf (twoPages "a")) out := by
  obtain ⟨t, out, hrun⟩ : ∃ t out, (socks5Session pagesParser).run
      (.ok (started pagesParser 1 (fun _ => 5) fun _ => 0)) (twoPages "a") = some (.ok t, out) :=
    ⟨_, _, rfl⟩
  have hpage : (getPage "a").Plain := plain_get_page
    ⟨by decide, by decide, by decide, .empty, by decide, rfl, rfl, rfl⟩ (by decide) (by decide)
  have hplain : ∀ x ∈ [getPage "a", getPage "a"], x.Plain := by
    intro x hx
    obtain rfl : x = getPage "a" := by simpa using hx
    exact hpage
  have hreported : ReportedBy pagesParser [getPage "a", getPage "a"] (readsOf (twoPages "a")) :=
    ⟨_, [], List.Sublist.refl _, segments_pages ["a", "a"]⟩
  have hone : OneTarget [getPage "a", getPage "a"] := by
    intro x hx host port htarget _
    obtain rfl : x = getPage "a" := by simpa using hx
    have hname : HostName (text "a") := ⟨by decide, List.all_eq_true.mp rfl⟩
    have htaken : targetOf (getPage "a").host = some (text "a", 80) := by decide
    rw [htaken] at htarget
    cases htarget
    refine ⟨by decide, fun y hy => ?_⟩
    obtain rfl : y = getPage "a" := by simpa using hy
    exact ⟨80, ⟨.inl hname, .inl ⟨by decide, rfl⟩⟩, rfl⟩
  have hreads : (readsOf (twoPages "a")).flatten <+:
      [getPage "a", getPage "a"].flatMap SentRequest.wire := List.prefix_refl _
  exact ⟨t, out, hrun, plain_requests_routed hplain hrun hreads hreported hone⟩

/-- Two requests to different hosts: the second one is sent to the host of the first. -/
theorem second_request_misrouted :
    (∀ x ∈ [getPage "a", getPage "b"], x.Plain) ∧
    ReportedBy pagesParser [getPage "a", getPage "b"] (readsOf (twoPages "b")) ∧
    (readsOf (twoPages "b")).flatten = [getPage "a", getPage "b"].flatMap SentRequest.wire ∧
    ∃ t out, (socks5Session pagesParser).run (.ok (started pagesParser 1 (fun _ => 5) fun _ => 0))
        (twoPages "b") = some (.ok t, out) ∧
      ¬ Routed [getPage "a", getPage "b"] (readsOf (twoPages "b")) out := by
  refine ⟨?_, ⟨_, [], List.Sublist.refl _, segments_pages ["a", "b"]⟩, rfl, _,
    [.createSession 5, .sendSyn 5 (text "a") 80 .httpPlain,
      .sendData 5 (getPage "a").wire .httpPlain, .sendData 5 (getPage "b").wire .httpPlain],
    rfl, ?_⟩
  · intro x hx
    rcases List.mem_cons.mp hx with rfl | hx
    · exact plain_get_page
        ⟨by decide, by decide, by decide, .empty, by decide, rfl, rfl, rfl⟩ (by decide) (by decide)
    · rw [List.mem_singleton.mp hx]
      exact plain_get_page
        ⟨by decide, by decide, by decide, .empty, by decide, rfl, rfl, rfl⟩ (by decide) (by decide)
  · rintro ⟨places, hsub, hall⟩
    cases hall with
    | @cons _ first _ places hfirst hall =>
        cases hall with
        | @cons _ second _ places hsecond hall =>
            cases hall
            obtain ⟨hdata, hopened⟩ := hsecond
            have hplace : second ∈ placed 0 (readsOf (twoPages "b")) := hsub.subset (by simp)
            have hbehind : second = ((getPage "a").wire.length, (getPage "b").wire) := by
              rcases List.mem_cons.mp hplace with rfl | hplace
              · exact absurd hdata (by decide)
              · exact List.mem_singleton.mp hplace
            have hheld : HeldBy [getPage "a", getPage "b"] second (getPage "b") := by
              rw [hbehind]
              exact ⟨[getPage "a"], [], rfl, by decide, by decide⟩
            -- the only stream is that of the first host
            obtain ⟨host, port, hsyn, -, n, ⟨-, hnamed⟩, -⟩ := hopened _ hheld
            have hhost : host = text "a" := by
              simp at hsyn
              exact hsyn.1
            have hb : (getPage "b").host = text "b" := by decide
            rw [hb, hhost] at hnamed
            rcases hnamed with ⟨heq, -⟩ | ⟨digits, heq, -⟩
            · exact absurd heq (by decide)
            · exact absurd (List.cons.inj heq).1 (by decide)

end RtcVpn
