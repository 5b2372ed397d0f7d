import RtcVpn.Client.Phases
import RtcVpn.Client.TunnelBytes

/-!
# The upstream of a client session

What a session sends into its tunnel, over a whole run. Until a `SYNACK` says
that the tunnel is there nothing is sent; from then on every read is. What has
been read in between is lost, except what was read before the `SYN` of a plain
HTTP tunnel, which `pending_buf_` keeps. `Intact` is the condition under which
nothing is read in between, and under it the payloads sent are the tunnel bytes.
-/

namespace RtcVpn

namespace Socks5Session

open Effect

variable {L : Llhttp}

/-- The browser's bytes processed in a run, by reads. -/
def readsOf (es : List ClientEvent) : List Bytes :=
  es.filterMap fun e => match e with
    | .browserData data => some data
    | _ => none

/-- A `SYNACK` has said that the tunnel is there. -/
def Established (es : List ClientEvent) : Prop :=
  ∃ protocol relay, ClientEvent.synack true protocol relay ∈ es

/-- The payloads sent on a stream. -/
def sentOn (id : UInt32) (out : List ClientAction) : List Bytes :=
  out.filterMap fun a => match a with
    | .sendData i data _ => if i = id then some data else none
    | _ => none

/-- No byte of the tunnel is read while the answer to the `SYN` is awaited, nor after a refusal:
for plain HTTP nothing is read then at all, and no earlier read has ended in an exception; in the
other tunnels what has been read when the answer comes ends with the handshake. The answer is to a
`SYN` for the protocol that the session has, which one is not if a read has opened streams for
several protocols. -/
def Intact (es : List ClientEvent) (s : Socks5Session L) : ClientEvent → Prop
  | .browserData _ =>
      (s.phase = .connecting ∨ s.phase = .closed) → s.session.isSome = true →
        s.protocol ≠ .httpPlain ∧ ¬ Established es
  | .synack true protocol _ =>
      protocol = s.protocol ∧
        (¬ Established es → if s.protocol = .httpPlain then s.reading = true
          else tunnelBytes L s.protocol (readsOf es) = some [])
  | _ => True

/-- `Intact` at a step of a session whose tunnel carries a stream of bytes. -/
def IntactStep (es : List ClientEvent) (_ : List ClientAction)
    (x : Except ClientFault (Socks5Session L)) (e : ClientEvent) : Prop :=
  ∀ s, x = .ok s → Tunnelled s.protocol → Intact es s e

/-! ## Histories -/

@[simp] theorem reads_of_snoc (es : List ClientEvent) (e : ClientEvent) :
    readsOf (es ++ [e]) = match e with
      | .browserData data => readsOf es ++ [data]
      | _ => readsOf es := by
  cases e <;> simp [readsOf]

theorem established_snoc {es : List ClientEvent} {e : ClientEvent} :
    Established (es ++ [e]) ↔
      Established es ∨ ∃ protocol relay, e = .synack true protocol relay := by
  constructor
  · intro ⟨protocol, relay, hmem⟩
    rcases List.mem_append.mp hmem with h | h
    · exact .inl ⟨protocol, relay, h⟩
    · exact .inr ⟨protocol, relay, (List.mem_singleton.mp h).symm⟩
  · intro h
    rcases h with ⟨protocol, relay, h⟩ | ⟨protocol, relay, rfl⟩
    · exact ⟨protocol, relay, List.mem_append_left _ h⟩
    · exact ⟨protocol, relay, by simp⟩

@[simp] theorem sent_on_append (id : UInt32) (out new : List ClientAction) :
    sentOn id (out ++ new) = sentOn id out ++ sentOn id new := by
  simp [sentOn]

/-- Actions that send no data send none on any stream. -/
theorem sent_on_no_data {out : List ClientAction} (h : ∀ a ∈ out, NoData a) (id : UInt32) :
    sentOn id out = [] := by
  refine List.filterMap_eq_nil_iff.mpr fun a ha => ?_
  have hnone := h a ha
  cases a with
  | sendData i data protocol => exact hnone.elim
  | _ => rfl

/-- The frames of a list of buffers. -/
theorem sent_on_map (id : UInt32) (protocol : Protocol) (bufs : List Bytes) :
    sentOn id (bufs.map fun buf => .sendData id buf protocol) = bufs := by
  induction bufs with
  | nil => rfl
  | cons buf bufs ih => simp [sentOn]

/-! ## What a `SYNACK` does -/

/-- A `SYNACK` sets the phase; a successful one for plain HTTP sends what has been kept, and no
other sends data. -/
theorem synack_cases {s t : Socks5Session L} {id : UInt32} {ok : Bool} {protocol : Protocol}
    {relay : Option (AddressV4 × UInt16)} {new : List ClientAction}
    (hsession : s.session = some id)
    (hrun : (handle (.synack ok protocol relay)).run s = ⟨t, new, .ok ()⟩) :
    (t.session = s.session ∧ t.protocol = s.protocol ∧ t.reading = s.reading) ∧
    ((ok = false ∧ t.phase = .closed ∧ t.pendingBuf = s.pendingBuf ∧ ∀ a ∈ new, NoData a) ∨
      (ok = true ∧ protocol = .httpPlain ∧ t.phase = .connected ∧ t.pendingBuf = [] ∧
        new = s.pendingBuf.map fun buf => .sendData id buf s.protocol) ∨
      (ok = true ∧ protocol ≠ .httpPlain ∧
        (t.phase = .connected ∨ (t.phase = s.phase ∧ ¬ Tunnelled protocol)) ∧
        t.pendingBuf = s.pendingBuf ∧ ∀ a ∈ new, NoData a)) := by
  have hstate := congrArg Outcome.state hrun
  have hactions := congrArg Outcome.actions hrun
  have hresult := congrArg Outcome.result hrun
  cases protocol with
  | httpPlain =>
      cases ok <;> cases htcp : s.tcpSocket <;>
        simp [handle, p2pSynack, replyToBrowser, httpConnected, tcpSend, tcpClose,
          run_for_each_send hsession, htcp] at hstate hactions hresult <;>
        subst hstate <;> subst hactions <;> simp [NoData]
  | udpAssociate =>
      cases ok <;> cases relay <;> cases htcp : s.tcpSocket <;> cases hudp : s.udpSession <;>
        simp [handle, p2pSynack, replyToBrowser, udpConnected, startRelay, sendSocksReply,
          sendUdpReply, tcpSend, tcpClose, htcp, hudp] at hstate hactions hresult <;>
        subst hstate <;> subst hactions <;> simp [NoData, Tunnelled]
  | socks5Connect | httpsConnect =>
      cases ok <;> cases htcp : s.tcpSocket <;>
        simp [handle, p2pSynack, replyToBrowser, sendSocksReply, httpsConnected, tcpSend,
          tcpClose, htcp] at hstate hactions hresult <;>
        subst hstate <;> subst hactions <;> simp [NoData]
  | unknown | other =>
      cases ok <;> cases htcp : s.tcpSocket <;>
        simp [handle, p2pSynack, replyToBrowser, tcpClose, htcp] at hstate hactions hresult <;>
        subst hstate <;> subst hactions <;> simp [NoData]

/-! ## The invariant -/

/-- What has been sent and what is kept, of what has been read. -/
structure Carries (es : List ClientEvent) (out : List ClientAction) (s : Socks5Session L) :
    Prop where
  orderly : Orderly s
  fresh : s.phase = .waitGreetingVersion → readsOf es = [] ∧ s.pendingBuf = []
  kept : (s.phase = .waitHttpRequestHeaders ∨
      (s.session.isSome = true ∧ s.protocol = .httpPlain)) →
    ¬ Established es → s.reading = true → s.pendingBuf.flatten = (readsOf es).flatten
  silent : ¬ Established es → ∀ a ∈ out, NoData a
  connected : s.phase = .connected → Established es
  created : Established es → s.session.isSome = true
  carried : Established es → Tunnelled s.protocol → ∃ id tunnel, s.session = some id ∧
    (s.phase = .connected ∨ s.phase = .closed) ∧ (s.protocol = .httpPlain → s.pendingBuf = []) ∧
    tunnelBytes L s.protocol (readsOf es) = some tunnel ∧ (sentOn id out).flatten = tunnel

theorem Orderly.of_eq {s t : Socks5Session L} (h : Orderly s) (hphase : t.phase = s.phase)
    (hsession : t.session = s.session) (hprotocol : t.protocol = s.protocol) : Orderly t := by
  unfold Orderly
  rw [hphase, hsession, hprotocol]
  exact h

/-- A step that reads nothing, sends no data and at most closes the session. -/
theorem Carries.frame {es : List ClientEvent} {out new : List ClientAction}
    {s t : Socks5Session L} {e : ClientEvent} (h : Carries es out s)
    (hreads : readsOf (es ++ [e]) = readsOf es)
    (hestablished : Established (es ++ [e]) ↔ Established es)
    (hphase : t.phase = s.phase ∨ t.phase = .closed) (hsession : t.session = s.session)
    (hprotocol : t.protocol = s.protocol) (hpending : t.pendingBuf = s.pendingBuf)
    (hreading : t.reading = s.reading) (hnew : ∀ a ∈ new, NoData a) :
    Carries (es ++ [e]) (out ++ new) t where
  orderly := by
    rcases hphase with hphase | hphase
    · exact h.orderly.of_eq hphase hsession hprotocol
    · simp [Orderly, hphase]
  fresh hfresh := by
    rw [hreads, hpending]
    exact h.fresh (by rcases hphase with hphase | hphase <;> simp_all)
  kept hhttp hnone hread := by
    rw [hpending, hreads]
    refine h.kept ?_ (mt hestablished.mpr hnone) (hreading ▸ hread)
    rcases hhttp with hhttp | ⟨hsome, hplain⟩
    · exact .inl (by rcases hphase with hphase | hphase <;> simp_all)
    · exact .inr ⟨hsession ▸ hsome, hprotocol ▸ hplain⟩
  silent hnone a ha := by
    rcases List.mem_append.mp ha with ha | ha
    · exact h.silent (mt hestablished.mpr hnone) a ha
    · exact hnew a ha
  connected hconnected := by
    refine hestablished.mpr (h.connected ?_)
    rcases hphase with hphase | hphase <;> simp_all
  created hest := hsession ▸ h.created (hestablished.mp hest)
  carried hest htunnelled := by
    obtain ⟨id, tunnel, hid, hthere, hflushed, htunnel, hsent⟩ :=
      h.carried (hestablished.mp hest) (hprotocol ▸ htunnelled)
    refine ⟨id, tunnel, hsession.trans hid, ?_, ?_, ?_, ?_⟩
    · rcases hphase with hphase | hphase
      · rwa [hphase]
      · exact .inr hphase
    · rw [hprotocol, hpending]
      exact hflushed
    · rw [hprotocol, hreads]
      exact htunnel
    · rw [sent_on_append, sent_on_no_data hnew, List.append_nil]
      exact hsent

/-- A tunnel that carries a stream of bytes forwards a read. -/
theorem forwarded_tunnelled {s : Socks5Session L} {id : UInt32} (hsession : s.session = some id)
    (htunnelled : Tunnelled s.protocol) (data : Bytes) :
    forwarded s data = [.sendData id data s.protocol] := by
  rcases htunnelled with hp | hp | hp <;> simp [forwarded, hp, hsession]

/-- A read is forwarded, kept, part of the handshake, or dropped where `Intact` allows it. -/
theorem carries_read {es : List ClientEvent} {out new : List ClientAction}
    {s t : Socks5Session L} {data : Bytes} (h : Carries es out s)
    (henabled : enabled s (.browserData data) = true)
    (hintact : Tunnelled s.protocol → Intact es s (.browserData data))
    (hrun : (handle (.browserData data)).run s = ⟨t, new, .ok ()⟩) :
    Carries (es ++ [.browserData data]) (out ++ new) t := by
  have hest : Established (es ++ [.browserData data]) ↔ Established es := by
    simp [established_snoc]
  have hreading : s.reading = true := by
    simp only [enabled, Bool.and_eq_true] at henabled
    exact henabled.1.1
  rcases read_cases h.orderly (length_pos_of_enabled henabled) hrun with
    ⟨hphase, rfl, rfl⟩ | ⟨hphase, rfl, hnew⟩ | ⟨hconnected, hconnecting, hclosed, hshook⟩
  · -- the tunnel is there: the read is sent, and it is the end of the tunnel bytes
    have hthere := h.connected hphase
    refine ⟨h.orderly, fun hfresh => ?_, fun _ hnone => absurd (hest.mpr hthere) hnone,
      fun hnone => absurd (hest.mpr hthere) hnone, fun _ => hest.mpr hthere,
      fun _ => h.created hthere, fun _ htunnelled => ?_⟩
    · rw [show s.phase = .waitGreetingVersion from hfresh] at hphase
      cases hphase
    · obtain ⟨id, tunnel, hid, hwhere, hflushed, htunnel, hsent⟩ := h.carried hthere htunnelled
      refine ⟨id, tunnel ++ data, hid, hwhere, hflushed, ?_, ?_⟩
      · have hmore := tunnel_bytes_append htunnel [data]
        simpa [received] using hmore
      · have hone : sentOn id [.sendData id data s.protocol] = [data] :=
          sent_on_map id s.protocol [data]
        rw [sent_on_append, forwarded_tunnelled hid htunnelled, hone, List.flatten_append, hsent]
        simp
  · -- the answer is awaited, or the session is closed: the read is dropped
    have hdropped : s.session.isSome = true → Tunnelled s.protocol →
        s.protocol ≠ .httpPlain ∧ ¬ Established es :=
      fun hsome htunnelled => hintact htunnelled hphase hsome
    refine ⟨h.orderly, fun hfresh => ?_, fun hhttp _ _ => ?_, fun hnone a ha => ?_,
      fun hconnected => ?_, fun hthere => h.created (hest.mp hthere), fun hthere htunnelled => ?_⟩
    · rw [show s.phase = .waitGreetingVersion from hfresh] at hphase
      rcases hphase with hphase | hphase <;> cases hphase
    · rcases hhttp with hhttp | ⟨hsome, hplain⟩
      · rw [show s.phase = .waitHttpRequestHeaders from hhttp] at hphase
        rcases hphase with hphase | hphase <;> cases hphase
      · exact absurd hplain (hdropped hsome (.inl hplain)).1
    · rcases List.mem_append.mp ha with ha | ha
      · exact h.silent (mt hest.mpr hnone) a ha
      · exact hnew a ha
    · rw [show s.phase = .connected from hconnected] at hphase
      rcases hphase with hphase | hphase <;> cases hphase
    · have hthere' := hest.mp hthere
      exact absurd hthere' (hdropped (h.created hthere') htunnelled).2
  · -- the handshake: what belongs to an HTTP request is kept
    have hnone := h.orderly.session_none hconnected hconnecting hclosed
    have hunestablished : ¬ Established es := by
      intro hthere
      have hsome := h.created hthere
      rw [hnone] at hsome
      cases hsome
    refine ⟨hshook.orderly, fun hfresh => absurd hfresh hshook.greeted, fun hhttp _ hread => ?_,
      fun _ a ha => ?_, fun hthere => absurd hthere hshook.unconnected,
      fun hthere => absurd (hest.mp hthere) hunestablished,
      fun hthere => absurd (hest.mp hthere) hunestablished⟩
    · rcases hshook.kept hread with ⟨_, hphase, hsocks⟩ | ⟨hpending, hstart⟩
      · rcases hhttp with hhttp | ⟨hsome, hplain⟩
        · exact absurd hhttp hphase
        · rcases hshook.orderly.phase_of_session hsome with hphase | hphase | hphase
          · exact absurd hphase hshook.unconnected
          · have hprotocol := hsocks hphase
            rw [hplain] at hprotocol
            rcases hprotocol with h | h <;> cases h
          · rw [hshook.refused hphase] at hsome
            cases hsome
      · have hbefore : s.pendingBuf.flatten = (readsOf es).flatten := by
          rcases hstart with hstart | hstart
          · obtain ⟨hreads, hempty⟩ := h.fresh hstart
            rw [hreads, hempty]
          · exact h.kept (.inl hstart) hunestablished hreading
        simp [hpending, hbefore]
    · rcases List.mem_append.mp ha with ha | ha
      · exact h.silent hunestablished a ha
      · exact hshook.noData a ha

/-- A `SYNACK` finds what has been kept, or the end of the handshake. -/
theorem carries_synack {es : List ClientEvent} {out new : List ClientAction}
    {s t : Socks5Session L} {ok : Bool} {protocol : Protocol}
    {relay : Option (AddressV4 × UInt16)} (h : Carries es out s) {id : UInt32}
    (hsession : s.session = some id)
    (hintact : Tunnelled s.protocol → Intact es s (.synack ok protocol relay))
    (hrun : (handle (.synack ok protocol relay)).run s = ⟨t, new, .ok ()⟩) :
    Carries (es ++ [.synack ok protocol relay]) (out ++ new) t := by
  obtain ⟨⟨hsame, hkind, hread⟩, hcases⟩ := synack_cases hsession hrun
  obtain ⟨horderly, hid⟩ : Orderly t ∧ t.session = some id := by
    have hkept := (keeps_synack ok protocol relay).state ⟨h.orderly, hsession⟩
    rwa [hrun] at hkept
  have hgreeted : t.phase ≠ .waitGreetingVersion := by
    intro hphase
    have hnone : t.session = none := by simpa [Orderly, hphase] using horderly
    rw [hid] at hnone
    cases hnone
  rcases hcases with ⟨rfl, hphase, hpending, hnew⟩ | ⟨rfl, hplain, hphase, hpending, rfl⟩ |
    ⟨rfl, hplain, hphase, hpending, hnew⟩
  · -- a refusal
    exact h.frame (by simp) (by simp [established_snoc]) (.inr hphase) hsame hkind hpending hread
      hnew
  · -- plain HTTP: what has been kept is all that has been read
    have hthere : Established (es ++ [.synack true protocol relay]) :=
      established_snoc.mpr (.inr ⟨protocol, relay, rfl⟩)
    refine ⟨horderly, fun hfresh => absurd hfresh hgreeted, fun _ hnone => absurd hthere hnone,
      fun hnone => absurd hthere hnone, fun _ => hthere, fun _ => by simp [hid],
      fun _ htunnelled => ?_⟩
    rw [hkind] at htunnelled
    obtain ⟨hprotocol, hkept⟩ := hintact htunnelled
    have hhttp : s.protocol = .httpPlain := hprotocol.symm.trans hplain
    refine ⟨id, (readsOf es).flatten, hid, .inl hphase, fun _ => hpending, ?_, ?_⟩
    · simp [hkind, hhttp, tunnelBytes]
    · rw [sent_on_append, sent_on_map, List.flatten_append]
      by_cases hbefore : Established es
      · obtain ⟨id', tunnel, hid', _, hflushed, htunnel, hsent⟩ :=
          h.carried hbefore (.inl hhttp)
        rw [hsession] at hid'
        cases hid'
        rw [hflushed hhttp, hsent]
        rw [hhttp] at htunnel
        cases htunnel
        simp
      · have hall := hkept hbefore
        rw [if_pos hhttp] at hall
        rw [sent_on_no_data (h.silent hbefore) id,
          h.kept (.inr ⟨by simp [hsession], hhttp⟩) hbefore hall]
        simp
  · -- any other tunnel: nothing has been read behind the handshake
    have hthere : Established (es ++ [.synack true protocol relay]) :=
      established_snoc.mpr (.inr ⟨protocol, relay, rfl⟩)
    refine ⟨horderly, fun hfresh => absurd hfresh hgreeted, fun _ hnone => absurd hthere hnone,
      fun hnone => absurd hthere hnone, fun _ => hthere, fun _ => by simp [hid],
      fun _ htunnelled => ?_⟩
    rw [hkind] at htunnelled
    obtain ⟨hprotocol, hkept⟩ := hintact htunnelled
    have hconnected : t.phase = .connected := by
      rcases hphase with hphase | ⟨_, hnot⟩
      · exact hphase
      · rw [hprotocol] at hnot
        exact absurd htunnelled hnot
    have hnot : s.protocol ≠ .httpPlain := fun hhttp => hplain (hprotocol.trans hhttp)
    have hsent : ∀ id, sentOn id (out ++ new) = sentOn id out := by
      intro id
      rw [sent_on_append, sent_on_no_data hnew, List.append_nil]
    by_cases hbefore : Established es
    · obtain ⟨id', tunnel, hid', _, _, htunnel, hcarried⟩ := h.carried hbefore htunnelled
      refine ⟨id', tunnel, hsame.trans hid', .inl hconnected, fun hhttp => ?_, ?_, ?_⟩
      · exact absurd (hkind.symm.trans hhttp) hnot
      · simpa [hkind] using htunnel
      · rw [hsent]
        exact hcarried
    · have hend := hkept hbefore
      rw [if_neg hnot] at hend
      refine ⟨id, [], hid, .inl hconnected, fun hhttp => ?_, ?_, ?_⟩
      · exact absurd (hkind.symm.trans hhttp) hnot
      · simpa [hkind] using hend
      · rw [hsent, sent_on_no_data (h.silent hbefore)]
        rfl

/-- A step of a session that stays alive. -/
theorem carries_step {es : List ClientEvent} {out new : List ClientAction}
    {s t : Socks5Session L} {e : ClientEvent} (h : Carries es out s)
    (hintact : Tunnelled s.protocol → Intact es s e)
    (hstep : (socks5Session L).step (.ok s) e = some (.ok t, new)) :
    Carries (es ++ [e]) (out ++ new) t := by
  obtain ⟨s', hs', henabled, hrun⟩ := machine_step_alive hstep
  cases hs'
  cases e with
  | browserData data => exact carries_read h henabled hintact hrun
  | synack ok protocol relay =>
      obtain ⟨id, hid⟩ := Option.isSome_iff_exists.mp henabled
      exact carries_synack h hid hintact hrun
  | browserClosed =>
      obtain ⟨out', hclosed, hnew⟩ := run_browser_closed s
      rw [hrun] at hclosed
      cases hclosed
      exact h.frame (by simp) (by simp [established_snoc]) (.inl rfl) rfl rfl rfl rfl hnew
  | browserQueue status =>
      cases hsession : s.session with
      | none =>
          rw [run_browser_queue_none hsession] at hrun
          cases hrun
      | some id =>
          rw [run_browser_queue hsession] at hrun
          cases hrun
          exact h.frame (by simp) (by simp [established_snoc]) (.inl rfl) rfl rfl rfl rfl
            (by simp [NoData])
  | data payload protocol =>
      have hdata := respects_data (I := fun t : Socks5Session L => t.phase = s.phase ∧
        t.session = s.session ∧ t.protocol = s.protocol ∧ t.pendingBuf = s.pendingBuf ∧
        t.reading = s.reading) (A := NoData) (fun s p hs => hs) (fun _ => trivial) trivial
        (fun _ => trivial) payload protocol s ⟨rfl, rfl, rfl, rfl, rfl⟩
      rw [hrun] at hdata
      obtain ⟨⟨hphase, hsession, hprotocol, hpending, hreading⟩, hnew⟩ := hdata
      exact h.frame (by simp) (by simp [established_snoc]) (.inl hphase) hsession hprotocol
        hpending hreading hnew
  | fin protocol =>
      rw [run_fin] at hrun
      cases hrun
      refine h.frame (by simp) (by simp [established_snoc]) (.inl rfl) rfl rfl rfl rfl ?_
      split <;> simp [NoData]
  | stop =>
      rw [run_stop] at hrun
      cases hrun
      refine h.frame (by simp) (by simp [established_snoc]) (.inl rfl) rfl rfl rfl rfl ?_
      split <;> simp [NoData]

theorem carries_started (sessionId : UInt32) (genStreamId : Nat → UInt32)
    (readBuf : Nat → UInt8) : Carries [] [] (started L sessionId genStreamId readBuf) where
  orderly := rfl
  fresh _ := ⟨rfl, rfl⟩
  kept _ _ _ := rfl
  silent _ a ha := by cases ha
  connected h := by cases h
  created h := by
    obtain ⟨_, _, hmem⟩ := h
    cases hmem
  carried h := by
    obtain ⟨_, _, hmem⟩ := h
    cases hmem

/-- The invariant holds along every run that reads nothing behind the handshake before the answer
has come. -/
theorem carries_run {sessionId : UInt32} {genStreamId : Nat → UInt32} {readBuf : Nat → UInt8}
    {es : List ClientEvent} {out : List ClientAction} {t : Socks5Session L}
    (hintact : (socks5Session L).Meets IntactStep
      (.ok (started L sessionId genStreamId readBuf)) es)
    (hrun : (socks5Session L).run (.ok (started L sessionId genStreamId readBuf)) es =
      some (.ok t, out)) : Carries es out t := by
  refine Machine.run_induction_of_meets (P := fun es out x => ∀ s, x = .ok s → Carries es out s)
    ?_ ?_ hintact hrun t rfl
  · intro s hs
    cases hs
    exact carries_started sessionId genStreamId readBuf
  · intro es out x e y new hes hcarries hok hstep u hu
    subst hu
    obtain ⟨s, rfl, _, _⟩ := machine_step_alive hstep
    exact carries_step (hcarries s rfl) (hok s rfl) hstep

end Socks5Session

open Socks5Session

variable {L : Llhttp}

/-- In every run of a client session whose steps are all intact, for a tunnel that carries a
stream of bytes: before the tunnel is there nothing has been sent on the session's stream, and
from then on the payloads sent are the tunnel bytes of all that has been read, to which any
further bytes of the browser only add. -/
theorem upstream_intact {sessionId : UInt32} {genStreamId : Nat → UInt32} {readBuf : Nat → UInt8}
    {es : List ClientEvent} {out : List ClientAction} {t : Socks5Session L}
    (hintact : (socks5Session L).Meets IntactStep
      (.ok (started L sessionId genStreamId readBuf)) es)
    (hrun : (socks5Session L).run (.ok (started L sessionId genStreamId readBuf)) es =
      some (.ok t, out)) (htunnelled : Tunnelled t.protocol) :
    (¬ Established es → ∀ id, sentOn id out = []) ∧
      (Established es → ∃ id tunnel, t.session = some id ∧
        tunnelBytes L t.protocol (readsOf es) = some tunnel ∧ (sentOn id out).flatten = tunnel ∧
        ∀ more, ∃ all, tunnelBytes L t.protocol (readsOf es ++ more) = some all ∧
          (sentOn id out).flatten <+: all) := by
  have h := carries_run hintact hrun
  refine ⟨fun hnone id => sent_on_no_data (h.silent hnone) id, fun hthere => ?_⟩
  obtain ⟨id, tunnel, hid, _, _, htunnel, hsent⟩ := h.carried hthere htunnelled
  refine ⟨id, tunnel, hid, htunnel, hsent, fun more => ?_⟩
  exact ⟨_, tunnel_bytes_append htunnel more, by rw [hsent]; exact List.prefix_append _ _⟩

theorem upstream_intact_connect :
    ∃ (t : Socks5Session .idle) (out : List ClientAction),
      (socks5Session .idle).run (.ok (started .idle 1 (fun _ => 7) fun _ => 0))
        (socksConnect ++ [.synack true .socks5Connect none, .browserData [1, 2]]) =
          some (.ok t, out) ∧
      ∃ id tunnel, t.session = some id ∧
        tunnelBytes .idle t.protocol (readsOf
          (socksConnect ++ [.synack true .socks5Connect none, .browserData [1, 2]])) =
            some tunnel ∧
        (sentOn id out).flatten = tunnel := by
  obtain ⟨s₁, s₂, s₃, t, h₁, hphase₁, h₂, hprotocol₂, h₃, hphase₃, hrun, hprotocol⟩ :
      ∃ s₁ s₂ s₃ t : Socks5Session .idle,
        (socks5Session .idle).run (.ok (started .idle 1 (fun _ => 7) fun _ => 0))
          [.browserData [0x05, 0x01, 0x00]] = some (.ok s₁, [.tcpSend [0x05, 0x00]]) ∧
        s₁.phase = .waitSocksTCP ∧
        (socks5Session .idle).run (.ok (started .idle 1 (fun _ => 7) fun _ => 0)) socksConnect =
          some (.ok s₂, [.tcpSend [0x05, 0x00], .createSession 7,
            .sendSyn 7 (text "10.0.0.1") 80 .socks5Connect]) ∧
        s₂.protocol = .socks5Connect ∧
        (socks5Session .idle).run (.ok (started .idle 1 (fun _ => 7) fun _ => 0))
          (socksConnect ++ [.synack true .socks5Connect none]) =
          some (.ok s₃, [.tcpSend [0x05, 0x00], .createSession 7,
            .sendSyn 7 (text "10.0.0.1") 80 .socks5Connect,
            .tcpSend [0x05, 0x00, 0x00, 0x01, 0, 0, 0, 0, 0, 0]]) ∧
        s₃.phase = .connected ∧
        (socks5Session .idle).run (.ok (started .idle 1 (fun _ => 7) fun _ => 0))
          (socksConnect ++ [.synack true .socks5Connect none, .browserData [1, 2]]) =
          some (.ok t, [.tcpSend [0x05, 0x00], .createSession 7,
            .sendSyn 7 (text "10.0.0.1") 80 .socks5Connect,
            .tcpSend [0x05, 0x00, 0x00, 0x01, 0, 0, 0, 0, 0, 0],
            .sendData 7 [1, 2] .socks5Connect]) ∧
        t.protocol = .socks5Connect :=
    ⟨_, _, _, _, rfl, rfl, rfl, rfl, rfl, rfl, rfl, rfl⟩
  have hintact : (socks5Session .idle).Meets IntactStep
      (.ok (started .idle 1 (fun _ => 7) fun _ => 0))
      (socksConnect ++ [.synack true .socks5Connect none, .browserData [1, 2]]) := by
    have hfirst : (socks5Session .idle).Meets IntactStep
        (.ok (started .idle 1 (fun _ => 7) fun _ => 0)) [.browserData [0x05, 0x01, 0x00]] := by
      refine (Machine.meets_nil _).snoc rfl fun s hs _ hphase => ?_
      cases hs
      rcases hphase with hphase | hphase <;> cases hphase
    have hreads : (socks5Session .idle).Meets IntactStep
        (.ok (started .idle 1 (fun _ => 7) fun _ => 0)) socksConnect := by
      refine hfirst.snoc h₁ fun s hs _ hphase => ?_
      cases hs
      rw [hphase₁] at hphase
      rcases hphase with hphase | hphase <;> cases hphase
    have hanswer : (socks5Session .idle).Meets IntactStep
        (.ok (started .idle 1 (fun _ => 7) fun _ => 0))
        (socksConnect ++ [.synack true .socks5Connect none]) := by
      refine hreads.snoc h₂ fun s hs _ => ⟨?_, fun _ => ?_⟩
      · cases hs
        exact hprotocol₂.symm
      · cases hs
        rw [if_neg (by simp [hprotocol₂]), hprotocol₂]
        decide
    refine hanswer.snoc h₃ fun s hs _ hphase => ?_
    cases hs
    rw [hphase₃] at hphase
    rcases hphase with hphase | hphase <;> cases hphase
  have htunnelled : Tunnelled t.protocol := .inr (.inr hprotocol)
  have hthere : Established
      (socksConnect ++ [.synack true .socks5Connect none, .browserData [1, 2]]) :=
    ⟨.socks5Connect, none, by simp⟩
  obtain ⟨id, tunnel, hid, htunnel, hsent, _⟩ :=
    (upstream_intact hintact hrun htunnelled).2 hthere
  exact ⟨t, _, hrun, id, tunnel, hid, htunnel, hsent⟩

/-- Two bytes that the browser sends while the answer to the `SYN` is on its way are missing from
the tunnel. -/
theorem early_bytes_are_lost :
    ∃ (t : Socks5Session .idle) (out : List ClientAction),
      (socks5Session .idle).run (.ok (started .idle 1 (fun _ => 7) fun _ => 0))
        (socksConnect ++ [.browserData [1, 2], .synack true .socks5Connect none,
          .browserData [3]]) = some (.ok t, out) ∧
      t.session = some 7 ∧
      tunnelBytes .idle t.protocol (readsOf
        (socksConnect ++ [.browserData [1, 2], .synack true .socks5Connect none,
          .browserData [3]])) = some [1, 2, 3] ∧
      (sentOn 7 out).flatten = [3] ∧ ¬ [3] <+: ([1, 2, 3] : Bytes) := by
  obtain ⟨t, out, hrun, hsession, hprotocol, hsent⟩ :
      ∃ (t : Socks5Session .idle) (out : List ClientAction),
        (socks5Session .idle).run (.ok (started .idle 1 (fun _ => 7) fun _ => 0))
          (socksConnect ++ [.browserData [1, 2], .synack true .socks5Connect none,
            .browserData [3]]) = some (.ok t, out) ∧
        t.session = some 7 ∧ t.protocol = .socks5Connect ∧ (sentOn 7 out).flatten = [3] :=
    ⟨_, _, rfl, rfl, rfl, rfl⟩
  refine ⟨t, out, hrun, hsession, ?_, hsent, by decide⟩
  rw [hprotocol]
  decide

end RtcVpn
