import RtcVpn.Client.AppRuns
import RtcVpn.Client.Requests

/-!
# Streams that are left open

A session closes and unregisters the stream it keeps in `session_`, which is the
one it has opened last. Llhttp may report the headers of several requests of one
read, each of which opens a stream. Of a session whose reads open one stream at
most none is left open.
-/

namespace RtcVpn

namespace Socks5Session

open Effect

variable {L : Llhttp}

/-! ## Reads -/

/-- A read that is fed to the request parser opens a stream for each request that has a target, at
most. -/
theorem read_feeds {s : Socks5Session L} {data : Bytes} (hdata : 0 < data.length)
    (h : Feeds s data) :
    syns ((handle (.browserData data)).run s).actions ≤ requestsOf s data := by
  rw [← syn_protocols_length, ← protocols_of_length]
  exact (syn_protocols_read hdata h).length_le

/-- A read opens one stream at most, as far as llhttp finds one request in it that has a target.
Once the browser's socket has reported its close no read is one of the SOCKS handshake, and one that
is fed to the request parser opens no stream. -/
def OneRequest (s : Socks5Session L) (data : Bytes) : Prop :=
  if s.tcpSocket then Feeds s data → requestsOf s data ≤ 1
  else s.phase = .connecting ∨ s.phase = .connected ∨ s.phase = .closed ∨
    (Feeds s data ∧ requestsOf s data = 0)

/-- An event whose reads are of one request leaves a session with one stream at most, and opens
none once the browser's socket has reported its close. -/
theorem one_handle {s : Socks5Session L} (hs : SingleStream s) (hone : s.created ≤ 1)
    {e : ClientEvent} (he : ∀ data, e = .browserData data → 0 < data.length ∧ OneRequest s data) :
    ((handle e).run s).state.created ≤ 1 ∧
      (s.tcpSocket = false → syns ((handle e).run s).actions = 0) := by
  have htally := tally_handle (L := L) e s
  have hcreated := htally.created
  have hsyns : syns ((handle e).run s).actions =
      ((handle e).run s).state.created - s.created := by
    rw [syns, htally.syns, List.length_map, List.length_range']
  by_cases hread : ∃ data, e = .browserData data
  · obtain ⟨data, rfl⟩ := hread
    obtain ⟨hdata, hrequest⟩ := he data rfl
    unfold OneRequest at hrequest
    by_cases hover : s.phase = .connecting ∨ s.phase = .connected ∨ s.phase = .closed
    · have hnone : syns ((handle (.browserData data)).run s).actions = 0 := by
        rw [syns, List.length_eq_zero_iff, List.filterMap_eq_nil_iff]
        exact fun a ha => (read_over hover data a ha).1
      exact ⟨by omega, fun _ => hnone⟩
    · -- before the session connects it has no stream
      have hzero : s.created = 0 :=
        hs.early (fun h => hover (.inl h)) (fun h => hover (.inr (.inl h)))
        fun h => hover (.inr (.inr h))
      cases hsocket : s.tcpSocket with
      | true =>
          rw [if_pos hsocket] at hrequest
          have hread := (read_one hdata).1 hrequest
          exact ⟨by omega, fun hclosed => by cases hclosed⟩
      | false =>
          rw [if_neg (by simp [hsocket])] at hrequest
          rcases hrequest with hphase | hphase | hphase | ⟨hfeeds, hnone⟩
          · exact absurd (.inl hphase) hover
          · exact absurd (.inr (.inl hphase)) hover
          · exact absurd (.inr (.inr hphase)) hover
          · have hread := read_feeds hdata hfeeds
            exact ⟨by omega, fun _ => by omega⟩
  · have hsettled := settled_handle (L := L) (fun data h => hread ⟨data, h⟩) s
    have hnone : syns ((handle e).run s).actions = 0 := by
      rw [syns, hsettled.syns]
      rfl
    exact ⟨by omega, fun _ => hnone⟩

/-! ## The peer's close -/

/-- Whether the peer has closed stays as it is. -/
def SamePeer (s : Socks5Session L) (_ : List ClientAction) (t : Socks5Session L) : Prop :=
  t.isP2pClosed = s.isP2pClosed

theorem composes_same_peer : Composes (SamePeer (L := L)) where
  refl _ := rfl
  trans h h' := h'.trans h

theorem same_peer_of_core {s t : Socks5Session L} (h : t.core = s.core) : SamePeer s [] t := by
  simp only [core, Prod.mk.injEq] at h
  exact h.2.2.2.2.2.2.2.2

theorem same_peer_reads : AdmitsReads (SamePeer (L := L)) where
  composes := composes_same_peer
  send _ _ := rfl
  close _ := rfl
  forward _ _ _ _ := rfl
  update := same_peer_of_core
  request _ := rfl

theorem same_peer_frames : AdmitsFrames (SamePeer (L := L)) where
  composes := composes_same_peer
  send _ _ := rfl
  close _ := rfl
  forward _ _ _ _ := rfl
  update h _ _ := same_peer_of_core h
  relay _ := rfl
  datagram _ _ := rfl

/-- Only its `FIN` frame tells that the peer has closed. -/
theorem same_peer_handle {e : ClientEvent} (he : ∀ protocol, e ≠ .fin protocol) :
    Relates SamePeer (handle e : Handler L Unit) := by
  cases e with
  | fin protocol => exact absurd rfl (he protocol)
  | browserData data => exact same_peer_reads.browser_data data
  | synack ok protocol relay => exact same_peer_frames.synack ok protocol relay
  | data payload protocol => exact same_peer_frames.data payload protocol
  | browserClosed =>
      intro s
      obtain ⟨out, hrun, -⟩ := run_browser_closed s
      rw [hrun]
      rfl
  | browserQueue status =>
      intro s
      cases hsession : s.session with
      | none => rw [run_browser_queue_none hsession]; rfl
      | some id => rw [run_browser_queue hsession]; rfl
  | stop =>
      intro s
      rw [run_stop]
      rfl

end Socks5Session

namespace NetworkRtcApp

open Effect

variable {L : Llhttp} {c : NetworkRtcApp L} {es : List AppEvent} {out new : List AppAction}

/-- The peer has sent a `FIN` frame for the stream. -/
def FinReceived (es : List AppEvent) (i : UInt32) : Prop :=
  ∃ data relay, .message data relay ∈ es ∧ FinFrame data i

theorem FinReceived.append {i : UInt32} (h : FinReceived es i) (fs : List AppEvent) :
    FinReceived (es ++ fs) i := by
  obtain ⟨data, relay, hmem, hframe⟩ := h
  exact ⟨data, relay, List.mem_append_left _ hmem, hframe⟩

/-- Every stream that the session has opened has been closed once the socket has reported its close,
and is not registered once the session has been destroyed. -/
structure NoLeaks (es : List AppEvent) (out : List AppAction) (c : NetworkRtcApp L) : Prop where
  closed : .session .browserClosed ∈ es → ∀ i ∈ out.filterMap AppAction.synId,
    FinReceived es i ∨ i ∈ out.filterMap AppAction.finId
  removed : .destroyed ∈ es → ∀ i ∈ out.filterMap AppAction.synId,
    c.mux.sessionManager.findSession i = none

/-- The reads of the session open one stream at most. -/
def ReadsOneRequest (c : NetworkRtcApp L) : AppEvent → Prop
  | .session (.browserData data) => c.association.session.OneRequest data
  | _ => True

/-- What holds of an app whose session has opened one stream at most. -/
structure OneStream (es : List AppEvent) (out : List AppAction) (c : NetworkRtcApp L) : Prop where
  single : c.association.session.SingleStream
  one : c.association.session.created ≤ 1
  opened : ∀ i, (c.mux.sessionManager.findSession i).isSome → i ∈ out.filterMap AppAction.synId
  yielded : c.association.session.isP2pClosed = true →
    ∃ i ∈ out.filterMap AppAction.synId, FinReceived es i
  gone : .session .browserClosed ∈ es → c.association.session.tcpSocket = false
  closed : c.association.session.tcpSocket = false → ∀ i ∈ out.filterMap AppAction.synId,
    FinReceived es i ∨ i ∈ out.filterMap AppAction.finId
  removed : .destroyed ∈ es → c.destroyed = true ∧
    ∀ i, c.mux.sessionManager.findSession i = none

theorem OneStream.no_leaks (h : OneStream es out c) : NoLeaks es out c where
  closed hclosed := h.closed (h.gone hclosed)
  removed hdestroyed i _ := (h.removed hdestroyed).2 i

/-! ## Steps -/

/-- What is registered has been registered now or was before. -/
theorem mem_of_find_registering {mux : SessionMux} (ids : List UInt32) {i : UInt32}
    (h : ((registering mux ids).sessionManager.findSession i).isSome) :
    i ∈ ids ∨ (mux.sessionManager.findSession i).isSome := by
  induction ids generalizing mux with
  | nil => exact .inr h
  | cons j ids ih =>
      have hfind : (registering mux [j]).sessionManager.findSession i =
          if i = j then some (sessionCallbacks j) else mux.sessionManager.findSession i :=
        SessionManager.find_register_session _ _ _
      rcases @ih (registering mux [j]) h with hmem | hsome
      · exact .inl (List.mem_cons_of_mem j hmem)
      · rw [hfind] at hsome
        split at hsome
        · next hij => exact .inl (hij ▸ List.mem_cons_self)
        · exact .inr hsome

/-- A callback of the session runs before it has been destroyed. -/
theorem not_destroyed_of_event {e : AppEvent} {e' : ClientEvent} (henabled : enabled c e = true)
    (h : sessionEvent c e = some e') : c.destroyed = false := by
  cases e with
  | session e =>
      simp only [enabled, Bool.and_eq_true, Bool.not_eq_true'] at henabled
      exact henabled.1.1
  | message data relay =>
      by_contra hdestroyed
      simp [sessionEvent, hdestroyed] at h
  | relay e => cases h
  | destroyed => cases h

/-- No read of the browser's socket is empty. -/
theorem length_of_read {data : Bytes}
    (henabled : enabled c (.session (.browserData data)) = true) : 0 < data.length := by
  simp only [enabled, Association.enabled, Socks5Session.enabled, Bool.and_eq_true,
    Bool.not_eq_true', List.isEmpty_eq_false_iff] at henabled
  exact List.length_pos_iff.mpr henabled.2.1.2

/-- The session is told that the peer has closed by a `FIN` frame for a registered stream. -/
theorem fin_frame_of_event {e : AppEvent} {protocol : Protocol} (henabled : enabled c e = true)
    (h : sessionEvent c e = some (.fin protocol)) :
    ∃ i, (c.mux.sessionManager.findSession i).isSome ∧ FinReceived [e] i := by
  cases e with
  | session e =>
      cases h
      simp [enabled, isLocal] at henabled
  | relay e => cases h
  | destroyed => cases h
  | message data relay =>
      have hdestroyed := not_destroyed_of_event henabled h
      rcases c.mux.on_message_cases data with
        hnone | ⟨header, payload, hframe, ⟨_, _, _, _, hopen⟩ | ⟨session, hfind, hsession⟩⟩
      · simp [sessionEvent, hdestroyed, hnone] at h
      · simp [sessionEvent, hdestroyed, hopen] at h
      · rcases hsession with ⟨_, _, hupcall⟩ | hupcall | ⟨htype, -⟩ | ⟨_, _, -, -, hupcall⟩
        · simp [sessionEvent, hdestroyed, hupcall] at h
        · simp [sessionEvent, hdestroyed, hupcall] at h
        · exact ⟨header.streamId, by rw [hfind]; rfl, data, relay, List.mem_singleton_self _,
            header, payload, hframe, htype, rfl⟩
        · simp [sessionEvent, hdestroyed, hupcall] at h

/-- The destructor removes the stream that the session has. -/
theorem destroyed_step {d : NetworkRtcApp L}
    (hstep : (networkRtcApp L).step (.ok c) .destroyed = some (.ok d, new)) :
    d.destroyed = true ∧ d.mux = unregistered c := by
  obtain ⟨_, hc, _, hrun⟩ := machine_step_alive hstep
  cases hc
  have hdestroy : (destroySession : Handler L).run c = ⟨d, new, .ok ()⟩ := hrun
  obtain ⟨-, halive⟩ := run_destroy_session c
  rw [hdestroy] at halive
  exact (halive rfl).2

section

variable {s : Socks5Session L} {d : NetworkRtcApp L} {e : AppEvent}

/-- The `SYN` frames of the session and the streams that the app knows. -/
structure Opened (out : List AppAction) (c : NetworkRtcApp L) : Prop where
  single : c.association.session.SingleStream
  opened : ∀ i, (c.mux.sessionManager.findSession i).isSome → i ∈ out.filterMap AppAction.synId

/-- A step that leaves the app alive. -/
theorem Opened.step (h : Opened out c)
    (hstep : (networkRtcApp L).step (.ok c) e = some (.ok d, new)) : Opened (out ++ new) d := by
  obtain ⟨hsession, hother⟩ := app_step hstep
  cases he : sessionEvent c e with
  | none =>
      obtain ⟨hactions, halive⟩ := hother he
      obtain ⟨hsame, hmux⟩ := halive d rfl
      refine ⟨hsame ▸ h.single, fun i hi => ?_⟩
      rw [List.filterMap_append]
      refine List.mem_append_left _ (h.opened i ?_)
      rcases hmux with ⟨hmux, -⟩ | ⟨-, -, -, -, hfind⟩
      · rwa [← hmux]
      · obtain ⟨session, hi⟩ := Option.isSome_iff_exists.mp hi
        rw [hfind i session hi]
        rfl
  | some e' =>
      obtain ⟨-, -, halive⟩ := hsession e' he
      obtain ⟨hrun, hmux, -⟩ := halive d rfl
      have hcreated := created_ids_handle e' c.association.session
      have hsingle := Socks5Session.single_handle (L := L) e' c.association.session h.single
      rw [hrun] at hcreated hsingle
      dsimp only at hcreated hsingle
      refine ⟨hsingle, fun i hi => ?_⟩
      rw [hmux] at hi
      rw [List.filterMap_append, syn_ids_eq new, ← hcreated]
      rcases mem_of_find_registering _ hi with hi | hi
      · exact List.mem_append_right _ hi
      · exact List.mem_append_left _ (h.opened i hi)

/-- A session that has opened one stream at most has the one that it has opened. -/
theorem Upkeep.session_of_syn (h : Upkeep s out c) (hs : s.created = 0)
    (hone : c.association.session.created ≤ 1) {i : UInt32}
    (hi : i ∈ out.filterMap AppAction.synId) : c.association.session.session = some i := by
  rw [syn_ids_eq, h.tally.syns, hs, Nat.sub_zero] at hi
  have hsession := h.tally.session
  rw [hs] at hsession
  obtain hzero | hcreated := Nat.le_one_iff_eq_zero_or_eq_one.mp hone
  · simp [hzero] at hi
  · rw [hcreated] at hi
    have hlast : i = s.genStreamId 0 := by simpa using hi
    rw [hsession, hcreated, hlast]
    rfl

/-- The destructor of a session that has opened one stream at most leaves none registered. -/
theorem OneStream.destroyed (h : OneStream es out c) (hupkeep : Upkeep s out c) (hs : s.created = 0)
    (hstep : (networkRtcApp L).step (.ok c) .destroyed = some (.ok d, new)) :
    d.destroyed = true ∧ ∀ i, d.mux.sessionManager.findSession i = none := by
  obtain ⟨hdestroyed, hmux⟩ := destroyed_step hstep
  refine ⟨hdestroyed, fun i => ?_⟩
  by_contra hi
  obtain ⟨session, hi⟩ := Option.ne_none_iff_exists'.mp hi
  rw [hmux] at hi
  -- what is still registered is the stream of the session, which is removed
  have hmem := h.opened i (by rw [find_unregistered hi]; rfl)
  have hkept := hupkeep.session_of_syn hs h.one hmem
  have hremoved : (unregistered c).sessionManager.findSession i = none := by
    rw [unregistered, hkept]
    show (c.mux.sessionManager.removeSession i).findSession i = none
    rw [SessionManager.find_remove_session, if_pos rfl]
  rw [hremoved] at hi
  cases hi

/-- The close callback sends a `FIN` frame for the one stream, if the peer has sent none. -/
theorem OneStream.close (h : OneStream es out c) (hupkeep : Upkeep s out c) (hs : s.created = 0)
    {i : UInt32} (hi : i ∈ out.filterMap AppAction.synId) :
    FinReceived es i ∨
      i ∈ ((Socks5Session.handle .browserClosed).run c.association.session).actions.filterMap
        ClientAction.finId := by
  obtain ⟨-, hfins, -⟩ := Socks5Session.fins_browser_closed c.association.session
  have hkept := hupkeep.session_of_syn hs h.one hi
  rw [hfins, hkept]
  cases hp2p : c.association.session.isP2pClosed with
  | true =>
      obtain ⟨j, hj, hfin⟩ := h.yielded hp2p
      have hsame := hupkeep.session_of_syn hs h.one hj
      rw [hkept] at hsame
      obtain rfl := Option.some.inj hsame
      exact .inl hfin
  | false => exact .inr (by simp)

/-- A step that runs no callback of the session. -/
theorem OneStream.other (h : OneStream es out c) (hupkeep : Upkeep s out c) (hs : s.created = 0)
    (hstep : (networkRtcApp L).step (.ok c) e = some (.ok d, new)) (he : sessionEvent c e = none) :
    OneStream (es ++ [e]) (out ++ new) d := by
  obtain ⟨hactions, halive⟩ := (app_step hstep).2 he
  obtain ⟨hsame, hmux⟩ := halive d rfl
  obtain ⟨hsyns, hfins⟩ := ids_of_quiet out hactions
  obtain ⟨hsingle, hopened⟩ := Opened.step ⟨h.single, h.opened⟩ hstep
  refine ⟨hsingle, hsame ▸ h.one, hopened, fun hp2p => ?_, fun hmem => ?_, fun hsocket i hi => ?_,
    fun hmem => ?_⟩
  · rw [hsame] at hp2p
    obtain ⟨i, hi, hfin⟩ := h.yielded hp2p
    exact ⟨i, hsyns ▸ hi, hfin.append _⟩
  · rw [hsame]
    rcases List.mem_append.mp hmem with hmem | hmem
    · exact h.gone hmem
    · rw [← List.mem_singleton.mp hmem] at he
      cases he
  · rw [hsame] at hsocket
    rw [hsyns] at hi
    rw [hfins]
    exact (h.closed hsocket i hi).imp_left fun hfin => hfin.append _
  · rcases List.mem_append.mp hmem with hmem | hmem
    · obtain ⟨hdestroyed, hnone⟩ := h.removed hmem
      rcases hmux with ⟨hmux, hd⟩ | ⟨-, hd, -, -, hfind⟩
      · rw [hd, hmux]
        exact ⟨hdestroyed, hnone⟩
      · refine ⟨hd, fun i => Option.eq_none_iff_forall_ne_some.mpr fun session hi => ?_⟩
        have hbefore := hfind i session hi
        rw [hnone] at hbefore
        cases hbefore
    · obtain rfl := List.mem_singleton.mp hmem
      exact h.destroyed hupkeep hs hstep

/-- A step that runs a callback of the session. -/
theorem OneStream.callback {e' : ClientEvent} (h : OneStream es out c) (hupkeep : Upkeep s out c)
    (hs : s.created = 0) (hreads : ReadsOneRequest c e) (henabled : enabled c e = true)
    (hstep : (networkRtcApp L).step (.ok c) e = some (.ok d, new))
    (he : sessionEvent c e = some e') : OneStream (es ++ [e]) (out ++ new) d := by
  obtain ⟨hrun, -, -⟩ := ((app_step hstep).1 e' he).alive d rfl
  obtain ⟨hsingle, hopened⟩ := Opened.step ⟨h.single, h.opened⟩ hstep
  have hread : ∀ data, e' = .browserData data →
      0 < data.length ∧ c.association.session.OneRequest data := by
    rintro data rfl
    obtain rfl := eq_of_session_event_local rfl he
    exact ⟨length_of_read henabled, hreads⟩
  obtain ⟨hone, hlate⟩ := Socks5Session.one_handle h.single h.one hread
  rw [hrun] at hone hlate
  dsimp only at hone hlate
  have hsyns : (out ++ new).filterMap AppAction.synId =
      out.filterMap AppAction.synId ++
        (new.filterMap sessionAction).filterMap ClientAction.synId := by
    rw [List.filterMap_append, ← syn_ids_eq new]
  refine ⟨hsingle, hone, hopened, fun hp2p => ?_, fun hmem => ?_, fun hsocket i hi => ?_,
    fun hmem => ?_⟩
  · by_cases hfin : ∃ protocol, e' = .fin protocol
    · obtain ⟨protocol, rfl⟩ := hfin
      obtain ⟨i, hi, data, relay, hmem, hframe⟩ := fin_frame_of_event henabled he
      exact ⟨i, hsyns ▸ List.mem_append_left _ (h.opened i hi), data, relay,
        List.mem_append_right _ hmem, hframe⟩
    · have hpeer := Socks5Session.same_peer_handle (L := L)
        (fun protocol heq => hfin ⟨protocol, heq⟩) c.association.session
      rw [hrun] at hpeer
      obtain ⟨i, hi, hfin⟩ := h.yielded (hpeer.symm.trans hp2p)
      exact ⟨i, hsyns ▸ List.mem_append_left _ hi, hfin.append _⟩
  · by_cases hne : e' = .browserClosed
    · subst hne
      have hclosed := (Socks5Session.fins_browser_closed c.association.session).1
      rw [hrun] at hclosed
      exact hclosed
    · have hcalm := Socks5Session.calm_handle (L := L) hne c.association.session
      rw [hrun] at hcalm
      rw [hcalm.socket]
      rcases List.mem_append.mp hmem with hmem | hmem
      · exact h.gone hmem
      · rw [← List.mem_singleton.mp hmem] at he
        cases he
        exact absurd rfl hne
  · by_cases hne : e' = .browserClosed
    · subst hne
      have hsettled : Relates Socks5Session.Settled
          (Socks5Session.handle .browserClosed : Socks5Session.Handler L Unit) :=
        Socks5Session.settled_handle fun _ h => by cases h
      have hnone := (hsettled c.association.session).syns
      rw [hrun] at hnone
      rw [hsyns, hnone, List.append_nil] at hi
      rw [List.filterMap_append, fin_ids_eq new]
      have hclose := h.close hupkeep hs hi
      rw [hrun] at hclose
      exact hclose.imp (fun hfin => hfin.append _) fun hfin => List.mem_append_right _ hfin
    · have hcalm := Socks5Session.calm_handle (L := L) hne c.association.session
      rw [hrun] at hcalm
      have hbefore : c.association.session.tcpSocket = false := hcalm.socket.symm.trans hsocket
      have hnone := List.length_eq_zero_iff.mp (hlate hbefore)
      rw [hsyns, hnone, List.append_nil] at hi
      rw [List.filterMap_append]
      exact (h.closed hbefore i hi).imp (fun hfin => hfin.append _) fun hfin =>
        List.mem_append_left _ hfin
  · rcases List.mem_append.mp hmem with hmem | hmem
    · have halive := not_destroyed_of_event henabled he
      rw [(h.removed hmem).1] at halive
      cases halive
    · rw [← List.mem_singleton.mp hmem] at he
      cases he

/-- A step that leaves the app alive. -/
theorem OneStream.step (h : OneStream es out c) (hupkeep : Upkeep s out c) (hs : s.created = 0)
    (hreads : ReadsOneRequest c e)
    (hstep : (networkRtcApp L).step (.ok c) e = some (.ok d, new)) :
    OneStream (es ++ [e]) (out ++ new) d := by
  obtain ⟨_, hc, henabled, -⟩ := machine_step_alive hstep
  cases hc
  cases he : sessionEvent c e with
  | none => exact h.other hupkeep hs hstep he
  | some e' => exact h.callback hupkeep hs hreads henabled hstep he

end

/-- In a run in which every read opens one stream at most no stream is left open. -/
theorem no_leaked_streams {sessionId peerConnId : UInt32} {genStreamId : Nat → UInt32}
    {readBuf : Nat → UInt8} {remotePort : UInt16}
    (hrun : (networkRtcApp L).run (.ok (started peerConnId
      ⟨.started L sessionId genStreamId readBuf, none, remotePort⟩)) es = some (.ok c, out))
    (hmeets : (networkRtcApp L).Meets (WhenAlive ReadsOneRequest) (.ok (started peerConnId
      ⟨.started L sessionId genStreamId readBuf, none, remotePort⟩)) es) : NoLeaks es out c := by
  have hall := Machine.run_induction_of_meets (m := networkRtcApp L)
    (P := fun es out x => ∀ c, x = .ok c → OneStream es out c) ?_ ?_ hmeets hrun
  · exact (hall c rfl).no_leaks
  · rintro _ ⟨⟩
    refine ⟨.of_zero rfl, Nat.zero_le 1, ?_, nofun, nofun, nofun, nofun⟩
    exact fun i hi => by cases hi
  · intro es out x e y new hbefore ih hreads hstep d hd
    subst hd
    obtain ⟨c, rfl, -, -⟩ := machine_step_alive hstep
    exact (ih c rfl).step (upkeep_run hbefore) rfl (hreads c rfl) hstep

/-- A request of a browser, and what llhttp reports of it. -/
def oneGet : Bytes := text "GET http://a/ HTTP/1.1\r\nHost: a\r\n\r\n"

def oneGetEvents : List LlhttpEvent :=
  [.messageBegin, .url (text "http://a/"), .headerField (text "Host"), .headerValue (text "a"),
    .headersComplete ⟨1, 1, text "GET", 0, false, false, false, false, true, none⟩,
    .messageComplete]

/-- Llhttp on one request and on two in one read. -/
def getsParser : Llhttp :=
  .scripted [(oneGet, oneGetEvents, .ok), (oneGet ++ oneGet, oneGetEvents ++ oneGetEvents, .ok)]

/-- An app with the session of a browser. -/
def getsApp : NetworkRtcApp getsParser :=
  started 1 ⟨.started getsParser 1 (fun n => if n = 0 then 5 else 6) fun _ => 0, none, 0⟩

/-- A browser that sends one read and closes. -/
def readOnce (data : Bytes) : List AppEvent :=
  [.session (.browserData data), .session .browserClosed, .destroyed]

/-- A session of one request. -/
theorem no_leaked_streams_one_request :
    ∃ c out, (networkRtcApp getsParser).run (.ok getsApp) (readOnce oneGet) = some (.ok c, out) ∧
      NoLeaks (readOnce oneGet) out c := by
  obtain ⟨c, out, hrun⟩ : ∃ c out, (networkRtcApp getsParser).run (.ok getsApp) (readOnce oneGet) =
      some (.ok c, out) := ⟨_, _, rfl⟩
  have hone : ReadsOneRequest getsApp (.session (.browserData oneGet)) := fun _ => by decide
  have hmeets : (networkRtcApp getsParser).Meets (WhenAlive ReadsOneRequest) (.ok getsApp)
      (readOnce oneGet) :=
    meets_when_alive_cons rfl hone <| meets_when_alive_cons rfl trivial <|
    meets_when_alive_cons rfl trivial <| Machine.meets_nil _
  exact ⟨c, out, hrun, no_leaked_streams hrun hmeets⟩

/-- Two requests in one read: the stream of the first is not closed, and stays registered. -/
theorem first_stream_is_leaked :
    ∃ c out, (networkRtcApp getsParser).run (.ok getsApp) (readOnce (oneGet ++ oneGet)) =
        some (.ok c, out) ∧
      out.filterMap AppAction.synId = [5, 6] ∧ out.filterMap AppAction.finId = [6] ∧
      ¬ NoLeaks (readOnce (oneGet ++ oneGet)) out c := by
  refine ⟨_, _, rfl, by decide, by decide, fun h => ?_⟩
  have hremoved := h.removed (by simp [readOnce]) 5 (by decide)
  exact absurd hremoved (by decide)

end NetworkRtcApp

end RtcVpn
