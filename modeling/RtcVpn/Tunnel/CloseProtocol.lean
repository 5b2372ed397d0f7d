import RtcVpn.Tunnel.Link

/-!
# How a tunnel is closed

Either end may begin to close, or both at once, with frames on their way. As
long as no stream id is used for a second stream, each end sends one `FIN`
frame for a stream at most and none if it has processed the other one's before
its own socket closed, and the server answers a `SYN` frame once at most.
-/

namespace RtcVpn

/-- The stream of a `SYNACK` frame that the host sends. -/
def HostAction.synackId : HostAction → Option UInt32
  | .sendSynack i _ _ => some i
  | _ => none

/-- The stream of a `SYNACK` call. -/
def Call.synackId : Call → Option UInt32
  | .sendSynack i _ _ => some i
  | _ => none

namespace Link

variable {L : Llhttp}

/-- What is promised of the `FIN` and `SYNACK` frames of a run from `start`. Neither end has
anything to close before its tunnel is there, so "before its own socket closed" is that the
browser's socket has not reported its close, and that the tunnel of the stream is live. -/
structure CloseProtocol (start : Link L) (es : List (AppEvent ⊕ HostEvent))
    (out : List (AppAction ⊕ HostAction)) : Prop where
  appFins : ∀ i, ((lefts out).filterMap AppAction.finId).count i ≤ 1
  hostFins : ∀ i, ((rights out).filterMap HostAction.finId).count i ≤ 1
  appYields : ∀ before after data relay i d first c,
    es = before ++ .inl (.message data relay) :: after →
    (link L).run start before = some (d, first) → d.left = .ok c →
    c.association.session.tcpSocket = true → FinFrame data i →
    i ∉ (lefts out).filterMap AppAction.finId
  hostYields : ∀ before after data i k d first h,
    es = before ++ .inr (.message data) :: after →
    (link L).run start before = some (d, first) → d.right = .ok h →
    h.server.LiveTunnel i k → FinFrame data i →
    i ∉ (rights out).filterMap HostAction.finId
  synacks : ∀ i, ((rights out).filterMap HostAction.synackId).count i ≤
    ((rights es).filterMap HostEvent.synId).count i

variable {peerConnId sessionId : UInt32} {a : Association L} {d : Link L}
  {es : List (AppEvent ⊕ HostEvent)} {out : List (AppAction ⊕ HostAction)}

theorem host_fin_ids_eq (as : List HostAction) :
    as.filterMap HostAction.finId =
      (as.filterMap TunnelHost.serverAction).filterMap ServerAction.finId := by
  rw [List.filterMap_filterMap]
  rfl

/-- The streams opened at the server are distinct if those the session asks for are. -/
theorem fresh_at_host (hrun : (link L).run (started peerConnId a sessionId) es = some (d, out))
    (hfresh : ((lefts out).filterMap AppAction.synId).Nodup) :
    ((rights es).filterMap HostEvent.synId).Nodup :=
  (syn_ids_sublist hrun).nodup hfresh

/-- A `FIN` frame reaches the app for a stream only that its session has asked for. -/
theorem fin_of_own_stream (hrun : (link L).run (started peerConnId a sessionId) es = some (d, out))
    {data : Bytes} {relay : Option (AddressV4 × UInt16)} {f : Link L}
    {new : List (AppAction ⊕ HostAction)} {i : UInt32}
    (hstep : (link L).step d (.inl (.message data relay)) = some (f, new))
    (hframe : FinFrame data i) : i ∈ (lefts out).filterMap AppAction.synId := by
  have hmem : AppEvent.message data relay ∈ lefts (es ++ [.inl (.message data relay)]) := by
    simp [lefts]
  have hfin := fin_sent_to_app (Machine.run_snoc.mpr ⟨_, _, _, hrun, hstep, rfl⟩) hmem hframe
  obtain ⟨_, _, acts, -, -, -, rfl⟩ := duplex_step_inl.mp hstep
  rw [rights_append, rights_map_inl, List.append_nil, host_fin_ids_eq] at hfin
  obtain ⟨y, hserver, -⟩ := TunnelHost.server_run (joined_of_run hrun).right
  have hsyn := TunnelServer.fin_of_syn hserver hfin
  rw [TunnelHost.syn_ids_server] at hsyn
  exact (syn_ids_sublist hrun).subset hsyn

/-- An app that has processed a `FIN` frame before the browser's socket closed sends none. -/
theorem app_yields {before after : List (AppEvent ⊕ HostEvent)} {data : Bytes}
    {relay : Option (AddressV4 × UInt16)} {i : UInt32} {first : List (AppAction ⊕ HostAction)}
    {e : Link L} {c : NetworkRtcApp L}
    (hrun : (link L).run (started peerConnId a sessionId)
      (before ++ .inl (.message data relay) :: after) = some (d, out))
    (hbefore : (link L).run (started peerConnId a sessionId) before = some (e, first))
    (hc : e.left = .ok c) (hsocket : c.association.session.tcpSocket = true)
    (hframe : FinFrame data i) : (lefts out).filterMap AppAction.finId = [] := by
  have hsyn : i ∈ (lefts first).filterMap AppAction.synId := by
    obtain ⟨_, _, rest, hbefore', hrest, -⟩ := Machine.run_append.mp hrun
    rw [hbefore] at hbefore'
    cases hbefore'
    obtain ⟨f, new, _, hstep, -, -⟩ := Machine.run_cons.mp hrest
    exact fin_of_own_stream hbefore hstep hframe
  have hleft := (joined_of_run hbefore).left
  rw [hc] at hleft
  have hwhole := (joined_of_run hrun).left
  rw [lefts_append] at hwhole
  exact NetworkRtcApp.no_fin_after_fin hleft hsyn hframe hsocket hwhole

/-- A server that has processed a `FIN` frame while the tunnel was live sends none for it. -/
theorem host_yields {before after : List (AppEvent ⊕ HostEvent)} {data : Bytes} {i : UInt32}
    {k : Nat} {first : List (AppAction ⊕ HostAction)} {e : Link L} {h : TunnelHost}
    (hrun : (link L).run (started peerConnId a sessionId)
      (before ++ .inr (.message data) :: after) = some (d, out))
    (hfresh : ((lefts out).filterMap AppAction.synId).Nodup)
    (hbefore : (link L).run (started peerConnId a sessionId) before = some (e, first))
    (hh : e.right = .ok h) (hlive : h.server.LiveTunnel i k) (hframe : FinFrame data i) :
    i ∉ (rights out).filterMap HostAction.finId := by
  have hids := fresh_at_host hrun hfresh
  have hright := (joined_of_run hbefore).right
  rw [hh] at hright
  have hwhole := (joined_of_run hrun).right
  rw [rights_append] at hwhole hids
  obtain ⟨y, hserver, -⟩ := TunnelHost.server_run hwhole
  obtain ⟨z, hserver', halive⟩ := TunnelHost.server_run hright
  obtain rfl := halive h rfl
  rw [← TunnelHost.syn_ids_server, List.filterMap_append] at hids
  rw [List.filterMap_append] at hserver
  have hsilent := TunnelServer.no_fin_after_fin hserver' hframe hlive hserver hids
  rw [host_fin_ids_eq]
  intro hmem
  obtain ⟨b, hb, hfin⟩ := List.mem_filterMap.mp hmem
  exact hsilent b hb hfin

/-- A target has one result. -/
theorem synacks_of_target {t : Target} {rs : List TargetReport} {acts : List Empty}
    (hrun : target.run {} rs = some (t, acts)) (i : UInt32) (p : Protocol) :
    ((rs.filterMap (TargetReport.call i p)).filterMap Call.synackId).length ≤ 1 := by
  rcases Target.run_calls hrun i p with ⟨-, hcalls, -⟩ | ⟨ok, -, hcalls, -⟩
  · rw [hcalls]
    exact Nat.zero_le 1
  · rw [hcalls]
    simp [Call.synackId, List.filterMap_map, Function.comp_def]

/-- The `SYNACK` frames for a stream are among the replies on it. -/
theorem count_synacks (as : List HostAction) (i : UInt32) :
    (as.filterMap HostAction.synackId).count i =
      ((as.filterMap (HostAction.replyOn i)).filterMap Call.synackId).length := by
  induction as with
  | nil => rfl
  | cons x as ih =>
      cases x with
      | sendSynack j ok protocol =>
          by_cases hj : j = i
          · simp [HostAction.synackId, HostAction.replyOn, Call.synackId, hj, ih]
          · simp [HostAction.synackId, HostAction.replyOn, hj, ih]
      | sendData j data protocol =>
          refine ih.trans ?_
          rw [List.filterMap_cons (l := as), HostAction.replyOn]
          by_cases hj : j = i
          · rw [if_pos hj]
            rfl
          · rw [if_neg hj]
      | server | startReading | stopReading => exact ih

/-- The server answers each `SYN` frame once at most. -/
theorem synacks_le_syns (hrun : (link L).run (started peerConnId a sessionId) es = some (d, out))
    (hfresh : ((lefts out).filterMap AppAction.synId).Nodup) (i : UInt32) :
    ((rights out).filterMap HostAction.synackId).count i ≤
      ((rights es).filterMap HostEvent.synId).count i := by
  obtain ⟨g, hg, -⟩ := TunnelHost.replies_run (joined_of_run hrun).right
  rw [count_synacks]
  by_cases hi : i ∈ g.server.names.map Prod.fst
  · obtain ⟨⟨j, p⟩, hmem, rfl⟩ := List.mem_map.mp hi
    obtain ⟨k, hk⟩ := List.mem_iff_getElem?.mp hmem
    obtain ⟨t, -, htarget⟩ := hg.started k (List.getElem?_eq_some_iff.mp hk).1
    rw [hg.replies (fresh_at_host hrun hfresh) k j p hk]
    refine (synacks_of_target htarget j p).trans ?_
    exact List.count_pos_iff.mpr (hg.streams.subset hi)
  · rw [hg.silent i hi]
    exact Nat.zero_le _

end Link

open Link

/-- Whatever the browser, the target and the peer connection do and however the frames of the two
ends cross, a tunnel is closed by the protocol, if stream ids are not reused. -/
theorem closed_by_protocol {L : Llhttp} {peerConnId number sessionId : UInt32}
    {genStreamId : Nat → UInt32} {readBuf : Nat → UInt8} {remotePort : UInt16}
    {es : List (AppEvent ⊕ HostEvent)} {out : List (AppAction ⊕ HostAction)} {d : Link L}
    (hrun : (link L).run (started peerConnId (.started L number genStreamId readBuf remotePort)
      sessionId) es = some (d, out))
    (hfresh : ((lefts out).filterMap AppAction.synId).Nodup) :
    CloseProtocol (started peerConnId (.started L number genStreamId readBuf remotePort) sessionId)
      es out where
  appFins i := (List.count_le_length).trans (NetworkRtcApp.fins_run (joined_of_run hrun).left)
  hostFins i := by
    obtain ⟨y, hserver, -⟩ := TunnelHost.server_run (joined_of_run hrun).right
    rw [host_fin_ids_eq]
    refine List.nodup_iff_count_le_one.mp ((TunnelServer.history_run hserver).2 ?_) i
    rw [TunnelHost.syn_ids_server]
    exact fresh_at_host hrun hfresh
  appYields before after data relay i d first c hes hbefore hc hsocket hframe := by
    subst hes
    rw [app_yields hrun hbefore hc hsocket hframe]
    exact List.not_mem_nil
  hostYields before after data i k d first h hes hbefore hh hlive hframe := by
    subst hes
    exact host_yields hrun hfresh hbefore hh hlive hframe
  synacks := synacks_le_syns hrun hfresh

/-- A SOCKS5 tunnel that both ends close at once: their `FIN` frames cross. -/
def crossing : List (AppEvent ⊕ HostEvent) :=
  (Socks5Session.socksConnect.map fun e => .inl (.session e)) ++
    [.inr (.message (Call.sendSyn 5 (text "10.0.0.1") 80 .socks5Connect).packed),
      .inr (.target 0 (.connected true)),
      .inl (.message (Call.sendSynack 5 true .socks5Connect).packed none),
      .inl (.session .browserClosed), .inr (.target 0 .closed),
      .inl (.message (Call.sendFin 5 .socks5Connect).packed none),
      .inr (.message (Call.sendFin 5 .socks5Connect).packed)]

theorem closed_by_protocol_crossing :
    ∃ d out, (link .idle).run
        (started 1 (.started .idle 1 (fun _ => 5) (fun _ => 0) 0) 1) crossing = some (d, out) ∧
      ((lefts out).filterMap AppAction.synId).Nodup ∧
      CloseProtocol (started 1 (.started .idle 1 (fun _ => 5) (fun _ => 0) 0) 1) crossing out := by
  obtain ⟨d, out, hrun, hfresh⟩ : ∃ d out, (link .idle).run
      (started 1 (.started .idle 1 (fun _ => 5) (fun _ => 0) 0) 1) crossing = some (d, out) ∧
    ((lefts out).filterMap AppAction.synId).Nodup := ⟨_, _, rfl, by decide⟩
  exact ⟨d, out, hrun, hfresh, closed_by_protocol hrun hfresh⟩

end RtcVpn
