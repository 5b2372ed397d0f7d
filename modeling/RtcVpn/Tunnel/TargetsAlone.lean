import RtcVpn.Server.TunnelsAlone
import RtcVpn.Tunnel.TargetSockets

/-!
# The targets of some streams

The tunnels that are mine with the sockets of their targets: what the host does
for them is what a host does that has no other tunnels. A target reports to both
hosts alike, each under its number there.
-/

namespace RtcVpn

namespace TunnelHost

open Effect Selection

variable {mine : UInt32 → Bool} {ids : List UInt32} {h g : TunnelHost}

/-- What an action is for the tunnels that are mine. -/
def mineAction (mine : UInt32 → Bool) (ids : List UInt32) : HostAction → Option HostAction
  | .server action => (TunnelServer.mineAction mine ids action).map .server
  | .startReading k => if selects mine ids k then some (.startReading (number mine ids k)) else none
  | .stopReading k => if selects mine ids k then some (.stopReading (number mine ids k)) else none
  | .sendSynack i ok protocol => if mine i then some (.sendSynack i ok protocol) else none
  | .sendData i data protocol => if mine i then some (.sendData i data protocol) else none

/-- What an event is for the tunnels that are mine. -/
def mineEvent (mine : UInt32 → Bool) (ids : List UInt32) : HostEvent → Option HostEvent
  | .message data => if meantFor mine data then some (.message data) else none
  | .target k report =>
      if selects mine ids k then some (.target (number mine ids k) report) else none
  | .controllerClosed => some .controllerClosed

/-- The targets of the tunnels that are mine have the same state. -/
def SameTargets (mine : UInt32 → Bool) (ids : List UInt32) (h g : TunnelHost) : Prop :=
  ∀ k, selects mine ids k = true → g.targets (number mine ids k) = h.targets k

/-- `g` is what `h` is for the tunnels that are mine. -/
structure Restricts (mine : UInt32 → Bool) (ids : List UInt32) (h g : TunnelHost) : Prop where
  sound : TunnelServer.Sound h.server
  unclosed : TunnelServer.Unclosed h.server
  server : TunnelServer.Restricts mine ids h.server g.server
  targets : SameTargets mine ids h g
  fresh : ∀ k, h.server.tunnels.length ≤ k → h.targets k = none

theorem restricts_started (mine : UInt32 → Bool) (ids : List UInt32) (sessionId : UInt32) :
    Restricts mine ids (started sessionId) (started sessionId) where
  sound := TunnelServer.sound_started sessionId
  unclosed k i c d hk := by cases hk
  server := TunnelServer.restricts_started mine ids sessionId
  targets _ _ := rfl
  fresh _ _ := rfl

/-! ## Targets that change -/

/-- A target of a tunnel that is mine changes in both hosts, another one in the host only. -/
theorem SameTargets.update (hsame : SameTargets mine ids h g) (k : Nat) (t : Option Target) :
    SameTargets mine ids { h with targets := Function.update h.targets k t }
      (if selects mine ids k then
        { g with targets := Function.update g.targets (number mine ids k) t }
      else g) := by
  intro j hj
  dsimp only
  by_cases hjk : j = k
  · subst hjk
    rw [if_pos hj, Function.update_self]
    exact Function.update_self _ _ _
  · rw [Function.update_of_ne hjk]
    split
    · next hk =>
        show Function.update g.targets (number mine ids k) t (number mine ids j) = _
        rw [Function.update_of_ne (number_ne hj hk hjk), hsame j hj]
    · exact hsame j hj

/-- What the host carries out for its server. -/
theorem SameTargets.carried (hsame : SameTargets mine ids h g) (as : List ServerAction) :
    SameTargets mine ids (as.foldl (fun h a => TunnelHost.carried a h) h)
      ((as.filterMap (TunnelServer.mineAction mine ids)).foldl
        (fun h a => TunnelHost.carried a h) g) := by
  induction as generalizing h g with
  | nil => exact hsame
  | cons a as ih =>
      have hfirst : SameTargets mine ids (TunnelHost.carried a h)
          ((TunnelServer.mineAction mine ids a).toList.foldl
            (fun h a => TunnelHost.carried a h) g) := by
        cases a with
        | startTarget k host port =>
            have hupdate := hsame.update k (some {})
            rw [TunnelServer.mineAction]
            by_cases hk : selects mine ids k = true
            · rw [if_pos hk] at hupdate ⊢
              exact hupdate
            · rw [if_neg hk] at hupdate ⊢
              exact hupdate
        | revP2pData k | closeTarget k | startReceive k | pauseReceive k =>
            by_cases hk : selects mine ids k = true <;> simpa [TunnelServer.mineAction, hk]
        | sendFin i =>
            by_cases hi : mine i = true <;> simpa [TunnelServer.mineAction, hi]
        | startTimer => exact hsame
      have hlater := ih hfirst
      rw [List.foldl_cons]
      cases ha : TunnelServer.mineAction mine ids a with
      | none =>
          rw [List.filterMap_cons_none ha]
          rwa [ha] at hlater
      | some b =>
          rw [List.filterMap_cons_some ha, List.foldl_cons]
          rwa [ha] at hlater

/-- The actions that are carried out. -/
theorem mine_carried (as : List ServerAction) :
    (as.flatMap carriedActions).filterMap (mineAction mine ids) =
      (as.filterMap (TunnelServer.mineAction mine ids)).flatMap carriedActions := by
  induction as with
  | nil => rfl
  | cons a as ih =>
      have hfirst : (carriedActions a).filterMap (mineAction mine ids) =
          (TunnelServer.mineAction mine ids a).toList.flatMap carriedActions := by
        cases a with
        | startTarget k | revP2pData k | closeTarget k | startReceive k | pauseReceive k =>
            by_cases hk : selects mine ids k = true <;>
              simp [carriedActions, mineAction, TunnelServer.mineAction, hk]
        | sendFin i =>
            by_cases hi : mine i = true <;>
              simp [carriedActions, mineAction, TunnelServer.mineAction, hi]
        | startTimer => rfl
      rw [List.flatMap_cons, List.filterMap_append, hfirst, ih]
      cases ha : TunnelServer.mineAction mine ids a with
      | none => rw [List.filterMap_cons_none ha]; rfl
      | some b => rw [List.filterMap_cons_some ha, List.flatMap_cons]; simp

/-! ## Events -/

namespace Restricts

variable {h' : TunnelHost} {out : List HostAction}

/-- Targets are started for tunnels that are made. -/
theorem fresh_carried {as : List ServerAction} {s : TunnelServer}
    (hfresh : ∀ k, h.server.tunnels.length ≤ k → h.targets k = none)
    (hstarted : (as.filterMap ServerAction.startedTunnel = [] ∧
        s.tunnels.length = h.server.tunnels.length) ∨
      as.filterMap ServerAction.startedTunnel = [h.server.tunnels.length] ∧
        s.tunnels.length = h.server.tunnels.length + 1) (k : Nat) (hk : s.tunnels.length ≤ k) :
    (as.foldl (fun h a => TunnelHost.carried a h) { h with server := s }).targets k = none := by
  have htargets : ∀ (as : List ServerAction) (f : TunnelHost),
      k ∉ as.filterMap ServerAction.startedTunnel →
      (as.foldl (fun h a => TunnelHost.carried a h) f).targets k = f.targets k := by
    intro as f hnot
    induction as generalizing f with
    | nil => rfl
    | cons a as ih =>
        rw [List.foldl_cons]
        cases a with
        | startTarget j host port =>
            obtain ⟨hj, hrest⟩ := not_or.mp (mt List.mem_cons.mpr hnot)
            rw [ih _ hrest]
            exact Function.update_of_ne hj _ _
        | _ => exact ih f hnot
  rcases hstarted with ⟨hnone, hlength⟩ | ⟨hone, hlength⟩
  · rw [htargets as _ (by rw [hnone]; exact List.not_mem_nil)]
    exact hfresh k (by omega)
  · rw [htargets as _ (by rw [hone, List.mem_singleton]; omega)]
    exact hfresh k (by omega)

/-- A handler of the server within its host. -/
theorem on_server (hrel : Restricts mine ids h g) {e : ServerEvent}
    (he : ∀ k, e = .targetClosed k → k < h.server.tunnels.length)
    (hrun : (onServer e).run h = ⟨h', out, .ok ()⟩) (hmade : h'.server.streamIds <+: ids) :
    Responds (fun _ _ => true) onServer (Restricts mine ids h') g
      (out.filterMap (mineAction mine ids)) (TunnelServer.mineEvent mine ids e) := by
  rw [run_on_server] at hrun
  generalize hserver : (TunnelServer.handle e).run h.server = o at hrun
  obtain ⟨s, as, result⟩ := o
  cases result with
  | error fault => cases hrun
  | ok _ =>
      cases hrun
      rw [carried_server] at hmade
      have hstep : tunnelServer.step (.ok h.server) e = some (.ok s, as) := by
        rw [tunnelServer, machine_step_ok rfl, hserver]
        rfl
      have hsound := TunnelServer.sound_step hrel.sound hstep
      have hunclosed : TunnelServer.Unclosed s := by
        rcases TunnelServer.step_cases hrel.sound hrel.unclosed hstep with
          ⟨_, _, _, _, _, _, rfl⟩ | ⟨_, _, _, _, rfl⟩ | ⟨_, hkeep⟩
        · exact TunnelServer.unclosed_opened hrel.unclosed
        · exact TunnelServer.unclosed_closed hrel.unclosed
        · exact hkeep.unclosed hrel.unclosed
      have hfresh := fresh_carried hrel.fresh (by
        rcases TunnelServer.started_step hrel.sound hrel.unclosed hstep with
          ⟨hnone, hlength⟩ | ⟨hone, hlength⟩
        · exact .inl ⟨hnone, hlength s rfl⟩
        · exact .inr ⟨hone, hlength s rfl⟩)
      have hmoves := TunnelServer.moves_handle hrel.server hrel.sound hrel.unclosed he hserver hmade
      have hend : ∀ t, TunnelServer.Restricts mine ids s t → Restricts mine ids
          (as.foldl (fun h a => carried a h) { h with server := s })
          ((as.filterMap (TunnelServer.mineAction mine ids)).foldl (fun h a => carried a h)
            { g with server := t }) := by
        intro t ht
        have hsame : SameTargets mine ids { h with server := s } { g with server := t } :=
          hrel.targets
        refine ⟨?_, ?_, ?_, hsame.carried as, ?_⟩
        · rwa [carried_server]
        · rwa [carried_server]
        · rwa [carried_server, carried_server]
        · rw [carried_server]
          exact hfresh
      rw [mine_carried]
      cases hevent : TunnelServer.mineEvent mine ids e with
      | some f =>
          rw [hevent] at hmoves
          obtain ⟨-, t, ht, hrestricts⟩ := hmoves
          refine ⟨rfl, _, ?_, hend t hrestricts⟩
          rw [run_on_server, ht]
          rfl
      | none =>
          rw [hevent] at hmoves
          obtain ⟨hnone, hrestricts⟩ := hmoves
          have hsame := hend g.server hrestricts
          rw [hnone] at hsame ⊢
          exact ⟨rfl, hsame⟩

/-- Both hosts once a target's socket has reported. -/
theorem report (hrel : Restricts mine ids h g) (k : Nat) (r : TargetReport) :
    Restricts mine ids (h.reported k r)
      (if selects mine ids k then g.reported (number mine ids k) r else g) := by
  have hupdate := hrel.targets.update k ((h.targets k).map (·.next r))
  have hfresh : ∀ j, (h.reported k r).server.tunnels.length ≤ j →
      (h.reported k r).targets j = none := by
    intro j hj
    show Function.update h.targets k ((h.targets k).map (·.next r)) j = none
    by_cases hjk : j = k
    · subst hjk
      rw [Function.update_self, hrel.fresh j hj]
      rfl
    · rw [Function.update_of_ne hjk]
      exact hrel.fresh j hj
  by_cases hk : selects mine ids k = true
  · rw [if_pos hk] at hupdate ⊢
    refine ⟨hrel.sound, hrel.unclosed, hrel.server, ?_, hfresh⟩
    have hsame : g.reported (number mine ids k) r =
        ⟨g.server, Function.update g.targets (number mine ids k)
          ((h.targets k).map (·.next r))⟩ := by
      rw [reported, hrel.targets k hk]
    rw [hsame]
    exact hupdate
  · rw [if_neg hk] at hupdate ⊢
    exact ⟨hrel.sound, hrel.unclosed, hrel.server, hupdate, hfresh⟩

/-- The report of a target, its close aside, of a tunnel that has been made. -/
theorem on_report (hrel : Restricts mine ids h g) {k : Nat} {r : TargetReport} {t : TunnelSession}
    (ht : h.server.tunnels[k]? = some t) (hr : r ≠ .closed)
    (hrun : (onReport k r).run h = ⟨h', out, .ok ()⟩) :
    h' = h ∧ if mine t.streamId then
        (onReport (number mine ids k) r).run g =
          ⟨g, out.filterMap (mineAction mine ids), .ok ()⟩
      else out.filterMap (mineAction mine ids) = [] := by
  cases r with
  | closed => exact absurd rfl hr
  | queue status => cases hrun
  | connected success | data bytes =>
      simp only [onReport, onConnected, onData, tunnelOf, run_bind, run_get, andThen_ok, ht,
        run_pure, run_emit] at hrun
      cases hrun
      refine ⟨rfl, ?_⟩
      by_cases hmine : mine t.streamId = true
      · rw [if_pos hmine]
        simp [onReport, onConnected, onData, tunnelOf, hrel.server.get ht hmine, mineAction, hmine]
      · rw [if_neg hmine]
        simp [mineAction, hmine]

end Restricts

/-- An event of the host. -/
theorem moves_handle (hrel : Restricts mine ids h g) {e : HostEvent} (henabled : enabled h e = true)
    {h' : TunnelHost} {out : List HostAction} (hrun : (handle e).run h = ⟨h', out, .ok ()⟩)
    (hmade : h'.server.streamIds <+: ids) :
    Responds enabled handle (Restricts mine ids h') g (out.filterMap (mineAction mine ids))
      (mineEvent mine ids e) := by
  cases e with
  | message data =>
      have hmoves := hrel.on_server (e := .message data) (fun k hk => by cases hk) hrun hmade
      rw [mineEvent]
      rw [TunnelServer.mineEvent] at hmoves
      split
      · next hmeant =>
          rw [if_pos hmeant] at hmoves
          exact ⟨rfl, hmoves.2⟩
      · next hmeant =>
          rw [if_neg hmeant] at hmoves
          exact hmoves
  | controllerClosed =>
      have hmoves := hrel.on_server (e := .controllerClosed) (fun k hk => by cases hk) hrun hmade
      exact ⟨rfl, hmoves.2⟩
  | target k r =>
      have hk : k < h.server.tunnels.length := by
        by_contra hge
        have hnone := hrel.fresh k (by omega)
        simp [enabled, hnone] at henabled
      have ht := List.getElem?_eq_getElem hk
      have hselects := hrel.server.selects_eq ht
      have hreport := hrel.report k r
      rw [mineEvent, hselects]
      rw [hselects] at hreport
      by_cases hmine : mine h.server.tunnels[k].streamId = true
      · rw [if_pos hmine] at hreport ⊢
        have henabled' : enabled g (.target (number mine ids k) r) = true := by
          rw [enabled, hrel.targets k (hselects.trans hmine)]
          exact henabled
        refine ⟨henabled', ?_⟩
        by_cases hr : r = .closed
        · subst hr
          have hmoves := hreport.on_server (e := .targetClosed k)
            (fun j hj => by cases hj; exact hk) hrun hmade
          rw [TunnelServer.mineEvent, hselects, if_pos hmine] at hmoves
          exact hmoves.2
        · obtain ⟨rfl, hsame⟩ := hreport.on_report ht hr hrun
          rw [if_pos hmine] at hsame
          exact ⟨_, hsame, hreport⟩
      · rw [if_neg hmine] at hreport ⊢
        by_cases hr : r = .closed
        · subst hr
          have hmoves := hreport.on_server (e := .targetClosed k)
            (fun j hj => by cases hj; exact hk) hrun hmade
          rw [TunnelServer.mineEvent, hselects, if_neg hmine] at hmoves
          exact hmoves
        · obtain ⟨rfl, hsame⟩ := hreport.on_report ht hr hrun
          rw [if_neg hmine] at hsame
          exact ⟨hsame, hreport⟩

/-- The host projects onto the host of the tunnels that are mine, as long as it is alive and its
tunnels are for the streams `ids`. -/
theorem mine_by (mine : UInt32 → Bool) (ids : List UInt32) :
    tunnelHost.Projects tunnelHost (onAlive fun _ => mineEvent mine ids) (mineAction mine ids)
      (Alive (Restricts mine ids)) (aliveCovers fun _ _ h' _ => h'.server.streamIds <+: ids) := by
  refine projects fun {h h' g e out} hrel henabled hrun hmade => ?_
  exact moves_handle hrel henabled hrun hmade

/-! ## Runs -/

variable {sessionId : UInt32} {es : List HostEvent} {out : List HostAction}

/-- The streams of the tunnels are those that have been opened. -/
theorem made_of_run {x : Except HostFault TunnelHost}
    (hrun : tunnelHost.run (.ok (started sessionId)) es = some (x, out)) (hx : x = .ok h)
    (hids : es.filterMap HostEvent.synId <+: ids) : h.server.streamIds <+: ids := by
  obtain ⟨f, hreplies, halive⟩ := replies_run hrun
  obtain rfl := halive h hx
  have hstreams := hreplies.streams
  rw [TunnelServer.names, List.map_map] at hstreams
  exact hstreams.trans hids

theorem restricts_run (mine : UInt32 → Bool)
    (hrun : tunnelHost.run (.ok (started sessionId)) es = some (.ok h, out))
    (hids : es.filterMap HostEvent.synId <+: ids) :
    ∃ g, tunnelHost.run (.ok (started sessionId)) (es.filterMap (mineEvent mine ids)) =
      some (.ok g, out.filterMap (mineAction mine ids)) ∧ Restricts mine ids h g := by
  refine alive_induction (P := fun es out h => es.filterMap HostEvent.synId <+: ids →
    ∃ g, tunnelHost.run (.ok (started sessionId)) (es.filterMap (mineEvent mine ids)) =
      some (.ok g, out.filterMap (mineAction mine ids)) ∧ Restricts mine ids h g) ?_ ?_ hrun hids
  · exact fun _ => ⟨_, rfl, restricts_started mine ids sessionId⟩
  · intro es out h e h' new hes ih henabled hnew hids
    have hstep : tunnelHost.step (.ok h) e = some (.ok h', new) := by
      rw [tunnelHost, machine_step_ok henabled, hnew]
      rfl
    have hmade := made_of_run (Machine.run_snoc.mpr ⟨_, _, _, hes, hstep, rfl⟩) rfl hids
    rw [List.filterMap_append] at hids
    obtain ⟨g, hg, hrel⟩ := ih ((List.prefix_append _ _).trans hids)
    have hmoves := moves_handle hrel henabled hnew hmade
    rw [List.filterMap_append, List.filterMap_append]
    cases hevent : mineEvent mine ids e with
    | none =>
        rw [hevent] at hmoves
        obtain ⟨hnone, hrel'⟩ := hmoves
        refine ⟨g, ?_, hrel'⟩
        rw [hnone, List.filterMap_cons_none hevent, List.filterMap_nil, List.append_nil,
          List.append_nil]
        exact hg
    | some f =>
        rw [hevent] at hmoves
        obtain ⟨henabled', g', hrun', hrel'⟩ := hmoves
        refine ⟨g', ?_, hrel'⟩
        rw [List.filterMap_cons_some hevent, List.filterMap_nil]
        refine Machine.run_snoc.mpr ⟨_, _, _, hg, ?_, rfl⟩
        rw [tunnelHost, machine_step_ok henabled', hrun']
        rfl

end TunnelHost

open TunnelHost in
/-- The tunnels of some streams, with their targets, go through the run that they would go through
on a server that has no other tunnels. -/
theorem tunnels_alone {sessionId : UInt32} {h : TunnelHost} {es : List HostEvent}
    {out : List HostAction} (mine : UInt32 → Bool)
    (hrun : tunnelHost.run (.ok (.started sessionId)) es = some (.ok h, out)) :
    ∃ g, tunnelHost.run (.ok (.started sessionId))
        (es.filterMap (mineEvent mine (es.filterMap HostEvent.synId))) =
      some (.ok g, out.filterMap (mineAction mine (es.filterMap HostEvent.synId))) ∧
      g.server.tunnels = h.server.tunnels.filter (fun u => mine u.streamId) ∧
      ∀ k, Selection.selects mine (es.filterMap HostEvent.synId) k = true →
        g.targets (Selection.number mine (es.filterMap HostEvent.synId) k) = h.targets k := by
  obtain ⟨g, hg, hrel⟩ := restricts_run mine hrun List.prefix_rfl
  exact ⟨g, hg, hrel.server.tunnels, hrel.targets⟩

/-- The message that opens a tunnel to a port of 10.0.0.1. -/
def openingMessage (i : UInt32) (port : UInt16) : Bytes :=
  (Call.sendSyn i (text "10.0.0.1") port .socks5Connect).packed

/-- Three tunnels, of which the first one and the last one are closed and the second one reports. -/
def threeTunnels : List HostEvent :=
  [.message (openingMessage 5 80), .message (openingMessage 6 81), .target 0 (.connected true),
    .target 0 .closed, .message (openingMessage 7 82), .target 1 (.connected true),
    .message (Call.sendFin 7 .socks5Connect).packed, .target 1 (.data [1])]

/-- The second one alone. -/
theorem tunnels_alone_one :
    ∃ h out g, tunnelHost.run (.ok (.started 1)) threeTunnels = some (.ok h, out) ∧
      tunnelHost.run (.ok (.started 1)) (threeTunnels.filterMap
          (TunnelHost.mineEvent (· == 6) (threeTunnels.filterMap HostEvent.synId))) =
        some (.ok g, [.server (.startTarget 0 (text "10.0.0.1") 81),
          .sendSynack 6 true .socks5Connect, .sendData 6 [1] .socks5Connect]) ∧
      g.server.tunnels = h.server.tunnels.filter (fun u => u.streamId == 6) := by
  obtain ⟨h, out, hrun, hout⟩ : ∃ h out,
      tunnelHost.run (.ok (.started 1)) threeTunnels = some (.ok h, out) ∧
        out.filterMap (TunnelHost.mineAction (· == 6) (threeTunnels.filterMap HostEvent.synId)) =
          [.server (.startTarget 0 (text "10.0.0.1") 81), .sendSynack 6 true .socks5Connect,
            .sendData 6 [1] .socks5Connect] := ⟨_, _, rfl, rfl⟩
  obtain ⟨g, hg, htunnels, -⟩ := tunnels_alone (· == 6) hrun
  rw [hout] at hg
  exact ⟨h, out, g, hrun, hg, htunnels⟩

end RtcVpn
