import RtcVpn.Mux.Transparency
import RtcVpn.Server.Targets

/-!
# The frames a target's socket causes

What the server sends on a stream besides its `FIN` frame are the reports of
the one target that the stream has: a `SYNACK` frame for its result, then a
`DATA` frame for each read. `Replies` is the invariant behind this; it holds of
the last host alive if the run has ended in a fault.
-/

namespace RtcVpn

/-- A target's socket as a machine; it takes no action. -/
def target : Machine Target TargetReport Empty where
  step t report := if t.enabled report then some (t.next report, []) else none

/-- The frame sent for a report, on a stream and with its protocol. -/
def TargetReport.call (i : UInt32) (p : Protocol) : TargetReport → Option Call
  | .connected success => some (.sendSynack i success p)
  | .data bytes => some (.sendData i bytes p)
  | _ => none

/-- The frame sent for a target, if it is on the stream. -/
def HostAction.replyOn (i : UInt32) : HostAction → Option Call
  | .sendSynack j ok protocol => if j = i then some (.sendSynack j ok protocol) else none
  | .sendData j data protocol => if j = i then some (.sendData j data protocol) else none
  | _ => none

/-- The bytes that a report hands over. -/
def TargetReport.bytes : TargetReport → Option Bytes
  | .data bytes => some bytes
  | _ => none

/-- A socket reports its result once, and data after a success only. -/
theorem Target.run_calls {t : Target} {rs : List TargetReport} {out : List Empty}
    (hrun : target.run {} rs = some (t, out)) (i : UInt32) (p : Protocol) :
    (t.result = none ∧ rs.filterMap (TargetReport.call i p) = [] ∧
        rs.filterMap TargetReport.bytes = []) ∨
      ∃ ok, t.result = some ok ∧ rs.filterMap (TargetReport.call i p) =
          .sendSynack i ok p :: (rs.filterMap TargetReport.bytes).map (.sendData i · p) ∧
        (ok = false → rs.filterMap TargetReport.bytes = []) := by
  refine Machine.run_induction (m := target) (P := fun rs _ t =>
    (t.result = none ∧ rs.filterMap (TargetReport.call i p) = [] ∧
        rs.filterMap TargetReport.bytes = []) ∨
      ∃ ok, t.result = some ok ∧ rs.filterMap (TargetReport.call i p) =
          .sendSynack i ok p :: (rs.filterMap TargetReport.bytes).map (.sendData i · p) ∧
        (ok = false → rs.filterMap TargetReport.bytes = [])) (.inl ⟨rfl, rfl, rfl⟩) ?_ hrun
  intro rs _ t r u _ _ ih hstep
  have henabled : t.enabled r = true := by
    by_contra hnot
    simp [target, hnot] at hstep
  obtain rfl : t.next r = u := by
    simp only [target, henabled, if_true, Option.some.injEq, Prod.mk.injEq] at hstep
    exact hstep.1
  rw [List.filterMap_append, List.filterMap_append]
  cases r with
  | connected success =>
      rcases ih with ⟨-, hcalls, hbytes⟩ | ⟨ok, hresult, -⟩
      · exact .inr ⟨success, rfl, by simp [hcalls, hbytes, TargetReport.call, TargetReport.bytes],
          fun _ => by simp [hbytes, TargetReport.bytes]⟩
      · simp [Target.enabled, hresult] at henabled
  | data bytes =>
      rcases ih with ⟨hresult, -⟩ | ⟨ok, hresult, hcalls, -⟩
      · simp [Target.enabled, hresult] at henabled
      · refine .inr ⟨ok, hresult, by simp [hcalls, TargetReport.call, TargetReport.bytes], ?_⟩
        rintro rfl
        simp [Target.enabled, hresult] at henabled
  | queue status =>
      rw [show [TargetReport.queue status].filterMap (TargetReport.call i p) = [] from rfl,
        show [TargetReport.queue status].filterMap TargetReport.bytes = [] from rfl,
        List.append_nil, List.append_nil]
      exact ih
  | closed =>
      rw [show [TargetReport.closed].filterMap (TargetReport.call i p) = [] from rfl,
        show [TargetReport.closed].filterMap TargetReport.bytes = [] from rfl,
        List.append_nil, List.append_nil]
      exact ih

/-- The stream an event opens. -/
def HostEvent.synId : HostEvent → Option UInt32
  | .message data => synIdOf data
  | _ => none

/-- The report of a target's socket that an event is. -/
def HostEvent.reportOf (k : Nat) : HostEvent → Option TargetReport
  | .target j report => if j = k then some report else none
  | _ => none

namespace TunnelHost

open Effect

/-- What the server has sent for the targets of its tunnels. -/
structure Replies (es : List HostEvent) (out : List HostAction) (h : TunnelHost) : Prop where
  streams : h.server.names.map Prod.fst <+: es.filterMap HostEvent.synId
  named : ∀ n ∈ h.server.names, ∃ data, .message data ∈ es ∧ TunnelServer.SynFrame data n.1 n.2
  started : ∀ k, k < h.server.names.length → ∃ g, h.targets k = some g ∧
    target.run {} (es.filterMap (HostEvent.reportOf k)) = some (g, [])
  fresh : ∀ k, h.server.names.length ≤ k → h.targets k = none ∧
    es.filterMap (HostEvent.reportOf k) = []
  replies : (es.filterMap HostEvent.synId).Nodup → ∀ k i p, h.server.names[k]? = some (i, p) →
    out.filterMap (HostAction.replyOn i) =
      (es.filterMap (HostEvent.reportOf k)).filterMap (TargetReport.call i p)
  silent : ∀ i, i ∉ h.server.names.map Prod.fst → out.filterMap (HostAction.replyOn i) = []

theorem replies_started (sessionId : UInt32) : Replies [] [] (started sessionId) where
  streams := List.nil_prefix
  named n hn := by cases hn
  started k hk := absurd hk (Nat.not_lt_zero k)
  fresh k _ := ⟨rfl, rfl⟩
  replies _ k i p hk := by cases hk
  silent i _ := rfl

variable {es : List HostEvent} {out new : List HostAction} {h g : TunnelHost}

/-- A step that opens no stream, is no report and sends no reply. -/
theorem Replies.keep {e : HostEvent} (hs : Replies es out h)
    (hnames : g.server.names = h.server.names) (htargets : g.targets = h.targets)
    (he : ∀ k, e.reportOf k = none) (hnew : ∀ i, new.filterMap (HostAction.replyOn i) = []) :
    Replies (es ++ [e]) (out ++ new) g := by
  have hreports : ∀ k, (es ++ [e]).filterMap (HostEvent.reportOf k) =
      es.filterMap (HostEvent.reportOf k) := by
    intro k
    simp [he]
  have hids : es.filterMap HostEvent.synId <+: (es ++ [e]).filterMap HostEvent.synId := by
    rw [List.filterMap_append]
    exact List.prefix_append _ _
  refine ⟨?_, fun n hn => ?_, fun k hk => ?_, fun k hk => ?_, fun hnodup k i p hk => ?_,
    fun i hi => ?_⟩
  · rw [hnames]
    exact hs.streams.trans hids
  · rw [hnames] at hn
    obtain ⟨data, hdata, hframe⟩ := hs.named n hn
    exact ⟨data, List.mem_append_left _ hdata, hframe⟩
  · rw [hnames] at hk
    rw [htargets, hreports]
    exact hs.started k hk
  · rw [hnames] at hk
    rw [htargets, hreports]
    exact hs.fresh k hk
  · rw [hnames] at hk
    rw [List.filterMap_append, hnew, List.append_nil, hreports]
    exact hs.replies (hids.sublist.nodup hnodup) k i p hk
  · rw [hnames] at hi
    rw [List.filterMap_append, hnew, List.append_nil]
    exact hs.silent i hi

/-- A step that opens a stream, whose target has reported nothing. -/
theorem Replies.open {e : HostEvent} {data : Bytes} {i : UInt32} {p : Protocol}
    (hs : Replies es out h) (hids : h.server.names.map Prod.fst = es.filterMap HostEvent.synId)
    (hid : e.synId = some i) (hdata : e = .message data) (hframe : TunnelServer.SynFrame data i p)
    (hnames : g.server.names = h.server.names ++ [(i, p)])
    (htargets : g.targets = Function.update h.targets h.server.names.length (some {}))
    (he : ∀ k, e.reportOf k = none) (hnew : ∀ i, new.filterMap (HostAction.replyOn i) = []) :
    Replies (es ++ [e]) (out ++ new) g := by
  have hreports : ∀ k, (es ++ [e]).filterMap (HostEvent.reportOf k) =
      es.filterMap (HostEvent.reportOf k) := by
    intro k
    simp [he]
  have hgrown : (es ++ [e]).filterMap HostEvent.synId =
      h.server.names.map Prod.fst ++ [i] := by
    rw [List.filterMap_append, hids]
    simp [hid]
  have hlength : g.server.names.length = h.server.names.length + 1 := by
    rw [hnames, List.length_append, List.length_singleton]
  obtain ⟨hnone, hnoreports⟩ := hs.fresh h.server.names.length (Nat.le_refl _)
  refine ⟨?_, fun n hn => ?_, fun k hk => ?_, fun k hk => ?_, fun hnodup k j q hk => ?_,
    fun j hj => ?_⟩
  · rw [hgrown, hnames, List.map_append]
    exact List.prefix_refl _
  · rw [hnames, List.mem_append, List.mem_singleton] at hn
    rcases hn with hn | rfl
    · obtain ⟨data', hdata', hframe'⟩ := hs.named n hn
      exact ⟨data', List.mem_append_left _ hdata', hframe'⟩
    · exact ⟨data, by rw [hdata]; simp, hframe⟩
  · rw [htargets, hreports]
    by_cases hlast : k = h.server.names.length
    · subst hlast
      rw [Function.update_self, hnoreports]
      exact ⟨{}, rfl, rfl⟩
    · rw [Function.update_of_ne hlast]
      exact hs.started k (by omega)
  · rw [htargets, hreports, Function.update_of_ne (by omega)]
    exact hs.fresh k (by omega)
  · rw [hgrown] at hnodup
    rw [List.filterMap_append, hnew, List.append_nil, hreports]
    rw [hnames] at hk
    by_cases hlast : k < h.server.names.length
    · rw [List.getElem?_append_left hlast] at hk
      exact hs.replies (hids ▸ (List.nodup_append.mp hnodup).1) k j q hk
    · rw [List.getElem?_append_right (by omega), List.getElem?_singleton] at hk
      split at hk
      · next hzero =>
          cases hk
          obtain rfl : k = h.server.names.length := by omega
          -- nothing has been sent on a stream that no tunnel had
          rw [hnoreports]
          refine hs.silent i fun hmem => ?_
          exact (List.nodup_append.mp hnodup).2.2 i hmem i (List.mem_singleton_self i) rfl
      · cases hk
  · rw [hnames, List.map_append, List.mem_append, not_or] at hj
    rw [List.filterMap_append, hnew, List.append_nil]
    exact hs.silent j hj.1

/-- A report of a target's socket. -/
theorem Replies.report {k : Nat} {r : TargetReport} (hs : Replies es out h)
    (henabled : (h.targets k).any (·.enabled r) = true)
    (hnames : g.server.names = h.server.names) (htargets : g.targets = (h.reported k r).targets)
    (hnew : ∀ i p, h.server.names[k]? = some (i, p) → ∀ j, new.filterMap (HostAction.replyOn j) =
      if j = i then (r.call i p).toList else []) :
    Replies (es ++ [.target k r]) (out ++ new) g := by
  have hreports : ∀ j, (es ++ [HostEvent.target k r]).filterMap (HostEvent.reportOf j) =
      es.filterMap (HostEvent.reportOf j) ++ if k = j then [r] else [] := by
    intro j
    rw [List.filterMap_append]
    by_cases hj : k = j <;> simp [HostEvent.reportOf, hj]
  have hids : (es ++ [HostEvent.target k r]).filterMap HostEvent.synId =
      es.filterMap HostEvent.synId := by
    rw [List.filterMap_append]
    exact List.append_nil _
  -- the target is that of a tunnel
  have hk : k < h.server.names.length := by
    by_contra hge
    rw [(hs.fresh k (by omega)).1] at henabled
    cases henabled
  obtain ⟨⟨i, p⟩, hname⟩ : ∃ n, h.server.names[k]? = some n :=
    ⟨_, List.getElem?_eq_getElem hk⟩
  obtain ⟨t, ht, hrun⟩ := hs.started k hk
  rw [ht] at henabled
  refine ⟨?_, fun n hn => ?_, fun j hj => ?_, fun j hj => ?_, fun hnodup j i' p' hj => ?_,
    fun j hj => ?_⟩
  · rw [hnames, hids]
    exact hs.streams
  · rw [hnames] at hn
    obtain ⟨data, hdata, hframe⟩ := hs.named n hn
    exact ⟨data, List.mem_append_left _ hdata, hframe⟩
  · rw [hnames] at hj
    rw [htargets, hreports]
    show ∃ g, Function.update h.targets k _ j = some g ∧ _
    by_cases hjk : k = j
    · subst hjk
      rw [Function.update_self, if_pos rfl, ht]
      refine ⟨t.next r, rfl, Machine.run_snoc.mpr ⟨t, [], [], hrun, ?_, rfl⟩⟩
      exact if_pos henabled
    · rw [Function.update_of_ne (Ne.symm hjk), if_neg hjk, List.append_nil]
      exact hs.started j hj
  · rw [hnames] at hj
    have hjk : k ≠ j := by omega
    rw [htargets, hreports, if_neg hjk, List.append_nil]
    show Function.update h.targets k _ j = none ∧ _
    rw [Function.update_of_ne (Ne.symm hjk)]
    exact hs.fresh j hj
  · rw [hids] at hnodup
    rw [hnames] at hj
    rw [List.filterMap_append, hs.replies hnodup j i' p' hj, hreports, List.filterMap_append,
      hnew i p hname]
    congr 1
    by_cases hjk : k = j
    · subst hjk
      rw [hname] at hj
      cases hj
      rw [if_pos rfl, if_pos rfl]
      cases hcall : r.call i p <;> simp [hcall]
    · -- another tunnel has another stream
      have hne : i' ≠ i := by
        rintro rfl
        have hall := hs.streams.sublist.nodup hnodup
        have hj' := congrArg (Option.map Prod.fst) hj
        have hk' := congrArg (Option.map Prod.fst) hname
        rw [← List.getElem?_map] at hj' hk'
        exact hjk ((List.getElem?_inj (by simpa using hk) hall).mp (hk'.trans hj'.symm))
      rw [if_neg hne, if_neg hjk]
      rfl
  · rw [hnames] at hj
    rw [List.filterMap_append, hs.silent j hj, hnew i p hname, List.nil_append, if_neg]
    rintro rfl
    exact hj (List.mem_map.mpr ⟨(j, p), List.mem_of_getElem? hname, rfl⟩)

/-! ## Runs -/

/-- Carrying out the actions of the server sends no reply. -/
theorem reply_on_carried (i : UInt32) (as : List ServerAction) :
    (as.flatMap carriedActions).filterMap (HostAction.replyOn i) = [] := by
  induction as with
  | nil => rfl
  | cons a as ih =>
      rw [List.flatMap_cons, List.filterMap_append, ih]
      cases a <;> rfl

/-- Actions that start no target leave the targets alone. -/
theorem carried_targets {as : List ServerAction}
    (has : ∀ tunnel host port, .startTarget tunnel host port ∉ as) (h : TunnelHost) :
    as.foldl (fun h a => carried a h) h = h := by
  induction as with
  | nil => rfl
  | cons a as ih =>
      have hrest := ih fun tunnel host port hmem =>
        has tunnel host port (List.mem_cons_of_mem a hmem)
      cases a with
      | startTarget tunnel host port => exact absurd List.mem_cons_self (has tunnel host port)
      | _ => exact hrest

/-- The events of the server open the streams that the events of its host do. -/
theorem syn_ids_server (es : List HostEvent) :
    (es.filterMap serverEvent).filterMap ServerEvent.synId = es.filterMap HostEvent.synId := by
  rw [List.filterMap_filterMap]
  congr 1
  funext e
  cases e with
  | target k report => cases report <;> rfl
  | _ => rfl

/-- A message or the close of the peer connection. -/
theorem Replies.server {e : HostEvent} {e' : ServerEvent} {x : Except HostFault TunnelHost}
    (hs : Replies es out h) (hsame : ∀ data, e' = .message data → e = .message data)
    (hsound : TunnelServer.Sound h.server)
    (hhistory : TunnelServer.History (es.filterMap serverEvent)
      (out.filterMap serverAction) h.server)
    (hclosed : ∀ tunnel, e' ≠ .targetClosed tunnel) (hid : e.synId = e'.synId)
    (hreport : ∀ k, e.reportOf k = none) (hx : x = ((onServer e').run h).result.map fun _ =>
      ((onServer e').run h).state) (hnew : new = ((onServer e').run h).actions) :
    ∃ g, Replies (es ++ [e]) (out ++ new) g ∧ ∀ f, x = .ok f → f = g := by
  rw [run_on_server] at hx hnew
  have hsilent : ∀ i, new.filterMap (HostAction.replyOn i) = [] := by
    rw [hnew]
    exact fun i => reply_on_carried i _
  obtain ⟨y, hy⟩ : ∃ y, tunnelServer.step (.ok h.server) e' =
      some (y, ((TunnelServer.handle e').run h.server).actions) := ⟨_, machine_step_ok rfl⟩
  obtain ⟨_, hh, _, hy', _⟩ := machine_step_eq_some hy
  cases hh
  have hmild := TunnelServer.actions_cases hsound hclosed hy
  cases hresult : ((TunnelServer.handle e').run h.server).result with
  | error fault =>
      rw [hresult] at hx hy'
      -- the server has not opened a tunnel, so the state before will do
      refine ⟨h, hs.keep rfl rfl hreport hsilent, fun f hf => ?_⟩
      rw [hx] at hf
      cases hf
  | ok _ =>
      rw [hresult] at hx hy'
      cases hx
      cases hy'
      refine ⟨_, ?_, fun f hf => (Except.ok.inj hf).symm⟩
      rcases hmild with ⟨hmild, hkeep⟩ | ⟨message, i, p, host, port, rfl, hframe, hacts, hu⟩
      · have htargets := carried_targets (fun tunnel host port hmem => hmild _ hmem)
          { h with server := ((TunnelServer.handle e').run h.server).state }
        rw [htargets]
        exact hs.keep (hkeep _ rfl).names rfl hreport hsilent
      · have hid' : e.synId = some i := hid.trans (TunnelServer.syn_id_of_eq_some.mpr ⟨p, hframe⟩)
        have hids : h.server.names.map Prod.fst = es.filterMap HostEvent.synId := by
          rw [← syn_ids_server, ← hhistory.streams, TunnelServer.names, List.map_map]
          rfl
        have hstate : ((TunnelServer.handle (.message message)).run h.server).state =
            h.server.opened i p := Except.ok.inj hu
        rw [hacts]
        dsimp only
        rw [hstate]
        refine hs.open hids hid' (hsame message rfl) hframe ?_ ?_ hreport hsilent
        · rw [carried_server]
          exact List.map_append
        · rw [TunnelServer.names, List.length_map]
          rfl

/-- A report comes from the socket of a tunnel's target. -/
theorem Replies.tunnel_of_enabled {k : Nat} {r : TargetReport} (hs : Replies es out h)
    (henabled : (h.targets k).any (·.enabled r) = true) :
    ∃ t, h.server.tunnels[k]? = some t ∧ h.server.names[k]? = some (t.streamId, t.protocol) := by
  have hk : k < h.server.names.length := by
    by_contra hge
    rw [(hs.fresh k (by omega)).1] at henabled
    cases henabled
  rw [TunnelServer.names, List.length_map] at hk
  refine ⟨h.server.tunnels[k], List.getElem?_eq_getElem hk, ?_⟩
  rw [TunnelServer.names, List.getElem?_map, List.getElem?_eq_getElem hk]
  rfl

/-- What a report of a live tunnel's socket makes the host do, its close aside. -/
theorem run_report_of_tunnel {k : Nat} {r : TargetReport} {t : TunnelSession}
    (ht : h.server.tunnels[k]? = some t) (hr : r ≠ .closed) :
    ∃ result, (onReport k r).run h =
      ⟨h, match r with
        | .connected success => [.sendSynack t.streamId success t.protocol]
        | .data data => [.sendData t.streamId data t.protocol]
        | _ => [], result⟩ := by
  cases r with
  | closed => exact absurd rfl hr
  | queue status => exact ⟨_, rfl⟩
  | connected success => exact ⟨.ok (), by simp [onReport, onConnected, tunnelOf, ht]⟩
  | data data => exact ⟨.ok (), by simp [onReport, onData, tunnelOf, ht]⟩

open TunnelServer in
/-- The close of a target's socket keeps the tunnels' names and starts no target. -/
theorem target_closed_names {s : TunnelServer} (hs : Unclosed s) (k : Nat) :
    ∃ u acts, (targetClosed k).run s = ⟨u, acts, .ok ()⟩ ∧ u.names = s.names ∧
      ∀ tunnel host port, .startTarget tunnel host port ∉ acts := by
  by_cases hlive : ∃ i, LiveTunnel s i k
  · obtain ⟨i, t, j, ht, hid, hinterface⟩ := hlive
    refine ⟨_, _, run_target_closed hs ht hinterface, names_closed ⟨t, j, ht, hid, hinterface⟩, ?_⟩
    split <;> simp
  · exact ⟨_, _, run_target_closed_again hlive, rfl, by simp⟩

open TunnelServer in
/-- The step of a host whose server is in a sound state. -/
theorem Replies.step {e : HostEvent} {x : Except HostFault TunnelHost} (hs : Replies es out h)
    (hsound : Sound h.server)
    (hhistory : History (es.filterMap serverEvent) (out.filterMap serverAction) h.server)
    (hstep : tunnelHost.step (.ok h) e = some (x, new)) :
    ∃ g, Replies (es ++ [e]) (out ++ new) g ∧ ∀ f, x = .ok f → f = g := by
  obtain ⟨_, hh, henabled, hx, hnew⟩ := machine_step_eq_some hstep
  cases hh
  cases e with
  | message data =>
      have hsame : ∀ m, ServerEvent.message data = .message m →
          HostEvent.message data = .message m :=
        fun m hm => congrArg HostEvent.message (ServerEvent.message.inj hm)
      exact hs.server hsame hsound hhistory nofun rfl (fun _ => rfl) hx hnew
  | controllerClosed =>
      have hsame : ∀ m, ServerEvent.controllerClosed = .message m →
          HostEvent.controllerClosed = .message m := nofun
      exact hs.server hsame hsound hhistory nofun rfl (fun _ => rfl) hx hnew
  | target k r =>
      obtain ⟨t, ht, hname⟩ := hs.tunnel_of_enabled henabled
      by_cases hclosed : r = .closed
      · subst hclosed
        obtain ⟨s, acts, hserver, hnames, hacts⟩ := target_closed_names hhistory.unclosed k
        have hrun : (handle (.target k .closed)).run h = _ :=
          run_on_server (.targetClosed k) (h.reported k .closed)
        rw [hrun] at hx hnew
        have hclosed : (TunnelServer.handle (.targetClosed k)).run (h.reported k .closed).server =
            ⟨s, acts, .ok ()⟩ := hserver
        rw [hclosed] at hx hnew
        refine ⟨_, hs.report henabled (?_ : TunnelServer.names (TunnelHost.server _) = _) ?_
          fun i p _ j => ?_, fun f hf => (Except.ok.inj (hx.symm.trans hf)).symm⟩
        · rw [carried_server]
          exact hnames
        · rw [carried_targets hacts]
        · rw [hnew, reply_on_carried]
          exact (ite_self []).symm
      · obtain ⟨result, hreport⟩ := run_report_of_tunnel (h := h.reported k r) ht hclosed
        have hrun : (handle (.target k r)).run h = (onReport k r).run (h.reported k r) := rfl
        rw [hrun, hreport] at hx hnew
        refine ⟨h.reported k r, hs.report henabled rfl rfl fun i p hip j => ?_, fun f hf => ?_⟩
        · rw [hname] at hip
          cases hip
          rw [hnew]
          cases r with
          | closed => exact absurd rfl hclosed
          | queue status => simp [TargetReport.call]
          | connected success | data data =>
              rcases eq_or_ne j t.streamId with rfl | hj
              · simp [HostAction.replyOn, TargetReport.call]
              · simp [HostAction.replyOn, hj, hj.symm]
        · rw [hx] at hf
          cases result with
          | ok _ => cases hf; rfl
          | error _ => cases hf

/-- A live host's server, with the events and the actions that are its own. -/
theorem server_run_alive {sessionId : UInt32}
    (hrun : tunnelHost.run (.ok (started sessionId)) es = some (.ok h, out)) :
    TunnelServer.Sound h.server ∧
      TunnelServer.History (es.filterMap serverEvent) (out.filterMap serverAction) h.server := by
  obtain ⟨y, hy, halive⟩ := server_run hrun
  obtain rfl := halive h rfl
  exact ⟨TunnelServer.sound_run (TunnelServer.sound_started sessionId) hy,
    (TunnelServer.history_run hy).1 _ rfl⟩

/-- What a run has sent for the targets of its tunnels, even if it ended in a fault. -/
theorem replies_run {sessionId : UInt32} {x : Except HostFault TunnelHost}
    (hrun : tunnelHost.run (.ok (started sessionId)) es = some (x, out)) :
    ∃ g, Replies es out g ∧ ∀ h, x = .ok h → h = g := by
  refine Machine.run_induction (m := tunnelHost) (P := fun es out x =>
    ∃ g, Replies es out g ∧ ∀ h, x = .ok h → h = g) ?_ ?_ hrun
  · refine ⟨_, replies_started sessionId, ?_⟩
    rintro h ⟨⟩
    rfl
  · intro es out x e y new hbefore ih hstep
    obtain ⟨h, rfl, _, _, _⟩ := machine_step_eq_some hstep
    obtain ⟨g, hg, halive⟩ := ih
    obtain rfl := halive h rfl
    obtain ⟨hsound, hhistory⟩ := server_run_alive hbefore
    exact hg.step hsound hhistory hstep

end TunnelHost

end RtcVpn
