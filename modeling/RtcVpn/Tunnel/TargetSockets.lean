import RtcVpn.Server.TargetSocket
import RtcVpn.Tunnel.BackPressure

/-!
# The sockets of the targets

In a run of the host each target has a `TcpSocket` whose callbacks are what the
target reports. `TcpSession::start` has it connect, once for each tunnel, and
only a `DATA_CTRL` frame has it start reading again. In a run without such
frames the data reported is what has been read, in order and up to a point.
-/

namespace RtcVpn

/-- The tunnel whose target is started. -/
def ServerAction.startedTunnel : ServerAction → Option Nat
  | .startTarget tunnel _ _ => some tunnel
  | _ => none

/-- The tunnel whose target is started. -/
def HostAction.startedTunnel (a : HostAction) : Option Nat :=
  (TunnelHost.serverAction a).bind ServerAction.startedTunnel

/-- The tasks of the socket of a target in a run of the host: what the target reports are the
callbacks of its socket, which is told to connect when the target is started and to read again when
the host says so. -/
structure SocketTasks (k : Nat) (tasks : List TcpEvent) (es : List HostEvent)
    (out : List HostAction) : Prop where
  reports : ∃ x acts, tcpSocket.run (.ok (TcpSocket.unconnected {})) tasks = some (x, acts) ∧
    es.filterMap (HostEvent.reportOf k) <+: acts.filterMap TcpAction.report
  connects : TcpSocket.connectsOf tasks ≤ (out.filterMap HostAction.startedTunnel).count k
  resumes : (∃ e ∈ tasks, e.resumes = true) → .startReading k ∈ out

/-- A callback for control frames is called at a `DATA_CTRL` frame. -/
theorem SessionMux.data_ctrl_of_upcall {mux : SessionMux} {message : Bytes} {session : Session}
    {ctrl : CtrlType} {protocol : Protocol}
    (h : mux.onMessage message = .ok (some (.onDataCtrl session ctrl protocol))) :
    ∃ i, DataCtrlFrame message i ctrl := by
  rcases mux.on_message_cases message with
    hnone | ⟨header, payload, hframe, ⟨_, _, _, _, hopen⟩ | ⟨s, -, hsession⟩⟩
  · rw [hnone] at h
    cases h
  · rw [hopen] at h
    cases h
  · rcases hsession with ⟨_, _, hupcall⟩ | hupcall | ⟨-, hupcall⟩ |
      ⟨byte, rest, htype, rfl, hupcall⟩ <;> rw [hupcall] at h <;> cases h
    exact ⟨header.streamId, header, byte, rest, hframe, htype, rfl, rfl⟩

namespace TunnelServer

open Effect

/-- Any action but that a target is to be read again. -/
def NoReceive : ServerAction → Prop
  | .startReceive _ => False
  | _ => True

/-- Only a `DATA_CTRL` frame has a target read again. -/
theorem no_receive_on_message {message : Bytes}
    (h : ∀ i ctrl, ¬ DataCtrlFrame message i ctrl) :
    Respects (fun _ => True) NoReceive (onMessage message) := by
  have huse : ∀ {tunnel : Nat} {a : ServerAction}, NoReceive a →
      Respects (fun _ => True) NoReceive (do
        let _ ← interfaceOf tunnel
        emit a : ServerHandler) :=
    fun ha => (respects_interface_of _).bind fun _ => .emit ha
  refine Respects.get.bind fun s => ?_
  rcases hmessage : s.mux.onMessage message with fault | _ | upcall
  · exact .fail _
  · exact .pure ()
  · cases upcall with
    | onSyn i host port protocol =>
        exact Respects.get.bind fun _ => (Respects.modify fun _ _ => trivial).bind fun _ =>
          Respects.bind ((Respects.modify fun _ _ => trivial).bind fun _ =>
            (respects_interface_of _).bind fun _ => .pure ()) fun _ => huse trivial
    | onSynack session ok protocol => exact .pure ()
    | onData session payload protocol =>
        refine Respects.get.bind fun u => ?_
        cases protocol with
        | unknown | other => exact .pure ()
        | _ => exact huse trivial
    | onClose session protocol =>
        exact Respects.get.bind fun _ => respects_close (fun _ => trivial) _
    | onDataCtrl session ctrl protocol =>
        obtain ⟨i, hframe⟩ := SessionMux.data_ctrl_of_upcall hmessage
        exact absurd hframe (h i ctrl)

/-- The close of a target's socket has none read again. -/
theorem no_receive_target_closed (tunnel : Nat) :
    Respects (fun _ => True) NoReceive (targetClosed tunnel) := by
  refine Respects.get.bind fun s => ?_
  cases s.tunnels[tunnel]? with
  | none => exact .pure ()
  | some t =>
      dsimp only
      cases t.sessionInterface with
      | none => exact .pure ()
      | some i =>
          have hclose : Respects (fun _ => True) NoReceive
              (closeFunc tunnel t.streamId t.isClosed) :=
            .bind (.modify fun _ _ => trivial) fun _ => .ite (.pure ()) <|
              .bind (.modify fun _ _ => trivial) fun _ =>
                .bind (.modify fun _ _ => trivial) fun _ => .modify fun _ _ => trivial
          refine .ite (.pure ()) (.ite (.bind (.emit trivial) fun _ => ?_) ?_)
          · exact .bind (.modify fun _ _ => trivial) fun _ => hclose
          · exact .bind (.modify fun _ _ => trivial) fun _ => hclose

/-- Only a `DATA_CTRL` frame has a target read again. -/
theorem no_receive {e : ServerEvent}
    (h : ∀ data, e = .message data → ∀ i ctrl, ¬ DataCtrlFrame data i ctrl) :
    Respects (fun _ => True) NoReceive (handle e) := by
  cases e with
  | message data => exact no_receive_on_message (h data rfl)
  | targetClosed tunnel => exact no_receive_target_closed tunnel
  | controllerClosed => exact respects_controller_closed trivial fun _ => trivial

variable {sessionId : UInt32} {es : List ServerEvent} {out new : List ServerAction}
  {s : TunnelServer} {e : ServerEvent} {x : Except ServerFault TunnelServer}

/-- A step starts the target of the tunnel that it makes, or none. -/
theorem started_step (hs : Sound s) (hunclosed : Unclosed s)
    (hstep : tunnelServer.step (.ok s) e = some (x, new)) :
    (new.filterMap ServerAction.startedTunnel = [] ∧
        ∀ u, x = .ok u → u.tunnels.length = s.tunnels.length) ∨
      new.filterMap ServerAction.startedTunnel = [s.tunnels.length] ∧
        ∀ u, x = .ok u → u.tunnels.length = s.tunnels.length + 1 := by
  have hlength : ∀ u : TunnelServer, u.names = s.names → u.tunnels.length = s.tunnels.length := by
    intro u hu
    simpa [names] using congrArg List.length hu
  by_cases hclosed : ∃ k, e = .targetClosed k
  · obtain ⟨k, rfl⟩ := hclosed
    obtain ⟨u, acts, hrun, hnames, hacts⟩ := TunnelHost.target_closed_names hunclosed k
    obtain ⟨_, hs', _, hx, hnew⟩ := machine_step_eq_some hstep
    cases hs'
    rw [show (handle (.targetClosed k)).run s = ⟨u, acts, .ok ()⟩ from hrun] at hx hnew
    subst hx hnew
    refine .inl ⟨List.filterMap_eq_nil_iff.mpr fun a ha => ?_, ?_⟩
    · cases a with
      | startTarget tunnel host port => exact absurd ha (hacts tunnel host port)
      | _ => rfl
    · intro v hv
      cases hv
      exact hlength _ hnames
  · rcases actions_cases hs (fun k hk => hclosed ⟨k, hk⟩) hstep with
      ⟨hmild, hundisturbed⟩ | ⟨_, i, protocol, host, port, -, -, rfl, rfl⟩
    · refine .inl ⟨List.filterMap_eq_nil_iff.mpr fun a ha => ?_, fun u hu => ?_⟩
      · cases a with
        | startTarget => exact absurd (hmild _ ha) id
        | _ => rfl
      · exact hlength u (hundisturbed u hu).names
    · refine .inr ⟨rfl, ?_⟩
      intro u hu
      cases hu
      simp [opened]

/-- No target is started twice. -/
theorem started_once (hrun : tunnelServer.run (.ok (started sessionId)) es = some (x, out)) :
    (out.filterMap ServerAction.startedTunnel).Nodup := by
  -- the targets started so far are those of some of the tunnels
  have hall := Machine.run_induction (m := tunnelServer) (P := fun _ out x =>
    (out.filterMap ServerAction.startedTunnel).Nodup ∧
      ∀ s, x = .ok s → ∀ k ∈ out.filterMap ServerAction.startedTunnel, k < s.tunnels.length)
    ?_ ?_ hrun
  · exact hall.1
  · exact ⟨List.nodup_nil, fun _ _ k hk => by cases hk⟩
  · intro es out x e y new hbefore ih hstep
    obtain ⟨s, rfl, _, _, _⟩ := machine_step_eq_some hstep
    obtain ⟨hnodup, hbound⟩ := ih
    have hbound := hbound s rfl
    have hunclosed := ((history_run hbefore).1 s rfl).unclosed
    rw [List.filterMap_append]
    rcases started_step (sound_run (sound_started sessionId) hbefore) hunclosed hstep with
      ⟨hnone, hlength⟩ | ⟨hone, hlength⟩
    · rw [hnone, List.append_nil]
      refine ⟨hnodup, fun u hu k hk => ?_⟩
      rw [hlength u hu]
      exact hbound k hk
    · rw [hone]
      refine ⟨List.nodup_append.mpr ⟨hnodup, List.nodup_singleton _, ?_⟩, fun u hu k hk => ?_⟩
      · intro k hk j hj
        rw [List.mem_singleton.mp hj]
        exact (hbound k hk).ne
      · rw [hlength u hu]
        rcases List.mem_append.mp hk with hk | hk
        · exact (hbound k hk).trans (Nat.lt_succ_self _)
        · rw [List.mem_singleton.mp hk]
          exact Nat.lt_succ_self _

end TunnelServer

namespace TunnelHost

open Effect

variable {sessionId : UInt32} {es : List HostEvent} {out : List HostAction}
  {x : Except HostFault TunnelHost}

/-- No target is started twice. -/
theorem started_once (hrun : tunnelHost.run (.ok (started sessionId)) es = some (x, out)) :
    (out.filterMap HostAction.startedTunnel).Nodup := by
  obtain ⟨y, hserver, -⟩ := server_run hrun
  have honce := TunnelServer.started_once hserver
  rwa [List.filterMap_filterMap] at honce

/-- Without `DATA_CTRL` frames no target is told to read again. -/
theorem no_start_reading (hrun : tunnelHost.run (.ok (started sessionId)) es = some (x, out))
    (hquiet : ∀ data, .message data ∈ es → ∀ i ctrl, ¬ DataCtrlFrame data i ctrl) (k : Nat) :
    .startReading k ∉ out := by
  refine Machine.run_induction (m := tunnelHost) (P := fun es out _ =>
    (∀ data, .message data ∈ es → ∀ i ctrl, ¬ DataCtrlFrame data i ctrl) →
      .startReading k ∉ out) ?_ ?_ hrun hquiet
  · exact fun _ h => by cases h
  intro es out x e y new _ ih hstep hquiet hmem
  obtain ⟨h, rfl, _, _, hnew⟩ := machine_step_eq_some hstep
  have hold := ih fun data hdata => hquiet data (List.mem_append_left _ hdata)
  have hmem := (List.mem_append.mp hmem).resolve_left hold
  have hserver : ∀ (e' : ServerEvent) (g : TunnelHost),
      (∀ data, e' = .message data → ∀ i ctrl, ¬ DataCtrlFrame data i ctrl) →
      .startReading k ∉ ((onServer e').run g).actions := by
    intro e' g he' h
    rw [run_on_server] at h
    obtain ⟨a, ha, hcarried⟩ := List.mem_flatMap.mp h
    have hno := (TunnelServer.no_receive he').actions trivial a ha
    cases a with
    | startReceive => exact hno
    | _ => simp [carriedActions] at hcarried
  rw [hnew] at hmem
  cases e with
  | message data =>
      refine hserver (.message data) h (fun m hm => ?_) hmem
      cases hm
      exact hquiet data (by simp)
  | controllerClosed => exact hserver .controllerClosed h (fun _ hm => by cases hm) hmem
  | target tunnel report =>
      have hreport : .startReading k ∈ ((onReport tunnel report).run
          (h.reported tunnel report)).actions :=
        hmem
      cases report with
      | closed => exact hserver (.targetClosed tunnel) _ (fun _ hm => by cases hm) hreport
      | queue status => cases hreport
      | connected success =>
          cases ht : (h.reported tunnel (.connected success)).server.tunnels[tunnel]? <;>
            simp [onReport, onConnected, tunnelOf, ht] at hreport
      | data data =>
          cases ht : (h.reported tunnel (.data data)).server.tunnels[tunnel]? <;>
            simp [onReport, onData, tunnelOf, ht] at hreport

end TunnelHost

/-- The data that a target has reported is what has been read from it, in order and up to a
point. -/
theorem SocketTasks.bytes_read {sessionId : UInt32} {es : List HostEvent} {out : List HostAction}
    {x : Except HostFault TunnelHost} {k : Nat} {tasks : List TcpEvent}
    (h : SocketTasks k tasks es out)
    (hrun : tunnelHost.run (.ok (TunnelHost.started sessionId)) es = some (x, out))
    (hquiet : ∀ data, .message data ∈ es → ∀ i ctrl, ¬ DataCtrlFrame data i ctrl) :
    (es.filterMap (HostEvent.reportOf k)).filterMap TargetReport.bytes <+:
      tasks.filterMap TcpEvent.read := by
  obtain ⟨y, acts, hsocket, hreports⟩ := h.reports
  have hconnects : TcpSocket.connectsOf tasks ≤ 1 :=
    h.connects.trans (List.nodup_iff_count_le_one.mp (TunnelHost.started_once hrun) k)
  have hresumes : ∀ e ∈ tasks, e.resumes = false := by
    intro e he
    by_contra hresumed
    exact TunnelHost.no_start_reading hrun hquiet k
      (h.resumes ⟨e, he, Bool.eq_true_of_not_eq_false hresumed⟩)
  have hdelivered := TcpSocket.delivered_run hsocket hconnects hresumes
  exact (hreports.filterMap TargetReport.bytes).trans hdelivered

end RtcVpn
