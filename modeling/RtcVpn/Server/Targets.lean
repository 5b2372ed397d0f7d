import RtcVpn.Server.Closing

/-!
# The server with its targets

The server-side session together with the sockets of its tunnels' targets, the
`SessionInterface` of each tunnel between them. `TcpSession`, `HttpSession` and
`UdpClient` set the same callbacks on their sockets and hand what these report
to the functions that `TunnelSession::init` binds. A `Target` is what such a
socket can report: the result of connecting once, data only after a success, its
close once.
-/

namespace RtcVpn

/-! ## A target's socket, as its tunnel sees it -/

/-- What the socket of a target has reported. -/
structure Target where
  result : Option Bool := none
  isClosed : Bool := false
  deriving DecidableEq, Repr

/-- The callbacks of a target's socket, with `data` as the argument of `send_data_`. -/
inductive TargetReport where
  | connected (success : Bool)
  | data (data : Bytes)
  | queue (status : WriteQueueStatus)
  | closed
  deriving DecidableEq, Repr

namespace Target

/-- No read is larger than the receive buffer of a `UdpSocket`; `encode_udp_payload` puts seven
bytes and a host in front. -/
def maxData : Nat := 65536 + 262

/-- A socket reports its result once, data and its write queue once it is connected, and its close
once. -/
def enabled (t : Target) : TargetReport → Bool
  | .connected _ => t.result.isNone
  | .data data => t.result == some true && decide (data.length ≤ maxData)
  | .queue _ => t.result == some true
  | .closed => !t.isClosed

/-- The socket once it has reported. -/
def next (t : Target) : TargetReport → Target
  | .connected success => { t with result := some success }
  | .closed => { t with isClosed := true }
  | _ => t

end Target

/-! ## The host of the tunnels -/

/-- The server-side session and the targets whose sockets have been started. -/
structure TunnelHost where
  server : TunnelServer
  targets : Nat → Option Target := fun _ => none

/-- A message on the data channel, a report of a target's socket, the close of the peer
connection. -/
inductive HostEvent where
  | message (data : Bytes)
  | target (tunnel : Nat) (report : TargetReport)
  | controllerClosed
  deriving DecidableEq, Repr

/-- What the server does, what it has a target's socket do about reading, and the frames it sends
for a target. -/
inductive HostAction where
  | server (action : ServerAction)
  | startReading (tunnel : Nat)
  | stopReading (tunnel : Nat)
  | sendSynack (streamId : UInt32) (ok : Bool) (protocol : Protocol)
  | sendData (streamId : UInt32) (data : Bytes) (protocol : Protocol)
  deriving DecidableEq, Repr

/-- A fault of the server, or the call of a function of the interface that is not bound. -/
inductive HostFault where
  | server (fault : ServerFault)
  | badFunctionCall (tunnel : Nat)
  deriving DecidableEq, Repr

namespace TunnelHost

open Effect

/-- A handler of the host. -/
abbrev Handler : Type := Effect TunnelHost HostAction HostFault Unit

/-- What `SessionInterface` does for its tunnel: `start` makes the socket, `start_receive` and
`pause_receive` are `startReading` and `stopReading`. -/
def carryOut : ServerAction → Handler
  | .startTarget tunnel host port => do
      emit (.server (.startTarget tunnel host port))
      modify fun h => { h with targets := Function.update h.targets tunnel (some {}) }
  | .startReceive tunnel => do
      emit (.server (.startReceive tunnel))
      emit (.startReading tunnel)
  | .pauseReceive tunnel => do
      emit (.server (.pauseReceive tunnel))
      emit (.stopReading tunnel)
  | action => emit (.server action)

/-- A handler of the server-side session. -/
def onServer (event : ServerEvent) : Handler :=
  performing server (fun s h => { h with server := s }) .server (TunnelServer.handle event)
    carryOut

/-- The tunnel of an index. The functions bound by `init` hold it. -/
def tunnelOf (tunnel : Nat) : Effect TunnelHost HostAction HostFault TunnelSession := do
  let h ← get
  match h.server.tunnels[tunnel]? with
  | some t => pure t
  | none => fail (.server (.noTunnel tunnel))

/-- The connect or open callback: `send_synack_`. -/
def onConnected (tunnel : Nat) (success : Bool) : Handler := do
  let t ← tunnelOf tunnel
  emit (.sendSynack t.streamId success t.protocol)

/-- The data callback: `send_data_`. -/
def onData (tunnel : Nat) (data : Bytes) : Handler := do
  let t ← tunnelOf tunnel
  emit (.sendData t.streamId data t.protocol)

/-- The write queue callback: `send_data_ctrl`. It calls `send_data_ctrl_`, the one function of the
interface that `init` does not bind. -/
def onQueue (tunnel : Nat) (_ : WriteQueueStatus) : Handler := fail (.badFunctionCall tunnel)

/-- The callback for each report. -/
def onReport (tunnel : Nat) : TargetReport → Handler
  | .connected success => onConnected tunnel success
  | .data data => onData tunnel data
  | .queue status => onQueue tunnel status
  | .closed => onServer (.targetClosed tunnel)

/-- The host once a target's socket has reported. -/
def reported (h : TunnelHost) (tunnel : Nat) (report : TargetReport) : TunnelHost where
  server := h.server
  targets := Function.update h.targets tunnel ((h.targets tunnel).map (·.next report))

/-- The handler of each event. -/
def handle : HostEvent → Handler
  | .message data => onServer (.message data)
  | .target tunnel report => do
      modify fun h => h.reported tunnel report
      onReport tunnel report
  | .controllerClosed => onServer .controllerClosed

/-- A target that has been started reports what its socket can report. -/
def enabled (h : TunnelHost) : HostEvent → Bool
  | .target tunnel report => (h.targets tunnel).any (·.enabled report)
  | _ => true

/-- The host of a session after `start`. -/
def started (sessionId : UInt32) : TunnelHost where
  server := .started sessionId

end TunnelHost

/-- The host as a machine. -/
def tunnelHost : Machine (Except HostFault TunnelHost) HostEvent HostAction :=
  Effect.machine TunnelHost.enabled TunnelHost.handle

namespace TunnelHost

open Effect

/-! ## The server within its host -/

/-- The event of the server that an event of its host is. -/
def serverEvent : HostEvent → Option ServerEvent
  | .message data => some (.message data)
  | .target tunnel .closed => some (.targetClosed tunnel)
  | .target _ _ => none
  | .controllerClosed => some .controllerClosed

/-- The action of the server that an action of its host is. -/
def serverAction : HostAction → Option ServerAction
  | .server action => some action
  | _ => none

/-- The host once it has carried out an action of its server. -/
def carried : ServerAction → TunnelHost → TunnelHost
  | .startTarget tunnel _ _, h => { h with targets := Function.update h.targets tunnel (some {}) }
  | _, h => h

/-- The actions of the host for an action of its server. -/
def carriedActions : ServerAction → List HostAction
  | .startReceive tunnel => [.server (.startReceive tunnel), .startReading tunnel]
  | .pauseReceive tunnel => [.server (.pauseReceive tunnel), .stopReading tunnel]
  | action => [.server action]

theorem run_carry_out (a : ServerAction) (h : TunnelHost) :
    (carryOut a).run h = ⟨carried a h, carriedActions a, .ok ()⟩ := by
  cases a <;> rfl

/-- What the handlers of the server do within the host. -/
theorem run_on_server (e : ServerEvent) (h : TunnelHost) :
    (onServer e).run h =
      ⟨((TunnelServer.handle e).run h.server).actions.foldl (fun h a => carried a h)
          { h with server := ((TunnelServer.handle e).run h.server).state },
        ((TunnelServer.handle e).run h.server).actions.flatMap carriedActions,
        ((TunnelServer.handle e).run h.server).result.mapError .server⟩ := by
  rw [onServer, run_performing, run_forEach run_carry_out]
  cases ((TunnelServer.handle e).run h.server).result <;> rfl

@[simp] theorem carried_server (as : List ServerAction) (h : TunnelHost) :
    (as.foldl (fun h a => carried a h) h).server = h.server := by
  induction as generalizing h with
  | nil => rfl
  | cons a as ih =>
      rw [List.foldl_cons, ih]
      cases a <;> rfl

@[simp] theorem carried_actions (as : List ServerAction) :
    (as.flatMap carriedActions).filterMap serverAction = as := by
  induction as with
  | nil => rfl
  | cons a as ih =>
      rw [List.flatMap_cons, List.filterMap_append, ih]
      cases a <;> rfl

/-- The report of a target's socket changes what is known of the socket only, but for its close. -/
theorem run_report (tunnel : Nat) {report : TargetReport} (hreport : report ≠ .closed)
    (h : TunnelHost) :
    ((onReport tunnel report).run h).state = h ∧
      ((onReport tunnel report).run h).actions.filterMap serverAction = [] := by
  have htunnel : ∀ f : TunnelSession → HostAction, (∀ t, serverAction (f t) = none) →
      ((tunnelOf tunnel >>= fun t => emit (f t)).run h).state = h ∧
        ((tunnelOf tunnel >>= fun t => emit (f t)).run h).actions.filterMap serverAction = [] := by
    intro f hf
    cases ht : h.server.tunnels[tunnel]? with
    | none => simp [tunnelOf, ht]
    | some t => simp [tunnelOf, ht, hf]
  cases report with
  | connected success =>
      exact htunnel (fun t => .sendSynack t.streamId success t.protocol) fun _ => rfl
  | data data => exact htunnel (fun t => .sendData t.streamId data t.protocol) fun _ => rfl
  | queue status => simp [onReport, onQueue]
  | closed => exact absurd rfl hreport

/-- A step of the host is a step of its server, or leaves the server alone. -/
theorem server_step {h : TunnelHost} {e : HostEvent} {x : Except HostFault TunnelHost}
    {new : List HostAction} (hstep : tunnelHost.step (.ok h) e = some (x, new)) :
    (∀ e', serverEvent e = some e' → ∃ y,
        tunnelServer.step (.ok h.server) e' = some (y, new.filterMap serverAction) ∧
          ∀ g, x = .ok g → y = .ok g.server) ∧
      (serverEvent e = none → new.filterMap serverAction = [] ∧
        ∀ g, x = .ok g → g.server = h.server) := by
  obtain ⟨_, hh, _, hx, hnew⟩ := machine_step_eq_some hstep
  cases hh
  subst hx hnew
  -- an event that is one of the server, in a state with the same server
  have hserver : ∀ (e' : ServerEvent) (g : TunnelHost), g.server = h.server →
      (handle e).run h = (onServer e').run g →
      ∃ y, tunnelServer.step (.ok h.server) e' =
          some (y, ((handle e).run h).actions.filterMap serverAction) ∧
        ∀ f, ((handle e).run h).result.map (fun _ => ((handle e).run h).state) = .ok f →
          y = .ok f.server := by
    intro e' g hg hrun
    refine ⟨_, by rw [tunnelServer, machine_step_ok rfl, hrun, run_on_server, carried_actions,
      hg], fun f hf => ?_⟩
    rw [hrun, run_on_server, hg] at hf
    revert hf
    cases ((TunnelServer.handle e').run h.server).result with
    | ok _ =>
        rintro ⟨⟩
        rw [carried_server]
        rfl
    | error _ => exact fun h => by cases h
  cases e with
  | message data =>
      refine ⟨?_, fun h => by cases h⟩
      rintro _ ⟨⟩
      exact hserver _ h rfl rfl
  | controllerClosed =>
      refine ⟨?_, fun h => by cases h⟩
      rintro _ ⟨⟩
      exact hserver _ h rfl rfl
  | target tunnel report =>
      by_cases hreport : report = .closed
      · subst hreport
        refine ⟨?_, fun h => by cases h⟩
        rintro _ ⟨⟩
        exact hserver _ (h.reported tunnel .closed) rfl rfl
      · have hnone : serverEvent (.target tunnel report) = none := by
          cases report with
          | closed => exact absurd rfl hreport
          | _ => rfl
        rw [hnone]
        refine ⟨fun _ h => (by cases h), fun _ => ?_⟩
        have hrun : (handle (.target tunnel report)).run h =
            (onReport tunnel report).run (h.reported tunnel report) := rfl
        obtain ⟨hstate, hactions⟩ := run_report tunnel hreport (h.reported tunnel report)
        rw [hrun]
        refine ⟨hactions, fun g hg => ?_⟩
        rw [hstate] at hg
        revert hg
        cases ((onReport tunnel report).run _).result with
        | ok _ =>
            rintro ⟨⟩
            rfl
        | error _ => exact fun h => by cases h

/-- A run of the host is a run of its server. -/
theorem server_run {sessionId : UInt32} {es : List HostEvent} {out : List HostAction}
    {x : Except HostFault TunnelHost}
    (hrun : tunnelHost.run (.ok (started sessionId)) es = some (x, out)) :
    ∃ y, tunnelServer.run (.ok (.started sessionId)) (es.filterMap serverEvent) =
        some (y, out.filterMap serverAction) ∧ ∀ h, x = .ok h → y = .ok h.server := by
  refine Machine.run_induction (m := tunnelHost) (P := fun es out x => ∃ y,
    tunnelServer.run (.ok (.started sessionId)) (es.filterMap serverEvent) =
        some (y, out.filterMap serverAction) ∧ ∀ h, x = .ok h → y = .ok h.server) ?_ ?_ hrun
  · refine ⟨_, rfl, ?_⟩
    rintro h ⟨⟩
    rfl
  · intro es out x e z new _ ih hstep
    obtain ⟨h, rfl, _, _, _⟩ := machine_step_eq_some hstep
    obtain ⟨y, hy, halive⟩ := ih
    obtain rfl := halive h rfl
    obtain ⟨hsome, hnone⟩ := server_step hstep
    cases he : serverEvent e with
    | some e' =>
        obtain ⟨y, hy', hz⟩ := hsome e' he
        refine ⟨y, ?_, hz⟩
        rw [List.filterMap_append, List.filterMap_append]
        simp only [List.filterMap_cons, he, List.filterMap_nil]
        exact Machine.run_snoc.mpr ⟨_, _, _, hy, hy', rfl⟩
    | none =>
        obtain ⟨hactions, hz⟩ := hnone he
        refine ⟨.ok h.server, ?_, fun g hg => by rw [hz g hg]⟩
        rw [List.filterMap_append, List.filterMap_append, hactions, List.append_nil]
        simp only [List.filterMap_cons, he, List.filterMap_nil, List.append_nil]
        exact hy

end TunnelHost

end RtcVpn
