import RtcVpn.Server.TargetSocket
import RtcVpn.Socket.Hysteresis
import RtcVpn.Tunnel.Link

/-!
# Back pressure through a tunnel

A socket whose write queue fills has the other end of its tunnel stop reading,
by a `DATA_CTRL` frame, and start again once the queue has drained. From the
browser's socket to the target's this is so, whatever the browser's socket
reports. In the other direction the function that would send the frame is never
bound, nor is the callback set that would receive it. Neither is ever called,
for a `TcpSocket` never reports its write queue.
-/

namespace RtcVpn

/-- The control value for a state of the write queue. -/
def WriteQueueStatus.ctrl (status : WriteQueueStatus) : CtrlType :=
  if status = .danger then .pause else .receive

/-- The protocols of the tunnels with a TCP connection at both ends. -/
def TcpProtocol (p : Protocol) : Prop := p = .socks5Connect ∨ p = .httpsConnect ∨ p = .httpPlain

/-- The message carries a `DATA_CTRL` frame for the stream. -/
def DataCtrlFrame (message : Bytes) (streamId : UInt32) (ctrl : CtrlType) : Prop :=
  ∃ h byte rest, frameOf message = some (h, byte :: rest) ∧ h.type = .dataCtrl ∧
    h.streamId = streamId ∧ CtrlType.ofByte byte = ctrl

/-- A call that packs such a message is one for a `DATA_CTRL` frame. -/
theorem DataCtrlFrame.type_of_message {message : Bytes} {i : UInt32} {ctrl : CtrlType} {c : Call}
    (h : DataCtrlFrame message i ctrl) (hmessage : c.message = some message) :
    c.type = .dataCtrl := by
  obtain ⟨header, byte, rest, hframe, htype, -, -⟩ := h
  rw [Call.frame_of_message hmessage] at hframe
  obtain ⟨rfl, -⟩ := Prod.mk.inj (Option.some.inj hframe)
  exact htype

namespace Link

open Effect

variable {L : Llhttp}

/-- The tunnel is a live one with a TCP connection. -/
def TcpTunnel (h : TunnelHost) (k : Nat) (t : TunnelSession) : Prop :=
  h.server.tunnels[k]? = some t ∧ t.sessionInterface.isSome ∧ TcpProtocol t.protocol

/-- The tunnel has a TCP connection. -/
def TcpTarget (h : TunnelHost) (k : Nat) : Prop :=
  ∃ t, h.server.tunnels[k]? = some t ∧ TcpProtocol t.protocol

/-- What a step owes to back pressure: a report of a write queue has one `DATA_CTRL` frame sent, and
a `DATA_CTRL` frame that finds its tunnel open has the socket at its end stop or start reading. No
function is called that is not bound. -/
structure BackPressure (d : Link L) (e : AppEvent ⊕ HostEvent) (f : Link L)
    (new : List (AppAction ⊕ HostAction)) : Prop where
  browserQueue : ∀ c status i, d.left = .ok c → e = .inl (.session (.browserQueue status)) →
    c.association.session.session = some i → TcpProtocol c.association.session.protocol →
    (lefts new).filterMap AppAction.call =
      [.sendDataCtrl i status.ctrl c.association.session.protocol]
  targetQueue : ∀ h k status t, d.right = .ok h → e = .inr (.target k (.queue status)) →
    TcpTunnel h k t →
    (rights new).filterMap HostAction.call = [.sendDataCtrl t.streamId status.ctrl t.protocol]
  atHost : ∀ h data i k ctrl, d.right = .ok h → e = .inr (.message data) →
    DataCtrlFrame data i ctrl → Association.LeadsTo h.server i k →
    (ctrl = .pause → rights new = [.server (.pauseReceive k), .stopReading k]) ∧
      (ctrl = .receive → rights new = [.server (.startReceive k), .startReading k])
  atApp : ∀ c data relay i ctrl, d.left = .ok c → e = .inl (.message data relay) →
    DataCtrlFrame data i ctrl → c.association.session.session = some i →
    c.association.session.tcpSocket = true →
    (ctrl = .pause → lefts new = [.stopReading]) ∧ (ctrl = .receive → lefts new = [.startReading])
  bound : ∀ h k, d.right = .ok h → TcpTarget h k → f.right ≠ .error (.badFunctionCall k)

/-- What the target of a tunnel with a TCP connection has reported, with this event, are the
callbacks of a `TcpSocket`. -/
def SocketReports (es : List (AppEvent ⊕ HostEvent)) (_ : List (AppAction ⊕ HostAction))
    (d : Link L) (e : AppEvent ⊕ HostEvent) : Prop :=
  ∀ h k, d.right = .ok h → TcpTarget h k → ∃ tasks x acts,
    tcpSocket.run (.ok (TcpSocket.unconnected {})) tasks = some (x, acts) ∧
      (rights (es ++ [e])).filterMap (HostEvent.reportOf k) <+: acts.filterMap TcpAction.report

/-! ## From the browser to the target -/

/-- The write queue callback of the browser's socket. -/
theorem run_browser_queue {c : NetworkRtcApp L} {i : UInt32} (status : WriteQueueStatus)
    (h : c.association.session.session = some i) :
    ((NetworkRtcApp.handle (.session (.browserQueue status))).run c).actions =
      [.association (.session
        (.sendDataCtrl i status.ctrl c.association.session.protocol))] := by
  have hsession := Socks5Session.run_browser_queue h status
  show ((NetworkRtcApp.onAssociation _).run c).actions = _
  rw [NetworkRtcApp.run_on_association, Association.handle, run_performing, hsession]
  rfl

/-- A `DATA_CTRL` frame for a stream that leads to a tunnel. -/
theorem run_data_ctrl {h : TunnelHost} (hs : h.server.Sound) {data : Bytes} {i : UInt32} {k : Nat}
    {ctrl : CtrlType} (hframe : DataCtrlFrame data i ctrl)
    (hleads : Association.LeadsTo h.server i k) :
    (ctrl = .pause → ((TunnelHost.handle (.message data)).run h).actions =
        [.server (.pauseReceive k), .stopReading k]) ∧
      (ctrl = .receive → ((TunnelHost.handle (.message data)).run h).actions =
        [.server (.startReceive k), .startReading k]) := by
  obtain ⟨header, byte, rest, hframe, htype, rfl, hbyte⟩ := hframe
  obtain ⟨session, hfind⟩ := Option.isSome_iff_exists.mp hleads.registered
  obtain ⟨rfl, hlive⟩ := hs.sessions _ session hfind
  obtain ⟨t, j, -, -, hinterface⟩ := TunnelServer.run_interface_of hlive
  rw [hleads.owner] at hinterface
  have hupcall : h.server.mux.onMessage data = .ok (some (.onDataCtrl
      (TunnelServer.tunnelCallbacks header.streamId) ctrl header.protocol)) := by
    rw [SessionMux.on_message_eq, hframe]
    simp [htype, SessionMux.onDataCtrlFrame, hfind, TunnelServer.tunnelCallbacks, hbyte]
  have hrun : (TunnelServer.handle (.message data)).run h.server =
      (TunnelServer.p2pRevCtrl k ctrl).run h.server := by
    simp [TunnelServer.handle, TunnelServer.onMessage, hupcall, TunnelServer.onUpcall,
      TunnelServer.tunnelCallbacks, hleads.owner]
  have hactions : ((TunnelHost.handle (.message data)).run h).actions =
      ((TunnelServer.p2pRevCtrl k ctrl).run h.server).actions.flatMap
        TunnelHost.carriedActions := by
    show ((TunnelHost.onServer _).run h).actions = _
    rw [TunnelHost.run_on_server, hrun]
  rw [hactions]
  constructor
  · rintro rfl
    simp [TunnelServer.p2pRevCtrl, hinterface, TunnelHost.carriedActions]
  · rintro rfl
    simp [TunnelServer.p2pRevCtrl, hinterface, TunnelHost.carriedActions]

/-! ## From the target to the browser -/

variable {peerConnId sessionId : UInt32} {a : Association L} {d : Link L}
  {es : List (AppEvent ⊕ HostEvent)} {out : List (AppAction ⊕ HostAction)}

/-- No `DATA_CTRL` frame ever reaches the app. -/
theorem no_data_ctrl_to_app
    (hrun : (link L).run (started peerConnId a sessionId) es = some (d, out)) {data : Bytes}
    {relay : Option (AddressV4 × UInt16)} {i : UInt32} {ctrl : CtrlType}
    (hdata : .message data relay ∈ lefts es) : ¬ DataCtrlFrame data i ctrl := by
  intro hframe
  obtain ⟨x, -, c, hcall, hmessage⟩ := sent_to_app hrun hdata
  have htype := hframe.type_of_message hmessage
  cases x with
  | server x => cases x <;> cases hcall; cases htype
  | sendSynack | sendData => cases hcall; cases htype
  | startReading | stopReading => cases hcall

/-- A `TcpSocket` never reports its write queue. -/
theorem no_queue_report {tasks : List TcpEvent} {x : Except QueueFault TcpSocket}
    {acts : List TcpAction}
    (hsocket : tcpSocket.run (.ok (TcpSocket.unconnected {})) tasks = some (x, acts))
    (status : WriteQueueStatus) : .queue status ∉ acts.filterMap TcpAction.report := by
  intro hmem
  have hsilent := TcpSocket.silent_of_run ⟨{}, .inl rfl⟩ hsocket
  obtain ⟨action, haction, hreport⟩ := List.mem_filterMap.mp hmem
  have hnone := List.filterMap_eq_nil_iff.mp hsilent action haction
  cases action with
  | writeQueueCallback => cases hnone
  | _ => cases hreport

/-- The target of a TCP tunnel does not report its write queue. -/
theorem no_target_queue {e : AppEvent ⊕ HostEvent} {h : TunnelHost} {k : Nat}
    (hreports : SocketReports es out d e) (hh : d.right = .ok h) (htarget : TcpTarget h k)
    (status : WriteQueueStatus) : e ≠ .inr (.target k (.queue status)) := by
  rintro rfl
  obtain ⟨tasks, x, acts, hsocket, hreported⟩ := hreports h k hh htarget
  refine no_queue_report hsocket status (hreported.subset (List.mem_filterMap.mpr ?_))
  exact ⟨.target k (.queue status), by simp [rights], by simp [HostEvent.reportOf]⟩

/-- Only the report of a write queue calls a function that is not bound. -/
theorem never_unbound {e : HostEvent} (he : ∀ j status, e ≠ .target j (.queue status)) (k : Nat) :
    Never (.badFunctionCall k) (TunnelHost.handle e) := by
  have hserver : ∀ e' : ServerEvent, Never (.badFunctionCall k) (TunnelHost.onServer e') := by
    intro e' g hfault
    rw [TunnelHost.run_on_server] at hfault
    cases hresult : ((TunnelServer.handle e').run g.server).result <;>
      simp [hresult, Except.mapError] at hfault
  have htunnel : ∀ j, Never (.badFunctionCall k) (TunnelHost.tunnelOf j) := by
    refine fun j => .bind .get fun g => ?_
    cases g.server.tunnels[j]? with
    | some t => exact .pure t
    | none => exact .fail (by simp)
  cases e with
  | message data => exact hserver _
  | controllerClosed => exact hserver _
  | target j report =>
      refine .bind (.modify _) fun _ => ?_
      cases report with
      | queue status => exact absurd rfl (he j status)
      | connected success => exact .bind (htunnel j) fun t => .emit _
      | data data => exact .bind (htunnel j) fun t => .emit _
      | closed => exact hserver _

/-! ## Steps and runs -/

/-- A step in a run does what it owes. -/
theorem back_pressure_step {f : Link L} {e : AppEvent ⊕ HostEvent}
    {new : List (AppAction ⊕ HostAction)}
    (hrun : (link L).run (started peerConnId a sessionId) es = some (d, out))
    (hreports : SocketReports es out d e) (hstep : (link L).step d e = some (f, new)) :
    BackPressure d e f new := by
  constructor
  · rintro c status i hc rfl hsession -
    obtain ⟨_, x, acts, -, happ, -, rfl⟩ := duplex_step_inl.mp hstep
    rw [hc] at happ
    obtain ⟨_, hc', _, _, hacts⟩ := machine_step_eq_some happ
    cases hc'
    rw [lefts_map_inl, hacts, run_browser_queue status hsession]
    rfl
  · rintro h k status t hh rfl ⟨ht, -, hprotocol⟩
    exact absurd rfl (no_target_queue hreports hh ⟨t, ht, hprotocol⟩ status)
  · rintro h data i k ctrl hh rfl hframe hleads
    obtain ⟨_, x, acts, -, hhost, -, rfl⟩ := duplex_step_inr.mp hstep
    have hright := (joined_of_run hrun).right
    rw [hh] at hhost hright
    obtain ⟨_, hh', _, _, hacts⟩ := machine_step_eq_some hhost
    cases hh'
    rw [rights_map_inr, hacts]
    exact run_data_ctrl (TunnelHost.server_run_alive hright).1 hframe hleads
  · rintro c data relay i ctrl hc rfl hframe hsession hsocket
    have hmessage := Machine.run_snoc.mpr ⟨_, _, _, hrun, hstep, rfl⟩
    have hmem : AppEvent.message data relay ∈ lefts (es ++ [.inl (.message data relay)]) := by
      simp [lefts]
    exact absurd hframe (no_data_ctrl_to_app hmessage hmem)
  · intro h k hh htarget hunbound
    cases e with
    | inl e =>
        obtain ⟨_, x, acts, -, -, rfl, rfl⟩ := duplex_step_inl.mp hstep
        cases hh.symm.trans hunbound
    | inr e =>
        obtain ⟨_, x, acts, -, hhost, rfl, rfl⟩ := duplex_step_inr.mp hstep
        obtain rfl : x = .error (.badFunctionCall k) := hunbound
        rw [hh] at hhost
        obtain ⟨_, hh', _, hresult⟩ := machine_step_fault hhost
        cases hh'
        by_cases hqueue : ∃ j status, e = .target j (.queue status)
        · obtain ⟨j, status, rfl⟩ := hqueue
          cases hresult
          exact no_target_queue hreports hh htarget status rfl
        · exact never_unbound (fun j status he => hqueue ⟨j, status, he⟩) k h hresult

end Link

open Link

/-- The two ends keep up back pressure in every run in which the targets of TCP tunnels report what
a `TcpSocket` does. -/
theorem back_pressure_kept {L : Llhttp} {peerConnId number sessionId : UInt32}
    {genStreamId : Nat → UInt32} {readBuf : Nat → UInt8} {remotePort : UInt16}
    {es : List (AppEvent ⊕ HostEvent)}
    (hreports : (link L).Meets SocketReports
      (started peerConnId (.started L number genStreamId readBuf remotePort) sessionId) es) :
    (link L).AllSteps BackPressure
      (started peerConnId (.started L number genStreamId readBuf remotePort) sessionId) es :=
  fun before e after d out _ _ hsplit hbefore hstep =>
    back_pressure_step hbefore (hreports before e after d out hsplit hbefore) hstep

/-- A SOCKS5 tunnel. -/
def socksTunnel : List (AppEvent ⊕ HostEvent) :=
  (Socks5Session.socksConnect.map fun e => .inl (.session e)) ++
    [.inr (.message (Call.sendSyn 5 (text "10.0.0.1") 80 .socks5Connect).packed),
      .inr (.target 0 (.connected true)),
      .inl (.message (Call.sendSynack 5 true .socks5Connect).packed none)]

/-- Its browser is slow for a while. -/
def slowBrowser : List (AppEvent ⊕ HostEvent) :=
  [.inl (.session (.browserQueue .danger)),
    .inr (.message (Call.sendDataCtrl 5 .pause .socks5Connect).packed),
    .inl (.session (.browserQueue .safety)),
    .inr (.message (Call.sendDataCtrl 5 .receive .socks5Connect).packed)]

/-- What the socket of its target does: it connects. -/
def targetConnects : List TcpEvent :=
  [.connect, .finishResolve 0 (.ok ()), .onResolve 0, .finishConnect 0 (.ok ()), .onConnect 0]

theorem back_pressure_slow_browser :
    (∃ d out, (link .idle).run
      (started 1 (.started .idle 1 (fun _ => 5) (fun _ => 0) 0) 1) (socksTunnel ++ slowBrowser) =
        some (d, out) ∧ (lefts out).filterMap AppAction.call = [
          .sendSyn 5 (text "10.0.0.1") 80 .socks5Connect,
          .sendDataCtrl 5 .pause .socks5Connect, .sendDataCtrl 5 .receive .socks5Connect] ∧
        .stopReading 0 ∈ rights out ∧ .startReading 0 ∈ rights out) ∧
    (link .idle).AllSteps BackPressure
      (started 1 (.started .idle 1 (fun _ => 5) (fun _ => 0) 0) 1)
      (socksTunnel ++ slowBrowser) := by
  refine ⟨⟨_, _, rfl, by decide +kernel, by decide +kernel, by decide +kernel⟩,
    back_pressure_kept ?_⟩
  intro before e after d out hsplit _ h k _ _
  obtain ⟨x, acts, hsocket, hacts⟩ : ∃ x acts,
      tcpSocket.run (.ok (TcpSocket.unconnected {})) targetConnects = some (x, acts) ∧
        acts.filterMap TcpAction.report = [.connected true] := ⟨_, _, rfl, by decide⟩
  refine ⟨targetConnects, x, acts, hsocket, ?_⟩
  -- what is reported up to an event is the front of what is reported in all
  have hfront : (rights (before ++ [e])).filterMap (HostEvent.reportOf k) <+:
      (rights (socksTunnel ++ slowBrowser)).filterMap (HostEvent.reportOf k) := by
    refine List.IsPrefix.filterMap _ (List.IsPrefix.filterMap _ ⟨after, ?_⟩)
    rw [hsplit, List.append_assoc]
    rfl
  have hall : (rights (socksTunnel ++ slowBrowser)).filterMap (HostEvent.reportOf k) <+:
      [.connected true] := by
    obtain ⟨syn, pause, receive, hrights⟩ : ∃ syn pause receive,
        rights (socksTunnel ++ slowBrowser) = [.message syn, .target 0 (.connected true),
          .message pause, .message receive] := ⟨_, _, _, rfl⟩
    rw [hrights]
    by_cases hk : 0 = k
    · subst hk
      exact List.prefix_refl _
    · have hother : HostEvent.reportOf k (.target 0 (.connected true)) = none := if_neg hk
      rw [List.filterMap_cons_none rfl, List.filterMap_cons_none hother]
      exact List.nil_prefix
  exact hacts ▸ hfront.trans hall

end RtcVpn
