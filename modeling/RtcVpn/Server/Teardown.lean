import RtcVpn.Server.Tunnel

/-!
# The end of a server session

The server-side `Socks5Session` of `process_new_client` with its controller and
its timer. A report of `Closed` from the controller starts the timer; when its
wait completes and no tunnel is left the session has its owner remove it and
drops the timer, else the timer is started anew. The timer object outlives
the pointer to it while a wait is outstanding.
-/

namespace RtcVpn

/-- `rtc::PeerConnection::State`. -/
inductive PeerState where
  | new
  | connecting
  | connected
  | disconnected
  | failed
  | closed
  deriving DecidableEq, Repr

/-- `Timer`: whether a wait is outstanding, and how many have expired whose handlers have not run
yet. A new expiry time aborts the outstanding wait but not those. -/
structure Timer where
  armed : Bool := false
  expired : Nat := 0
  deriving DecidableEq, Repr

/-- The server-side `Socks5Session` with `p2p_connected_` of its controller; `timer` tells whether
`timer_` is not empty, `waits` is the object it was made to point to. -/
structure ServerSession where
  sessionId : UInt32
  tunnels : TunnelServer
  p2pConnected : Bool := false
  timer : Bool := true
  waits : Timer := {}

/-- The callbacks of the peer connection and of the signalling channel, a message on the data
channel, the close callback of a tunnel's target socket, the expiry of the timer, the handler of
an expired wait, and `stop`. -/
inductive TeardownEvent where
  | peerState (state : PeerState)
  | signalingClosed
  | message (data : Bytes)
  | targetClosed (tunnel : Nat)
  | timerExpired
  | waitCompleted
  | stop
  deriving DecidableEq, Repr

/-- What the session has its tunnels, its controller and its owner do. -/
inductive TeardownAction where
  | tunnel (action : ServerAction)
  | closePeerConnection
  | disconnectSignaling
  | closeCb (sessionId : UInt32)
  deriving DecidableEq, Repr

/-- The empty `timer_` is dereferenced, or a tunnel faults. -/
inductive TeardownFault where
  | nullTimer
  | tunnel (fault : ServerFault)
  deriving DecidableEq, Repr

/-- A handler of the session. -/
abbrev TeardownHandler : Type := Effect ServerSession TeardownAction TeardownFault Unit

namespace ServerSession

open Effect

/-- A handler of the tunnels. -/
def onTunnels (x : ServerHandler) : TeardownHandler :=
  within tunnels (fun t s => { s with tunnels := t }) .tunnel .tunnel x

/-- `timer_->start`. -/
def startTimer : TeardownHandler := do
  let s ← get
  if s.timer then modify fun s => { s with waits := { s.waits with armed := true } }
  else fail .nullTimer

/-- `notifyClose`. -/
def notifyClose : TeardownHandler := startTimer

/-- The loop over `tunnel_sessions_` that closes them. -/
def closeTunnels : ServerHandler := do
  let s ← get
  forEach (s.tunnelSessions.entries.map Sigma.snd) TunnelServer.close

/-- The state callback for `Closed`. -/
def onClosed : TeardownHandler := do
  notifyClose
  onTunnels closeTunnels

/-- The controller's callback for the states of the peer connection. The state callback for
`Connected` only logs. -/
def onPeerState : PeerState → TeardownHandler
  | .connected => modify fun s => { s with p2pConnected := true }
  | .closed | .failed => do
      onClosed
      modify fun s => { s with p2pConnected := false }
      emit .disconnectSignaling
  | _ => pure ()

/-- The controller's callback for the close of the signalling channel. -/
def onSignalingClosed : TeardownHandler := do
  emit .closePeerConnection
  let s ← get
  if !s.p2pConnected then onClosed else pure ()

/-- No tunnel is in `tunnel_sessions_`. -/
def noTunnels (s : ServerSession) : Bool := s.tunnels.tunnelSessions.entries.isEmpty

/-- The function bound by `bindTimerFinish`. -/
def onTimerFinish : TeardownHandler := do
  let s ← get
  if s.noTunnels then do
    emit (.closeCb s.sessionId)
    modify fun s => { s with timer := false }
  else startTimer

/-- The handler of each event. -/
def handle : TeardownEvent → TeardownHandler
  | .peerState state => onPeerState state
  | .signalingClosed => onSignalingClosed
  | .message data => onTunnels (TunnelServer.onMessage data)
  | .targetClosed tunnel => onTunnels (TunnelServer.targetClosed tunnel)
  | .timerExpired =>
      modify fun s => { s with waits := { armed := false, expired := s.waits.expired + 1 } }
  | .waitCompleted => do
      modify fun s => { s with waits := { s.waits with expired := s.waits.expired - 1 } }
      onTimerFinish
  | .stop => emit .disconnectSignaling

/-- The timer expires while a wait is outstanding; an expired wait's handler runs once. -/
def enabled (s : ServerSession) : TeardownEvent → Bool
  | .timerExpired => s.waits.armed
  | .waitCompleted => decide (0 < s.waits.expired)
  | _ => true

/-- A session after `start`. -/
def started (sessionId : UInt32) : ServerSession where
  sessionId := sessionId
  tunnels := TunnelServer.started sessionId

end ServerSession

/-- The session as a machine. -/
def serverSession : Machine (Except TeardownFault ServerSession) TeardownEvent TeardownAction :=
  Effect.machine ServerSession.enabled ServerSession.handle

namespace ServerSession

open Effect

/-- The action removes the session from its owner. -/
def isCloseCb : TeardownAction → Bool
  | .closeCb _ => true
  | _ => false

/-- The controller reports `Closed` at the event. -/
def ReportsClosed (s : ServerSession) (e : TeardownEvent) : Prop :=
  e = .peerState .failed ∨ e = .peerState .closed ∨
    (e = .signalingClosed ∧ s.p2pConnected = false)

/-! ## Handlers that leave the timer and the owner alone -/

/-- The handler leaves the pointer to the timer as it is, does not have the owner remove the
session, and dereferences no empty timer. -/
def Quiet {β : Type} (b : Bool) (x : Effect ServerSession TeardownAction TeardownFault β) : Prop :=
  Triple (fun s => s.timer = b) x fun s as r =>
    s.timer = b ∧ as.countP isCloseCb = 0 ∧ r ≠ .error .nullTimer

variable {b : Bool}

theorem Quiet.pure : Quiet b (Pure.pure () : TeardownHandler) :=
  fun _ hs => ⟨hs, rfl, by simp⟩

theorem Quiet.modify {f : ServerSession → ServerSession} (hf : ∀ s, (f s).timer = s.timer) :
    Quiet b (modify f : TeardownHandler) :=
  fun s hs => ⟨(hf s).trans hs, rfl, by simp⟩

theorem Quiet.emit {a : TeardownAction} (ha : isCloseCb a = false) :
    Quiet b (emit a : TeardownHandler) :=
  fun _ hs => ⟨hs, by simp [ha], by simp⟩

theorem Quiet.bind {β γ : Type} {x : Effect ServerSession TeardownAction TeardownFault β}
    {f : β → Effect ServerSession TeardownAction TeardownFault γ} (hx : Quiet b x)
    (hf : ∀ c, Quiet b (f c)) : Quiet b (x >>= f) := by
  refine Triple.bind hx (fun as c s hs => ?_) fun s as e hs => ?_
  · obtain ⟨htimer, hcount, hfault⟩ := hf c s hs.1
    refine ⟨htimer, ?_, hfault⟩
    rw [List.countP_append, hs.2.1, hcount]
  · exact ⟨hs.1, hs.2.1, fun h => hs.2.2 (by rw [Except.error.inj h])⟩

/-- What the tunnels do. -/
theorem Quiet.on_tunnels (x : ServerHandler) : Quiet b (onTunnels x) := by
  intro s hs
  refine ⟨hs, ?_, ?_⟩
  · show ((x.run s.tunnels).actions.map TeardownAction.tunnel).countP isCloseCb = 0
    rw [List.countP_map]
    exact List.countP_eq_zero.mpr fun a _ => by simp [isCloseCb]
  · show (x.run s.tunnels).result.mapError TeardownFault.tunnel ≠ .error .nullTimer
    cases (x.run s.tunnels).result with
    | ok c => simp [Except.mapError]
    | error e => simp [Except.mapError]

/-- Starting the timer that is there. -/
theorem quiet_start_timer : Quiet true startTimer := by
  intro s hs
  have hs' : s.timer = true := hs
  simp [startTimer, hs']

/-- Starting the timer that is not there. -/
theorem start_timer_null {s : ServerSession} (h : s.timer = false) :
    startTimer.run s = ⟨s, [], .error .nullTimer⟩ := by
  simp [startTimer, h]

/-- A report of `Closed` while the timer is there. -/
theorem quiet_on_closed : Quiet true onClosed :=
  Quiet.bind quiet_start_timer fun _ => Quiet.on_tunnels _

/-- A report of `Closed` when the timer is gone. -/
theorem on_closed_null {s : ServerSession} (h : s.timer = false) :
    onClosed.run s = ⟨s, [], .error .nullTimer⟩ := by
  simp [onClosed, notifyClose, start_timer_null h]

/-! ## Steps -/

/-- While the timer is there every event but the completion of a wait is quiet. -/
theorem quiet_handle {e : TeardownEvent} (hwait : e ≠ .waitCompleted) : Quiet true (handle e) := by
  have hend : Quiet true (do
      Effect.modify fun s => { s with p2pConnected := false }
      Effect.emit .disconnectSignaling : TeardownHandler) :=
    Quiet.bind (Quiet.modify fun _ => rfl) fun _ => Quiet.emit rfl
  cases e with
  | peerState state =>
      cases state with
      | connected => exact Quiet.modify fun _ => rfl
      | failed => exact Quiet.bind quiet_on_closed fun _ => hend
      | closed => exact Quiet.bind quiet_on_closed fun _ => hend
      | _ => exact Quiet.pure
  | signalingClosed =>
      refine Quiet.bind (Quiet.emit rfl) fun _ => Triple.get_bind fun s => ?_
      refine Triple.mono (P := fun t => t.timer = true) ?_ (fun t ht => ht.2) fun _ _ _ h => h
      cases s.p2pConnected with
      | true => exact Quiet.pure
      | false => exact quiet_on_closed
  | message data => exact Quiet.on_tunnels _
  | targetClosed tunnel => exact Quiet.on_tunnels _
  | timerExpired => exact Quiet.modify fun _ => rfl
  | waitCompleted => exact absurd rfl hwait
  | stop => exact Quiet.emit rfl

/-- When the timer is gone, an event that neither reports `Closed` nor completes a wait is quiet
still. -/
theorem quiet_handle_gone {s : ServerSession} {e : TeardownEvent} (htimer : s.timer = false)
    (hwait : e ≠ .waitCompleted) (hreport : ¬ ReportsClosed s e) :
    ((handle e).run s).state.timer = false ∧
      ((handle e).run s).actions.countP isCloseCb = 0 ∧
      ((handle e).run s).result ≠ .error .nullTimer := by
  have hquiet : ∀ x : TeardownHandler, Quiet false x → (x.run s).state.timer = false ∧
      (x.run s).actions.countP isCloseCb = 0 ∧ (x.run s).result ≠ .error .nullTimer :=
    fun x hx => hx s htimer
  cases e with
  | peerState state =>
      cases state with
      | connected => exact hquiet _ (Quiet.modify fun _ => rfl)
      | failed => exact absurd (.inl rfl) hreport
      | closed => exact absurd (.inr (.inl rfl)) hreport
      | _ => exact hquiet _ Quiet.pure
  | signalingClosed =>
      cases hconnected : s.p2pConnected with
      | true => simp [handle, onSignalingClosed, hconnected, htimer, isCloseCb]
      | false => exact absurd (.inr (.inr ⟨rfl, hconnected⟩)) hreport
  | message data => exact hquiet _ (Quiet.on_tunnels _)
  | targetClosed tunnel => exact hquiet _ (Quiet.on_tunnels _)
  | timerExpired => exact hquiet _ (Quiet.modify fun _ => rfl)
  | waitCompleted => exact absurd rfl hwait
  | stop => exact hquiet _ (Quiet.emit rfl)

/-- A report of `Closed` when the timer is gone dereferences it. -/
theorem handle_report_gone {s : ServerSession} {e : TeardownEvent} (htimer : s.timer = false)
    (hreport : ReportsClosed s e) :
    ((handle e).run s).result = .error .nullTimer ∧
      ((handle e).run s).actions.countP isCloseCb = 0 := by
  have hclosed := on_closed_null htimer
  rcases hreport with rfl | rfl | ⟨rfl, hconnected⟩
  · simp [handle, onPeerState, hclosed]
  · simp [handle, onPeerState, hclosed]
  · simp [handle, onSignalingClosed, hconnected, hclosed, isCloseCb]

/-- The completion of a wait when no tunnel is left: the owner removes the session. -/
theorem run_wait_completed {s : ServerSession} (htunnels : s.noTunnels = true) :
    (handle .waitCompleted).run s =
      ⟨{ s with waits := { s.waits with expired := s.waits.expired - 1 }, timer := false },
        [.closeCb s.sessionId], .ok ()⟩ := by
  have hsame : noTunnels { s with
      waits := { s.waits with expired := s.waits.expired - 1 } } = true := htunnels
  simp [handle, onTimerFinish, hsame]

/-- The completion of a wait when a tunnel is left: the timer is started anew. -/
theorem run_wait_completed_open {s : ServerSession} (htunnels : s.noTunnels = false) :
    (handle .waitCompleted).run s =
      startTimer.run { s with waits := { s.waits with expired := s.waits.expired - 1 } } := by
  have hsame : noTunnels { s with
      waits := { s.waits with expired := s.waits.expired - 1 } } = false := htunnels
  simp [handle, onTimerFinish, hsame]

/-- What one step does to the timer and the owner: it has the session removed, it dereferences the
timer that is gone, or it is quiet. -/
theorem step_cases {s : ServerSession} {e : TeardownEvent}
    {y : Except TeardownFault ServerSession} {new : List TeardownAction}
    (hstep : serverSession.step (.ok s) e = some (y, new)) :
    (e = .waitCompleted ∧ s.noTunnels = true ∧ new.countP isCloseCb = 1 ∧
      ∃ t, y = .ok t ∧ t.timer = false) ∨
    (s.timer = false ∧ (ReportsClosed s e ∨ e = .waitCompleted) ∧
      ¬ (e = .waitCompleted ∧ s.noTunnels = true) ∧ new.countP isCloseCb = 0 ∧
      y = .error .nullTimer) ∨
    ((s.timer = false → ¬ ReportsClosed s e ∧ e ≠ .waitCompleted) ∧
      ¬ (e = .waitCompleted ∧ s.noTunnels = true) ∧ new.countP isCloseCb = 0 ∧
      y ≠ .error .nullTimer ∧ ∀ t, y = .ok t → t.timer = s.timer) := by
  obtain ⟨s', hs', _, rfl, rfl⟩ := machine_step_eq_some hstep
  cases hs'
  -- a quiet handler, in the terms of the step
  have hcalm : ∀ {b : Bool} {o : Outcome ServerSession TeardownAction TeardownFault Unit},
      o.state.timer = b ∧ o.actions.countP isCloseCb = 0 ∧ o.result ≠ .error .nullTimer →
      o.actions.countP isCloseCb = 0 ∧
        o.result.map (fun _ => o.state) ≠ .error .nullTimer ∧
        ∀ t, o.result.map (fun _ => o.state) = .ok t → t.timer = b := by
    rintro b ⟨t, as, r⟩ ⟨htimer, hcount, hfault⟩
    refine ⟨hcount, ?_, ?_⟩
    · cases r with
      | ok c => exact fun h => by cases h
      | error f => exact fun h => hfault (by cases h; rfl)
    · cases r with
      | ok c => rintro _ ⟨⟩; exact htimer
      | error f => rintro _ ⟨⟩
  by_cases hwait : e = .waitCompleted
  · subst hwait
    cases htunnels : s.noTunnels with
    | true =>
        rw [run_wait_completed htunnels]
        exact .inl ⟨rfl, rfl, rfl, _, rfl, rfl⟩
    | false =>
        rw [run_wait_completed_open htunnels]
        by_cases htimer : s.timer = true
        · have hstart := quiet_start_timer { s with
            waits := { s.waits with expired := s.waits.expired - 1 } } htimer
          rw [← htimer] at hstart
          exact .inr (.inr ⟨by simp [htimer], by simp, hcalm hstart⟩)
        · rw [Bool.not_eq_true] at htimer
          have hstart := @start_timer_null { s with
            waits := { s.waits with expired := s.waits.expired - 1 } } htimer
          rw [hstart]
          exact .inr (.inl ⟨htimer, .inr rfl, by simp, rfl, rfl⟩)
  · have hnot : ¬ (e = .waitCompleted ∧ s.noTunnels = true) := fun h => hwait h.1
    by_cases htimer : s.timer = true
    · have hquiet := quiet_handle hwait s htimer
      rw [← htimer] at hquiet
      exact .inr (.inr ⟨by simp [htimer], hnot, hcalm hquiet⟩)
    · rw [Bool.not_eq_true] at htimer
      by_cases hreport : ReportsClosed s e
      · obtain ⟨hresult, hcount⟩ := handle_report_gone htimer hreport
        rw [hresult]
        exact .inr (.inl ⟨htimer, .inl hreport, hnot, hcount, rfl⟩)
      · have hquiet := quiet_handle_gone htimer hwait hreport
        rw [← htimer] at hquiet
        exact .inr (.inr ⟨fun _ => ⟨hreport, hwait⟩, hnot, hcalm hquiet⟩)

/-! ## Runs -/

/-- A wait has completed at which no tunnel was left. -/
def TornDown (sessionId : UInt32) (es : List TeardownEvent) : Prop :=
  ∃ before after s out, es = before ++ .waitCompleted :: after ∧
    serverSession.run (.ok (started sessionId)) before = some (.ok s, out) ∧ s.noTunnels = true

variable {sessionId : UInt32}

/-- Whether the last event tears the session down or an earlier one did. -/
theorem torn_down_snoc {es : List TeardownEvent} {e : TeardownEvent} {s : ServerSession}
    {out : List TeardownAction}
    (hrun : serverSession.run (.ok (started sessionId)) es = some (.ok s, out)) :
    TornDown sessionId (es ++ [e]) ↔
      TornDown sessionId es ∨ (e = .waitCompleted ∧ s.noTunnels = true) := by
  constructor
  · rintro ⟨before, after, t, mid, hsplit, ht, hnone⟩
    rcases List.eq_nil_or_concat after with rfl | ⟨init, last, rfl⟩
    · obtain ⟨rfl, hlast⟩ := List.append_inj' hsplit rfl
      cases hlast
      rw [hrun] at ht
      cases ht
      exact .inr ⟨rfl, hnone⟩
    · rw [List.concat_eq_append, ← List.cons_append, ← List.append_assoc] at hsplit
      exact .inl ⟨before, init, t, mid, (List.append_inj' hsplit rfl).1, ht, hnone⟩
  · rintro (⟨before, after, t, mid, rfl, ht, hnone⟩ | ⟨rfl, hnone⟩)
    · exact ⟨before, after ++ [e], t, mid, by simp, ht, hnone⟩
    · exact ⟨es, [], s, out, rfl, hrun, hnone⟩

/-- Along every run the timer is gone once the session has been torn down, and the owner has been
called by then and not before. -/
theorem timer_run {es : List TeardownEvent} {s : ServerSession} {out : List TeardownAction}
    (hrun : serverSession.run (.ok (started sessionId)) es = some (.ok s, out)) :
    (s.timer = false ↔ TornDown sessionId es) ∧ (s.timer = true → out.countP isCloseCb = 0) ∧
      (s.timer = false → 1 ≤ out.countP isCloseCb) := by
  refine Machine.run_induction (P := fun es out x => ∀ s, x = .ok s →
    (s.timer = false ↔ TornDown sessionId es) ∧ (s.timer = true → out.countP isCloseCb = 0) ∧
      (s.timer = false → 1 ≤ out.countP isCloseCb)) ?_ ?_ hrun s rfl
  · rintro s ⟨⟩
    refine ⟨⟨nofun, ?_⟩, fun _ => rfl, nofun⟩
    rintro ⟨before, after, t, mid, hsplit, _, _⟩
    simp at hsplit
  · intro es out x e y new hx ih hstep t ht
    subst ht
    obtain ⟨s, rfl, _, _⟩ := machine_step_alive hstep
    obtain ⟨htorn, hnone, hsome⟩ := ih s rfl
    rw [torn_down_snoc hx, List.countP_append]
    rcases step_cases hstep with ⟨rfl, htunnels, hcount, t', ht', htimer⟩ |
      ⟨_, _, _, _, hfault⟩ | ⟨_, hnot, hcount, _, hkeep⟩
    · cases ht'
      refine ⟨⟨fun _ => .inr ⟨rfl, htunnels⟩, fun _ => htimer⟩, fun h => ?_, fun _ => by omega⟩
      rw [htimer] at h
      cases h
    · cases hfault
    · rw [hkeep t rfl]
      refine ⟨htorn.trans ⟨.inl, fun h => h.resolve_right hnot⟩, fun h => ?_, fun h => ?_⟩
      · rw [hnone h, hcount]
      · have hone := hsome h
        omega

/-- Once the session is torn down the controller reports no `Closed` and no wait completes. -/
def Timely (sessionId : UInt32) (es : List TeardownEvent) (_ : List TeardownAction)
    (x : Except TeardownFault ServerSession) (e : TeardownEvent) : Prop :=
  TornDown sessionId es → ∀ s, x = .ok s → ¬ ReportsClosed s e ∧ e ≠ .waitCompleted

/-- In the terms of the state: the pointer to the timer tells whether the session is torn down. -/
theorem timely_iff {es : List TeardownEvent} {s : ServerSession} {out : List TeardownAction}
    {e : TeardownEvent}
    (hrun : serverSession.run (.ok (started sessionId)) es = some (.ok s, out)) :
    Timely sessionId es out (.ok s) e ↔
      (s.timer = false → ¬ ReportsClosed s e ∧ e ≠ .waitCompleted) := by
  have htorn := (timer_run hrun).1
  constructor
  · exact fun h htimer => h (htorn.mp htimer) s rfl
  · rintro h hdown _ ⟨⟩
    exact h (htorn.mpr hdown)

/-- While the timer is there every event is timely. -/
theorem timely_of_timer {es : List TeardownEvent} {s : ServerSession} {out : List TeardownAction}
    {e : TeardownEvent}
    (hrun : serverSession.run (.ok (started sessionId)) es = some (.ok s, out))
    (htimer : s.timer = true) : Timely sessionId es out (.ok s) e :=
  (timely_iff hrun).mpr fun h => by simp [htimer] at h

/-- All along a sequence of events the owner is called at most once, the timer is not dereferenced
when it is gone, and the owner is not called while a tunnel is there. -/
structure TearsDown (sessionId : UInt32) (es : List TeardownEvent) : Prop where
  once : ∀ before after x out, es = before ++ after →
    serverSession.run (.ok (started sessionId)) before = some (x, out) →
    out.countP isCloseCb ≤ 1 ∧ x ≠ .error .nullTimer
  empty : serverSession.AllSteps
    (fun x _ _ new => 0 < new.countP isCloseCb → ∃ s, x = .ok s ∧ s.noTunnels = true)
    (.ok (started sessionId)) es

/-- The owner is called only when no tunnel is left. -/
theorem close_cb_no_tunnels {x y : Except TeardownFault ServerSession} {e : TeardownEvent}
    {new : List TeardownAction} (hstep : serverSession.step x e = some (y, new))
    (hcall : 0 < new.countP isCloseCb) : ∃ s, x = .ok s ∧ s.noTunnels = true := by
  obtain ⟨s, rfl, _, _, _⟩ := machine_step_eq_some hstep
  rcases step_cases hstep with ⟨_, htunnels, _⟩ | ⟨_, _, _, hcount, _⟩ | ⟨_, _, hcount, _⟩
  · exact ⟨s, rfl, htunnels⟩
  · omega
  · omega

end ServerSession

open ServerSession

/-- Over any order of the events of a server session, its owner is called at most once and never
while a tunnel is there, and the timer is not dereferenced when it is gone, if and only if after
the first wait that completes without a tunnel neither a `Closed` is reported nor a wait
completes. -/
theorem tears_down_iff {sessionId : UInt32} {es : List TeardownEvent}
    {r : Except TeardownFault ServerSession} {out : List TeardownAction}
    (hrun : serverSession.run (.ok (started sessionId)) es = some (r, out)) :
    TearsDown sessionId es ↔
      serverSession.Meets (Timely sessionId) (.ok (started sessionId)) es := by
  have hiff : _ ↔ serverSession.Meets (Timely sessionId) (.ok (started sessionId)) es :=
    Machine.forall_reached_iff_meets
      (P := fun _ out x => out.countP isCloseCb ≤ 1 ∧ x ≠ .error .nullTimer)
      ⟨Nat.zero_le 1, by simp⟩ ?_ hrun
  · refine Iff.trans ⟨fun h => h.once, fun h => ⟨h, ?_⟩⟩ hiff
    intro before e after x mid y new _ _ hstep hcall
    exact close_cb_no_tunnels hstep hcall
  · intro before mid x e y new hx hP hstep
    obtain ⟨s, rfl, _, _⟩ := Effect.machine_step_eq_some hstep
    obtain ⟨_, hnone, hsome⟩ := timer_run hx
    rw [timely_iff hx, List.countP_append]
    rcases step_cases hstep with ⟨rfl, _, hcount, t, rfl, _⟩ |
      ⟨htimer, hcause, _, _, rfl⟩ | ⟨htimely, _, hcount, hfault, _⟩
    · -- the owner is called, for the first time if the timer was there
      constructor
      · rintro ⟨honce, _⟩ htimer
        have hone := hsome htimer
        omega
      · intro htime
        refine ⟨?_, by simp⟩
        by_cases htimer : s.timer = true
        · rw [hnone htimer, hcount]
        · rw [Bool.not_eq_true] at htimer
          exact absurd rfl (htime htimer).2
    · constructor
      · exact fun h => absurd rfl h.2
      · intro htime
        obtain ⟨hreport, hwait⟩ := htime htimer
        rcases hcause with h | h
        · exact absurd h hreport
        · exact absurd h hwait
    · constructor
      · exact fun _ => htimely
      · intro _
        refine ⟨?_, hfault⟩
        rw [hcount]
        exact hP.1

/-- The peer connection fails, the wait expires and completes. -/
theorem tears_down_failed :
    TearsDown 7 [.peerState .connected, .peerState .failed, .timerExpired, .waitCompleted,
      .peerState .disconnected] := by
  have hmeets : serverSession.Meets (Timely 7) (.ok (started 7)) [.peerState .connected,
      .peerState .failed, .timerExpired, .waitCompleted, .peerState .disconnected] :=
    (((((Machine.meets_nil _).snoc rfl (timely_of_timer rfl rfl)).snoc rfl
      (timely_of_timer rfl rfl)).snoc rfl (timely_of_timer rfl rfl)).snoc rfl
      (timely_of_timer rfl rfl)).snoc rfl
      ((timely_iff rfl).mpr fun _ => ⟨by simp [ReportsClosed], by simp⟩)
  obtain ⟨r, out, hrun⟩ : ∃ r out, serverSession.run (.ok (started 7)) [.peerState .connected,
      .peerState .failed, .timerExpired, .waitCompleted, .peerState .disconnected] =
      some (r, out) := ⟨_, _, rfl⟩
  exact (tears_down_iff hrun).mpr hmeets

/-- The peer connection fails and the signalling channel, which is told to disconnect then, closes
only after the timer is gone. -/
theorem late_signaling_close :
    ¬ TearsDown 7 [.peerState .connected, .peerState .failed, .timerExpired, .waitCompleted,
      .signalingClosed] := by
  intro h
  obtain ⟨out, hrun⟩ : ∃ out, serverSession.run (.ok (started 7)) [.peerState .connected,
      .peerState .failed, .timerExpired, .waitCompleted, .signalingClosed] =
      some (.error .nullTimer, out) := ⟨_, rfl⟩
  exact (h.once _ [] _ out (List.append_nil _).symm hrun).2 rfl

end RtcVpn
