import RtcVpn.Socket.TcpClose

/-!
# The status of the write queue

`do_write` compares the length of the write queue with its thresholds behind
the early return for a queue that is not empty, so it only ever sees an empty
one: a socket that starts out safe stays safe. That is right as long as no
handler of a write leaves 4000 buffers in the queue.
-/

namespace RtcVpn

/-- The status the write-queue callback is given. -/
def TcpAction.statusReported : TcpAction → Option WriteQueueStatus
  | .writeQueueCallback status => some status
  | _ => none

/-- The other status. -/
def WriteQueueStatus.other : WriteQueueStatus → WriteQueueStatus
  | .danger => .safety
  | .safety => .danger

/-- A list of statuses of which each is the other one than the one before. -/
inductive Alternating : WriteQueueStatus → List WriteQueueStatus → Prop
  | nil (status : WriteQueueStatus) : Alternating status []
  | cons (status : WriteQueueStatus) {rest : List WriteQueueStatus}
      (h : Alternating status.other rest) : Alternating status (status :: rest)

namespace TcpSocket

open Effect

/-- The status that the thresholds demand when a handler has finished: danger from 4000 buffers
on, safety below 2000, and the status before in between. -/
def demanded (before : WriteQueueStatus) (length : Nat) : WriteQueueStatus :=
  if 4000 ≤ length then .danger else if length < 2000 then .safety else before

/-- A handler of a write leaves the status that is demanded. -/
def FitsThresholds (x : Except QueueFault TcpSocket) (e : TcpEvent)
    (y : Except QueueFault TcpSocket) (_ : List TcpAction) : Prop :=
  ∀ s t i, x = .ok s → e = .onWrite i → y = .ok t →
    t.writeQueueStatus = demanded s.writeQueueStatus t.writeQueue.length

/-- The callback is invoked once if the status changes, and not if it does not. -/
def ReportsChange (x : Except QueueFault TcpSocket) (_ : TcpEvent)
    (y : Except QueueFault TcpSocket) (new : List TcpAction) : Prop :=
  ∀ s t, x = .ok s → y = .ok t → new.filterMap TcpAction.statusReported =
    if t.writeQueueStatus = s.writeQueueStatus then [] else [t.writeQueueStatus]

/-- Hysteresis along a run: the status fits the thresholds, its changes are reported, and what is
reported alternates from danger on. -/
structure Hysteresis (s₀ : TcpSocket) (es : List TcpEvent) (out : List TcpAction) : Prop where
  fits : tcpSocket.AllSteps FitsThresholds (.ok s₀) es
  reported : tcpSocket.AllSteps ReportsChange (.ok s₀) es
  alternates : Alternating .danger (out.filterMap TcpAction.statusReported)

/-- The handler of a write leaves fewer than 4000 buffers: there are at most 4000 with the one
that has been written, and fewer if the write has failed. -/
def LeavesFew (s : TcpSocket) : TcpEvent → Prop
  | .onWrite i =>
      match Operation.resultAt (s.writes.map Prod.snd) i with
      | some (.ok _) => s.writeQueue.length ≤ 4000
      | _ => s.writeQueue.length < 4000
  | _ => True

/-! ## The status never changes -/

theorem status_callback_action {isSet : Bool} {a : TcpAction} (h : a.statusReported = none) :
    (callbackAction isSet a).filterMap TcpAction.statusReported = [] := by
  cases isSet <;> simp [callbackAction, h]

theorem status_shutdown_actions (s : TcpSocket) :
    s.shutdownActions.filterMap TcpAction.statusReported = [] := by
  unfold shutdownActions
  split
  · rfl
  · rw [List.filterMap_append]
    split <;> split <;> rfl

/-- A safe socket reports nothing. -/
theorem TcpStep.silent {s : TcpSocket} {e : TcpEvent} {r : Except QueueFault TcpSocket}
    {out : List TcpAction} (h : TcpStep s e r out) (hs : s.writeQueueStatus = .safety) :
    out.filterMap TcpAction.statusReported = [] := by
  have hdrained : s.drainedActions = [] := by simp [drainedActions, hs]
  cases h with
  | closeNow | readFailed | writeFailed =>
      simpa [TcpAction.statusReported] using status_shutdown_actions s
  | resolveFailed | connectFailed | readLast => exact status_callback_action rfl
  | connected | readAgain =>
      rw [List.filterMap_append, status_callback_action rfl]
      rfl
  | writeLast =>
      rw [hdrained]
      rfl
  | writeLastClose =>
      rw [hdrained]
      simpa [TcpAction.statusReported] using status_shutdown_actions s
  | _ => rfl

/-- Whatever a socket has gone through, it has reported nothing. -/
theorem silent_of_run {s₀ : TcpSocket} {r : Except QueueFault TcpSocket} {es : List TcpEvent}
    {out : List TcpAction} (hinit : Initial s₀) (hrun : tcpSocket.run (.ok s₀) es = some (r, out)) :
    out.filterMap TcpAction.statusReported = [] := by
  refine Machine.run_induction (P := fun _ out _ => out.filterMap TcpAction.statusReported = [])
    rfl ?_ hrun
  intro es out x e y new hes ih hstep
  obtain ⟨s, rfl, htcp⟩ := tcp_socket_step hstep
  rw [List.filterMap_append, ih, htcp.silent (status_run hinit hes)]
  rfl

/-! ## What a handler of a write leaves -/

/-- A handler of a write leaves fewer than 4000 buffers exactly if `LeavesFew` says so. -/
theorem TcpStep.leaves_few {s : TcpSocket} {i : Nat} {r : Except QueueFault TcpSocket}
    {out : List TcpAction} (h : TcpStep s (.onWrite i) r out) :
    (∀ t, r = .ok t → t.writeQueue.length < 4000) ↔ LeavesFew s (.onWrite i) := by
  have hresult : ∀ {data : Bytes} {r : Except IoError Unit},
      s.writes[i]? = some (data, .completed r) →
      Operation.resultAt (s.writes.map Prod.snd) i = some r := by
    intro data r hw
    simp [Operation.resultAt, List.getElem?_map, hw]
  cases h with
  | writeFailed _ data e hw =>
      rw [LeavesFew, hresult hw]
      simp
  | writeUnderflow _ data hw hqueue =>
      rw [LeavesFew, hresult hw]
      simp [hqueue]
  | writeNext _ data popped next rest hw hqueue =>
      rw [LeavesFew, hresult hw]
      simp only [Except.ok.injEq, forall_eq', beginWrite, hqueue, List.length_cons]
      omega
  | writeLast _ data popped hw hqueue hclosing =>
      rw [LeavesFew, hresult hw]
      simp [drained, hqueue]
  | writeLastClose _ data popped hw hqueue hclosing =>
      rw [LeavesFew, hresult hw]
      simp [drained, hqueue]

/-- A handler of a safe socket fits the thresholds exactly if it leaves fewer than 4000 buffers. -/
theorem fits_thresholds_iff {s : TcpSocket} {e : TcpEvent} {y : Except QueueFault TcpSocket}
    {new : List TcpAction} (hsafe : s.writeQueueStatus = .safety) (h : TcpStep s e y new) :
    FitsThresholds (.ok s) e y new ↔ LeavesFew s e := by
  cases e with
  | onWrite i =>
      rw [← h.leaves_few]
      constructor
      · rintro hfits t rfl
        have hstatus := hfits s t i rfl rfl rfl
        rw [status_step hsafe h, demanded] at hstatus
        by_contra hmany
        rw [if_pos (by omega)] at hstatus
        cases hstatus
      · rintro hfew _ t _ ⟨⟩ ⟨⟩ rfl
        rw [status_step hsafe h, demanded, hsafe, if_neg (by have hlt := hfew t rfl; omega)]
        split <;> rfl
  | _ => exact ⟨fun _ => trivial, fun _ _ _ _ _ he => by cases he⟩

/-- While a buffer is being written, what is sent is queued. -/
theorem run_sends {s : TcpSocket} (hconnected : s.isConnected = true)
    (hclosing : s.isClosing = false)
    (hclosed : s.isClosed = false) (hsending : s.isSending = true) (data : Bytes) (n : Nat) :
    tcpSocket.run (.ok s) (List.replicate n (.send data)) =
      some (.ok { s with writeQueue := s.writeQueue ++ List.replicate n data },
        List.replicate n (.accept data)) := by
  induction n generalizing s with
  | zero => simp
  | succ n ih =>
      have hstep : tcpSocket.step (.ok s) (.send data) =
          some (.ok { s with writeQueue := s.writeQueue ++ [data] }, [.accept data]) := by
        rw [tcpSocket, machine_step_ok rfl]
        simp [handle, sendTask, hconnected, hclosing, hclosed, hsending, Except.map]
      have hrest := ih (s := { s with writeQueue := s.writeQueue ++ [data] }) hconnected hclosing
        hclosed hsending
      rw [List.replicate_succ, List.replicate_succ, List.replicate_succ,
        List.append_cons s.writeQueue data (List.replicate n data)]
      exact Machine.run_cons.mpr ⟨_, _, _, hstep, hrest, rfl⟩

end TcpSocket

open TcpSocket

/-- The write queue of a socket has the hysteresis its thresholds describe, in a run of sends,
completions and whatever else, if and only if no handler of a write leaves 4000 buffers in it. -/
theorem hysteresis_iff {s₀ : TcpSocket} {r : Except QueueFault TcpSocket} {es : List TcpEvent}
    {out : List TcpAction} (hinit : Initial s₀)
    (hrun : tcpSocket.run (.ok s₀) es = some (r, out)) :
    Hysteresis s₀ es out ↔ tcpSocket.Meets (Effect.WhenAlive LeavesFew) (.ok s₀) es := by
  have hfits : tcpSocket.AllSteps FitsThresholds (.ok s₀) es ↔
      tcpSocket.Meets (Effect.WhenAlive LeavesFew) (.ok s₀) es := by
    refine Machine.all_steps_iff_meets hrun fun before mid x e y new hbefore hstep => ?_
    obtain ⟨s, rfl, htcp⟩ := tcp_socket_step hstep
    rw [fits_thresholds_iff (status_run hinit hbefore) htcp, Effect.when_alive_ok]
  refine ⟨fun h => hfits.mp h.fits, fun h => ⟨hfits.mpr h, ?_, ?_⟩⟩
  · rintro before e after _ mid _ new - hbefore hstep s t rfl rfl
    obtain ⟨_, hs, htcp⟩ := tcp_socket_step hstep
    cases hs
    have hsafe := status_run hinit hbefore
    rw [htcp.silent hsafe, status_step hsafe htcp, hsafe, if_pos rfl]
  · rw [silent_of_run hinit hrun]
    exact .nil _

/-- Two buffers are sent and written. -/
def twoSends : List TcpEvent :=
  [.send [1], .send [2], .finishWrite 0 (.ok ()), .onWrite 0, .finishWrite 0 (.ok ()), .onWrite 0]

theorem hysteresis_two_sends :
    ∃ s out, tcpSocket.run (.ok (fromConnection {})) twoSends = some (.ok s, out) ∧
      Hysteresis (fromConnection {}) twoSends out := by
  have hone : 1 ≤ 4000 := by decide
  have htwo : 2 ≤ 4000 := by decide
  have hmeets : tcpSocket.Meets (Effect.WhenAlive LeavesFew) (.ok (fromConnection {})) twoSends :=
    Effect.meets_when_alive_cons rfl trivial <| Effect.meets_when_alive_cons rfl trivial <|
    Effect.meets_when_alive_cons rfl trivial <| Effect.meets_when_alive_cons rfl htwo <|
    Effect.meets_when_alive_cons rfl trivial <| Effect.meets_when_alive_cons rfl hone <|
    Machine.meets_nil _
  obtain ⟨s, out, hrun⟩ : ∃ s out, tcpSocket.run (.ok (fromConnection {})) twoSends =
      some (.ok s, out) := ⟨_, _, rfl⟩
  exact ⟨s, out, hrun, (hysteresis_iff ⟨{}, .inr rfl⟩ hrun).mpr hmeets⟩

/-- With two more buffers sent than a number, the handler of the first write leaves one more than
the number, and the socket safe. -/
theorem write_of_many (n : Nat) :
    ∃ s t taken new, tcpSocket.run (.ok (fromConnection {})) (.send [1] ::
        (List.replicate (n + 1) (.send [1]) ++ [.finishWrite 0 (.ok ())])) = some (.ok s, taken) ∧
      tcpSocket.step (.ok s) (.onWrite 0) = some (.ok t, new) ∧
      t.writeQueue.length = n + 1 ∧ t.writeQueueStatus = .safety := by
  obtain ⟨s, hs⟩ : ∃ s : TcpSocket, s =
      { fromConnection {} with
        writeQueue := [[1]], isSending := true, writes := [([1], .pending)] } := ⟨_, rfl⟩
  have hfirst : tcpSocket.step (.ok (fromConnection {})) (.send [1]) =
      some (.ok s, [.accept [1], .asyncWrite [1]]) := by
    rw [hs]
    rfl
  have hsends := run_sends (s := s) (by rw [hs]; rfl) (by rw [hs]; rfl) (by rw [hs]; rfl)
    (by rw [hs]) [1] (n + 1)
  obtain ⟨t, ht⟩ : ∃ t : TcpSocket,
      t = { s with writeQueue := s.writeQueue ++ List.replicate (n + 1) [1] } := ⟨_, rfl⟩
  rw [← ht] at hsends
  have hqueue : t.writeQueue = [1] :: [1] :: List.replicate n [1] := by
    rw [ht, hs, ← List.replicate_succ]
    rfl
  have hwrites : t.writes = [([1], .pending)] := by rw [ht, hs]
  obtain ⟨u, hu⟩ : ∃ u : TcpSocket, u = { t with writes := [([1], .completed (.ok ()))] } :=
    ⟨_, rfl⟩
  have hfinish : tcpSocket.step (.ok t) (.finishWrite 0 (.ok ())) = some (.ok u, []) := by
    rw [tcpSocket, Effect.machine_step_ok (by simp [enabled, hwrites, Operation.pendingAt])]
    simp [handle, hwrites, hu, Except.map]
  have hwrite : tcpSocket.step (.ok u) (.onWrite 0) =
      some (.ok (beginWrite { t with writes := [], writeQueue := [1] :: List.replicate n [1] }
        [1]), [.wrote [1], .asyncWrite [1]]) := by
    rw [tcpSocket, Effect.machine_step_ok (by simp [enabled, hu, Operation.resultAt])]
    simp [handle, hu, onWrite, hqueue, run_do_write, beginWrite, Except.map]
  refine ⟨u, _, _, _, Machine.run_cons.mpr ⟨_, _, _, hfirst, Machine.run_snoc.mpr
    ⟨_, _, _, hsends, hfinish, rfl⟩, rfl⟩, hwrite, by simp [beginWrite], ?_⟩
  show t.writeQueueStatus = .safety
  rw [ht, hs]
  rfl

/-- With 4001 buffers sent, the handler of the first write leaves 4000 and the socket safe. -/
theorem full_queue_unreported :
    ∃ s out, tcpSocket.run (.ok (fromConnection {})) (.send [1] ::
        (List.replicate 4000 (.send [1]) ++ [.finishWrite 0 (.ok ())]) ++ [.onWrite 0]) =
          some (.ok s, out) ∧
      ¬ Hysteresis (fromConnection {}) (.send [1] ::
        (List.replicate 4000 (.send [1]) ++ [.finishWrite 0 (.ok ())]) ++ [.onWrite 0]) out := by
  obtain ⟨s, t, taken, new, hbefore, hwrite, hlength, hstatus⟩ := write_of_many 3999
  refine ⟨t, taken ++ new, Machine.run_snoc.mpr ⟨_, _, _, hbefore, hwrite, rfl⟩, fun h => ?_⟩
  have hfits := h.fits _ _ [] _ taken _ new rfl hbefore hwrite s t 0 rfl rfl rfl
  rw [hlength, hstatus] at hfits
  exact absurd hfits (by simp [demanded])

end RtcVpn
