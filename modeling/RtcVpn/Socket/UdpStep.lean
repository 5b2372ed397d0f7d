import RtcVpn.Socket.UdpSocket

/-!
# What a step of the UDP socket can do

The outcome of each handler in closed form and `UdpStep`, the relation that
lists every way a live socket can answer an event. A datagram leaves the send
queue in two places, after a failed resolve and after a send, in the same way:
`EndOfSend` is that common part.
-/

namespace RtcVpn

namespace UdpSocket

/-! ## The state changes of the handlers -/

/-- The state after `do_close`. -/
def shutdown (s : UdpSocket) : UdpSocket :=
  if s.isClosed then s
  else if s.socketOpen then { s.descriptorClosed with isClosed := true }
  else { s with isClosed := true }

/-- The action of a callback that may not be set. -/
def callbackAction (isSet : Bool) (a : UdpAction) : List UdpAction := if isSet then [a] else []

/-- What `do_close` does. -/
def shutdownActions (s : UdpSocket) : List UdpAction :=
  if s.isClosed then []
  else (if s.socketOpen then [.closeSocket] else []) ++
    callbackAction s.callbacks.close .closeCallback

/-- The state after `do_read`. -/
def beginRead (s : UdpSocket) : UdpSocket :=
  { s with reads := s.reads ++ [.initiate s.socketOpen], beganReads := s.beganReads + 1 }

/-- The state after `do_send_next`. -/
def beginResolve (s : UdpSocket) : UdpSocket :=
  { s with resolves := s.resolves ++ [.pending] }

/-- The state after `async_send_to` of a datagram. -/
def beginSend (s : UdpSocket) (item : PendingSend) : UdpSocket :=
  { s with sends := s.sends ++ [(item.data, .initiate s.socketOpen)] }

/-! ## The handlers -/

theorem run_invoke (isSet : UdpCallbacks → Bool) (a : UdpAction) (s : UdpSocket) :
    (invoke isSet a).run s = ⟨s, callbackAction (isSet s.callbacks) a, .ok ()⟩ := by
  by_cases h : isSet s.callbacks = true <;> simp [invoke, callbackAction, h]

theorem run_do_close (s : UdpSocket) :
    doClose.run s = ⟨s.shutdown, s.shutdownActions, .ok ()⟩ := by
  by_cases hclosed : s.isClosed = true
  · simp [doClose, shutdown, shutdownActions, hclosed]
  · by_cases hopen : s.socketOpen = true <;>
      simp [doClose, shutdown, shutdownActions, hclosed, hopen, run_invoke, descriptorClosed]

theorem run_do_read (s : UdpSocket) : doRead.run s = ⟨s.beginRead, [.asyncReceive], .ok ()⟩ := rfl

theorem run_do_send_next (s : UdpSocket) :
    doSendNext.run s =
      match s.sendQueue with
      | [] => ⟨s, [], .error .frontOfEmpty⟩
      | item :: _ =>
          ⟨s.beginResolve, [.asyncResolve item.targetHost item.targetPort], .ok ()⟩ := by
  cases hqueue : s.sendQueue with
  | nil => simp [doSendNext, hqueue]
  | cons item rest => simp [doSendNext, hqueue, beginResolve]

/-! ## Steps -/

/-- The ways a datagram leaves the send queue. -/
inductive EndOfSend (s : UdpSocket) (done : PendingSend → UdpAction) :
    Except QueueFault UdpSocket → List UdpAction → Prop
  | underflow (hqueue : s.sendQueue = []) : EndOfSend s done (.error .popOfEmpty) []
  | next (item following : PendingSend) (rest : List PendingSend)
      (hqueue : s.sendQueue = item :: following :: rest) :
      EndOfSend s done (.ok (beginResolve { s with sendQueue := following :: rest }))
        [done item, .asyncResolve following.targetHost following.targetPort]
  | last (item : PendingSend) (hqueue : s.sendQueue = [item]) (hclosing : s.isClosing = false) :
      EndOfSend s done (.ok { s with sendQueue := [], isSending := false }) [done item]
  | lastClose (item : PendingSend) (hqueue : s.sendQueue = [item])
      (hclosing : s.isClosing = true) :
      EndOfSend s done (.ok (shutdown { s with sendQueue := [], isSending := false }))
        (done item :: s.shutdownActions)

/-- Every way a live socket answers an event. -/
inductive UdpStep (s : UdpSocket) : UdpEvent → Except QueueFault UdpSocket → List UdpAction → Prop
  | openFailed (bound : Bool) : UdpStep s (.start false bound) (.ok s)
      (.openSocket :: callbackAction s.callbacks.openResult (.openCallback false))
  | bindFailed : UdpStep s (.start true false) (.ok { s with socketOpen := true })
      (.openSocket :: .bindSocket ::
        callbackAction s.callbacks.openResult (.openCallback false))
  | started : UdpStep s (.start true true)
      (.ok (beginRead { s with socketOpen := true, isOpen := true }))
      (.openSocket :: .bindSocket ::
        (callbackAction s.callbacks.openResult (.openCallback true) ++ [.asyncReceive]))
  | sendDropped (item : PendingSend)
      (h : s.isOpen = false ∨ s.isClosing = true ∨ s.isClosed = true) :
      UdpStep s (.send item) (.ok s) []
  | sendQueued (item : PendingSend) (hclosing : s.isClosing = false) (hclosed : s.isClosed = false)
      (hsending : s.isSending = true) :
      UdpStep s (.send item) (.ok { s with sendQueue := s.sendQueue ++ [item] }) [.accept item]
  | sendFirst (item front : PendingSend) (rest : List PendingSend)
      (hclosing : s.isClosing = false) (hclosed : s.isClosed = false)
      (hsending : s.isSending = false) (hfront : s.sendQueue ++ [item] = front :: rest) :
      UdpStep s (.send item)
        (.ok (beginResolve { s with sendQueue := front :: rest, isSending := true }))
        [.accept item, .asyncResolve front.targetHost front.targetPort]
  | closeIgnored (h : s.isClosing = true ∨ s.isClosed = true) : UdpStep s .close (.ok s) []
  | closeNow (hclosing : s.isClosing = false) (hclosed : s.isClosed = false)
      (h : s.isOpen = false ∨ (s.isSending = false ∧ s.sendQueue = [])) :
      UdpStep s .close (.ok (shutdown { s with isClosing := true })) s.shutdownActions
  | closeLater (hclosing : s.isClosing = false) (hclosed : s.isClosed = false)
      (hopen : s.isOpen = true) (h : s.isSending = true ∨ s.sendQueue ≠ []) :
      UdpStep s .close (.ok { s with isClosing := true }) []
  | startReadingIgnored (h : s.isReading = true ∨ s.isClosing = true ∨ s.isClosed = true) :
      UdpStep s .startReading (.ok s) []
  | startReadingLater (hreading : s.isReading = false) (hclosing : s.isClosing = false)
      (hclosed : s.isClosed = false) (hopen : s.isOpen = false) :
      UdpStep s .startReading (.ok { s with isReading := true }) []
  | startReadingNow (hreading : s.isReading = false) (hclosing : s.isClosing = false)
      (hclosed : s.isClosed = false) (hopen : s.isOpen = true) :
      UdpStep s .startReading (.ok (beginRead { s with isReading := true })) [.asyncReceive]
  | stopReading : UdpStep s .stopReading (.ok { s with isReading := false }) []
  | finishResolve (i : Nat) (r : Except IoError Unit) :
      UdpStep s (.finishResolve i r)
        (.ok { s with resolves := s.resolves.set i (.completed r) }) []
  | finishSend (i : Nat) (r : Except IoError Unit) :
      UdpStep s (.finishSend i r)
        (.ok { s with sends := s.sends.modify i fun w => (w.1, .completed r) }) []
  | finishRead (i : Nat) (r : Except IoError Datagram) :
      UdpStep s (.finishRead i r) (.ok { s with reads := s.reads.set i (.completed r) }) []
  | resolveFailed (i : Nat) (e : IoError) (r : Except QueueFault UdpSocket)
      (out : List UdpAction) (h : Operation.resultAt s.resolves i = some (.error e))
      (hend : EndOfSend { s with resolves := s.resolves.eraseIdx i } .dropped r out) :
      UdpStep s (.onResolve i) r out
  | resolvedUnderflow (i : Nat) (h : Operation.resultAt s.resolves i = some (.ok ()))
      (hqueue : s.sendQueue = []) : UdpStep s (.onResolve i) (.error .frontOfEmpty) []
  | resolved (i : Nat) (item : PendingSend) (rest : List PendingSend)
      (h : Operation.resultAt s.resolves i = some (.ok ())) (hqueue : s.sendQueue = item :: rest) :
      UdpStep s (.onResolve i)
        (.ok (beginSend { s with resolves := s.resolves.eraseIdx i } item))
        [.asyncSendTo item.data]
  | sendFailed (i : Nat) (e : IoError)
      (h : Operation.resultAt (s.sends.map Prod.snd) i = some (.error e)) :
      UdpStep s (.onSend i)
        (.ok (shutdown { s with sends := s.sends.eraseIdx i, isClosing := true }))
        (.sendError :: s.shutdownActions)
  | sent (i : Nat) (r : Except QueueFault UdpSocket) (out : List UdpAction)
      (h : Operation.resultAt (s.sends.map Prod.snd) i = some (.ok ()))
      (hend : EndOfSend { s with sends := s.sends.eraseIdx i } .sent r out) :
      UdpStep s (.onSend i) r out
  | readFailed (i : Nat) (e : IoError) (h : Operation.resultAt s.reads i = some (.error e)) :
      UdpStep s (.onRead i)
        (.ok (shutdown { s with reads := s.reads.eraseIdx i, isClosing := true }))
        (.receiveError :: s.shutdownActions)
  | readLast (i : Nat) (datagram : Datagram)
      (h : Operation.resultAt s.reads i = some (.ok datagram)) (hreading : s.isReading = false) :
      UdpStep s (.onRead i) (.ok { s with reads := s.reads.eraseIdx i })
        (callbackAction s.callbacks.data (.dataCallback datagram))
  | readAgain (i : Nat) (datagram : Datagram)
      (h : Operation.resultAt s.reads i = some (.ok datagram)) (hreading : s.isReading = true) :
      UdpStep s (.onRead i) (.ok (beginRead { s with reads := s.reads.eraseIdx i }))
        (callbackAction s.callbacks.data (.dataCallback datagram) ++ [.asyncReceive])

/-- The handler of an event answers it the way `UdpStep` says. -/
def Answers (s : UdpSocket) (e : UdpEvent) : Prop :=
  UdpStep s e (((handle e).run s).result.map fun _ => ((handle e).run s).state)
    ((handle e).run s).actions

/-- A handler that returns. -/
theorem answers_of_run {s t : UdpSocket} {e : UdpEvent} {out : List UdpAction}
    (hstep : UdpStep s e (.ok t) out) (hrun : (handle e).run s = ⟨t, out, .ok ()⟩) :
    Answers s e := by
  unfold Answers
  rw [hrun]
  exact hstep

theorem start_answers (s : UdpSocket) (opened bound : Bool) : Answers s (.start opened bound) := by
  cases opened with
  | false => exact answers_of_run (.openFailed bound) (by simp [handle, startTask, run_invoke])
  | true =>
      cases bound with
      | false => exact answers_of_run .bindFailed (by simp [handle, startTask, run_invoke])
      | true => exact answers_of_run .started (by simp [handle, startTask, run_invoke, run_do_read])

theorem send_answers (s : UdpSocket) (item : PendingSend) : Answers s (.send item) := by
  by_cases h : s.isOpen = false ∨ s.isClosing = true ∨ s.isClosed = true
  · refine answers_of_run (.sendDropped item h) ?_
    simp [handle, sendTask, or_assoc, h]
  · simp only [not_or, Bool.not_eq_true, Bool.not_eq_false] at h
    obtain ⟨hopen, hclosing, hclosed⟩ := h
    cases hsending : s.isSending with
    | true =>
        refine answers_of_run (.sendQueued item hclosing hclosed hsending) ?_
        simp [handle, sendTask, hopen, hclosing, hclosed, hsending]
    | false =>
        obtain ⟨front, rest, hfront⟩ : ∃ front rest, s.sendQueue ++ [item] = front :: rest :=
          List.exists_cons_of_ne_nil (by simp)
        refine answers_of_run (.sendFirst item front rest hclosing hclosed hsending hfront) ?_
        simp [handle, sendTask, hopen, hclosing, hclosed, hsending, hfront, run_do_send_next]

theorem close_answers (s : UdpSocket) : Answers s .close := by
  by_cases h : s.isClosing = true ∨ s.isClosed = true
  · refine answers_of_run (.closeIgnored h) ?_
    simp [handle, closeTask, h]
  · simp only [not_or, Bool.not_eq_true] at h
    obtain ⟨hclosing, hclosed⟩ := h
    by_cases hnow : s.isOpen = false ∨ (s.isSending = false ∧ s.sendQueue = [])
    · refine answers_of_run (.closeNow hclosing hclosed hnow) ?_
      rcases hnow with hopen | ⟨hsending, hqueue⟩
      · simp [handle, closeTask, hclosing, hclosed, hopen, run_do_close, shutdownActions]
      · simp [handle, closeTask, hclosing, hclosed, hsending, hqueue, run_do_close, shutdownActions]
    · simp only [not_or, not_and_or, Bool.not_eq_false] at hnow
      obtain ⟨hopen, hbusy⟩ := hnow
      refine answers_of_run (.closeLater hclosing hclosed hopen hbusy) ?_
      rcases hbusy with hsending | hqueue
      · simp [handle, closeTask, hclosing, hclosed, hopen, hsending]
      · simp [handle, closeTask, hclosing, hclosed, hopen, hqueue]

theorem start_reading_answers (s : UdpSocket) : Answers s .startReading := by
  by_cases h : s.isReading = true ∨ s.isClosing = true ∨ s.isClosed = true
  · refine answers_of_run (.startReadingIgnored h) ?_
    simp [handle, startReadingTask, or_assoc, h]
  · simp only [not_or, Bool.not_eq_true] at h
    obtain ⟨hreading, hclosing, hclosed⟩ := h
    cases hopen : s.isOpen with
    | true =>
        refine answers_of_run (.startReadingNow hreading hclosing hclosed hopen) ?_
        simp [handle, startReadingTask, hreading, hclosing, hclosed, hopen, run_do_read]
    | false =>
        refine answers_of_run (.startReadingLater hreading hclosing hclosed hopen) ?_
        simp [handle, startReadingTask, hreading, hclosing, hclosed, hopen]

/-- The end of a send. -/
theorem end_of_send (s : UdpSocket) (done : PendingSend → UdpAction) :
    EndOfSend s done
      (((sendNextOrFinish done).run s).result.map fun _ => ((sendNextOrFinish done).run s).state)
      ((sendNextOrFinish done).run s).actions := by
  rcases hqueue : s.sendQueue with _ | ⟨item, _ | ⟨following, rest⟩⟩
  · rw [show (sendNextOrFinish done).run s = ⟨s, [], .error .popOfEmpty⟩ by
      simp [sendNextOrFinish, hqueue]]
    exact .underflow hqueue
  · cases hclosing : s.isClosing with
    | false =>
        rw [show (sendNextOrFinish done).run s =
            ⟨{ s with sendQueue := [], isSending := false }, [done item], .ok ()⟩ by
          simp [sendNextOrFinish, hqueue, hclosing]]
        exact .last item hqueue hclosing
    | true =>
        rw [show (sendNextOrFinish done).run s =
            ⟨shutdown { s with sendQueue := [], isSending := false },
              done item :: s.shutdownActions, .ok ()⟩ by
          simp [sendNextOrFinish, hqueue, hclosing, run_do_close, shutdownActions]]
        exact .lastClose item hqueue hclosing
  · rw [show (sendNextOrFinish done).run s =
        ⟨beginResolve { s with sendQueue := following :: rest },
          [done item, .asyncResolve following.targetHost following.targetPort], .ok ()⟩ by
      simp [sendNextOrFinish, hqueue, run_do_send_next]]
    exact .next item following rest hqueue

theorem on_resolve_answers {s : UdpSocket} {i : Nat} {r : Except IoError Unit}
    (h : Operation.resultAt s.resolves i = some r) : Answers s (.onResolve i) := by
  cases r with
  | error e =>
      refine .resolveFailed i e _ _ h ?_
      have hrun : (handle (.onResolve i)).run s =
          (sendNextOrFinish .dropped).run { s with resolves := s.resolves.eraseIdx i } := by
        simp [handle, h, onResolve]
      rw [hrun]
      exact end_of_send _ _
  | ok _ =>
      cases hqueue : s.sendQueue with
      | nil =>
          have hrun : (handle (.onResolve i)).run s =
              ⟨{ s with resolves := s.resolves.eraseIdx i }, [], .error .frontOfEmpty⟩ := by
            simp [handle, h, onResolve, hqueue]
          unfold Answers
          rw [hrun]
          exact .resolvedUnderflow i h hqueue
      | cons item rest =>
          refine answers_of_run (.resolved i item rest h hqueue) ?_
          simp [handle, h, onResolve, hqueue, beginSend]

theorem on_send_answers {s : UdpSocket} {i : Nat} {r : Except IoError Unit}
    (h : Operation.resultAt (s.sends.map Prod.snd) i = some r) : Answers s (.onSend i) := by
  cases r with
  | error e =>
      refine answers_of_run (.sendFailed i e h) ?_
      simp only [handle, onSend, Effect.run_bind, Effect.run_get, Effect.run_modify,
        Effect.run_emit, Effect.andThen_ok, h, run_do_close, List.nil_append]
      rfl
  | ok _ =>
      refine .sent i _ _ h ?_
      have hrun : (handle (.onSend i)).run s =
          (sendNextOrFinish .sent).run { s with sends := s.sends.eraseIdx i } := by
        simp only [handle, onSend, Effect.run_bind, Effect.run_get, Effect.run_modify,
          Effect.andThen_ok, h, List.nil_append]
      rw [hrun]
      exact end_of_send _ _

theorem on_read_answers {s : UdpSocket} {i : Nat} {r : Except IoError Datagram}
    (h : Operation.resultAt s.reads i = some r) : Answers s (.onRead i) := by
  cases r with
  | error e =>
      refine answers_of_run (.readFailed i e h) ?_
      simp [handle, h, onRead, run_do_close]
      rfl
  | ok datagram =>
      cases hreading : s.isReading with
      | false =>
          refine answers_of_run (.readLast i datagram h hreading) ?_
          simp [handle, h, onRead, run_invoke, hreading]
      | true =>
          refine answers_of_run (.readAgain i datagram h hreading) ?_
          simp [handle, h, onRead, run_invoke, run_do_read, hreading]

/-- Every enabled event is answered the way `UdpStep` says. -/
theorem answers_of_enabled {s : UdpSocket} {e : UdpEvent} (henabled : s.enabled e = true) :
    Answers s e := by
  cases e with
  | start opened bound => exact start_answers s opened bound
  | send item => exact send_answers s item
  | close => exact close_answers s
  | startReading => exact start_reading_answers s
  | stopReading => exact .stopReading
  | finishResolve i r => exact .finishResolve i r
  | finishSend i r => exact .finishSend i r
  | finishRead i r => exact .finishRead i r
  | onResolve i =>
      obtain ⟨r, hr⟩ := Option.isSome_iff_exists.mp henabled
      exact on_resolve_answers hr
  | onSend i =>
      obtain ⟨r, hr⟩ := Option.isSome_iff_exists.mp henabled
      exact on_send_answers hr
  | onRead i =>
      obtain ⟨r, hr⟩ := Option.isSome_iff_exists.mp henabled
      exact on_read_answers hr

end UdpSocket

/-- Inversion of a step of the machine. -/
theorem udp_socket_step {x y : Except QueueFault UdpSocket} {e : UdpEvent} {out : List UdpAction}
    (h : udpSocket.step x e = some (y, out)) :
    ∃ s, x = .ok s ∧ UdpSocket.UdpStep s e y out := by
  obtain ⟨s, rfl, henabled, rfl, rfl⟩ := Effect.machine_step_eq_some h
  exact ⟨s, rfl, UdpSocket.answers_of_enabled henabled⟩

end RtcVpn
