import RtcVpn.Socket.TcpSocket

/-!
# What a step of the TCP socket can do

The outcome of each handler in closed form, and `TcpStep`, the relation that
lists every way a live socket can answer an event, guards included.
`tcp_socket_step` is the inversion that the invariants are proved from.
-/

namespace RtcVpn

namespace TcpSocket

/-! ## The state changes of the handlers -/

/-- The state after `do_close`. -/
def shutdown (s : TcpSocket) : TcpSocket :=
  if s.isClosed then s
  else if s.isOpen then { s.descriptorClosed with isClosed := true }
  else { s with isClosed := true }

/-- What `do_close` does. -/
def shutdownActions (s : TcpSocket) : List TcpAction :=
  if s.isClosed then []
  else (if s.isOpen then [.closeSocket] else []) ++
    (if s.callbacks.close then [.closeCallback] else [])

/-- The state after `do_read`. -/
def beginRead (s : TcpSocket) : TcpSocket :=
  { s with reads := s.reads ++ [.initiate s.isOpen], beganReads := s.beganReads + 1 }

/-- The state after `do_write` of a buffer. -/
def beginWrite (s : TcpSocket) (buf : Bytes) : TcpSocket :=
  { s with writes := s.writes ++ [(buf, .initiate s.isOpen)] }

/-- The state after `async_connect` has been started. -/
def beginConnect (s : TcpSocket) : TcpSocket :=
  { (if s.isOpen then s.descriptorClosed else s) with
    isOpen := true
    connects := (if s.isOpen then s.descriptorClosed else s).connects ++ [.pending] }

/-- The action of a callback that may not be set. -/
def callbackAction (isSet : Bool) (a : TcpAction) : List TcpAction := if isSet then [a] else []

/-- The write-queue status once the queue has drained. -/
def drainedActions (s : TcpSocket) : List TcpAction :=
  if s.writeQueueStatus = .danger then
    callbackAction s.callbacks.writeQueue (.writeQueueCallback .safety)
  else []

/-- The state in which the last buffer has been written. -/
def drained (s : TcpSocket) : TcpSocket :=
  { s with writeQueue := [], writeQueueStatus := .safety, isSending := false }

/-! ## The handlers -/

theorem run_invoke (isSet : TcpCallbacks → Bool) (a : TcpAction) (s : TcpSocket) :
    (invoke isSet a).run s = ⟨s, callbackAction (isSet s.callbacks) a, .ok ()⟩ := by
  by_cases h : isSet s.callbacks = true <;> simp [invoke, callbackAction, h]

theorem run_do_close (s : TcpSocket) :
    doClose.run s = ⟨s.shutdown, s.shutdownActions, .ok ()⟩ := by
  by_cases hclosed : s.isClosed = true
  · simp [doClose, shutdown, shutdownActions, hclosed]
  · by_cases hopen : s.isOpen = true <;>
      simp [doClose, shutdown, shutdownActions, hclosed, hopen, run_invoke, callbackAction,
        descriptorClosed]

theorem run_do_read (s : TcpSocket) : doRead.run s = ⟨s.beginRead, [.asyncRead], .ok ()⟩ := rfl

theorem run_do_write (s : TcpSocket) :
    doWrite.run s =
      match s.writeQueue with
      | [] => ⟨s, [], .error .frontOfEmpty⟩
      | buf :: _ => ⟨s.beginWrite buf, [.asyncWrite buf], .ok ()⟩ := by
  cases hqueue : s.writeQueue with
  | nil => simp [doWrite, hqueue]
  | cons buf rest => simp [doWrite, hqueue, beginWrite]

/-- A drained queue is far below the upper threshold, so the status can only return to safe. -/
theorem run_update_status {s : TcpSocket} (h : s.writeQueue = []) :
    updateWriteQueueStatus.run s =
      ⟨{ s with writeQueueStatus := .safety }, s.drainedActions, .ok ()⟩ := by
  cases hstatus : s.writeQueueStatus with
  | danger => simp [updateWriteQueueStatus, hstatus, h, run_invoke, drainedActions]
  | safety =>
      obtain ⟨callbacks, connected, queue, sending, closing, closed, status⟩ := s
      cases hstatus
      cases h
      rfl

/-! ## Steps -/

/-- Every way a live socket answers an event. -/
inductive TcpStep (s : TcpSocket) : TcpEvent → Except QueueFault TcpSocket → List TcpAction → Prop
  | connect : TcpStep s .connect (.ok { s with resolves := s.resolves ++ [.pending] })
      [.asyncResolve]
  | startIgnored (h : s.isConnected = false ∨ s.isClosing = true ∨ s.isClosed = true) :
      TcpStep s .start (.ok s) []
  | startRead (hconnected : s.isConnected = true) (hclosing : s.isClosing = false)
      (hclosed : s.isClosed = false) : TcpStep s .start (.ok s.beginRead) [.asyncRead]
  | sendDropped (data : Bytes)
      (h : s.isConnected = false ∨ s.isClosing = true ∨ s.isClosed = true) :
      TcpStep s (.send data) (.ok s) []
  | sendQueued (data : Bytes) (hclosing : s.isClosing = false) (hclosed : s.isClosed = false)
      (hsending : s.isSending = true) :
      TcpStep s (.send data) (.ok { s with writeQueue := s.writeQueue ++ [data] })
        [.accept data]
  | sendWrite (data buf : Bytes) (rest : List Bytes) (hclosing : s.isClosing = false)
      (hclosed : s.isClosed = false) (hsending : s.isSending = false)
      (hfront : s.writeQueue ++ [data] = buf :: rest) :
      TcpStep s (.send data)
        (.ok (beginWrite { s with writeQueue := buf :: rest, isSending := true } buf))
        [.accept data, .asyncWrite buf]
  | closeIgnored (h : s.isClosing = true ∨ s.isClosed = true) : TcpStep s .close (.ok s) []
  | closeNow (hclosing : s.isClosing = false) (hclosed : s.isClosed = false)
      (h : s.isConnected = false ∨ (s.isSending = false ∧ s.writeQueue = [])) :
      TcpStep s .close (.ok (shutdown { s with isClosing := true })) s.shutdownActions
  | closeLater (hclosing : s.isClosing = false) (hclosed : s.isClosed = false)
      (hconnected : s.isConnected = true) (h : s.isSending = true ∨ s.writeQueue ≠ []) :
      TcpStep s .close (.ok { s with isClosing := true }) []
  | startReadingIgnored (h : s.isReading = true ∨ s.isClosing = true ∨ s.isClosed = true) :
      TcpStep s .startReading (.ok s) []
  | startReadingLater (hreading : s.isReading = false) (hclosing : s.isClosing = false)
      (hclosed : s.isClosed = false) (hconnected : s.isConnected = false) :
      TcpStep s .startReading (.ok { s with isReading := true }) []
  | startReadingNow (hreading : s.isReading = false) (hclosing : s.isClosing = false)
      (hclosed : s.isClosed = false) (hconnected : s.isConnected = true) :
      TcpStep s .startReading (.ok (beginRead { s with isReading := true })) [.asyncRead]
  | stopReading : TcpStep s .stopReading (.ok { s with isReading := false }) []
  | finishResolve (i : Nat) (r : Except IoError Unit) :
      TcpStep s (.finishResolve i r)
        (.ok { s with resolves := s.resolves.set i (.completed r) }) []
  | finishConnect (i : Nat) (r : Except IoError Unit)
      (h : Operation.pendingAt s.connects i = true) :
      TcpStep s (.finishConnect i r)
        (.ok { s with connects := s.connects.set i (.completed r) }) []
  | finishRead (i : Nat) (r : Except IoError Bytes) (h : Operation.pendingAt s.reads i = true) :
      TcpStep s (.finishRead i r) (.ok { s with reads := s.reads.set i (.completed r) }) []
  | finishWrite (i : Nat) (r : Except IoError Unit) :
      TcpStep s (.finishWrite i r)
        (.ok { s with writes := s.writes.modify i fun w => (w.1, .completed r) }) []
  | resolveFailed (i : Nat) (e : IoError) (h : Operation.resultAt s.resolves i = some (.error e)) :
      TcpStep s (.onResolve i) (.ok { s with resolves := s.resolves.eraseIdx i })
        (callbackAction s.callbacks.connect (.connectCallback false))
  | resolved (i : Nat) (h : Operation.resultAt s.resolves i = some (.ok ())) :
      TcpStep s (.onResolve i)
        (.ok (beginConnect { s with resolves := s.resolves.eraseIdx i })) [.asyncConnect]
  | connectFailed (i : Nat) (e : IoError) (h : Operation.resultAt s.connects i = some (.error e)) :
      TcpStep s (.onConnect i) (.ok { s with connects := s.connects.eraseIdx i })
        (callbackAction s.callbacks.connect (.connectCallback false))
  | connected (i : Nat) (h : Operation.resultAt s.connects i = some (.ok ())) :
      TcpStep s (.onConnect i)
        (.ok (beginRead { s with connects := s.connects.eraseIdx i, isConnected := true }))
        (callbackAction s.callbacks.connect (.connectCallback true) ++ [.asyncRead])
  | readFailed (i : Nat) (e : IoError) (h : Operation.resultAt s.reads i = some (.error e)) :
      TcpStep s (.onRead i)
        (.ok (shutdown { s with reads := s.reads.eraseIdx i, isClosing := true }))
        (.readError :: s.shutdownActions)
  | readLast (i : Nat) (data : Bytes) (h : Operation.resultAt s.reads i = some (.ok data))
      (hreading : s.isReading = false) :
      TcpStep s (.onRead i) (.ok { s with reads := s.reads.eraseIdx i })
        (callbackAction s.callbacks.data (.dataCallback data))
  | readAgain (i : Nat) (data : Bytes) (h : Operation.resultAt s.reads i = some (.ok data))
      (hreading : s.isReading = true) :
      TcpStep s (.onRead i) (.ok (beginRead { s with reads := s.reads.eraseIdx i }))
        (callbackAction s.callbacks.data (.dataCallback data) ++ [.asyncRead])
  | writeFailed (i : Nat) (data : Bytes) (e : IoError)
      (h : s.writes[i]? = some (data, .completed (.error e))) :
      TcpStep s (.onWrite i)
        (.ok (shutdown { s with writes := s.writes.eraseIdx i, isClosing := true }))
        (.writeError :: s.shutdownActions)
  | writeUnderflow (i : Nat) (data : Bytes) (h : s.writes[i]? = some (data, .completed (.ok ())))
      (hqueue : s.writeQueue = []) : TcpStep s (.onWrite i) (.error .popOfEmpty) [.wrote data]
  | writeNext (i : Nat) (data popped next : Bytes) (rest : List Bytes)
      (h : s.writes[i]? = some (data, .completed (.ok ())))
      (hqueue : s.writeQueue = popped :: next :: rest) :
      TcpStep s (.onWrite i)
        (.ok (beginWrite { s with writes := s.writes.eraseIdx i, writeQueue := next :: rest } next))
        [.wrote data, .asyncWrite next]
  | writeLast (i : Nat) (data popped : Bytes)
      (h : s.writes[i]? = some (data, .completed (.ok ())))
      (hqueue : s.writeQueue = [popped]) (hclosing : s.isClosing = false) :
      TcpStep s (.onWrite i) (.ok (drained { s with writes := s.writes.eraseIdx i }))
        (.wrote data :: s.drainedActions)
  | writeLastClose (i : Nat) (data popped : Bytes)
      (h : s.writes[i]? = some (data, .completed (.ok ())))
      (hqueue : s.writeQueue = [popped]) (hclosing : s.isClosing = true) :
      TcpStep s (.onWrite i) (.ok (shutdown (drained { s with writes := s.writes.eraseIdx i })))
        (.wrote data :: s.drainedActions ++ s.shutdownActions)

/-- The handler of an event answers it the way `TcpStep` says. -/
def Answers (s : TcpSocket) (e : TcpEvent) : Prop :=
  TcpStep s e (((handle e).run s).result.map fun _ => ((handle e).run s).state)
    ((handle e).run s).actions

/-- A handler that returns. -/
theorem answers_of_run {s t : TcpSocket} {e : TcpEvent} {out : List TcpAction}
    (hstep : TcpStep s e (.ok t) out) (hrun : (handle e).run s = ⟨t, out, .ok ()⟩) :
    Answers s e := by
  unfold Answers
  rw [hrun]
  exact hstep

theorem start_answers (s : TcpSocket) : Answers s .start := by
  by_cases hconnected : s.isConnected = true
  · by_cases h : s.isClosing = true ∨ s.isClosed = true
    · refine answers_of_run (.startIgnored (.inr h)) ?_
      simp [handle, startTask, hconnected, h]
    · rw [not_or, Bool.not_eq_true, Bool.not_eq_true] at h
      refine answers_of_run (.startRead hconnected h.1 h.2) ?_
      simp [handle, startTask, hconnected, h, run_do_read]
  · rw [Bool.not_eq_true] at hconnected
    refine answers_of_run (.startIgnored (.inl hconnected)) ?_
    simp [handle, startTask, hconnected]

theorem send_answers (s : TcpSocket) (data : Bytes) : Answers s (.send data) := by
  by_cases h : s.isConnected = false ∨ s.isClosing = true ∨ s.isClosed = true
  · refine answers_of_run (.sendDropped data h) ?_
    simp [handle, sendTask, or_assoc, h]
  · simp only [not_or, Bool.not_eq_true, Bool.not_eq_false] at h
    obtain ⟨hconnected, hclosing, hclosed⟩ := h
    cases hsending : s.isSending with
    | true =>
        refine answers_of_run (.sendQueued data hclosing hclosed hsending) ?_
        simp [handle, sendTask, hconnected, hclosing, hclosed, hsending]
    | false =>
        obtain ⟨buf, rest, hfront⟩ : ∃ buf rest, s.writeQueue ++ [data] = buf :: rest :=
          List.exists_cons_of_ne_nil (by simp)
        refine answers_of_run (.sendWrite data buf rest hclosing hclosed hsending hfront) ?_
        simp [handle, sendTask, hconnected, hclosing, hclosed, hsending, hfront, run_do_write]

theorem close_answers (s : TcpSocket) : Answers s .close := by
  by_cases h : s.isClosing = true ∨ s.isClosed = true
  · refine answers_of_run (.closeIgnored h) ?_
    simp [handle, closeTask, h]
  · simp only [not_or, Bool.not_eq_true] at h
    obtain ⟨hclosing, hclosed⟩ := h
    by_cases hnow : s.isConnected = false ∨ (s.isSending = false ∧ s.writeQueue = [])
    · refine answers_of_run (.closeNow hclosing hclosed hnow) ?_
      rcases hnow with hconnected | ⟨hsending, hqueue⟩
      · simp [handle, closeTask, hclosing, hclosed, hconnected, run_do_close, shutdownActions]
      · simp [handle, closeTask, hclosing, hclosed, hsending, hqueue, run_do_close, shutdownActions]
    · simp only [not_or, not_and_or, Bool.not_eq_false] at hnow
      obtain ⟨hconnected, hbusy⟩ := hnow
      refine answers_of_run (.closeLater hclosing hclosed hconnected hbusy) ?_
      rcases hbusy with hsending | hqueue
      · simp [handle, closeTask, hclosing, hclosed, hconnected, hsending]
      · simp [handle, closeTask, hclosing, hclosed, hconnected, hqueue]

theorem start_reading_answers (s : TcpSocket) : Answers s .startReading := by
  by_cases h : s.isReading = true ∨ s.isClosing = true ∨ s.isClosed = true
  · refine answers_of_run (.startReadingIgnored h) ?_
    simp [handle, startReadingTask, or_assoc, h]
  · simp only [not_or, Bool.not_eq_true] at h
    obtain ⟨hreading, hclosing, hclosed⟩ := h
    cases hconnected : s.isConnected with
    | true =>
        refine answers_of_run (.startReadingNow hreading hclosing hclosed hconnected) ?_
        simp [handle, startReadingTask, hreading, hclosing, hclosed, hconnected, run_do_read]
    | false =>
        refine answers_of_run (.startReadingLater hreading hclosing hclosed hconnected) ?_
        simp [handle, startReadingTask, hreading, hclosing, hclosed, hconnected]

theorem on_resolve_answers {s : TcpSocket} {i : Nat} {r : Except IoError Unit}
    (h : Operation.resultAt s.resolves i = some r) : Answers s (.onResolve i) := by
  cases r with
  | error e =>
      refine answers_of_run (.resolveFailed i e h) ?_
      simp [handle, h, onResolve, run_invoke]
  | ok _ =>
      refine answers_of_run (.resolved i h) ?_
      simp [handle, h, onResolve, beginConnect]

theorem on_connect_answers {s : TcpSocket} {i : Nat} {r : Except IoError Unit}
    (h : Operation.resultAt s.connects i = some r) : Answers s (.onConnect i) := by
  cases r with
  | error e =>
      refine answers_of_run (.connectFailed i e h) ?_
      simp [handle, h, onConnect, run_invoke]
  | ok _ =>
      refine answers_of_run (.connected i h) ?_
      simp [handle, h, onConnect, run_invoke, run_do_read]

theorem on_read_answers {s : TcpSocket} {i : Nat} {r : Except IoError Bytes}
    (h : Operation.resultAt s.reads i = some r) : Answers s (.onRead i) := by
  cases r with
  | error e =>
      refine answers_of_run (.readFailed i e h) ?_
      simp [handle, h, onRead, run_do_close]
      rfl
  | ok data =>
      cases hreading : s.isReading with
      | false =>
          refine answers_of_run (.readLast i data h hreading) ?_
          simp [handle, h, onRead, run_invoke, hreading]
      | true =>
          refine answers_of_run (.readAgain i data h hreading) ?_
          simp [handle, h, onRead, run_invoke, run_do_read, hreading]

theorem on_write_answers {s : TcpSocket} {i : Nat} {data : Bytes} {r : Except IoError Unit}
    (h : s.writes[i]? = some (data, .completed r)) : Answers s (.onWrite i) := by
  cases r with
  | error e =>
      refine answers_of_run (.writeFailed i data e h) ?_
      simp [handle, h, onWrite, run_do_close]
      rfl
  | ok _ =>
      rcases hqueue : s.writeQueue with _ | ⟨popped, _ | ⟨next, rest⟩⟩
      · have hrun : (handle (.onWrite i)).run s =
            ⟨{ s with writes := s.writes.eraseIdx i }, [.wrote data], .error .popOfEmpty⟩ := by
          simp [handle, h, onWrite, hqueue]
        unfold Answers
        rw [hrun]
        exact .writeUnderflow i data h hqueue
      · cases hclosing : s.isClosing with
        | false =>
            refine answers_of_run (.writeLast i data popped h hqueue hclosing) ?_
            simp [handle, h, onWrite, hqueue, run_update_status, hclosing, drained, drainedActions]
        | true =>
            refine answers_of_run (.writeLastClose i data popped h hqueue hclosing) ?_
            simp [handle, h, onWrite, hqueue, run_update_status, hclosing, drained, run_do_close,
              drainedActions, shutdownActions]
      · refine answers_of_run (.writeNext i data popped next rest h hqueue) ?_
        simp [handle, h, onWrite, hqueue, run_do_write]

/-- Every enabled event is answered the way `TcpStep` says. -/
theorem answers_of_enabled {s : TcpSocket} {e : TcpEvent} (henabled : s.enabled e = true) :
    Answers s e := by
  cases e with
  | connect => exact .connect
  | start => exact start_answers s
  | send data => exact send_answers s data
  | close => exact close_answers s
  | startReading => exact start_reading_answers s
  | stopReading => exact .stopReading
  | finishResolve i r => exact .finishResolve i r
  | finishConnect i r => exact .finishConnect i r henabled
  | finishRead i r => exact .finishRead i r henabled
  | finishWrite i r => exact .finishWrite i r
  | onResolve i =>
      obtain ⟨r, hr⟩ := Option.isSome_iff_exists.mp henabled
      exact on_resolve_answers hr
  | onConnect i =>
      obtain ⟨r, hr⟩ := Option.isSome_iff_exists.mp henabled
      exact on_connect_answers hr
  | onRead i =>
      obtain ⟨r, hr⟩ := Option.isSome_iff_exists.mp henabled
      exact on_read_answers hr
  | onWrite i =>
      obtain ⟨r, hr⟩ := Option.isSome_iff_exists.mp henabled
      obtain ⟨data, hw⟩ := Operation.get_of_result_at_snd hr
      exact on_write_answers hw

end TcpSocket

/-- Inversion of a step of the machine. -/
theorem tcp_socket_step {x y : Except QueueFault TcpSocket} {e : TcpEvent} {out : List TcpAction}
    (h : tcpSocket.step x e = some (y, out)) :
    ∃ s, x = .ok s ∧ TcpSocket.TcpStep s e y out := by
  obtain ⟨s, rfl, henabled, rfl, rfl⟩ := Effect.machine_step_eq_some h
  exact ⟨s, rfl, TcpSocket.answers_of_enabled henabled⟩

end RtcVpn
