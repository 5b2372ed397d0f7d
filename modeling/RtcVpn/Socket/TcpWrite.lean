import RtcVpn.Library.Fifo
import RtcVpn.Socket.TcpStep

/-!
# The write side of the TCP socket

The write queue of a socket refines a first-in first-out ledger: `send` puts a
buffer in, the successful end of a write takes one out. `WriteSide` lists the
three shapes of the members involved; from it follow that at most one write is
outstanding, that the queue is never popped when empty and that a busy socket
keeps writing. The second half is the drain before a requested close.
-/

namespace RtcVpn

/-- The buffers accepted by `send` among the actions taken. -/
def accepted (out : List TcpAction) : List Bytes :=
  out.filterMap fun
    | .accept data => some data
    | _ => none

/-- The buffers written completely among the actions taken. -/
def written (out : List TcpAction) : List Bytes :=
  out.filterMap fun
    | .wrote data => some data
    | _ => none

@[simp] theorem accepted_append (out new : List TcpAction) :
    accepted (out ++ new) = accepted out ++ accepted new := List.filterMap_append

@[simp] theorem written_append (out new : List TcpAction) :
    written (out ++ new) = written out ++ written new := List.filterMap_append

namespace TcpSocket

/-- Actions that move no buffer through the write queue. -/
def Idle (out : List TcpAction) : Prop := accepted out = [] ∧ written out = []

@[simp] theorem idle_nil : Idle [] := ⟨rfl, rfl⟩

theorem Idle.append {out new : List TcpAction} (h : Idle out) (hnew : Idle new) :
    Idle (out ++ new) := by
  simp [Idle, h.1, h.2, hnew.1, hnew.2]

theorem Idle.cons {a : TcpAction} {out : List TcpAction} (ha : Idle [a]) (h : Idle out) :
    Idle (a :: out) := Idle.append ha h

theorem idle_callback {isSet : Bool} {a : TcpAction} (h : Idle [a]) :
    Idle (callbackAction isSet a) := by
  cases isSet with
  | true => exact h
  | false => exact idle_nil

@[simp] theorem idle_shutdown_actions (s : TcpSocket) : Idle s.shutdownActions := by
  unfold shutdownActions
  split
  · exact idle_nil
  · refine Idle.append ?_ ?_
    · split
      · exact ⟨rfl, rfl⟩
      · exact idle_nil
    · split
      · exact ⟨rfl, rfl⟩
      · exact idle_nil

@[simp] theorem idle_drained_actions (s : TcpSocket) : Idle s.drainedActions := by
  unfold drainedActions
  split
  · exact idle_callback ⟨rfl, rfl⟩
  · exact idle_nil

/-! ## The shapes of the write side -/

/-- The buffers of the outstanding writes. -/
def writing (s : TcpSocket) : List Bytes := s.writes.map Prod.fst

/-- How the write queue, the sending flag and the outstanding writes hang together. -/
inductive WriteSide (s : TcpSocket) : Prop
  | idle (hwriting : s.writing = []) (hqueue : s.writeQueue = []) (hsending : s.isSending = false)
  | busy (buf : Bytes) (rest : List Bytes) (hwriting : s.writing = [buf])
      (hqueue : s.writeQueue = buf :: rest) (hsending : s.isSending = true)
  | abandoned (hwriting : s.writing = []) (hclosed : s.isClosed = true)

@[simp] theorem shutdown_is_closed (s : TcpSocket) : s.shutdown.isClosed = true := by
  unfold shutdown
  split
  · assumption
  · split <;> rfl

@[simp] theorem descriptor_closed_writing (s : TcpSocket) :
    s.descriptorClosed.writing = s.writing := by
  simp [descriptorClosed, writing, Function.comp_def]

@[simp] theorem shutdown_writing (s : TcpSocket) : s.shutdown.writing = s.writing := by
  unfold shutdown
  split
  · rfl
  · split
    · exact descriptor_closed_writing s
    · rfl

@[simp] theorem shutdown_write_queue (s : TcpSocket) : s.shutdown.writeQueue = s.writeQueue := by
  unfold shutdown
  split
  · rfl
  · split <;> rfl

@[simp] theorem shutdown_is_sending (s : TcpSocket) : s.shutdown.isSending = s.isSending := by
  unfold shutdown
  split
  · rfl
  · split <;> rfl

@[simp] theorem begin_connect_writing (s : TcpSocket) : s.beginConnect.writing = s.writing := by
  unfold beginConnect
  split
  · exact descriptor_closed_writing s
  · rfl

/-- A step that leaves the members of the write side alone, or closes the socket, keeps its
shape. -/
theorem WriteSide.congr {s t : TcpSocket} (h : WriteSide s) (hwriting : t.writing = s.writing)
    (hqueue : t.writeQueue = s.writeQueue) (hsending : t.isSending = s.isSending)
    (hclosed : s.isClosed = true → t.isClosed = true) : WriteSide t := by
  cases h with
  | idle hw hq hs => exact .idle (hwriting.trans hw) (hqueue.trans hq) (hsending.trans hs)
  | busy buf rest hw hq hs =>
      exact .busy buf rest (hwriting.trans hw) (hqueue.trans hq) (hsending.trans hs)
  | abandoned hw hc => exact .abandoned (hwriting.trans hw) (hclosed hc)

/-- The completion handler of a write runs for the only write there is. -/
theorem WriteSide.completing {s : TcpSocket} {i : Nat} {data : Bytes}
    {r : Except IoError Unit} (h : WriteSide s) (hw : s.writes[i]? = some (data, .completed r)) :
    ∃ rest, s.writeQueue = data :: rest ∧ s.isSending = true ∧
      (s.writes.eraseIdx i).map Prod.fst = [] := by
  have hget : s.writing[i]? = some data := by simp [writing, hw]
  cases h with
  | idle hwriting _ _ => simp [hwriting] at hget
  | abandoned hwriting _ => simp [hwriting] at hget
  | busy buf rest hwriting hqueue hsending =>
      rw [hwriting, List.getElem?_singleton] at hget
      split at hget
      · next hi =>
          cases hget
          have hlength : s.writes.length = 1 := by
            simpa [writing] using congrArg List.length hwriting
          refine ⟨rest, hqueue, hsending, ?_⟩
          rw [List.map_eq_nil_iff, ← List.length_eq_zero_iff, List.length_eraseIdx_of_lt (by omega)]
          omega
      · cases hget

/-! ## The ledger -/

/-- The ledger records what the run accepted and wrote, and what waits in the queue. -/
structure Records (q : Fifo Bytes) (out : List TcpAction) (s : TcpSocket) : Prop where
  accepted : q.accepted = accepted out
  written : q.delivered = written out
  waiting : q.waiting = s.writeQueue

theorem Records.idle {q : Fifo Bytes} {out new : List TcpAction} {s t : TcpSocket}
    (h : Records q out s) (hnew : Idle new) (hqueue : t.writeQueue = s.writeQueue) :
    Records q (out ++ new) t where
  accepted := by simp [h.accepted, hnew.1]
  written := by simp [h.written, hnew.2]
  waiting := h.waiting.trans hqueue.symm

/-- Accepting a buffer is a push. -/
theorem Records.push {q : Fifo Bytes} {out new : List TcpAction} {s t : TcpSocket} {data : Bytes}
    (h : Records q out s) (haccepted : RtcVpn.accepted new = [data])
    (hwritten : RtcVpn.written new = []) (hqueue : t.writeQueue = s.writeQueue ++ [data]) :
    Records (q.push data) (out ++ new) t where
  accepted := by simp [h.accepted, haccepted]
  written := by simp [h.written, hwritten]
  waiting := by simp [h.waiting, hqueue]

/-- The successful end of the write of the front is a pop. -/
theorem Records.pop {q : Fifo Bytes} {out new : List TcpAction} {s t : TcpSocket} {data : Bytes}
    (h : Records q out s) (haccepted : RtcVpn.accepted new = [])
    (hwritten : RtcVpn.written new = [data]) (hqueue : s.writeQueue = data :: t.writeQueue) :
    ∃ q', q.pop = some (data, q') ∧ Records q' (out ++ new) t := by
  obtain ⟨q', hpop, hwaiting⟩ := Fifo.pop_of_waiting (h.waiting.trans hqueue)
  obtain ⟨-, hdelivered, hkept⟩ := Fifo.pop_eq_some hpop
  exact ⟨q', hpop, by simp [hkept, h.accepted, haccepted],
    by simp [hdelivered, h.written, hwritten], hwaiting⟩

/-- What holds of the write side at every point of a run. -/
structure WriteInvariant (out : List TcpAction) (s : TcpSocket) : Prop where
  side : WriteSide s
  ledger : ∃ q, Records q out s

/-- A step that moves no buffer. -/
theorem WriteInvariant.idle {out new : List TcpAction} {s t : TcpSocket}
    (h : WriteInvariant out s) (hnew : Idle new) (hwriting : t.writing = s.writing)
    (hqueue : t.writeQueue = s.writeQueue) (hsending : t.isSending = s.isSending)
    (hclosed : s.isClosed = true → t.isClosed = true) : WriteInvariant (out ++ new) t :=
  ⟨h.side.congr hwriting hqueue hsending hclosed,
    h.ledger.imp fun _ hq => hq.idle hnew hqueue⟩

/-- The end of a write: the front leaves the queue and the next buffer, if any, is started on. -/
theorem WriteInvariant.complete {out new : List TcpAction} {s t : TcpSocket} {i : Nat}
    {data : Bytes} (h : WriteInvariant out s)
    (hw : s.writes[i]? = some (data, .completed (.ok ())))
    (haccepted : accepted new = []) (hwritten : written new = [data])
    (hqueue : t.writeQueue = s.writeQueue.tail)
    (hside : (s.writes.eraseIdx i).map Prod.fst = [] → s.isSending = true → WriteSide t) :
    WriteInvariant (out ++ new) t := by
  obtain ⟨rest, hfront, hsending, herased⟩ := h.side.completing hw
  obtain ⟨q, hq⟩ := h.ledger
  obtain ⟨q', _, hq'⟩ := hq.pop haccepted hwritten (by rw [hqueue, hfront, List.tail_cons])
  exact ⟨hside herased hsending, q', hq'⟩

/-- Every step leaves the socket alive and keeps the invariant. -/
theorem WriteInvariant.step {out new : List TcpAction} {s : TcpSocket} {e : TcpEvent}
    {r : Except QueueFault TcpSocket} (h : WriteInvariant out s) (hstep : TcpStep s e r new) :
    ∃ t, r = .ok t ∧ WriteInvariant (out ++ new) t := by
  cases hstep with
  | connect => exact ⟨_, rfl, h.idle ⟨rfl, rfl⟩ rfl rfl rfl id⟩
  | startIgnored _ => exact ⟨_, rfl, h.idle idle_nil rfl rfl rfl id⟩
  | startRead _ _ _ => exact ⟨_, rfl, h.idle ⟨rfl, rfl⟩ rfl rfl rfl id⟩
  | sendDropped _ _ => exact ⟨_, rfl, h.idle idle_nil rfl rfl rfl id⟩
  | sendQueued data hclosing hclosed hsending =>
      refine ⟨_, rfl, ?_, ?_⟩
      · cases h.side with
        | idle _ _ hs => exact absurd (hsending.symm.trans hs) (by simp)
        | abandoned _ hc => exact absurd (hclosed.symm.trans hc) (by simp)
        | busy buf rest hw hq hs => exact .busy buf (rest ++ [data]) hw (by simp [hq]) hs
      · obtain ⟨q, hq⟩ := h.ledger
        exact ⟨q.push data, hq.push rfl rfl rfl⟩
  | sendWrite data buf rest hclosing hclosed hsending hfront =>
      refine ⟨_, rfl, ?_, ?_⟩
      · cases h.side with
        | busy _ _ _ _ hs => exact absurd (hsending.symm.trans hs) (by simp)
        | abandoned _ hc => exact absurd (hclosed.symm.trans hc) (by simp)
        | idle hw _ _ =>
            refine .busy buf rest ?_ rfl rfl
            change (s.writes ++ [(buf, Operation.initiate s.isOpen)]).map Prod.fst = [buf]
            rw [List.map_append, show s.writes.map Prod.fst = [] from hw]
            rfl
      · obtain ⟨q, hq⟩ := h.ledger
        exact ⟨q.push data, hq.push rfl rfl hfront.symm⟩
  | closeIgnored _ => exact ⟨_, rfl, h.idle idle_nil rfl rfl rfl id⟩
  | closeNow _ _ _ =>
      exact ⟨_, rfl, h.idle (idle_shutdown_actions s) (by simp; rfl) (by simp) (by simp) (by simp)⟩
  | closeLater _ _ _ _ => exact ⟨_, rfl, h.idle idle_nil rfl rfl rfl id⟩
  | startReadingIgnored _ => exact ⟨_, rfl, h.idle idle_nil rfl rfl rfl id⟩
  | startReadingLater _ _ _ _ => exact ⟨_, rfl, h.idle idle_nil rfl rfl rfl id⟩
  | startReadingNow _ _ _ _ => exact ⟨_, rfl, h.idle ⟨rfl, rfl⟩ rfl rfl rfl id⟩
  | stopReading => exact ⟨_, rfl, h.idle idle_nil rfl rfl rfl id⟩
  | finishResolve i r => exact ⟨_, rfl, h.idle idle_nil rfl rfl rfl id⟩
  | finishConnect i r _ => exact ⟨_, rfl, h.idle idle_nil rfl rfl rfl id⟩
  | finishRead i r _ => exact ⟨_, rfl, h.idle idle_nil rfl rfl rfl id⟩
  | finishWrite i r =>
      refine ⟨_, rfl, h.idle idle_nil ?_ rfl rfl id⟩
      exact List.ext_getElem? fun j => by
        simp only [writing, List.getElem?_map, List.getElem?_modify]
        by_cases hij : i = j <;> simp [hij, Function.comp_def]
  | resolveFailed i e _ => exact ⟨_, rfl, h.idle (idle_callback ⟨rfl, rfl⟩) rfl rfl rfl id⟩
  | resolved i _ =>
      refine ⟨_, rfl, h.idle ⟨rfl, rfl⟩ (begin_connect_writing _) ?_ ?_ ?_⟩
      all_goals unfold beginConnect; split <;> simp [descriptorClosed]
  | connectFailed i e _ => exact ⟨_, rfl, h.idle (idle_callback ⟨rfl, rfl⟩) rfl rfl rfl id⟩
  | connected i _ =>
      exact ⟨_, rfl, h.idle ((idle_callback ⟨rfl, rfl⟩).append ⟨rfl, rfl⟩) rfl rfl rfl id⟩
  | readFailed i e _ =>
      exact ⟨_, rfl, h.idle (.cons ⟨rfl, rfl⟩ (idle_shutdown_actions s))
        (by simp; rfl) (by simp) (by simp) (by simp)⟩
  | readLast i data _ _ => exact ⟨_, rfl, h.idle (idle_callback ⟨rfl, rfl⟩) rfl rfl rfl id⟩
  | readAgain i data _ _ =>
      exact ⟨_, rfl, h.idle ((idle_callback ⟨rfl, rfl⟩).append ⟨rfl, rfl⟩) rfl rfl rfl id⟩
  | writeFailed i data e hw =>
      obtain ⟨_, _, _, herased⟩ := h.side.completing hw
      obtain ⟨q, hq⟩ := h.ledger
      refine ⟨_, rfl,
        .abandoned ((shutdown_writing _).trans herased) (by simp), q, hq.idle ?_ (by simp)⟩
      exact .cons ⟨rfl, rfl⟩ (idle_shutdown_actions s)
  | writeUnderflow i data hw hqueue =>
      -- the queue holds the buffer being written until its write ends
      obtain ⟨rest, hfront, _, _⟩ := h.side.completing hw
      exact absurd (hqueue.symm.trans hfront) (by simp)
  | writeNext i data popped next rest hw hqueue =>
      refine ⟨_, rfl, h.complete hw rfl rfl (by rw [hqueue]; rfl) ?_⟩
      intro herased hsending
      refine .busy next rest ?_ rfl hsending
      change ((s.writes.eraseIdx i) ++ [_]).map Prod.fst = [next]
      rw [List.map_append, herased]
      rfl
  | writeLast i data popped hw hqueue _ =>
      have hdrained := idle_drained_actions s
      refine ⟨_, rfl, h.complete hw hdrained.1 ?_ (by rw [hqueue]; rfl) ?_⟩
      · simpa [written] using hdrained.2
      · exact fun herased _ => .idle herased rfl rfl
  | writeLastClose i data popped hw hqueue _ =>
      have hrest := (idle_drained_actions s).append (idle_shutdown_actions s)
      refine ⟨_, rfl, h.complete hw hrest.1 ?_ (by simp [hqueue, drained]) ?_⟩
      · simpa [written] using hrest.2
      · exact fun herased _ => .abandoned ((shutdown_writing _).trans herased) (by simp)

/-! ## The close callback -/

theorem count_callback_of_ne {isSet : Bool} {a b : TcpAction} (h : a ≠ b) :
    (callbackAction isSet a).count b = 0 := by
  cases isSet with
  | true => simp [callbackAction, h]
  | false => rfl

theorem count_drained_actions (s : TcpSocket) : s.drainedActions.count .closeCallback = 0 := by
  unfold drainedActions
  split
  · exact count_callback_of_ne (by simp)
  · rfl

/-- `do_close` calls back only when it closes. -/
theorem count_shutdown_actions (s : TcpSocket) :
    s.shutdownActions.count .closeCallback + s.isClosed.toNat ≤ 1 := by
  unfold shutdownActions
  cases s.isClosed with
  | true => simp
  | false =>
      rcases s.isOpen with _ | _ <;> rcases s.callbacks.close with _ | _ <;> decide

/-- A step calls the close callback only if it closes the socket, and never reopens it. -/
theorem close_callback_step {s t : TcpSocket} {e : TcpEvent} {new : List TcpAction}
    (hstep : TcpStep s e (.ok t) new) :
    new.count .closeCallback + s.isClosed.toNat ≤ t.isClosed.toNat := by
  cases hstep with
  | closeNow _ _ _ => simpa using count_shutdown_actions s
  | readFailed i e _ => simpa using count_shutdown_actions s
  | writeFailed i data e _ => simpa using count_shutdown_actions s
  | writeLastClose i data popped _ _ _ =>
      simpa [count_drained_actions] using count_shutdown_actions s
  | writeLast i data popped _ _ _ => simp [count_drained_actions, drained]
  | resolved i _ => unfold beginConnect; split <;> simp [descriptorClosed]
  | _ => simp [count_callback_of_ne, beginRead, beginWrite]

/-! ## Runs -/

theorem write_invariant_initial {s : TcpSocket} (h : Initial s) : WriteInvariant [] s := by
  obtain ⟨callbacks, rfl | rfl⟩ := h
  · exact ⟨.idle rfl rfl rfl, Fifo.empty, rfl, rfl, rfl⟩
  · exact ⟨.idle rfl rfl rfl, Fifo.empty, rfl, rfl, rfl⟩

/-- A run from a new socket leaves it alive and in shape. -/
theorem write_invariant_run {s₀ : TcpSocket} (hinit : Initial s₀) {es : List TcpEvent}
    {r : Except QueueFault TcpSocket} {out : List TcpAction}
    (hrun : tcpSocket.run (.ok s₀) es = some (r, out)) :
    ∃ s, r = .ok s ∧ WriteInvariant out s := by
  refine Machine.run_induction (P := fun _ out r => ∃ s, r = .ok s ∧ WriteInvariant out s)
    ⟨s₀, rfl, write_invariant_initial hinit⟩ ?_ hrun
  rintro es out t e u new _ ⟨s, rfl, hs⟩ hstep
  obtain ⟨s', hs', htcp⟩ := tcp_socket_step hstep
  cases hs'
  exact hs.step htcp

/-- The close callback has been invoked at most once, and only if the socket is closed. -/
theorem close_callback_run {s₀ s : TcpSocket} {es : List TcpEvent} {out : List TcpAction}
    (hrun : tcpSocket.run (.ok s₀) es = some (.ok s, out)) :
    out.count .closeCallback ≤ s.isClosed.toNat := by
  refine Machine.run_induction
    (P := fun _ out r => ∀ s, r = .ok s → out.count .closeCallback ≤ s.isClosed.toNat)
    ?_ ?_ hrun s rfl
  · rintro s' ⟨⟩
    exact Nat.zero_le _
  · rintro es out t e u new _ ih hstep s' rfl
    obtain ⟨v, rfl, htcp⟩ := tcp_socket_step hstep
    have hbefore := ih v rfl
    have hnew := close_callback_step htcp
    rw [List.count_append]
    omega

end TcpSocket

open TcpSocket

/-- The write side of a socket is correct in every run: the queue is never read or popped when
empty, at most one write is outstanding, a socket that is not closed keeps writing while its queue
holds something, what was written is a prefix of what was accepted and the close callback comes at
most once. -/
theorem tcp_write_side_correct {s₀ : TcpSocket} (hinit : Initial s₀) {es : List TcpEvent}
    {r : Except QueueFault TcpSocket} {out : List TcpAction}
    (hrun : tcpSocket.run (.ok s₀) es = some (r, out)) :
    ∃ s, r = .ok s ∧ s.writes.length ≤ 1 ∧
      (s.writeQueue ≠ [] → s.isClosed = false → s.writes ≠ []) ∧
      written out <+: accepted out ∧ out.count .closeCallback ≤ 1 := by
  obtain ⟨s, rfl, hside, q, hq⟩ := write_invariant_run hinit hrun
  have hclose := close_callback_run hrun
  have hlength : s.writes.length = s.writing.length := by simp [writing]
  refine ⟨s, rfl, ?_, ?_, ?_, hclose.trans (Bool.toNat_le _)⟩
  · rw [hlength]
    cases hside with
    | idle hw _ _ => simp [hw]
    | busy buf rest hw _ _ => simp [hw]
    | abandoned hw _ => simp [hw]
  · intro hqueue hopen
    cases hside with
    | idle _ hq' _ => exact absurd hq' hqueue
    | busy buf rest hw _ _ =>
        intro hnil
        simp [writing, hnil] at hw
    | abandoned _ hc => exact absurd (hopen.symm.trans hc) (by simp)
  · rw [← hq.accepted, ← hq.written]
    exact q.delivered_prefix

theorem tcp_write_side_correct_two_sends :
    ∃ es r out, tcpSocket.run (.ok (fromConnection {})) es = some (r, out) ∧
      written out = [[1], [2]] ∧
      ∃ s, r = .ok s ∧ s.writes.length ≤ 1 ∧
        (s.writeQueue ≠ [] → s.isClosed = false → s.writes ≠ []) ∧
        written out <+: accepted out ∧ out.count .closeCallback ≤ 1 := by
  obtain ⟨s, hrun⟩ : ∃ s, tcpSocket.run (.ok (fromConnection {}))
      [.send [1], .send [2], .finishWrite 0 (.ok ()), .onWrite 0, .close, .finishWrite 0 (.ok ()),
        .onWrite 0] = some (.ok s, [.accept [1], .asyncWrite [1], .accept [2], .wrote [1],
          .asyncWrite [2], .wrote [2], .closeSocket, .closeCallback]) := ⟨_, rfl⟩
  exact ⟨_, _, _, hrun, rfl, tcp_write_side_correct ⟨{}, .inr rfl⟩ hrun⟩

/-! ## Draining before a requested close -/

/-- The socket has been closed: `do_close` ran, the descriptor was closed or the callback came. -/
def HasClosed (s : TcpSocket) (out : List TcpAction) : Prop :=
  s.isClosed = true ∨ .closeSocket ∈ out ∨ .closeCallback ∈ out

/-- The guarantee of `close()`, up to a list of excuses: when it is processed while accepted data
is queued or being written, nothing more is accepted or written than what was accepted before,
and unless an excuse has occurred the socket does not close before all of it is written. -/
def DrainsBeforeClose (excuses : List TcpAction) : Prop :=
  ∀ (s₀ s t : TcpSocket) (before after : List TcpEvent) (out new : List TcpAction),
    Initial s₀ → tcpSocket.run (.ok s₀) before = some (.ok s, out) →
    s.isConnected = true → s.isClosed = false → (s.isSending = true ∨ s.writeQueue ≠ []) →
    tcpSocket.run (.ok s) (.close :: after) = some (.ok t, new) →
    accepted new = [] ∧ written (out ++ new) <+: accepted out ∧
      ((∀ a ∈ excuses, a ∉ new) → HasClosed t new → written (out ++ new) = accepted out)

namespace TcpSocket

/-- A socket asked to close that still has a buffer to write and has not closed. -/
structure Draining (s : TcpSocket) (new : List TcpAction) : Prop where
  isOpen : ¬ HasClosed s new
  busy : s.writeQueue ≠ []

/-- After a requested close: nothing is accepted any more, and the socket is still draining, has
seen an error, or has drained. -/
structure Closing (new : List TcpAction) (s : TcpSocket) : Prop where
  isClosing : s.isClosing = true
  nothingAccepted : accepted new = []
  progress : Draining s new ∨ .writeError ∈ new ∨ .readError ∈ new ∨ s.writeQueue = []

@[simp] theorem shutdown_is_closing (s : TcpSocket) : s.shutdown.isClosing = s.isClosing := by
  unfold shutdown
  split
  · rfl
  · split <;> rfl

@[simp] theorem begin_connect_is_closing (s : TcpSocket) :
    s.beginConnect.isClosing = s.isClosing := by
  unfold beginConnect
  split <;> rfl

/-- A socket asked to close stays so and accepts nothing more. -/
theorem closing_step {s t : TcpSocket} {e : TcpEvent} {more : List TcpAction}
    (hclosing : s.isClosing = true) (hstep : TcpStep s e (.ok t) more) :
    t.isClosing = true ∧ accepted more = [] := by
  cases hstep with
  | startRead _ h _ => exact absurd (hclosing.symm.trans h) (by simp)
  | sendQueued _ h _ _ => exact absurd (hclosing.symm.trans h) (by simp)
  | sendWrite _ _ _ h _ _ _ => exact absurd (hclosing.symm.trans h) (by simp)
  | closeNow h _ _ => exact absurd (hclosing.symm.trans h) (by simp)
  | closeLater h _ _ _ => exact absurd (hclosing.symm.trans h) (by simp)
  | startReadingNow _ h _ _ => exact absurd (hclosing.symm.trans h) (by simp)
  | writeLast _ _ _ _ _ h => exact absurd (hclosing.symm.trans h) (by simp)
  | readFailed i e _ =>
      exact ⟨by simp, (Idle.cons ⟨rfl, rfl⟩ (idle_shutdown_actions s)).1⟩
  | writeFailed i data e _ =>
      exact ⟨by simp, (Idle.cons ⟨rfl, rfl⟩ (idle_shutdown_actions s)).1⟩
  | writeLastClose i data popped _ _ _ =>
      exact ⟨by simpa [drained] using hclosing,
        ((idle_drained_actions s).append (idle_shutdown_actions s)).1⟩
  | resolveFailed i e _ => exact ⟨hclosing, (idle_callback ⟨rfl, rfl⟩).1⟩
  | resolved i _ => exact ⟨by simpa using hclosing, rfl⟩
  | connectFailed i e _ => exact ⟨hclosing, (idle_callback ⟨rfl, rfl⟩).1⟩
  | connected i _ => exact ⟨hclosing, ((idle_callback ⟨rfl, rfl⟩).append ⟨rfl, rfl⟩).1⟩
  | readLast i data _ _ => exact ⟨hclosing, (idle_callback ⟨rfl, rfl⟩).1⟩
  | readAgain i data _ _ => exact ⟨hclosing, ((idle_callback ⟨rfl, rfl⟩).append ⟨rfl, rfl⟩).1⟩
  | _ => exact ⟨hclosing, rfl⟩

/-- The socket is as open as it was and still busy. -/
def Undisturbed (s t : TcpSocket) (more : List TcpAction) : Prop :=
  (HasClosed t more → s.isClosed = true) ∧ (s.writeQueue ≠ [] → t.writeQueue ≠ [])

theorem not_mem_callback {isSet : Bool} {a b : TcpAction} (h : b ≠ a) :
    b ∉ callbackAction isSet a := by
  cases isSet with
  | true => simpa [callbackAction] using h
  | false => simp [callbackAction]

/-- A socket asked to close that has buffers to write is disturbed by errors only, or finishes. -/
theorem draining_step {s t : TcpSocket} {e : TcpEvent} {more : List TcpAction}
    (hclosing : s.isClosing = true) (hstep : TcpStep s e (.ok t) more) :
    Undisturbed s t more ∨ .writeError ∈ more ∨ .readError ∈ more ∨ t.writeQueue = [] := by
  cases hstep with
  | closeNow h _ _ => exact absurd (hclosing.symm.trans h) (by simp)
  | readFailed i e _ => exact .inr (.inr (.inl (List.mem_cons_self ..)))
  | writeFailed i data e _ => exact .inr (.inl (List.mem_cons_self ..))
  | writeLast _ _ _ _ _ h => exact absurd (hclosing.symm.trans h) (by simp)
  | writeLastClose i data popped _ _ _ => exact .inr (.inr (.inr (by simp [drained])))
  | resolved i _ =>
      refine .inl ?_
      unfold beginConnect
      split <;> simp [Undisturbed, HasClosed, descriptorClosed]
  | _ => exact .inl (by simp [Undisturbed, HasClosed, not_mem_callback, beginRead, beginWrite])

/-- Nothing waits after a step that starts with an empty queue and accepts nothing. -/
theorem queue_empty_step {s t : TcpSocket} {out more : List TcpAction} (hs : WriteInvariant out s)
    (ht : WriteInvariant (out ++ more) t) (hmore : accepted more = [])
    (hempty : s.writeQueue = []) : t.writeQueue = [] := by
  obtain ⟨q, hq⟩ := hs.ledger
  obtain ⟨q', hq'⟩ := ht.ledger
  have hbefore : accepted out = written out := by
    rw [← hq.accepted, ← hq.written, q.delivered_eq_of_waiting_nil (hq.waiting.trans hempty)]
  have hafter := q'.conserved
  rw [hq'.accepted, hq'.written, hq'.waiting, accepted_append, written_append, hmore, hbefore,
    List.append_assoc, List.append_right_inj] at hafter
  exact (List.append_eq_nil_iff.mp hafter.symm).2

/-- A step of a socket asked to close. -/
theorem Closing.step {s t : TcpSocket} {e : TcpEvent} {out new more : List TcpAction}
    (h : Closing new s) (hs : WriteInvariant out s) (ht : WriteInvariant (out ++ more) t)
    (hstep : TcpStep s e (.ok t) more) : Closing (new ++ more) t := by
  obtain ⟨hclosing, hmore⟩ := closing_step h.isClosing hstep
  refine ⟨hclosing, by rw [accepted_append, h.nothingAccepted, hmore]; rfl, ?_⟩
  rcases h.progress with hdraining | herror | herror | hempty
  · rcases draining_step h.isClosing hstep with hsame | herror | herror | hempty
    · refine .inl ⟨?_, hsame.2 hdraining.busy⟩
      have hopen := hdraining.isOpen
      have hstill := hsame.1
      simp only [HasClosed, List.mem_append, not_or] at hopen hstill ⊢
      grind
    · exact .inr (.inl (List.mem_append_right _ herror))
    · exact .inr (.inr (.inl (List.mem_append_right _ herror)))
    · exact .inr (.inr (.inr hempty))
  · exact .inr (.inl (List.mem_append_left _ herror))
  · exact .inr (.inr (.inl (List.mem_append_left _ herror)))
  · exact .inr (.inr (.inr (queue_empty_step hs ht hmore hempty)))

/-- The close request that finds data to write. -/
theorem closing_of_close {s t : TcpSocket} {new : List TcpAction} (hclosed : s.isClosed = false)
    (hconnected : s.isConnected = true) (hbusy : s.writeQueue ≠ [])
    (hstep : TcpStep s .close (.ok t) new) : Closing new t := by
  cases hstep with
  | closeIgnored h =>
      have hclosing : s.isClosing = true := by simpa [hclosed] using h
      exact ⟨hclosing, rfl, .inl ⟨by simp [HasClosed, hclosed], hbusy⟩⟩
  | closeNow _ _ h => simp [hconnected, hbusy] at h
  | closeLater _ _ _ _ => exact ⟨rfl, rfl, .inl ⟨by simp [HasClosed, hclosed], hbusy⟩⟩

/-- The run after the close request. -/
theorem closing_run {s t : TcpSocket} {es : List TcpEvent} {out new more : List TcpAction}
    (h : Closing new s) (hs : WriteInvariant out s)
    (hrun : tcpSocket.run (.ok s) es = some (.ok t, more)) : Closing (new ++ more) t := by
  refine (Machine.run_induction
    (P := fun _ more r => ∃ t, r = .ok t ∧ WriteInvariant (out ++ more) t ∧ Closing (new ++ more) t)
    ⟨s, rfl, by simpa using hs, by simpa using h⟩ ?_ hrun).elim ?_
  · rintro es more r e u last _ ⟨v, rfl, hv, hclosing⟩ hstep
    obtain ⟨v', hv', htcp⟩ := tcp_socket_step hstep
    cases hv'
    obtain ⟨w, rfl, hw⟩ := hv.step htcp
    exact ⟨w, rfl, by simpa using hw, by simpa using hclosing.step hv hw htcp⟩
  · rintro t' ⟨ht, _, hclosing⟩
    cases ht
    exact hclosing

end TcpSocket

/-- Unless a write fails or a read completes with an error (the end of the stream included), a
socket drains before it closes. -/
theorem tcp_drains_before_close : DrainsBeforeClose [.writeError, .readError] := by
  intro s₀ s t before after out new hinit hbefore hconnected hclosed hdata hafter
  obtain ⟨s', hs', hs⟩ := write_invariant_run hinit hbefore
  cases hs'
  have hbusy : s.writeQueue ≠ [] := by
    rcases hdata with hsending | hqueue
    · cases hs.side with
      | idle _ _ h => exact absurd (hsending.symm.trans h) (by simp)
      | busy buf rest _ h _ => simp [h]
      | abandoned _ h => exact absurd (hclosed.symm.trans h) (by simp)
    · exact hqueue
  obtain ⟨r, first, more, hclose, hrest, rfl⟩ := Machine.run_cons.mp hafter
  obtain ⟨u, hu, htcp⟩ := tcp_socket_step hclose
  cases hu
  obtain ⟨u, rfl, hinv⟩ := hs.step htcp
  have hclosing := closing_run (closing_of_close hclosed hconnected hbusy htcp) hinv hrest
  obtain ⟨t', ht', hfinal⟩ := write_invariant_run hinit (Machine.run_append.mpr
    ⟨_, out, first ++ more, hbefore, hafter, rfl⟩)
  cases ht'
  obtain ⟨q, hq⟩ := hfinal.ledger
  have haccepted : accepted (out ++ (first ++ more)) = accepted out := by
    rw [accepted_append, hclosing.nothingAccepted, List.append_nil]
  refine ⟨hclosing.nothingAccepted, ?_, ?_⟩
  · rw [← haccepted, ← hq.accepted, ← hq.written]
    exact q.delivered_prefix
  · intro hexcuse hhasClosed
    rcases hclosing.progress with hdraining | herror | herror | hempty
    · exact absurd hhasClosed hdraining.isOpen
    · exact absurd herror (hexcuse _ (by simp))
    · exact absurd herror (hexcuse _ (by simp))
    · rw [← haccepted, ← hq.accepted, ← hq.written,
        q.delivered_eq_of_waiting_nil (hq.waiting.trans hempty)]

theorem tcp_drains_before_close_two_buffers :
    ∃ (s t : TcpSocket) (out new : List TcpAction),
      tcpSocket.run (.ok (fromConnection {})) [.start, .send [1], .send [2]] = some (.ok s, out) ∧
      tcpSocket.run (.ok s) (.close :: [.finishRead 0 (.ok [7]), .onRead 0, .send [3],
        .finishWrite 0 (.ok ()), .onWrite 0, .finishWrite 0 (.ok ()), .onWrite 0]) =
          some (.ok t, new) ∧
      HasClosed t new ∧ written (out ++ new) = accepted out := by
  refine ⟨_, _, _, _, rfl, rfl, .inl rfl, ?_⟩
  refine (tcp_drains_before_close (fromConnection {}) _ _ [.start, .send [1], .send [2]]
    [.finishRead 0 (.ok [7]), .onRead 0, .send [3], .finishWrite 0 (.ok ()), .onWrite 0,
      .finishWrite 0 (.ok ()), .onWrite 0] _ _ ⟨{}, .inr rfl⟩ rfl rfl rfl (.inl rfl) rfl).2.2
    (by decide) (.inl rfl)

/-- The peer half-closes while a buffer is being written: the read that ends with it closes the
socket, and the buffer is lost. -/
theorem tcp_half_close_cuts_drain : ¬ DrainsBeforeClose [.writeError] := by
  intro h
  have hrun := h (fromConnection {}) _ _ [.start, .send [1]]
    [.finishRead 0 (.error .eof), .onRead 0] _ _ ⟨{}, .inr rfl⟩ rfl rfl rfl (.inl rfl) rfl
  exact absurd (hrun.2.2 (by decide) (.inl rfl)) (by decide)

end RtcVpn
