import RtcVpn.Server.Replies
import RtcVpn.Socket.TcpStep

/-!
# The TCP socket of a target

What `TcpSession` and `HttpSession` see of their `TcpSocket` are its callbacks.
They begin one connect, and then whatever tasks are posted and however the
operating system completes the operations, the callbacks are reports that a
`Target` can make. As long as reading is not resumed there is one read in flight
at most, so the data reported is the data read, in order.
-/

namespace RtcVpn

/-- The report that a callback of the socket is. -/
def TcpAction.report : TcpAction → Option TargetReport
  | .connectCallback success => some (.connected success)
  | .dataCallback data => some (.data data)
  | .writeQueueCallback status => some (.queue status)
  | .closeCallback => some .closed
  | _ => none

/-- The task of `connect`. -/
def TcpEvent.connects : TcpEvent → Bool
  | .connect => true
  | _ => false

/-- The tasks that begin a read on a connected socket. -/
def TcpEvent.resumes : TcpEvent → Bool
  | .start | .startReading => true
  | _ => false

/-- What is read fits into the receive buffer. -/
def TcpEvent.Fits : TcpEvent → Prop
  | .finishRead _ (.ok data) => data.length ≤ 8192
  | _ => True

/-- The data of a read that the operating system has completed. -/
def TcpEvent.read : TcpEvent → Option Bytes
  | .finishRead _ (.ok data) => some data
  | _ => none

namespace TcpSocket

/-- The number of connects begun. -/
def connectsOf (es : List TcpEvent) : Nat := es.countP TcpEvent.connects

/-! ## Reports -/

/-- A socket that has begun at most `begun` connects, and what it has reported. -/
structure Reporting (begun : Nat) (s : TcpSocket) (g : Target) : Prop where
  callbacks : s.callbacks = {}
  closed : g.isClosed = s.isClosed
  connected : s.isConnected = (g.result == some true)
  attempts : s.resolves.length + s.connects.length + g.result.toList.length ≤ begun
  reads : s.isConnected = false → s.reads = []
  writes : s.isConnected = false → s.writes = []
  fits : ∀ data, .completed (.ok data) ∈ s.reads → data.length ≤ 8192

/-- A report that can be made. -/
theorem target_run_report {g : Target} {r : TargetReport} (h : g.enabled r = true) :
    target.run g [r] = some (g.next r, []) := by
  refine Machine.run_singleton.mpr ?_
  show (if g.enabled r then some (g.next r, []) else none) = _
  rw [if_pos h]

variable {s t : TcpSocket} {g : Target} {n : Nat}

/-- The close callback comes with the first close. -/
theorem report_shutdown (h : s.callbacks = {}) (hclosed : g.isClosed = s.isClosed) :
    ∃ f, target.run g (s.shutdownActions.filterMap TcpAction.report) = some (f, []) ∧
      f.result = g.result ∧ f.isClosed = true := by
  cases hs : s.isClosed with
  | true =>
      rw [hs] at hclosed
      exact ⟨g, by simp [shutdownActions, hs], rfl, hclosed⟩
  | false =>
      have hreports : s.shutdownActions.filterMap TcpAction.report = [.closed] := by
        cases hopen : s.isOpen <;>
          simp [shutdownActions, hs, hopen, h, TcpAction.report, List.filterMap_cons]
      rw [hreports]
      refine ⟨g.next .closed, target_run_report ?_, rfl, rfl⟩
      simp [Target.enabled, hclosed, hs]

/-- Closing the descriptor gives no read new data. -/
theorem mem_of_abort {reads : List (Operation Bytes)} {data : Bytes}
    (hmem : .completed (.ok data) ∈ reads.map Operation.abort) : .completed (.ok data) ∈ reads := by
  obtain ⟨op, hop, habort⟩ := List.mem_map.mp hmem
  cases op with
  | pending => cases habort
  | completed r =>
      cases habort
      exact hop

/-- Closing leaves the operations in their lists. -/
theorem shutdown_members (s : TcpSocket) :
    s.shutdown.callbacks = s.callbacks ∧ s.shutdown.isConnected = s.isConnected ∧
      s.shutdown.isClosed = true ∧ s.shutdown.resolves = s.resolves ∧
      s.shutdown.connects.length = s.connects.length ∧
      (s.reads = [] → s.shutdown.reads = []) ∧ (s.writes = [] → s.shutdown.writes = []) ∧
      ∀ data, .completed (.ok data) ∈ s.shutdown.reads → .completed (.ok data) ∈ s.reads := by
  unfold shutdown
  split
  · next hclosed => exact ⟨rfl, rfl, hclosed, rfl, rfl, id, id, fun _ h => h⟩
  · split
    · refine ⟨rfl, rfl, rfl, rfl, by simp [descriptorClosed], ?_, ?_, fun _ => mem_of_abort⟩
      · intro h
        simp [descriptorClosed, h]
      · intro h
        simp [descriptorClosed, h]
    · exact ⟨rfl, rfl, rfl, rfl, rfl, id, id, fun _ h => h⟩

/-- A change that is no report and no connect. -/
theorem Reporting.keep (h : Reporting n s g) (hcallbacks : t.callbacks = s.callbacks)
    (hclosed : t.isClosed = s.isClosed) (hconnected : t.isConnected = s.isConnected)
    (hattempts : t.resolves.length + t.connects.length ≤ s.resolves.length + s.connects.length)
    (hreads : s.isConnected = false → s.reads = [] → t.reads = [])
    (hwrites : s.isConnected = false → s.writes = [] → t.writes = [])
    (hfits : ∀ data, .completed (.ok data) ∈ t.reads → data.length ≤ 8192) :
    Reporting n t g where
  callbacks := hcallbacks.trans h.callbacks
  closed := h.closed.trans hclosed.symm
  connected := hconnected.trans h.connected
  attempts := by
    have := h.attempts
    omega
  reads hs := hreads (hconnected ▸ hs) (h.reads (hconnected ▸ hs))
  writes hs := hwrites (hconnected ▸ hs) (h.writes (hconnected ▸ hs))
  fits := hfits

/-- A socket with an operation in flight on its descriptor is connected. -/
theorem Reporting.connected_of_read (h : Reporting n s g) {i : Nat} {r : Except IoError Bytes}
    (hresult : Operation.resultAt s.reads i = some r) : s.isConnected = true := by
  by_contra hs
  rw [h.reads (by simpa using hs)] at hresult
  simp [Operation.resultAt] at hresult

theorem Reporting.connected_of_write (h : Reporting n s g) {i : Nat}
    {w : Bytes × Operation Unit} (hwrite : s.writes[i]? = some w) : s.isConnected = true := by
  by_contra hs
  rw [h.writes (by simpa using hs)] at hwrite
  simp at hwrite

/-- The result of the one connect. -/
theorem Reporting.result_none (h : Reporting n s g) (hn : n ≤ 1)
    (hattempt : 0 < s.resolves.length + s.connects.length) : g.result = none := by
  have hattempts := h.attempts
  cases hresult : g.result with
  | none => rfl
  | some ok =>
      rw [hresult, Option.toList_some, List.length_singleton] at hattempts
      omega

/-- The close of the socket. -/
theorem Reporting.shutdown (h : Reporting n s g) :
    ∃ f, target.run g (s.shutdownActions.filterMap TcpAction.report) = some (f, []) ∧
      Reporting n s.shutdown f := by
  obtain ⟨f, hrun, hresult, hclosed⟩ := report_shutdown h.callbacks h.closed
  obtain ⟨hcallbacks, hconnected, hshut, hresolves, hconnects, hreads, hwrites, hmem⟩ :=
    shutdown_members s
  refine ⟨f, hrun, hcallbacks.trans h.callbacks, hclosed.trans hshut.symm, ?_, ?_, ?_, ?_, ?_⟩
  · rw [hconnected, hresult]
    exact h.connected
  · rw [hresolves, hconnects, hresult]
    exact h.attempts
  · exact fun hs => hreads (h.reads (hconnected ▸ hs))
  · exact fun hs => hwrites (h.writes (hconnected ▸ hs))
  · exact fun data hdata => h.fits data (hmem data hdata)

/-- A read that begins has no data yet. -/
theorem Reporting.begin_read (h : Reporting n s g) (hconnected : s.isConnected = true) :
    Reporting n s.beginRead g := by
  refine h.keep rfl rfl rfl (Nat.le_refl _) ?_ (fun _ => id) fun data hdata => ?_
  · simp [hconnected]
  · rcases List.mem_append.mp hdata with hdata | hdata
    · exact h.fits data hdata
    · rw [List.mem_singleton] at hdata
      cases hopen : s.isOpen <;> rw [hopen] at hdata <;> cases hdata

/-- A connect that begins once the name has been resolved. -/
theorem Reporting.begin_connect (h : Reporting n s g) {resolves : List (Operation Unit)}
    (hlength : resolves.length + 1 = s.resolves.length) :
    Reporting n (beginConnect { s with resolves := resolves }) g := by
  have hpending : ∀ connects : List (Operation Unit), connects.length = s.connects.length →
      resolves.length + (connects ++ [Operation.pending]).length ≤
        s.resolves.length + s.connects.length := by
    intro connects hconnects
    rw [List.length_append, List.length_singleton]
    omega
  unfold beginConnect
  by_cases hopen : s.isOpen = true
  · rw [if_pos hopen]
    have hattempts := hpending (s.connects.map .abort) (List.length_map ..)
    refine h.keep rfl rfl rfl hattempts (fun _ hreads => ?_) (fun _ hwrites => ?_)
      fun data hdata => h.fits data (mem_of_abort hdata)
    · simp [descriptorClosed, hreads]
    · simp [descriptorClosed, hwrites]
  · rw [if_neg hopen]
    have hattempts := hpending s.connects rfl
    exact h.keep rfl rfl rfl hattempts (fun _ => id) (fun _ => id) h.fits

/-- Taking a completed read off the list. -/
theorem Reporting.erase_read (h : Reporting n s g) (i : Nat) :
    Reporting n { s with reads := s.reads.eraseIdx i } g := by
  refine h.keep rfl rfl rfl (Nat.le_refl _) (fun _ hreads => ?_) (fun _ => id) fun data hdata => ?_
  · simp [hreads]
  · exact h.fits data (List.mem_of_mem_eraseIdx hdata)

/-- Taking a completed write off the list. -/
theorem Reporting.erase_write (h : Reporting n s g) (i : Nat) :
    Reporting n { s with writes := s.writes.eraseIdx i } g := by
  refine h.keep rfl rfl rfl (Nat.le_refl _) (fun _ => id) (fun _ hwrites => ?_) h.fits
  simp [hwrites]

/-- A report that leaves the result and the close alone. -/
theorem run_same_report {r : TargetReport} (henabled : g.enabled r = true)
    (hnext : g.next r = g) : target.run g [r] = some (g, []) := by
  have hrun := target_run_report henabled
  rwa [hnext] at hrun

/-- What is reported once the queue has drained. -/
theorem Reporting.drained_actions (h : Reporting n s g) (hconnected : s.isConnected = true) :
    target.run g (s.drainedActions.filterMap TcpAction.report) = some (g, []) := by
  unfold drainedActions
  split
  · have hset : s.callbacks.writeQueue = true := by rw [h.callbacks]
    rw [hset]
    refine run_same_report (r := .queue .safety) ?_ rfl
    show (g.result == some true) = true
    rw [← h.connected, hconnected]
  · rfl

/-- The connect callback. -/
theorem Reporting.result (h : Reporting n s g) (hn : n ≤ 1)
    (hattempt : 0 < s.resolves.length + s.connects.length) (success : Bool) :
    target.run g [.connected success] = some (g.next (.connected success), []) := by
  refine target_run_report ?_
  show g.result.isNone = true
  rw [h.result_none hn hattempt]
  rfl

/-- The data callback. -/
theorem Reporting.run_data (h : Reporting n s g) {i : Nat} {data : Bytes}
    (hresult : Operation.resultAt s.reads i = some (.ok data)) :
    target.run g [.data data] = some (g, []) := by
  have hfits := h.fits data (Operation.mem_of_result_at hresult)
  refine run_same_report ?_ rfl
  show (g.result == some true && decide (data.length ≤ Target.maxData)) = true
  rw [← h.connected, h.connected_of_read hresult, Bool.true_and, decide_eq_true_eq, Target.maxData]
  omega

/-- The close of the socket by its owner or after an error. -/
theorem Reporting.close (h : Reporting n s g) :
    ∃ f, target.run g (s.shutdownActions.filterMap TcpAction.report) = some (f, []) ∧
      Reporting n (TcpSocket.shutdown { s with isClosing := true }) f := by
  have hkeep : Reporting n { s with isClosing := true } g :=
    h.keep rfl rfl rfl (Nat.le_refl _) (fun _ => id) (fun _ => id) h.fits
  exact hkeep.shutdown

/-- A connect that fails, be it for its name. -/
theorem Reporting.connect_failed (h : Reporting n s g) (hn : n ≤ 1)
    {resolves connects : List (Operation Unit)}
    (hlength : resolves.length + connects.length + 1 = s.resolves.length + s.connects.length) :
    target.run g ((callbackAction s.callbacks.connect (.connectCallback false)).filterMap
        TcpAction.report) = some (g.next (.connected false), []) ∧
      Reporting n { s with resolves := resolves, connects := connects }
        (g.next (.connected false)) := by
  have hnone := h.result_none hn (by omega)
  refine ⟨?_, h.callbacks, h.closed, ?_, ?_, h.reads, h.writes, h.fits⟩
  · rw [h.callbacks]
    exact h.result hn (by omega) false
  · rw [h.connected, hnone]
    rfl
  · have hattempts := h.attempts
    show resolves.length + connects.length + 1 ≤ _
    omega

/-- What every step reports is a report that can be made. -/
theorem Reporting.step {e : TcpEvent} {new : List TcpAction} (h : Reporting n s g)
    (hstep : TcpStep s e (.ok t) new) (hn : n + connectsOf [e] ≤ 1) (hfits : e.Fits)
    (hdropped : s.isConnected = false → ∀ data, e = .send data → new = []) :
    ∃ f, target.run g (new.filterMap TcpAction.report) = some (f, []) ∧
      Reporting (n + connectsOf [e]) t f := by
  have hcallbacks := h.callbacks
  cases hstep with
  | connect =>
      refine ⟨g, rfl, ⟨h.callbacks, h.closed, h.connected, ?_, h.reads, h.writes, h.fits⟩⟩
      have hattempts := h.attempts
      show (s.resolves ++ [_]).length + s.connects.length + g.result.toList.length ≤ n + 1
      rw [List.length_append, List.length_singleton]
      omega
  | startRead hconnected => exact ⟨g, rfl, h.begin_read hconnected⟩
  | startReadingNow hreading hclosing hclosed hconnected =>
      have hkeep : Reporting n { s with isReading := true } g :=
        h.keep rfl rfl rfl (Nat.le_refl _) (fun _ => id) (fun _ => id) h.fits
      exact ⟨g, rfl, hkeep.begin_read hconnected⟩
  | startIgnored | sendDropped | closeIgnored | startReadingIgnored => exact ⟨g, rfl, h⟩
  | startReadingLater | stopReading | closeLater | sendQueued =>
      exact ⟨g, rfl, h.keep rfl rfl rfl (Nat.le_refl _) (fun _ => id) (fun _ => id) h.fits⟩
  | sendWrite data buf rest hclosing hclosed hsending hfront =>
      have hconnected : s.isConnected = true := by
        by_contra hs
        exact absurd (hdropped (by simpa using hs) data rfl) (by simp)
      refine ⟨g, rfl, h.keep rfl rfl rfl (Nat.le_refl _) (fun _ => id) ?_ h.fits⟩
      simp [hconnected]
  | closeNow hclosing hclosed hnow => exact h.close
  | finishResolve i r =>
      refine ⟨g, rfl, h.keep rfl rfl rfl ?_ (fun _ => id) (fun _ => id) h.fits⟩
      simp
  | finishConnect i r =>
      refine ⟨g, rfl, h.keep rfl rfl rfl ?_ (fun _ => id) (fun _ => id) h.fits⟩
      simp
  | finishRead i r =>
      refine ⟨g, rfl, h.keep rfl rfl rfl (Nat.le_refl _) ?_ (fun _ => id) fun data hdata => ?_⟩
      · intro _ hreads
        simp [hreads]
      · rcases List.mem_or_eq_of_mem_set hdata with hdata | hdata
        · exact h.fits data hdata
        · cases hdata
          exact hfits
  | finishWrite i r =>
      refine ⟨g, rfl, h.keep rfl rfl rfl (Nat.le_refl _) (fun _ => id) ?_ h.fits⟩
      intro _ hwrites
      simp [hwrites]
  | resolveFailed i e hresult =>
      have hlength := Operation.length_erase_result hresult
      exact ⟨_, h.connect_failed (by omega) (by omega)⟩
  | resolved i hresult =>
      have hlength := Operation.length_erase_result hresult
      exact ⟨g, rfl, h.begin_connect hlength⟩
  | connectFailed i e hresult =>
      have hlength := Operation.length_erase_result hresult
      exact ⟨_, h.connect_failed (by omega) (by omega)⟩
  | connected i hresult =>
      have hlength := Operation.length_erase_result hresult
      have hnone := h.result_none (by omega) (by omega)
      have hconnected : Reporting n
          { s with connects := s.connects.eraseIdx i, isConnected := true }
          (g.next (.connected true)) := by
        refine ⟨h.callbacks, h.closed, rfl, ?_, nofun, nofun, h.fits⟩
        have hattempts := h.attempts
        show s.resolves.length + (s.connects.eraseIdx i).length + 1 ≤ _
        omega
      refine ⟨g.next (.connected true), ?_, hconnected.begin_read rfl⟩
      rw [h.callbacks]
      exact h.result (by omega) (by omega) true
  | readFailed i e hresult =>
      exact (h.erase_read i).close
  | readLast i data hresult hreading =>
      refine ⟨g, ?_, h.erase_read i⟩
      rw [h.callbacks]
      exact h.run_data hresult
  | readAgain i data hresult hreading =>
      refine ⟨g, ?_, (h.erase_read i).begin_read (h.connected_of_read hresult)⟩
      rw [h.callbacks]
      exact h.run_data hresult
  | writeFailed i data e hwrite =>
      exact (h.erase_write i).close
  | writeNext i data popped next rest hwrite hqueue =>
      have hconnected := h.connected_of_write hwrite
      refine ⟨g, rfl, h.keep rfl rfl rfl (Nat.le_refl _) (fun _ => id) ?_ h.fits⟩
      simp [hconnected]
  | writeLast i data popped hwrite hqueue hclosing =>
      refine ⟨g, h.drained_actions (h.connected_of_write hwrite), ?_⟩
      exact (h.erase_write i).keep rfl rfl rfl (Nat.le_refl _) (fun _ => id) (fun _ => id) h.fits
  | writeLastClose i data popped hwrite hqueue hclosing =>
      have hkeep : Reporting n (drained { s with writes := s.writes.eraseIdx i }) g :=
        (h.erase_write i).keep rfl rfl rfl (Nat.le_refl _) (fun _ => id) (fun _ => id) h.fits
      obtain ⟨f, hshut, hf⟩ := hkeep.shutdown
      refine ⟨f, ?_, hf⟩
      have hdrained := h.drained_actions (h.connected_of_write hwrite)
      rw [List.cons_append, List.filterMap_cons_none rfl, List.filterMap_append]
      exact Machine.run_append.mpr ⟨g, [], [], hdrained, hshut, rfl⟩

/-- Data sent before the socket is connected is dropped. -/
theorem run_send_unconnected {e : TcpEvent} {data : Bytes} (he : e = .send data)
    (hs : s.isConnected = false) : ((handle e).run s).actions = [] := by
  subst he
  simp [handle, sendTask, hs]

theorem connects_of_snoc (es : List TcpEvent) (e : TcpEvent) :
    connectsOf (es ++ [e]) = connectsOf es + connectsOf [e] :=
  List.countP_append

/-- A socket that begins one connect reports what a `Target` can report. -/
theorem reports_run {es : List TcpEvent} {out : List TcpAction} {x : Except QueueFault TcpSocket}
    (hrun : tcpSocket.run (.ok (unconnected {})) es = some (x, out)) (hconnects : connectsOf es ≤ 1)
    (hfits : ∀ e ∈ es, e.Fits) :
    ∃ g, target.run {} (out.filterMap TcpAction.report) = some (g, []) := by
  have hall := Machine.run_induction (m := tcpSocket) (P := fun es out x =>
    connectsOf es ≤ 1 → (∀ e ∈ es, e.Fits) →
      ∃ g, target.run {} (out.filterMap TcpAction.report) = some (g, []) ∧
        ∀ s, x = .ok s → Reporting (connectsOf es) s g) ?_ ?_ hrun hconnects hfits
  · obtain ⟨g, hg, -⟩ := hall
    exact ⟨g, hg⟩
  · intro _ _
    refine ⟨{}, rfl, ?_⟩
    rintro _ ⟨⟩
    exact ⟨rfl, rfl, rfl, Nat.le_refl _, fun _ => rfl, fun _ => rfl, by simp [unconnected]⟩
  · intro es out x e y new _ ih hstep hconnects hfits
    rw [connects_of_snoc] at hconnects ⊢
    obtain ⟨s, rfl, _, hy, hnew⟩ := Effect.machine_step_eq_some hstep
    obtain ⟨g, hg, hs⟩ := ih (by omega) fun e he => hfits e (List.mem_append_left _ he)
    obtain ⟨s', hs', htcp⟩ := tcp_socket_step hstep
    cases hs'
    rw [List.filterMap_append]
    cases y with
    | error fault =>
        cases htcp with
        | writeUnderflow =>
            refine ⟨g, Machine.run_append.mpr ⟨g, [], [], hg, rfl, rfl⟩, fun s hs => ?_⟩
            cases hs
    | ok t =>
        obtain ⟨f, hf, ht⟩ := (hs s rfl).step htcp hconnects (hfits e (by simp)) fun hs data he =>
          hnew.trans (run_send_unconnected he hs)
        refine ⟨f, Machine.run_append.mpr ⟨g, [], [], hg, hf, rfl⟩, ?_⟩
        rintro _ ⟨⟩
        exact ht

/-- A target that is reached, answers and is closed. -/
theorem reports_run_closed :
    ∃ x out g, tcpSocket.run (.ok (unconnected {})) [.connect, .finishResolve 0 (.ok ()),
        .onResolve 0, .finishConnect 0 (.ok ()), .onConnect 0, .finishRead 0 (.ok [1, 2]),
        .onRead 0, .close, .close] = some (x, out) ∧
      out.filterMap TcpAction.report = [.connected true, .data [1, 2], .closed] ∧
      target.run {} (out.filterMap TcpAction.report) = some (g, []) := by
  obtain ⟨x, out, hrun, hreports⟩ : ∃ x out, tcpSocket.run (.ok (unconnected {})) [.connect,
      .finishResolve 0 (.ok ()), .onResolve 0, .finishConnect 0 (.ok ()), .onConnect 0,
      .finishRead 0 (.ok [1, 2]), .onRead 0, .close, .close] = some (x, out) ∧
        out.filterMap TcpAction.report = [.connected true, .data [1, 2], .closed] :=
    ⟨_, _, rfl, by decide⟩
  obtain ⟨g, hg⟩ := reports_run hrun (by decide) (by simp [TcpEvent.Fits])
  exact ⟨x, out, g, hrun, hreports, hg⟩

/-! ## The order of the data -/

/-- The data of a read that has completed. -/
def readData : Operation Bytes → Option Bytes
  | .completed (.ok data) => some data
  | _ => none

/-- The data that the callbacks have handed over. -/
def delivered (out : List TcpAction) : List Bytes :=
  (out.filterMap TcpAction.report).filterMap TargetReport.bytes

/-- What the operating system has read has been handed over, but for what is still outstanding. -/
structure Delivering (es : List TcpEvent) (out : List TcpAction) (s : TcpSocket) : Prop where
  callbacks : s.callbacks = {}
  inflight : s.resolves.length + s.connects.length + s.reads.length ≤ connectsOf es
  data : es.filterMap TcpEvent.read = delivered out ++ s.reads.filterMap readData

theorem delivered_append (out new : List TcpAction) :
    delivered (out ++ new) = delivered out ++ delivered new := by
  simp [delivered, List.filterMap_append]

theorem delivered_shutdown (s : TcpSocket) : delivered s.shutdownActions = [] := by
  unfold shutdownActions
  cases s.isClosed <;> cases s.isOpen <;> cases s.callbacks.close <;> rfl

theorem delivered_drained (s : TcpSocket) : delivered s.drainedActions = [] := by
  unfold drainedActions
  split
  · cases s.callbacks.writeQueue <;> rfl
  · rfl

/-- Cancelling reads leaves the data of those that have completed. -/
theorem read_data_abort (reads : List (Operation Bytes)) :
    (reads.map Operation.abort).filterMap readData = reads.filterMap readData := by
  rw [List.filterMap_map]
  congr 1
  funext op
  cases op <;> rfl

theorem shutdown_reads (s : TcpSocket) : s.shutdown.reads.length = s.reads.length ∧
    s.shutdown.reads.filterMap readData = s.reads.filterMap readData := by
  unfold shutdown
  split
  · exact ⟨rfl, rfl⟩
  · split
    · exact ⟨List.length_map .., read_data_abort s.reads⟩
    · exact ⟨rfl, rfl⟩

/-- A connect that begins is one operation more, and leaves the reads their data. -/
theorem begin_connect_reads (s : TcpSocket) : s.beginConnect.callbacks = s.callbacks ∧
    s.beginConnect.resolves.length + s.beginConnect.connects.length +
        s.beginConnect.reads.length =
      s.resolves.length + (s.connects.length + 1) + s.reads.length ∧
    s.beginConnect.reads.filterMap readData = s.reads.filterMap readData := by
  unfold beginConnect
  by_cases hopen : s.isOpen = true
  · rw [if_pos hopen]
    exact ⟨rfl, by simp [descriptorClosed], read_data_abort s.reads⟩
  · rw [if_neg hopen]
    exact ⟨rfl, by simp, rfl⟩

/-- A read that begins has no data yet. -/
theorem read_data_initiate (isOpen : Bool) : readData (.initiate isOpen) = none := by
  cases isOpen <;> rfl

/-- The one read in flight. -/
theorem reads_of_pending_at {reads : List (Operation Bytes)} {i : Nat}
    (hlength : reads.length ≤ 1) (h : Operation.pendingAt reads i = true) :
    reads = [.pending] ∧ i = 0 := by
  match reads, i with
  | [], _ => simp [Operation.pendingAt] at h
  | [op], 0 =>
      cases op with
      | pending => exact ⟨rfl, rfl⟩
      | completed r => simp [Operation.pendingAt] at h
  | [_], i + 1 => simp [Operation.pendingAt] at h
  | _ :: _ :: _, _ =>
      rw [List.length_cons, List.length_cons] at hlength
      omega

/-- The one read that has completed. -/
theorem reads_of_result_at {reads : List (Operation Bytes)} {i : Nat} {r : Except IoError Bytes}
    (hlength : reads.length ≤ 1) (h : Operation.resultAt reads i = some r) :
    reads = [.completed r] ∧ i = 0 := by
  match reads, i with
  | [], _ => simp [Operation.resultAt] at h
  | [op], 0 =>
      cases op with
      | pending => simp [Operation.resultAt] at h
      | completed r' =>
          simp only [Operation.resultAt, List.getElem?_cons_zero, Option.some.injEq] at h
          exact ⟨by rw [h], rfl⟩
  | [_], i + 1 => simp [Operation.resultAt] at h
  | _ :: _ :: _, _ =>
      rw [List.length_cons, List.length_cons] at hlength
      omega

variable {es : List TcpEvent} {out : List TcpAction}

/-- A step that is no read and hands nothing over. -/
theorem Delivering.keep {e : TcpEvent} {new : List TcpAction} (h : Delivering es out s)
    (hcallbacks : t.callbacks = s.callbacks) (he : e.read = none) (hnew : delivered new = [])
    (hinflight : t.resolves.length + t.connects.length + t.reads.length ≤
      s.resolves.length + s.connects.length + s.reads.length + connectsOf [e])
    (hreads : t.reads.filterMap readData = s.reads.filterMap readData) :
    Delivering (es ++ [e]) (out ++ new) t where
  callbacks := hcallbacks.trans h.callbacks
  inflight := by
    have := h.inflight
    rw [connects_of_snoc]
    omega
  data := by
    rw [List.filterMap_append, List.filterMap_cons_none he, List.filterMap_nil, List.append_nil,
      h.data, delivered_append, hnew, List.append_nil, hreads]

/-- The close of the socket after such a step. -/
theorem Delivering.shutdown {e : TcpEvent} {new : List TcpAction} (h : Delivering es out s)
    (hcallbacks : t.callbacks = s.callbacks) (he : e.read = none) (hnew : delivered new = [])
    (hinflight : t.resolves.length + t.connects.length + t.reads.length ≤
      s.resolves.length + s.connects.length + s.reads.length)
    (hreads : t.reads.filterMap readData = s.reads.filterMap readData) :
    Delivering (es ++ [e]) (out ++ new) t.shutdown := by
  obtain ⟨hcallbacks', _, _, hresolves, hconnects, -⟩ := shutdown_members t
  obtain ⟨hlength, hdata⟩ := shutdown_reads t
  refine h.keep (hcallbacks'.trans hcallbacks) he hnew ?_ (hdata.trans hreads)
  rw [hresolves, hconnects, hlength]
  omega

/-- The handler of the one read in flight hands its data over. -/
theorem Delivering.read (h : Delivering es out s) {i : Nat} {data : Bytes} {new : List TcpAction}
    (hlength : s.reads.length ≤ 1) (hresult : Operation.resultAt s.reads i = some (.ok data))
    (hnew : delivered new = [data]) :
    Delivering (es ++ [.onRead i]) (out ++ new) { s with reads := s.reads.eraseIdx i } := by
  obtain ⟨hreads, rfl⟩ := reads_of_result_at hlength hresult
  have hinflight := h.inflight
  have hdata := h.data
  rw [hreads] at hinflight hdata
  refine ⟨h.callbacks, ?_, ?_⟩
  · rw [connects_of_snoc]
    show s.resolves.length + s.connects.length + (s.reads.eraseIdx 0).length ≤ _
    rw [hreads]
    simp only [List.eraseIdx_cons_zero, List.length_singleton, List.length_nil] at hinflight ⊢
    omega
  · rw [List.filterMap_append, hdata, delivered_append, hnew, hreads]
    simp [TcpEvent.read, readData]

/-- A read that begins. -/
theorem Delivering.begin_read (h : Delivering es out s)
    (hroom : s.resolves.length + s.connects.length + s.reads.length < connectsOf es) :
    Delivering es out s.beginRead where
  callbacks := h.callbacks
  inflight := by
    show s.resolves.length + s.connects.length + (s.reads ++ [_]).length ≤ _
    rw [List.length_append, List.length_singleton]
    omega
  data := by
    show _ = delivered out ++ (s.reads ++ [_]).filterMap readData
    rw [h.data, List.filterMap_append, List.filterMap_cons_none (read_data_initiate s.isOpen),
      List.filterMap_nil, List.append_nil]

/-- Every step keeps the data in order, unless it has the socket read once more. -/
theorem Delivering.step {e : TcpEvent} {new : List TcpAction} (h : Delivering es out s)
    (hstep : TcpStep s e (.ok t) new) (hconnects : connectsOf (es ++ [e]) ≤ 1)
    (he : e.resumes = false) : Delivering (es ++ [e]) (out ++ new) t := by
  have hinflight := h.inflight
  rw [connects_of_snoc] at hconnects
  cases hstep with
  | connect =>
      refine h.keep rfl rfl rfl ?_ rfl
      show (s.resolves ++ [_]).length + s.connects.length + s.reads.length ≤ _ + 1
      rw [List.length_append, List.length_singleton]
      omega
  | startIgnored | startRead | startReadingIgnored | startReadingLater | startReadingNow => cases he
  | sendDropped | closeIgnored | stopReading | closeLater | sendQueued | sendWrite =>
      exact h.keep rfl rfl rfl (Nat.le_add_right _ _) rfl
  | closeNow => exact h.shutdown rfl rfl (delivered_shutdown s) (Nat.le_refl _) rfl
  | finishResolve i r =>
      refine h.keep rfl rfl rfl ?_ rfl
      show (s.resolves.set i _).length + s.connects.length + s.reads.length ≤ _
      rw [List.length_set]
      exact Nat.le_add_right _ _
  | finishConnect i r =>
      refine h.keep rfl rfl rfl ?_ rfl
      show s.resolves.length + (s.connects.set i _).length + s.reads.length ≤ _
      rw [List.length_set]
      exact Nat.le_add_right _ _
  | finishRead i r hpending =>
      obtain ⟨hreads, rfl⟩ := reads_of_pending_at (by omega) hpending
      refine ⟨h.callbacks, ?_, ?_⟩
      · rw [connects_of_snoc]
        show s.resolves.length + s.connects.length + (s.reads.set 0 _).length ≤ _
        rw [List.length_set]
        omega
      · have hdata := h.data
        rw [hreads] at hdata
        rw [List.filterMap_append, hdata, List.append_nil, hreads, List.append_assoc]
        cases r <;> rfl
  | finishWrite i r => exact h.keep rfl rfl rfl (Nat.le_add_right _ _) rfl
  | resolveFailed i e hresult =>
      have hlength := Operation.length_erase_result hresult
      refine h.keep rfl rfl (by cases s.callbacks.connect <;> rfl) ?_ rfl
      show (s.resolves.eraseIdx i).length + s.connects.length + s.reads.length ≤ _
      omega
  | connectFailed i e hresult =>
      have hlength := Operation.length_erase_result hresult
      refine h.keep rfl rfl (by cases s.callbacks.connect <;> rfl) ?_ rfl
      show s.resolves.length + (s.connects.eraseIdx i).length + s.reads.length ≤ _
      omega
  | resolved i hresult =>
      have hlength := Operation.length_erase_result hresult
      obtain ⟨hcallbacks, hlengths, hdata⟩ := begin_connect_reads { s with
        resolves := s.resolves.eraseIdx i }
      refine h.keep hcallbacks rfl rfl ?_ hdata
      rw [hlengths]
      show (s.resolves.eraseIdx i).length + (s.connects.length + 1) + s.reads.length ≤ _
      omega
  | connected i hresult =>
      have hlength := Operation.length_erase_result hresult
      have hnone : connectsOf [.onConnect i] = 0 := rfl
      have hkeep : Delivering (es ++ [.onConnect i])
          (out ++ (callbackAction s.callbacks.connect (.connectCallback true) ++ [.asyncRead]))
          { s with connects := s.connects.eraseIdx i, isConnected := true } := by
        refine h.keep rfl rfl (by cases s.callbacks.connect <;> rfl) ?_ rfl
        show s.resolves.length + (s.connects.eraseIdx i).length + s.reads.length ≤ _
        omega
      refine hkeep.begin_read ?_
      rw [connects_of_snoc, hnone]
      show s.resolves.length + (s.connects.eraseIdx i).length + s.reads.length < _
      omega
  | readFailed i e hresult =>
      obtain ⟨hreads, rfl⟩ := reads_of_result_at (by omega) hresult
      refine h.shutdown rfl rfl (delivered_shutdown s) ?_ ?_
      · show s.resolves.length + s.connects.length + (s.reads.eraseIdx 0).length ≤ _
        rw [hreads]
        exact Nat.le_succ _
      · show (s.reads.eraseIdx 0).filterMap readData = _
        rw [hreads]
        rfl
  | readLast i data hresult hreading =>
      refine h.read (by omega) hresult ?_
      rw [h.callbacks]
      rfl
  | readAgain i data hresult hreading =>
      have hlength := Operation.length_erase_result hresult
      have hnone : connectsOf [.onRead i] = 0 := rfl
      have hread : Delivering (es ++ [.onRead i])
          (out ++ (callbackAction s.callbacks.data (.dataCallback data) ++ [.asyncRead]))
          { s with reads := s.reads.eraseIdx i } := by
        refine h.read (by omega) hresult ?_
        rw [h.callbacks]
        rfl
      refine hread.begin_read ?_
      rw [connects_of_snoc, hnone]
      show s.resolves.length + s.connects.length + (s.reads.eraseIdx i).length < _
      omega
  | writeFailed i data e hwrite =>
      exact h.shutdown rfl rfl (delivered_shutdown s) (Nat.le_refl _) rfl
  | writeNext i data popped next rest hwrite hqueue =>
      exact h.keep rfl rfl rfl (Nat.le_add_right _ _) rfl
  | writeLast i data popped hwrite hqueue hclosing =>
      exact h.keep rfl rfl (delivered_drained s) (Nat.le_add_right _ _) rfl
  | writeLastClose i data popped hwrite hqueue hclosing =>
      refine h.shutdown rfl rfl ?_ (Nat.le_refl _) rfl
      show delivered (s.drainedActions ++ s.shutdownActions) = []
      rw [delivered_append, delivered_drained, delivered_shutdown, List.nil_append]

/-- If reading is not resumed, what a socket has handed over is what the operating system has read
for it, in order and up to a point. -/
theorem delivered_run {x : Except QueueFault TcpSocket}
    (hrun : tcpSocket.run (.ok (unconnected {})) es = some (x, out)) (hconnects : connectsOf es ≤ 1)
    (hresumes : ∀ e ∈ es, e.resumes = false) :
    delivered out <+: es.filterMap TcpEvent.read := by
  have hall := Machine.run_induction (m := tcpSocket) (P := fun es out x =>
    connectsOf es ≤ 1 → (∀ e ∈ es, e.resumes = false) →
      delivered out <+: es.filterMap TcpEvent.read ∧ ∀ s, x = .ok s → Delivering es out s)
    ?_ ?_ hrun hconnects hresumes
  · exact hall.1
  · intro _ _
    refine ⟨List.nil_prefix, ?_⟩
    rintro _ ⟨⟩
    exact ⟨rfl, Nat.le_refl _, rfl⟩
  · intro es out x e y new _ ih hstep hconnects hresumes
    obtain ⟨s, rfl, htcp⟩ := tcp_socket_step hstep
    have hbefore : connectsOf es ≤ 1 := by
      rw [connects_of_snoc] at hconnects
      omega
    obtain ⟨hprefix', hs⟩ := ih hbefore fun e he => hresumes e (List.mem_append_left _ he)
    cases y with
    | error fault =>
        cases htcp with
        | writeUnderflow i data hwrite hqueue =>
            refine ⟨?_, fun s hs => by cases hs⟩
            have hnothing : delivered [.wrote data] = [] := rfl
            rw [delivered_append, hnothing, List.append_nil, List.filterMap_append]
            exact hprefix'.trans (List.prefix_append _ _)
    | ok t =>
        have ht := (hs s rfl).step htcp hconnects (hresumes e (by simp))
        refine ⟨ht.data ▸ List.prefix_append _ _, ?_⟩
        rintro _ ⟨⟩
        exact ht

end TcpSocket

end RtcVpn
