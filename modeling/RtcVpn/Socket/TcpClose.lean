import RtcVpn.Socket.TcpWrite

/-!
# After the TCP socket has closed

Nothing should come out of a closed socket. The completion handlers do not look
at the closing flags, so a resolve, a connect or a successful read that is
delivered late still acts: a late resolve even opens the descriptor again.
`LateDelivery` names these branches, and a run stays quiet after the close
exactly when it takes none of them. Closing with nothing of the kind
outstanding, and not connecting afterwards, is enough for that.
-/

namespace RtcVpn

namespace TcpSocket

/-- A step of a closed socket that neither opens nor connects it and makes no callback. -/
structure Quiet (s t : TcpSocket) (new : List TcpAction) : Prop where
  notOpened : t.isOpen = true → s.isOpen = true
  notConnected : t.isConnected = true → s.isConnected = true
  noConnect : .asyncConnect ∉ new
  noConnectCallback : ∀ success, .connectCallback success ∉ new
  noDataCallback : ∀ data, .dataCallback data ∉ new
  noWriteQueueCallback : ∀ status, .writeQueueCallback status ∉ new

/-- Once closed, every step is quiet. -/
def QuietOnceClosed (x : Except QueueFault TcpSocket) (_ : TcpEvent)
    (y : Except QueueFault TcpSocket) (new : List TcpAction) : Prop :=
  ∀ s t, x = .ok s → y = .ok t → s.isClosed = true → Quiet s t new

/-- The branches of the completion handlers that act on a closed socket: a successful resolve, a
successful connect of a socket not yet connected or one with a callback to tell, a failure of
either with a callback to tell, and data with a callback to take it. -/
def LateDelivery (s : TcpSocket) : TcpEvent → Prop
  | .onResolve i =>
      Operation.resultAt s.resolves i = some (.ok ()) ∨ s.callbacks.connect = true
  | .onConnect i =>
      (Operation.resultAt s.connects i = some (.ok ()) ∧ s.isConnected = false) ∨
        s.callbacks.connect = true
  | .onRead i =>
      (∃ data, Operation.resultAt s.reads i = some (.ok data)) ∧ s.callbacks.data = true
  | _ => False

/-- No late delivery once closed. -/
def NoLateDelivery (s : TcpSocket) (e : TcpEvent) : Prop :=
  s.isClosed = true → ¬ LateDelivery s e

/-! ## The write queue never reports danger -/

/-- The status is only ever changed after the queue has drained, so it stays safe. -/
theorem status_step {s t : TcpSocket} {e : TcpEvent} {new : List TcpAction}
    (h : s.writeQueueStatus = .safety) (hstep : TcpStep s e (.ok t) new) :
    t.writeQueueStatus = .safety := by
  have hshutdown : ∀ s : TcpSocket, s.shutdown.writeQueueStatus = s.writeQueueStatus := by
    intro s
    unfold shutdown
    split
    · rfl
    · split <;> rfl
  cases hstep with
  | resolved i _ => unfold beginConnect; split <;> exact h
  | writeLast i data popped _ _ _ => rfl
  | writeLastClose i data popped _ _ _ => simp [hshutdown, drained]
  | closeNow _ _ _ => simp [hshutdown, h]
  | readFailed i e _ => simp [hshutdown, h]
  | writeFailed i data e _ => simp [hshutdown, h]
  | _ => exact h

theorem status_run {s₀ s : TcpSocket} (hinit : Initial s₀) {es : List TcpEvent}
    {out : List TcpAction} (hrun : tcpSocket.run (.ok s₀) es = some (.ok s, out)) :
    s.writeQueueStatus = .safety := by
  refine Machine.run_invariant (I := fun r => ∀ s, r = .ok s → s.writeQueueStatus = .safety)
    ?_ ?_ hrun s rfl
  · rintro x e y new hx hstep t rfl
    obtain ⟨s, rfl, htcp⟩ := tcp_socket_step hstep
    exact status_step (hx s rfl) htcp
  · rintro s ⟨⟩
    obtain ⟨callbacks, rfl | rfl⟩ := hinit <;> rfl

/-! ## Steps of a closed socket -/

@[simp] theorem shutdown_of_closed {s : TcpSocket} (h : s.isClosed = true) : s.shutdown = s := by
  simp [shutdown, h]

@[simp] theorem shutdown_actions_of_closed {s : TcpSocket} (h : s.isClosed = true) :
    s.shutdownActions = [] := by
  simp [shutdownActions, h]

/-- A step that leaves the descriptor alone and does nothing a closed socket should not. -/
theorem quiet_of_actions {s t : TcpSocket} {new : List TcpAction} (hopen : t.isOpen = s.isOpen)
    (hconnected : t.isConnected = s.isConnected)
    (hnew : ∀ a ∈ new, a = .asyncResolve ∨ a = .asyncRead ∨ a = .readError ∨ a = .writeError ∨
      (∃ data, a = .asyncWrite data) ∨ ∃ data, a = .wrote data) : Quiet s t new where
  notOpened h := hopen ▸ h
  notConnected h := hconnected ▸ h
  noConnect h := by simpa using hnew _ h
  noConnectCallback _ h := by simpa using hnew _ h
  noDataCallback _ h := by simpa using hnew _ h
  noWriteQueueCallback _ h := by simpa using hnew _ h

theorem not_quiet_callback {s t : TcpSocket} {new : List TcpAction} {a : TcpAction}
    (hmem : a ∈ new)
    (ha : a = .asyncConnect ∨ (∃ success, a = .connectCallback success) ∨
      ∃ data, a = .dataCallback data) : ¬ Quiet s t new := by
  intro h
  rcases ha with rfl | ⟨success, rfl⟩ | ⟨data, rfl⟩
  · exact h.noConnect hmem
  · exact h.noConnectCallback success hmem
  · exact h.noDataCallback data hmem

/-- A step of a closed socket is quiet exactly when it is no late delivery. -/
theorem quiet_iff {s t : TcpSocket} {e : TcpEvent} {new : List TcpAction}
    (hclosed : s.isClosed = true) (hstatus : s.writeQueueStatus = .safety)
    (hstep : TcpStep s e (.ok t) new) : Quiet s t new ↔ ¬ LateDelivery s e := by
  cases hstep with
  | startRead _ _ h => exact absurd (hclosed.symm.trans h) (by simp)
  | sendQueued _ _ h _ => exact absurd (hclosed.symm.trans h) (by simp)
  | sendWrite _ _ _ _ h _ _ => exact absurd (hclosed.symm.trans h) (by simp)
  | closeNow _ h _ => exact absurd (hclosed.symm.trans h) (by simp)
  | closeLater _ h _ _ => exact absurd (hclosed.symm.trans h) (by simp)
  | startReadingNow _ _ h _ => exact absurd (hclosed.symm.trans h) (by simp)
  | resolveFailed i e h =>
      simp only [LateDelivery, h, Option.some.injEq, reduceCtorEq, false_or]
      cases hset : s.callbacks.connect with
      | true =>
          simp only [not_true_eq_false, iff_false]
          exact not_quiet_callback (List.mem_singleton.mpr rfl) (.inr (.inl ⟨_, rfl⟩))
      | false => simp [quiet_of_actions, callbackAction]
  | resolved i h =>
      simp only [LateDelivery, h, true_or, not_true_eq_false, iff_false]
      exact not_quiet_callback (List.mem_singleton.mpr rfl) (.inl rfl)
  | connectFailed i e h =>
      simp only [LateDelivery, h, Option.some.injEq, reduceCtorEq, false_and, false_or]
      cases hset : s.callbacks.connect with
      | true =>
          simp only [not_true_eq_false, iff_false]
          exact not_quiet_callback (List.mem_singleton.mpr rfl) (.inr (.inl ⟨_, rfl⟩))
      | false => simp [quiet_of_actions, callbackAction]
  | connected i h =>
      simp only [LateDelivery, h, true_and]
      cases hset : s.callbacks.connect with
      | true =>
          simp only [or_true, not_true_eq_false, iff_false]
          exact not_quiet_callback (List.mem_cons_self ..) (.inr (.inl ⟨_, rfl⟩))
      | false =>
          cases hconnected : s.isConnected with
          | true => simp [quiet_of_actions, callbackAction, beginRead, hconnected]
          | false =>
              simp only [true_or, not_true_eq_false, iff_false]
              intro hquiet
              exact absurd (hconnected.symm.trans (hquiet.notConnected rfl)) (by simp)
  | readLast i data h _ =>
      cases hset : s.callbacks.data with
      | true =>
          simp only [LateDelivery, h, hset, Option.some.injEq, Except.ok.injEq, exists_eq',
            and_self, not_true_eq_false, iff_false]
          exact not_quiet_callback (List.mem_singleton.mpr rfl) (.inr (.inr ⟨_, rfl⟩))
      | false => simp [quiet_of_actions, callbackAction, LateDelivery, hset]
  | readAgain i data h _ =>
      cases hset : s.callbacks.data with
      | true =>
          simp only [LateDelivery, h, hset, Option.some.injEq, Except.ok.injEq, exists_eq',
            and_self, not_true_eq_false, iff_false]
          exact not_quiet_callback (List.mem_cons_self ..) (.inr (.inr ⟨_, rfl⟩))
      | false => simp [quiet_of_actions, callbackAction, LateDelivery, hset, beginRead]
  | readFailed i e h =>
      simp [LateDelivery, h, hclosed, quiet_of_actions]
  | writeFailed i data e h =>
      simp [LateDelivery, hclosed, quiet_of_actions]
  | writeLast i data popped _ _ _ =>
      simp [LateDelivery, hstatus, quiet_of_actions, drained, drainedActions]
  | writeLastClose i data popped _ _ _ =>
      simp [LateDelivery, hstatus, hclosed, quiet_of_actions, drained, drainedActions]
  | _ => simp [LateDelivery, quiet_of_actions, beginWrite]

/-! ## Closing with nothing outstanding -/

/-- The event makes the socket close. -/
def Closes (s : TcpSocket) (e : TcpEvent) : Prop :=
  s.isClosed = false ∧
    match e with
    | .close => s.isClosing = false ∧
        (s.isConnected = false ∨ (s.isSending = false ∧ s.writeQueue = []))
    | .onRead i => ∃ err, Operation.resultAt s.reads i = some (.error err)
    | .onWrite i => ∃ data r, s.writes[i]? = some (data, .completed r) ∧
        ((∃ err, r = .error err) ∨ (s.isClosing = true ∧ s.writeQueue.length = 1))
    | _ => False

/-- The reads that stay outstanding when the event is handled. -/
def otherReads (s : TcpSocket) : TcpEvent → List (Operation Bytes)
  | .onRead i => s.reads.eraseIdx i
  | _ => s.reads

/-- The socket closes only with no resolve or connect outstanding and no other read that has
completed successfully, and is not asked to connect afterwards. -/
def ClosesQuietly (s : TcpSocket) (e : TcpEvent) : Prop :=
  (Closes s e → s.resolves = [] ∧ s.connects = [] ∧ ∀ op ∈ s.otherReads e, ¬ op.Succeeded) ∧
    (s.isClosed = true → e ≠ .connect)

/-- No read is pending on a closed descriptor, and a closed socket has nothing outstanding that
could be delivered late. -/
structure Settled (s : TcpSocket) : Prop where
  reads : s.isOpen = false → .pending ∉ s.reads
  closed : s.isClosed = true →
    s.isOpen = false ∧ s.resolves = [] ∧ s.connects = [] ∧ ∀ op ∈ s.reads, ¬ op.Succeeded

theorem settled_initial {s : TcpSocket} (h : Initial s) : Settled s := by
  obtain ⟨callbacks, rfl | rfl⟩ := h
  · exact ⟨fun _ => by simp [unconnected], by simp [unconnected]⟩
  · exact ⟨fun _ => by simp [fromConnection], by simp [fromConnection]⟩

theorem pending_not_mem_abort (ops : List (Operation Bytes)) :
    Operation.pending ∉ ops.map Operation.abort := by
  intro h
  obtain ⟨op, _, habort⟩ := List.mem_map.mp h
  cases op with
  | pending => cases habort
  | completed r => cases habort

/-- The read `do_read` starts is not pending on a closed descriptor. -/
theorem begin_read_settled {s : TcpSocket} (h : s.isOpen = false → .pending ∉ s.reads) :
    s.beginRead.isOpen = false → .pending ∉ s.beginRead.reads := by
  intro hopen
  have hsame : s.isOpen = false := hopen
  simp [beginRead, hsame, Operation.initiate, h hsame]

/-- `do_close` closes the descriptor and aborts what is pending. -/
theorem shutdown_settled {s : TcpSocket} (hclosed : s.isClosed = false)
    (hreads : s.isOpen = false → .pending ∉ s.reads) (hresolves : s.resolves = [])
    (hconnects : s.connects = []) (hdone : ∀ op ∈ s.reads, ¬ op.Succeeded) :
    Settled s.shutdown := by
  cases hopen : s.isOpen with
  | true =>
      have hshutdown : s.shutdown = { s.descriptorClosed with isClosed := true } := by
        simp [shutdown, hclosed, hopen]
      rw [hshutdown]
      refine ⟨fun _ => pending_not_mem_abort _, fun _ => ⟨rfl, hresolves, ?_, ?_⟩⟩
      · simp [descriptorClosed, hconnects]
      · intro op hop
        obtain ⟨op', hop', rfl⟩ := List.mem_map.mp hop
        rw [Operation.succeeded_abort]
        exact hdone op' hop'
  | false =>
      have hshutdown : s.shutdown = { s with isClosed := true } := by
        simp [shutdown, hclosed, hopen]
      rw [hshutdown]
      exact ⟨hreads, fun _ => ⟨hopen, hresolves, hconnects, hdone⟩⟩

/-- A step that keeps the descriptor and the closed flag, starts no resolve and no connect, and
leaves no new read. -/
theorem Settled.congr {s t : TcpSocket} (h : Settled s) (hopen : t.isOpen = s.isOpen)
    (hclosed : t.isClosed = s.isClosed) (hresolves : s.resolves = [] → t.resolves = [])
    (hconnects : s.connects = [] → t.connects = []) (hreads : ∀ op ∈ t.reads, op ∈ s.reads) :
    Settled t where
  reads ht hmem := h.reads (hopen ▸ ht) (hreads _ hmem)
  closed ht := by
    obtain ⟨hs, hr, hc, hd⟩ := h.closed (hclosed ▸ ht)
    exact ⟨hopen.trans hs, hresolves hr, hconnects hc, fun op hop => hd op (hreads op hop)⟩

/-- An open socket that begins a read. -/
theorem Settled.beginRead {s : TcpSocket} (h : Settled s) (hclosed : s.isClosed = false) :
    Settled s.beginRead where
  reads := begin_read_settled h.reads
  closed ht := absurd (hclosed.symm.trans ht) (by simp)

/-- `do_close` in the course of a step that closes quietly. -/
theorem Settled.shutdown {s u : TcpSocket} (h : Settled s) (hopen : u.isOpen = s.isOpen)
    (hclosed : u.isClosed = s.isClosed) (hresolves : u.resolves = s.resolves)
    (hconnects : u.connects = s.connects) (hreads : ∀ op ∈ u.reads, op ∈ s.reads)
    (hquiet : s.isClosed = false →
      s.resolves = [] ∧ s.connects = [] ∧ ∀ op ∈ u.reads, ¬ op.Succeeded) :
    Settled u.shutdown := by
  by_cases hs : s.isClosed = true
  · rw [shutdown_of_closed (hclosed.trans hs)]
    exact h.congr hopen hclosed hresolves.trans hconnects.trans hreads
  · rw [Bool.not_eq_true] at hs
    obtain ⟨hr, hc, hdone⟩ := hquiet hs
    exact shutdown_settled (hclosed.trans hs)
      (fun ho hmem => h.reads (hopen.symm.trans ho) (hreads _ hmem)) (hresolves.trans hr)
      (hconnects.trans hc) hdone

/-- Nothing outstanding has a result once the socket is closed. -/
theorem Settled.not_closed {s : TcpSocket} (h : Settled s) {i : Nat}
    (hresult : (∃ r, Operation.resultAt s.resolves i = some r) ∨
      (∃ r, Operation.resultAt s.connects i = some r) ∨
      ∃ data, Operation.resultAt s.reads i = some (.ok data)) : s.isClosed = false := by
  by_contra hclosed
  obtain ⟨_, hresolves, hconnects, hdone⟩ := h.closed (by simpa using hclosed)
  rcases hresult with ⟨r, hr⟩ | ⟨r, hr⟩ | ⟨data, hr⟩
  · simp [hresolves, Operation.resultAt] at hr
  · simp [hconnects, Operation.resultAt] at hr
  · exact hdone _ (Operation.mem_of_result_at hr) trivial

/-- Steps that close quietly keep the socket settled. -/
theorem Settled.step {s t : TcpSocket} {e : TcpEvent} {new : List TcpAction} (h : Settled s)
    (hquiet : ClosesQuietly s e) (hstep : TcpStep s e (.ok t) new) : Settled t := by
  have herase : ∀ i, ∀ op ∈ s.reads.eraseIdx i, op ∈ s.reads :=
    fun i op hop => List.mem_of_mem_eraseIdx hop
  cases hstep with
  | connect =>
      have hopen : s.isClosed = false := by
        by_contra hclosed
        exact hquiet.2 (by simpa using hclosed) rfl
      exact ⟨h.reads, fun ht => absurd (hopen.symm.trans ht) (by simp)⟩
  | startRead _ _ hclosed => exact h.beginRead hclosed
  | sendWrite data buf rest _ hclosed _ _ =>
      exact h.congr rfl rfl id id fun _ hop => hop
  | closeNow hclosing hclosed hnow =>
      exact h.shutdown rfl rfl rfl rfl (fun _ hop => hop)
        fun _ => hquiet.1 ⟨hclosed, hclosing, hnow⟩
  | startReadingNow _ _ hclosed _ =>
      exact Settled.beginRead (s := { s with isReading := true }) ⟨h.reads, h.closed⟩ hclosed
  | finishResolve i r =>
      exact h.congr rfl rfl (fun hnil => by simp [hnil]) id fun _ hop => hop
  | finishConnect i r _ =>
      exact h.congr rfl rfl id (fun hnil => by simp [hnil]) fun _ hop => hop
  | finishRead i r hpending =>
      have hmem : .pending ∈ s.reads := by
        unfold Operation.pendingAt at hpending
        split at hpending
        · next hget => exact List.mem_of_getElem? hget
        · cases hpending
      have hopen : s.isOpen = true := by
        by_contra hclosed
        exact h.reads (by simpa using hclosed) hmem
      refine ⟨fun ht => absurd (hopen.symm.trans ht) (by simp), fun ht => ?_⟩
      exact absurd (hopen.symm.trans (h.closed ht).1) (by simp)
  | resolveFailed i e hr =>
      have hopen := h.not_closed (.inl ⟨_, hr⟩)
      exact ⟨h.reads, fun ht => absurd (hopen.symm.trans ht) (by simp)⟩
  | resolved i hr =>
      have hopen := h.not_closed (.inl ⟨_, hr⟩)
      refine ⟨fun ht => absurd ht (by simp [beginConnect]), fun ht => ?_⟩
      unfold beginConnect at ht
      split at ht <;> exact absurd (hopen.symm.trans ht) (by simp)
  | connectFailed i e hr =>
      have hopen := h.not_closed (.inr (.inl ⟨_, hr⟩))
      exact ⟨h.reads, fun ht => absurd (hopen.symm.trans ht) (by simp)⟩
  | connected i hr =>
      have hopen := h.not_closed (.inr (.inl ⟨_, hr⟩))
      refine ⟨begin_read_settled h.reads, fun ht => absurd (hopen.symm.trans ht) (by simp)⟩
  | readFailed i e hr =>
      exact h.shutdown rfl rfl rfl rfl (herase i) fun hclosed => hquiet.1 ⟨hclosed, e, hr⟩
  | readLast i data hr _ => exact h.congr rfl rfl id id (herase i)
  | readAgain i data hr _ =>
      have hopen := h.not_closed (.inr (.inr ⟨data, hr⟩))
      refine ⟨begin_read_settled fun ho hmem => h.reads ho (herase i _ hmem), fun ht => ?_⟩
      exact absurd (hopen.symm.trans ht) (by simp)
  | writeFailed i data e hw =>
      exact h.shutdown rfl rfl rfl rfl (fun _ hop => hop)
        fun hclosed => hquiet.1 ⟨hclosed, data, _, hw, .inl ⟨e, rfl⟩⟩
  | writeLast i data popped _ _ _ => exact h.congr rfl rfl id id fun _ hop => hop
  | writeLastClose i data popped hw hqueue hclosing =>
      exact h.shutdown rfl rfl rfl rfl (fun _ hop => hop)
        fun hclosed => hquiet.1 ⟨hclosed, data, _, hw, .inr ⟨hclosing, by rw [hqueue]; rfl⟩⟩
  | _ => exact h.congr rfl rfl id id fun _ hop => hop

/-- A settled socket delivers nothing late. -/
theorem Settled.no_late_delivery {s t : TcpSocket} {e : TcpEvent} {new : List TcpAction}
    (h : Settled s) (hstep : TcpStep s e (.ok t) new) : NoLateDelivery s e := by
  intro hclosed
  have hopen : ∀ {i : Nat}, ((∃ r, Operation.resultAt s.resolves i = some r) ∨
      (∃ r, Operation.resultAt s.connects i = some r) ∨
      ∃ data, Operation.resultAt s.reads i = some (.ok data)) → False :=
    fun hr => absurd (hclosed.symm.trans (h.not_closed hr)) (by simp)
  cases hstep with
  | resolveFailed i e hr => exact fun _ => hopen (.inl ⟨_, hr⟩)
  | resolved i hr => exact fun _ => hopen (.inl ⟨_, hr⟩)
  | connectFailed i e hr => exact fun _ => hopen (.inr (.inl ⟨_, hr⟩))
  | connected i hr => exact fun _ => hopen (.inr (.inl ⟨_, hr⟩))
  | readFailed i e hr => simp [LateDelivery, hr]
  | readLast i data hr _ => exact fun _ => hopen (.inr (.inr ⟨_, hr⟩))
  | readAgain i data hr _ => exact fun _ => hopen (.inr (.inr ⟨_, hr⟩))
  | _ => exact id

/-- A run that closes quietly is settled at its end. -/
theorem settled_run {s₀ s : TcpSocket} (hinit : Initial s₀) {es : List TcpEvent}
    {out : List TcpAction} (hmeets : tcpSocket.Meets (Effect.WhenAlive ClosesQuietly) (.ok s₀) es)
    (hrun : tcpSocket.run (.ok s₀) es = some (.ok s, out)) : Settled s := by
  refine Machine.run_induction_of_meets
    (P := fun _ _ r => ∀ s, r = .ok s → Settled s) ?_ ?_ hmeets hrun s rfl
  · rintro _ ⟨⟩
    exact settled_initial hinit
  · rintro es out x e y new _ hx hok hstep t rfl
    obtain ⟨s, rfl, htcp⟩ := tcp_socket_step hstep
    exact (hx s rfl).step (hok s rfl) htcp

/-- A step in a run from a new socket is one of a socket in shape that stays alive. -/
theorem tcp_step_in_run {s₀ : TcpSocket} (hinit : Initial s₀) {before : List TcpEvent}
    {x y : Except QueueFault TcpSocket} {e : TcpEvent} {mid new : List TcpAction}
    (hbefore : tcpSocket.run (.ok s₀) before = some (x, mid))
    (hstep : tcpSocket.step x e = some (y, new)) :
    ∃ s t, x = .ok s ∧ y = .ok t ∧ TcpStep s e (.ok t) new := by
  obtain ⟨s, rfl, htcp⟩ := tcp_socket_step hstep
  obtain ⟨_, hs, hinv⟩ := write_invariant_run hinit hbefore
  cases hs
  obtain ⟨t, rfl, _⟩ := hinv.step htcp
  exact ⟨s, t, rfl, rfl, htcp⟩

end TcpSocket

open TcpSocket

/-- In every run, the socket is quiet once closed if and only if it makes no late delivery; and a
run that closes with nothing outstanding that could be delivered, and does not connect again,
makes none. -/
theorem tcp_quiet_once_closed_iff {s₀ : TcpSocket} (hinit : Initial s₀) {es : List TcpEvent}
    {r : Except QueueFault TcpSocket} {out : List TcpAction}
    (hrun : tcpSocket.run (.ok s₀) es = some (r, out)) :
    (tcpSocket.AllSteps QuietOnceClosed (.ok s₀) es ↔
      tcpSocket.Meets (Effect.WhenAlive NoLateDelivery) (.ok s₀) es) ∧
    (tcpSocket.Meets (Effect.WhenAlive ClosesQuietly) (.ok s₀) es →
      tcpSocket.AllSteps QuietOnceClosed (.ok s₀) es) := by
  have hiff : tcpSocket.AllSteps QuietOnceClosed (.ok s₀) es ↔
      tcpSocket.Meets (Effect.WhenAlive NoLateDelivery) (.ok s₀) es := by
    refine Machine.all_steps_iff_meets hrun ?_
    intro before mid x e y new hbefore hstep
    obtain ⟨s, t, rfl, rfl, htcp⟩ := tcp_step_in_run hinit hbefore hstep
    have hstatus := status_run hinit hbefore
    rw [Effect.when_alive_ok]
    constructor
    · exact fun h hclosed => (quiet_iff hclosed hstatus htcp).mp (h s t rfl rfl hclosed)
    · rintro h _ _ ⟨⟩ ⟨⟩ hclosed
      exact (quiet_iff hclosed hstatus htcp).mpr (h hclosed)
  refine ⟨hiff, fun hmeets => hiff.mpr (Machine.meets_of_steps hrun ?_)⟩
  intro before after mid x e y new hsplit hbefore hstep
  subst hsplit
  obtain ⟨s, t, rfl, rfl, htcp⟩ := tcp_step_in_run hinit hbefore hstep
  rw [Effect.when_alive_ok]
  exact (settled_run hinit hmeets.front hbefore).no_late_delivery htcp

theorem tcp_quiet_once_closed_aborted_read :
    tcpSocket.AllSteps QuietOnceClosed (.ok (fromConnection {})) [.start, .close, .onRead 0] := by
  have hstart : tcpSocket.Meets (Effect.WhenAlive ClosesQuietly) (.ok (fromConnection {}))
      [.start] :=
    (Machine.meets_nil _).snoc rfl (Effect.when_alive_ok.mpr
      ⟨fun h => h.2.elim, fun h => absurd h (by decide)⟩)
  have hclose : tcpSocket.Meets (Effect.WhenAlive ClosesQuietly) (.ok (fromConnection {}))
      [.start, .close] :=
    hstart.snoc rfl (Effect.when_alive_ok.mpr
      ⟨fun _ => ⟨rfl, rfl, by decide⟩, fun h => absurd h (by decide)⟩)
  have hread : tcpSocket.Meets (Effect.WhenAlive ClosesQuietly) (.ok (fromConnection {}))
      [.start, .close, .onRead 0] :=
    hclose.snoc rfl (Effect.when_alive_ok.mpr
      ⟨fun h => absurd h.1 (by decide), fun _ => by simp⟩)
  exact (tcp_quiet_once_closed_iff ⟨{}, .inr rfl⟩ rfl).2 hread

/-- The socket is closed while its host name is being resolved: the resolve is not cancelled, and
its handler opens and connects the socket, which then calls back and reads. -/
theorem tcp_reopens_after_close :
    (∃ s, tcpSocket.run (.ok (unconnected {}))
        [.connect, .close, .finishResolve 0 (.ok ()), .onResolve 0, .finishConnect 0 (.ok ()),
          .onConnect 0] =
      some (.ok s, [.asyncResolve, .closeCallback, .asyncConnect, .connectCallback true,
        .asyncRead]) ∧ s.isClosed = true ∧ s.isOpen = true) ∧
    ¬ tcpSocket.AllSteps QuietOnceClosed (.ok (unconnected {}))
        [.connect, .close, .finishResolve 0 (.ok ()), .onResolve 0, .finishConnect 0 (.ok ()),
          .onConnect 0] := by
  refine ⟨⟨_, rfl, rfl, rfl⟩, fun h => ?_⟩
  have hquiet := h [.connect, .close, .finishResolve 0 (.ok ())] (.onResolve 0)
    [.finishConnect 0 (.ok ()), .onConnect 0] _ _ _ _ rfl rfl rfl _ _ rfl rfl rfl
  exact hquiet.noConnect (by decide)

end RtcVpn
