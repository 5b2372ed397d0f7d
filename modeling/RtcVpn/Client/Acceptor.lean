import RtcVpn.Client.HostRuns

/-!
# The acceptor after `stop`

`SocksServer::stop` closes the acceptor, which aborts the accept that is
pending, and the handler of an aborted accept starts no other. An accept that
has completed when the acceptor is closed is not aborted: its handler starts the
next accept on the closed acceptor, which fails at once with another error, and
so does every accept after it.
-/

namespace RtcVpn

namespace Operation

/-- The handler of an accept that has ended so starts the next accept. -/
def goesOn : Operation Unit → Bool
  | pending => false
  | completed (.error .operationAborted) => false
  | completed _ => true

variable {ρ : Type} {ops : List (Operation ρ)} {i : Nat}

theorem get_of_result_at {r : Except IoError ρ} (h : resultAt ops i = some r) :
    ops[i]? = some (completed r) := by
  unfold resultAt at h
  split at h
  · next hget =>
      cases h
      exact hget
  · cases h

/-- Removing an operation removes it from the count. -/
theorem count_erase (p : Operation ρ → Bool) {op : Operation ρ} (h : ops[i]? = some op) :
    ops.countP p = (ops.eraseIdx i).countP p + if p op then 1 else 0 := by
  obtain ⟨hlt, hget⟩ := List.getElem?_eq_some_iff.mp h
  rw [← (List.getElem_cons_eraseIdx_perm hlt).countP_eq p, hget, List.countP_cons]

end Operation

namespace ClientHost

open Effect

variable {L : Llhttp} {s t u : ClientHost L} {k : Nat} {out : List ClientHostAction}

/-! ## Steps -/

/-- From `s` to `t` nothing has happened to the acceptor, and no session has been made. -/
structure SameAcceptor (s : ClientHost L) (out : List ClientHostAction) (t : ClientHost L) :
    Prop where
  isOpen : t.isOpen = s.isOpen
  accepts : t.accepts = s.accepts
  accepted : t.accepted.length = s.accepted.length

theorem composes_same_acceptor : Composes (SameAcceptor (L := L)) where
  refl _ := ⟨rfl, rfl, rfl⟩
  trans h h' := ⟨h'.isOpen.trans h.isOpen, h'.accepts.trans h.accepts,
    h'.accepted.trans h.accepted⟩

/-- Sessions have nothing to do with the acceptor. -/
theorem same_acceptor_on_session (k : Nat) (x : NetworkRtcApp.Handler L) :
    Relates SameAcceptor (onSession k x) := by
  intro s
  cases hk : s.accepted[k]? with
  | none => simpa [onSession, hk] using composes_same_acceptor.refl s
  | some g =>
      rw [run_on_session hk]
      obtain ⟨hopen, haccepts, -⟩ := after_acceptor k (x.run (view g s)).state
        (x.run (view g s)).actions s
      exact ⟨hopen, haccepts, by rw [after_accepted, List.length_set]⟩

theorem same_acceptor_on_message (data : Bytes) (relay : Option (AddressV4 × UInt16)) :
    Relates SameAcceptor (onMessage data relay : Handler L) := by
  refine .bind composes_same_acceptor (.get composes_same_acceptor) fun s => ?_
  rcases s.mux.onMessage data with fault | (_ | upcall)
  · exact .fail composes_same_acceptor _
  · exact .pure composes_same_acceptor _
  · refine .bind composes_same_acceptor (.get composes_same_acceptor) fun s => ?_
    cases upcall with
    | onSyn => exact .pure composes_same_acceptor _
    | _ => exact same_acceptor_on_session _ _

/-- The events that have to do with the acceptor. -/
def ofAcceptor : ClientHostEvent → Bool
  | .connected _ _ | .closed | .stop | .finishAccept _ _ | .onAccept _ _ _ _ => true
  | _ => false

/-- Every other event leaves it alone. -/
theorem same_acceptor_handle {e : ClientHostEvent} (he : ofAcceptor e = false) :
    Relates SameAcceptor (handle e : Handler L) := by
  cases e with
  | session k e | relay k e | destroyed k => exact same_acceptor_on_session k _
  | message data relay => exact same_acceptor_on_message data relay
  | _ => cases he

/-- `close` of the acceptor, after which no accept is pending on it. -/
theorem close_acceptor_cases (s : ClientHost L) :
    ((closeAcceptor : Handler L).run s).state.isOpen = false ∧
      ((closeAcceptor : Handler L).run s).state.accepted = s.accepted ∧
      ((closeAcceptor : Handler L).run s).state.accepts =
        if s.isOpen then s.accepts.map Operation.abort else s.accepts := by
  cases hopen : s.isOpen <;> simp [closeAcceptor, hopen]

/-- The last part of `stop`, and what follows it, leaves the acceptor as it has been closed. -/
theorem stop_server_cases {a : ClientHostAction}
    (hrun : (stopServer >>= fun _ => emit a : Handler L).run s = ⟨t, out, .ok ()⟩) :
    t.isOpen = false ∧ t.accepted.length = s.accepted.length ∧
      t.accepts = if s.isOpen then s.accepts.map Operation.abort else s.accepts := by
  obtain ⟨hopen, haccepted, haccepts⟩ := close_acceptor_cases s
  have hrest : Relates SameAcceptor (do
      let s ← get
      forEach s.held fun k => onSession k (NetworkRtcApp.onAssociation (.session .stop)) :
        Handler L) :=
    .bind composes_same_acceptor (.get composes_same_acceptor) fun s =>
      .forEach composes_same_acceptor _ fun k => same_acceptor_on_session k _
  rw [run_bind] at hrun
  obtain ⟨v, first, _, last, hstop, hlast, rfl⟩ := andThen_eq_ok hrun
  rw [stopServer, run_bind] at hstop
  obtain ⟨v', as, _, bs, hclose, hloop, rfl⟩ := andThen_eq_ok hstop
  cases hlast
  rw [hclose] at hopen haccepted haccepts
  have hsame := hrest v'
  rw [hloop] at hsame
  exact ⟨hsame.isOpen.trans hopen, hsame.accepted.trans (congrArg _ haccepted),
    hsame.accepts.trans haccepts⟩

/-- The handler of an accept. The accept that it starts, if it starts one, fails at once on an
acceptor that has been closed. -/
theorem run_on_accept {i : Nat} {r : Except IoError Unit}
    (hr : Operation.resultAt s.accepts i = some r) (genStreamId : Nat → UInt32)
    (readBuf : Nat → UInt8) (remotePort : UInt16) :
    ∃ t out, (handle (.onAccept i genStreamId readBuf remotePort)).run s = ⟨t, out, .ok ()⟩ ∧
      t.isOpen = s.isOpen ∧
      t.accepts = s.accepts.eraseIdx i ++
        (if Operation.goesOn (.completed r) then [.initiate s.isOpen] else []) ∧
      t.accepted.length =
        s.accepted.length + (if (Operation.completed r).Succeeded then 1 else 0) ∧
      out.count .asyncAccept = if Operation.goesOn (.completed r) then 1 else 0 := by
  have hrun : (handle (.onAccept i genStreamId readBuf remotePort)).run s =
      (onAccept genStreamId readBuf remotePort r).run
        { s with accepts := s.accepts.eraseIdx i } := by
    simp [handle, hr]
  rcases r with error | ⟨⟩
  · cases error with
    | operationAborted =>
        exact ⟨_, _, hrun, rfl, (List.append_nil _).symm, rfl, rfl⟩
    | _ => exact ⟨_, _, hrun, rfl, rfl, rfl, rfl⟩
  · refine ⟨_, _, hrun, rfl, rfl, ?_, rfl⟩
    show (s.accepted ++ [_]).length = _
    rw [List.length_append]
    rfl

/-- The peer connection is there: the acceptor is opened, unless it cannot be. -/
theorem connected_cases (opens listens : Bool) (s : ClientHost L) :
    ((handle (.connected opens listens)).run s).state = s ∨
      ((handle (.connected opens listens)).run s).state.isOpen = true := by
  cases hopen : s.isOpen <;> cases opens <;> cases listens <;>
    simp [handle, start, hopen, doAccept]

/-! ## Runs -/

/-- A closed acceptor has no accept pending. -/
def NonePending (s : ClientHost L) : Prop := s.isOpen = false → Operation.pending ∉ s.accepts

theorem SameAcceptor.none_pending (h : SameAcceptor s out t) (hs : NonePending s) :
    NonePending t := by
  unfold NonePending
  rw [h.isOpen, h.accepts]
  exact hs

/-- `close` of the acceptor aborts what is pending. -/
theorem pending_of_closed (hs : NonePending s) :
    Operation.pending ∉ (if s.isOpen then s.accepts.map Operation.abort else s.accepts) := by
  cases hopen : s.isOpen with
  | false => exact hs hopen
  | true =>
      intro hmem
      obtain ⟨op, -, hop⟩ := List.mem_map.mp hmem
      cases op <;> cases hop

theorem none_pending_step {e : ClientHostEvent} (hs : NonePending s)
    (hrun : (handle e).run s = ⟨t, out, .ok ()⟩) : NonePending t := by
  by_cases he : ofAcceptor e = false
  · have hsame := same_acceptor_handle he s
    rw [hrun] at hsame
    exact hsame.none_pending hs
  cases e with
  | connected opens listens =>
      have hcases := connected_cases opens listens s
      rw [hrun] at hcases
      rcases hcases with rfl | hopen
      · exact hs
      · intro hclosed
        rw [hopen] at hclosed
        cases hclosed
  | closed =>
      obtain ⟨-, -, haccepts⟩ := stop_server_cases hrun
      exact fun _ => haccepts ▸ pending_of_closed hs
  | stop =>
      obtain ⟨-, -, haccepts⟩ := stop_server_cases hrun
      exact fun _ => haccepts ▸ pending_of_closed hs
  | finishAccept i result =>
      cases hrun
      intro hopen hmem
      rcases List.mem_or_eq_of_mem_set hmem with hmem | heq
      · exact hs hopen hmem
      · cases heq
  | onAccept i genStreamId readBuf remotePort =>
      rcases hr : Operation.resultAt s.accepts i with _ | r
      · have hsame : (handle (.onAccept i genStreamId readBuf remotePort)).run s =
            ⟨{ s with accepts := s.accepts.eraseIdx i }, [], .ok ()⟩ := by
          simp [handle, hr]
        rw [hrun] at hsame
        cases hsame
        exact fun hopen hmem => hs hopen (List.mem_of_mem_eraseIdx hmem)
      · obtain ⟨t', out', hrun', hopen, haccepts, -⟩ :=
          run_on_accept hr genStreamId readBuf remotePort
        rw [hrun] at hrun'
        cases hrun'
        intro hclosed hmem
        rw [hopen] at hclosed
        rw [haccepts, hclosed] at hmem
        rcases List.mem_append.mp hmem with hmem | hmem
        · exact hs hclosed (List.mem_of_mem_eraseIdx hmem)
        · split at hmem
          · exact absurd (List.mem_singleton.mp hmem) (by simp [Operation.initiate])
          · cases hmem
  | _ => exact absurd rfl he

theorem none_pending_run {peerConnId : UInt32} {es : List ClientHostEvent}
    (hrun : (clientHost L).run (.ok (started L peerConnId)) es = some (.ok s, out)) :
    NonePending s :=
  alive_induction (P := fun _ _ s => NonePending s) (fun _ => List.not_mem_nil)
    (fun _ _ _ _ _ _ _ hs _ hhandle => none_pending_step hs hhandle) hrun

/-- From `s` to `t` the acceptor has been closed, and has stayed so: nothing is pending, as many
accepts as before are followed by another, and sessions are made only of the connections that were
there. -/
structure Lingers (s t : ClientHost L) : Prop where
  closed : t.isOpen = false
  pending : Operation.pending ∉ t.accepts
  loops : t.accepts.countP Operation.goesOn = s.accepts.countP Operation.goesOn
  accepted : t.accepted.length + t.accepts.countP (fun op => op.Succeeded) =
    s.accepted.length + s.accepts.countP (fun op => op.Succeeded)

/-- `close` of the acceptor. -/
theorem lingers_of_stop (hs : NonePending s)
    (hstop : t.isOpen = false ∧ t.accepted.length = s.accepted.length ∧
      t.accepts = if s.isOpen then s.accepts.map Operation.abort else s.accepts) :
    Lingers s t := by
  obtain ⟨hclosed, haccepted, haccepts⟩ := hstop
  have hkeeps : ∀ p : Operation Unit → Bool, (∀ op, p (Operation.abort op) = p op) →
      t.accepts.countP p = s.accepts.countP p := by
    intro p hp
    rw [haccepts]
    split
    · rw [List.countP_map]
      exact congrArg (fun q => List.countP q s.accepts) (funext hp)
    · rfl
  refine ⟨hclosed, haccepts ▸ pending_of_closed hs, hkeeps _ fun op => ?_, ?_⟩
  · cases op <;> rfl
  · rw [haccepted, hkeeps _ fun op => by simp]

/-- The handler of an accept on the closed acceptor. -/
theorem Lingers.on_accept (h : Lingers s t) {i : Nat} {r : Except IoError Unit}
    (hr : Operation.resultAt t.accepts i = some r)
    (hopen : u.isOpen = t.isOpen)
    (haccepts : u.accepts = t.accepts.eraseIdx i ++
      (if Operation.goesOn (.completed r) then [.initiate t.isOpen] else []))
    (haccepted : u.accepted.length =
      t.accepted.length + (if (Operation.completed r).Succeeded then 1 else 0)) : Lingers s u := by
  rw [h.closed] at haccepts
  have hget := Operation.get_of_result_at hr
  have hloops := Operation.count_erase Operation.goesOn hget
  have hsessions := Operation.count_erase (fun op => op.Succeeded) hget
  refine ⟨hopen.trans h.closed, fun hmem => ?_, ?_, ?_⟩
  · rw [haccepts] at hmem
    rcases List.mem_append.mp hmem with hmem | hmem
    · exact h.pending (List.mem_of_mem_eraseIdx hmem)
    · split at hmem
      · exact absurd (List.mem_singleton.mp hmem) (by simp [Operation.initiate])
      · cases hmem
  · rw [← h.loops, hloops, haccepts, List.countP_append]
    congr 1
    split <;> rfl
  · rw [← h.accepted, hsessions, haccepts, List.countP_append, haccepted]
    have hnone : (if Operation.goesOn (.completed r) then
        [(Operation.initiate false : Operation Unit)] else []).countP
          (fun op => op.Succeeded) = 0 := by
      split <;> simp
    rw [hnone]
    simp only [decide_eq_true_eq]
    omega

theorem Lingers.step (h : Lingers s t) {e : ClientHostEvent}
    (he : ∀ opens listens, e ≠ .connected opens listens) (henabled : enabled t e = true)
    (hrun : (handle e).run t = ⟨u, out, .ok ()⟩) : Lingers s u := by
  have hsame : u.isOpen = t.isOpen → u.accepts = t.accepts →
      u.accepted.length = t.accepted.length → Lingers s u := by
    intro hopen haccepts haccepted
    exact ⟨hopen.trans h.closed, haccepts ▸ h.pending, haccepts ▸ h.loops,
      by rw [haccepts, haccepted, h.accepted]⟩
  have hstop : u.isOpen = false ∧ u.accepted.length = t.accepted.length ∧
      u.accepts = (if t.isOpen then t.accepts.map Operation.abort else t.accepts) →
      Lingers s u := by
    intro hstop
    obtain ⟨hclosed, haccepted, haccepts⟩ := hstop
    rw [h.closed] at haccepts
    exact hsame (hclosed.trans h.closed.symm) haccepts haccepted
  by_cases hother : ofAcceptor e = false
  · have hsame' := same_acceptor_handle hother t
    rw [hrun] at hsame'
    exact hsame hsame'.isOpen hsame'.accepts hsame'.accepted
  cases e with
  | connected opens listens => exact absurd rfl (he opens listens)
  | closed => exact hstop (stop_server_cases hrun)
  | stop => exact hstop (stop_server_cases hrun)
  | finishAccept i result =>
      -- nothing is pending
      simp only [enabled, Operation.pendingAt] at henabled
      split at henabled
      · next hget => exact absurd (List.mem_of_getElem? hget) h.pending
      · cases henabled
  | onAccept i genStreamId readBuf remotePort =>
      obtain ⟨r, hr⟩ := Option.isSome_iff_exists.mp henabled
      obtain ⟨u', out', hrun', hopen, haccepts, haccepted, -⟩ :=
        run_on_accept hr genStreamId readBuf remotePort
      rw [hrun] at hrun'
      cases hrun'
      exact h.on_accept hr hopen haccepts haccepted
  | _ => exact absurd rfl hother

/-- However many, accepts can be started and fail one after the other, without anything else
happening. -/
def Endless (t : ClientHost L) : Prop :=
  ∀ n, ∃ es u out, (clientHost L).run (.ok t) es = some (.ok u, out) ∧ es.length = n ∧
    (∀ e ∈ es, ∃ i genStreamId readBuf remotePort, e = .onAccept i genStreamId readBuf remotePort) ∧
    out.count .asyncAccept = n

/-- An accept that has failed or succeeded starts the next one. -/
theorem Lingers.next (h : Lingers s t) (hloops : 0 < s.accepts.countP Operation.goesOn) :
    ∃ e u out, (clientHost L).step (.ok t) e = some (.ok u, out) ∧
      (∃ i genStreamId readBuf remotePort, e = .onAccept i genStreamId readBuf remotePort) ∧
      out.count .asyncAccept = 1 ∧ Lingers s u := by
  rw [← h.loops, List.countP_pos_iff] at hloops
  obtain ⟨op, hmem, hgoes⟩ := hloops
  obtain ⟨i, hget⟩ := List.mem_iff_getElem?.mp hmem
  cases op with
  | pending => cases hgoes
  | completed r =>
      have hr : Operation.resultAt t.accepts i = some r := by
        rw [Operation.resultAt, hget]
      obtain ⟨u, out, hrun, hopen, haccepts, haccepted, hcount⟩ :=
        run_on_accept hr (fun _ => 0) (fun _ => 0) 0
      refine ⟨.onAccept i (fun _ => 0) (fun _ => 0) 0, u, out, ?_, ⟨_, _, _, _, rfl⟩, ?_,
        h.on_accept hr hopen haccepts haccepted⟩
      · have henabled : enabled t (.onAccept i (fun _ => 0) (fun _ => 0) 0) = true := by
          rw [enabled, hr]
          rfl
        rw [clientHost, machine_step_ok henabled, hrun]
        rfl
      · rw [hcount, if_pos hgoes]

theorem Lingers.endless (h : Lingers s t) (hloops : 0 < s.accepts.countP Operation.goesOn) :
    Endless t := by
  intro n
  induction n generalizing t with
  | zero => exact ⟨[], t, [], rfl, rfl, fun _ he => (by cases he), rfl⟩
  | succ n ih =>
      obtain ⟨e, u, first, hstep, he, hcount, hu⟩ := h.next hloops
      obtain ⟨es, v, rest, hrun, hlength, hall, hcounts⟩ := ih hu
      refine ⟨e :: es, v, first ++ rest, Machine.run_cons.mpr ⟨_, _, _, hstep, hrun, rfl⟩,
        by rw [List.length_cons, hlength], fun e' he' => ?_, ?_⟩
      · rcases List.mem_cons.mp he' with rfl | he'
        · exact he
        · exact hall e' he'
      · rw [List.count_append, hcount, hcounts, Nat.add_comm]

/-- An accept is started only by the handler of one that was not aborted. -/
theorem Lingers.loops_of_endless (h : Lingers s t) (hendless : Endless t) :
    0 < s.accepts.countP Operation.goesOn := by
  obtain ⟨es, u, out, hrun, hlength, hall, hcount⟩ := hendless 1
  obtain ⟨e, rfl⟩ := List.length_eq_one_iff.mp hlength
  obtain ⟨i, genStreamId, readBuf, remotePort, rfl⟩ := hall e (List.mem_singleton_self e)
  obtain ⟨_, ht, henabled, hhandle⟩ := machine_step_alive (Machine.run_singleton.mp hrun)
  cases ht
  obtain ⟨r, hr⟩ := Option.isSome_iff_exists.mp henabled
  obtain ⟨u', out', hrun', -, -, -, hcount'⟩ := run_on_accept hr genStreamId readBuf remotePort
  rw [hhandle] at hrun'
  cases hrun'
  rw [hcount] at hcount'
  rw [← h.loops, List.countP_pos_iff]
  refine ⟨_, List.mem_of_getElem? (Operation.get_of_result_at hr), ?_⟩
  by_contra hstops
  rw [if_neg hstops] at hcount'
  cases hcount'

end ClientHost

open ClientHost

variable {L : Llhttp} {peerConnId : UInt32} {s t : ClientHost L} {es fs : List ClientHostEvent}
  {out new : List ClientHostAction}

/-- After `SocksServer::stop` the acceptor stays closed until the next connection: of the accepts
that are outstanding those become sessions that had completed with a connection. The server calls
`async_accept` without end if and only if an accept had completed, and not been aborted, when the
acceptor was closed. -/
theorem accepts_after_stop
    (hrun : (clientHost L).run (.ok (ClientHost.started L peerConnId)) es = some (.ok s, out))
    {e : ClientHostEvent} (he : e = .stop ∨ e = .closed)
    (hafter : (clientHost L).run (.ok s) (e :: fs) = some (.ok t, new))
    (hfs : ∀ opens listens, .connected opens listens ∉ fs) :
    t.isOpen = false ∧
      t.accepted.length + t.accepts.countP (fun op => op.Succeeded) =
        s.accepted.length + s.accepts.countP (fun op => op.Succeeded) ∧
      (Endless t ↔ ∃ op ∈ s.accepts, op.goesOn) := by
  obtain ⟨x, first, rest, hstop, hrest, rfl⟩ := Machine.run_cons.mp hafter
  obtain ⟨u, rfl⟩ := Effect.alive_of_run hrest
  obtain ⟨_, hs, -, hhandle⟩ := Effect.machine_step_alive hstop
  cases hs
  have hclosed : Lingers s u := by
    refine lingers_of_stop (none_pending_run hrun) ?_
    rcases he with rfl | rfl
    · exact stop_server_cases hhandle
    · exact stop_server_cases hhandle
  have hlingers : Lingers s t := by
    refine Effect.alive_induction (P := fun fs _ t =>
      (∀ opens listens, .connected opens listens ∉ fs) → Lingers s t) (fun _ => hclosed) ?_ hrest
      hfs
    intro fs out t e v new _ ih henabled hhandle hfs
    refine (ih fun opens listens hmem => ?_).step (fun opens listens heq => ?_) henabled hhandle
    · exact hfs opens listens (List.mem_append_left _ hmem)
    · exact hfs opens listens (heq ▸ List.mem_append_right _ (List.mem_singleton_self _))
  refine ⟨hlingers.closed, hlingers.accepted, ?_⟩
  rw [← List.countP_pos_iff]
  exact ⟨hlingers.loops_of_endless, hlingers.endless⟩

/-- A connection is there when the client is stopped: it becomes a session, and accepts fail from
then on. -/
theorem accepts_after_stop_one :
    ∃ s t out new, (clientHost .idle).run (.ok (ClientHost.started .idle 1))
        [.connected true true, .finishAccept 0 (.ok ())] = some (.ok s, out) ∧
      (clientHost .idle).run (.ok s) [.stop, .onAccept 0 (fun _ => 5) (fun _ => 0) 0] =
        some (.ok t, new) ∧
      t.isOpen = false ∧ t.accepted.length + t.accepts.countP (fun op => op.Succeeded) = 1 ∧
      Endless t := by
  obtain ⟨s, t, out, new, hrun, hafter, hsessions, hloops⟩ : ∃ s t out new,
      (clientHost .idle).run (.ok (ClientHost.started .idle 1))
        [.connected true true, .finishAccept 0 (.ok ())] = some (.ok s, out) ∧
      (clientHost .idle).run (.ok s) [.stop, .onAccept 0 (fun _ => 5) (fun _ => 0) 0] =
        some (.ok t, new) ∧
      s.accepted.length + s.accepts.countP (fun op => op.Succeeded) = 1 ∧
      ∃ op ∈ s.accepts, op.goesOn := ⟨_, _, _, _, rfl, rfl, rfl, _, List.mem_singleton_self _, rfl⟩
  obtain ⟨hclosed, haccepted, hendless⟩ := accepts_after_stop hrun (.inl rfl) hafter (by simp)
  exact ⟨s, t, out, new, hrun, hafter, hclosed, haccepted.trans hsessions, hendless.mpr hloops⟩

end RtcVpn
