import RtcVpn.Client.Isolation

/-!
# Runs of the client

What a step of the client does to its sessions is one of five things, and
`Sound` survives them all: it holds in every state a run reaches.
-/

namespace RtcVpn

namespace ClientHost

open Effect

variable {L : Llhttp} {s t : ClientHost L} {k : Nat} {out : List ClientHostAction}

/-! ## What a step does to the sessions -/

/-- What the owner of the sessions makes of an action: a session has been made, or its close
callback has run. -/
def owned : ClientHostAction → Option RegistryEvent
  | .accepted _ => some .accept
  | .session k (.association (.session (.onClose _))) => some (.close k)
  | _ => none

/-- From `s` to `t` nothing has happened to the sessions. -/
structure Idle (s : ClientHost L) (out : List ClientHostAction) (t : ClientHost L) : Prop where
  mux : t.mux = s.mux
  owner : t.owner = s.owner
  accepted : t.accepted = s.accepted
  sessions : t.sessions = s.sessions
  id : t.id = s.id
  actions : ∀ k, out.filterMap (ofSession k) = []
  owned : out.filterMap owned = []

theorem composes_idle : Composes (Idle (L := L)) where
  refl s := ⟨rfl, rfl, rfl, rfl, rfl, fun _ => rfl, rfl⟩
  trans h h' := ⟨h'.mux.trans h.mux, h'.owner.trans h.owner, h'.accepted.trans h.accepted,
    h'.sessions.trans h.sessions, h'.id.trans h.id,
    fun k => by rw [List.filterMap_append, h.actions, h'.actions, List.append_nil],
    by rw [List.filterMap_append, h.owned, h'.owned, List.append_nil]⟩

/-- An action of the acceptor. -/
theorem idle_emit {a : ClientHostAction} (ha : ∀ k, ofSession k a = none)
    (howned : ClientHost.owned a = none) : Relates Idle (emit a : Handler L) :=
  .emit fun _ => ⟨rfl, rfl, rfl, rfl, rfl, fun k => by simp [ha k], by simp [howned]⟩

/-- A change of the acceptor. -/
theorem idle_modify {f : ClientHost L → ClientHost L}
    (hf : ∀ s, (f s).mux = s.mux ∧ (f s).owner = s.owner ∧ (f s).accepted = s.accepted ∧
      (f s).sessions = s.sessions ∧ (f s).id = s.id) :
    Relates Idle (modify f : Handler L) :=
  .modify fun s => by
    obtain ⟨hmux, howner, haccepted, hsessions, hid⟩ := hf s
    exact ⟨hmux, howner, haccepted, hsessions, hid, fun _ => rfl, rfl⟩

theorem idle_do_accept : Relates Idle (doAccept : Handler L) :=
  .bind composes_idle (idle_emit (fun _ => rfl) rfl) fun _ =>
    idle_modify fun _ => ⟨rfl, rfl, rfl, rfl, rfl⟩

theorem idle_start (opens listens : Bool) :
    Relates Idle (start opens listens : Handler L) := by
  refine .bind composes_idle (.get composes_idle) fun s => .ite (.fail composes_idle _) ?_
  refine .bind composes_idle (idle_modify fun _ => ⟨rfl, rfl, rfl, rfl, rfl⟩) fun _ =>
    .ite ?_ (.fail composes_idle _)
  exact .bind composes_idle (idle_emit (fun _ => rfl) rfl) fun _ => idle_do_accept

theorem idle_close_acceptor : Relates Idle (closeAcceptor : Handler L) := by
  refine .bind composes_idle (.get composes_idle) fun s => .ite ?_ (.pure composes_idle ())
  exact .bind composes_idle (idle_emit (fun _ => rfl) rfl) fun _ =>
    idle_modify fun _ => ⟨rfl, rfl, rfl, rfl, rfl⟩

/-- From `s` to `t` a session has been accepted. -/
structure Accepted (genStreamId : Nat → UInt32) (readBuf : Nat → UInt8) (remotePort : UInt16)
    (s : ClientHost L) (out : List ClientHostAction) (t : ClientHost L) : Prop where
  mux : t.mux = s.mux
  owner : t.owner = s.owner
  accepted : t.accepted = s.accepted ++
    [⟨.started L (SessionIdGenerator.createSessionId s.id) genStreamId readBuf remotePort, false⟩]
  sessions : t.sessions =
    s.sessions.insert (SessionIdGenerator.createSessionId s.id) s.accepted.length
  id : t.id = SessionIdGenerator.createSessionId s.id
  actions : ∀ k, out.filterMap (ofSession k) = []
  owned : out.filterMap owned = [.accept]

/-- The handler of an accept. -/
theorem accept_cases (i : Nat) (genStreamId : Nat → UInt32) (readBuf : Nat → UInt8)
    (remotePort : UInt16) (s : ClientHost L) :
    Idle s ((handle (.onAccept i genStreamId readBuf remotePort)).run s).actions
        ((handle (.onAccept i genStreamId readBuf remotePort)).run s).state ∨
      Accepted genStreamId readBuf remotePort s
        ((handle (.onAccept i genStreamId readBuf remotePort)).run s).actions
        ((handle (.onAccept i genStreamId readBuf remotePort)).run s).state := by
  rcases hresult : Operation.resultAt s.accepts i with _ | (error | ⟨⟩)
  · refine .inl ?_
    simp only [handle, run_bind, run_get, andThen_ok, run_modify, hresult, run_pure]
    exact ⟨rfl, rfl, rfl, rfl, rfl, fun _ => rfl, rfl⟩
  · refine .inl ?_
    have hidle : Relates Idle
        (onAccept genStreamId readBuf remotePort (.error error) : Handler L) := by
      cases error with
      | operationAborted => exact .pure composes_idle ()
      | _ => exact .bind composes_idle (idle_emit (fun _ => rfl) rfl) fun _ => idle_do_accept
    have hrest := hidle { s with accepts := s.accepts.eraseIdx i }
    simp only [handle, run_bind, run_get, andThen_ok, run_modify, hresult]
    exact ⟨hrest.mux, hrest.owner, hrest.accepted, hrest.sessions, hrest.id, hrest.actions,
      hrest.owned⟩
  · refine .inr ?_
    simp only [handle, run_bind, run_get, andThen_ok, run_modify, hresult, onAccept, acceptSession,
      doAccept, run_emit]
    exact ⟨rfl, rfl, rfl, rfl, rfl, fun _ => by simp [ofSession], rfl⟩

/-- From `s` to `t` each of the sessions has been told to close. -/
inductive Stops : List Nat → ClientHost L → List ClientHostAction → ClientHost L → Prop where
  | nil (s : ClientHost L) : Stops [] s [] s
  | cons {k : Nat} {ks : List Nat} {s t u : ClientHost L} {as bs : List ClientHostAction}
      (hmove : SessionMove k (.session .stop) s t as) (hrest : Stops ks t bs u) :
      Stops (k :: ks) s (as ++ bs) u

/-- A session that has been told to close is not destroyed by that. -/
theorem Moved.keeps {e : AppEvent} {g g' : AcceptedSession L} (h : Moved k s t g g')
    (hmove : SessionMove k e s t out) (he : e ≠ .destroyed) {j : Nat}
    (hj : ∃ x, s.accepted[j]? = some x ∧ x.destroyed = false) :
    ∃ x, t.accepted[j]? = some x ∧ x.destroyed = false := by
  obtain ⟨x, hx, hlive⟩ := hj
  obtain ⟨g₀, c, as, hk, henabled, hrun, rfl, -, -⟩ := hmove.move
  obtain ⟨hdestroyed, -, -, -⟩ := NetworkRtcApp.streams_of_run he henabled hrun
  rw [after_accepted]
  by_cases hjk : j = k
  · subst hjk
    rw [hx] at hk
    cases hk
    exact ⟨_, List.getElem?_set_self (List.getElem?_eq_some_iff.mp hx).1, hdestroyed.trans hlive⟩
  · exact ⟨x, (List.getElem?_set_ne (Ne.symm hjk)).trans hx, hlive⟩

/-- The loop of `SocksServer::stop`. -/
theorem stops_of_run {ks : List Nat}
    (hks : ∀ k ∈ ks, ∃ g, s.accepted[k]? = some g ∧ g.destroyed = false)
    (hrun : (forEach ks fun k => onSession k (NetworkRtcApp.onAssociation (.session .stop))).run s =
      ⟨t, out, .ok ()⟩) : Stops ks s out t := by
  induction ks generalizing s out with
  | nil =>
      cases hrun
      exact .nil _
  | cons k ks ih =>
      rw [forEach_cons, run_bind] at hrun
      obtain ⟨u, first, _, rest, hfirst, hrest, rfl⟩ := andThen_eq_ok hrun
      obtain ⟨g, hk, hlive⟩ := hks k List.mem_cons_self
      have hmove : SessionMove k (.session .stop) s u first := by
        refine move_of_run hk ?_ ?_ (fun he => by cases he) hfirst
        · simp [NetworkRtcApp.enabled, view, hlive, NetworkRtcApp.isLocal, Association.enabled,
            Socks5Session.enabled]
        · have hnone : createdIds ((NetworkRtcApp.handle (.session .stop)).run (view g s)).actions =
              [] := created_of_message (fun data he => by cases he)
          rw [hnone]
          rfl
      obtain ⟨g₁, g₂, hmoved⟩ := hmove.moved
      refine .cons hmove (ih (fun j hj => ?_) hrest)
      exact hmoved.keeps hmove (fun he => by cases he) (hks j (List.mem_cons_of_mem k hj))

/-- The session that answers an event, and the event it answers. -/
def answering (s : ClientHost L) : ClientHostEvent → Option (Nat × AppEvent)
  | .session k event => some (k, .session event)
  | .relay k event => some (k, .relay event)
  | .destroyed k => some (k, .destroyed)
  | .message data answer =>
      match frameOf data with
      | some (header, _) =>
          if (s.find header.streamId).isSome then
            some (s.owner header.streamId, .message data answer)
          else none
      | none => none
  | _ => none

theorem answering_message {data : Bytes} {relay : Option (AddressV4 × UInt16)} {f : AppEvent}
    (h : answering s (.message data relay) = some (k, f)) :
    f = .message data relay ∧ ∃ header payload, frameOf data = some (header, payload) ∧
      (s.find header.streamId).isSome ∧ s.owner header.streamId = k := by
  rcases hframe : frameOf data with _ | ⟨header, payload⟩
  · simp [answering, hframe] at h
  · by_cases hsome : (s.find header.streamId).isSome = true
    · simp only [answering, hframe, hsome, if_true, Option.some.injEq, Prod.mk.injEq] at h
      exact ⟨h.2.symm, header, payload, rfl, hsome, h.1⟩
    · simp [answering, hframe, hsome] at h

/-- What it takes for a session to answer an event. -/
structure Answers (s : ClientHost L) (e : ClientHostEvent) (k : Nat) (f : AppEvent)
    (g : AcceptedSession L) : Prop where
  session : s.accepted[k]? = some g
  enabled : NetworkRtcApp.enabled (view g s) f = true
  run : (handle e).run s = (onSession k (NetworkRtcApp.handle f)).run s
  free : free s.mux.sessionManager
    (createdIds ((NetworkRtcApp.handle f).run (view g s)).actions) = true
  released : f = .destroyed → k ∉ s.held

/-- An event that can happen is answered by a session that has been made. -/
theorem answers_of_enabled (hs : Sound s) {e : ClientHostEvent} (henabled : enabled s e = true)
    {f : AppEvent} (hanswer : answering s e = some (k, f)) : ∃ g, Answers s e k f g := by
  cases e with
  | session j e =>
      cases hanswer
      rcases hk : s.accepted[k]? with _ | g
      · simp [ClientHost.enabled, hk] at henabled
      · simp only [ClientHost.enabled, hk, Option.any_some, Bool.and_eq_true,
          Bool.not_eq_true'] at henabled
        obtain ⟨hbrowser, ⟨hlive, he⟩, hfree⟩ := henabled
        refine ⟨g, hk, ?_, rfl, ?_, fun he => by cases he⟩
        · have hlocal : NetworkRtcApp.isLocal e = true := by
            cases e with
            | browserData | browserClosed | browserQueue => rfl
            | _ => cases hbrowser
          simp [NetworkRtcApp.enabled, view, hlive, hlocal, he]
        · have hids : createdIds ((NetworkRtcApp.handle (.session e)).run (view g s)).actions =
              drawn g.association e := by
            rw [createdIds, NetworkRtcApp.handle, NetworkRtcApp.run_on_association,
              NetworkRtcApp.session_actions_map]
            rfl
          rw [hids]
          exact hfree
  | relay j e =>
      cases hanswer
      rcases hk : s.accepted[k]? with _ | g
      · simp [ClientHost.enabled, hk] at henabled
      · simp only [ClientHost.enabled, hk, Option.any_some, Bool.and_eq_true] at henabled
        refine ⟨g, hk, ?_, rfl, ?_, fun he => by cases he⟩
        · simpa [NetworkRtcApp.enabled, view] using henabled
        · have hnone : createdIds ((NetworkRtcApp.handle (.relay e)).run (view g s)).actions = [] :=
            created_of_relay e
          rw [hnone]
          rfl
  | destroyed j =>
      cases hanswer
      rcases hk : s.accepted[k]? with _ | g
      · simp [ClientHost.enabled, hk] at henabled
      · simp only [ClientHost.enabled, hk, Option.any_some, Bool.and_eq_true, Bool.not_eq_true',
          List.contains_eq_mem, decide_eq_false_iff_not] at henabled
        obtain ⟨hreleased, hlive, hsocket⟩ := henabled
        refine ⟨g, hk, ?_, rfl, ?_, fun _ => hreleased⟩
        · simp [NetworkRtcApp.enabled, view, hlive, hsocket]
        · have hnone := (NetworkRtcApp.run_destroy_session (view g s)).1
          have hids :
              createdIds ((NetworkRtcApp.handle .destroyed).run (view g s)).actions = [] := by
            rw [createdIds, NetworkRtcApp.handle, hnone]
            rfl
          rw [hids]
          rfl
  | message data relay =>
      obtain ⟨rfl, header, payload, hframe, hsome, rfl⟩ := answering_message hanswer
      have hlt := hs.led header.streamId hsome
      refine ⟨s.accepted.get ⟨_, hlt⟩, List.getElem?_eq_getElem hlt, rfl, ?_, ?_,
        fun he => by cases he⟩
      · exact run_message_answered hs.onSyn relay hframe (List.getElem?_eq_getElem hlt)
      · rw [created_of_frame]
        rfl
  | _ => cases hanswer

/-- What a step of the client does to its sessions: nothing; one is accepted; one answers an event
of its sockets, its destructor runs, or it takes a message; those that `sessions_` holds are told
to close. -/
inductive SessionsStep (s : ClientHost L) (out : List ClientHostAction) (t : ClientHost L) :
    ClientHostEvent → Prop where
  | connected {opens listens : Bool} (h : Idle s out t) :
      SessionsStep s out t (.connected opens listens)
  | finishAccept {i : Nat} {result : Except IoError Unit} (h : Idle s out t) :
      SessionsStep s out t (.finishAccept i result)
  | notAccepted {i : Nat} {genStreamId : Nat → UInt32} {readBuf : Nat → UInt8} {remotePort : UInt16}
      (h : Idle s out t) : SessionsStep s out t (.onAccept i genStreamId readBuf remotePort)
  | accepted {i : Nat} {genStreamId : Nat → UInt32} {readBuf : Nat → UInt8} {remotePort : UInt16}
      (h : Accepted genStreamId readBuf remotePort s out t) :
      SessionsStep s out t (.onAccept i genStreamId readBuf remotePort)
  | session {k : Nat} {e : ClientEvent} (h : SessionMove k (.session e) s t out) :
      SessionsStep s out t (.session k e)
  | relay {k : Nat} {e : RelayEvent} (h : SessionMove k (.relay e) s t out) :
      SessionsStep s out t (.relay k e)
  | destroyed {k : Nat} (h : SessionMove k .destroyed s t out) :
      SessionsStep s out t (.destroyed k)
  | unheard {data : Bytes} {relay : Option (AddressV4 × UInt16)}
      (hunknown : ∀ header payload, frameOf data = some (header, payload) →
        s.find header.streamId = none) (h : t = s) (hout : out = []) :
      SessionsStep s out t (.message data relay)
  | message {data payload : Bytes} {relay : Option (AddressV4 × UInt16)} {header : FrameHeader}
      (hframe : frameOf data = some (header, payload)) (hfind : (s.find header.streamId).isSome)
      (h : SessionMove (s.owner header.streamId) (.message data relay) s t out) :
      SessionsStep s out t (.message data relay)
  | closed {u v : ClientHost L} {as bs cs : List ClientHostAction} (h : Idle s as u)
      (hstops : Stops s.held u bs v) (hlast : Idle v cs t) (hout : out = as ++ bs ++ cs) :
      SessionsStep s out t .closed
  | stop {u v : ClientHost L} {as bs cs : List ClientHostAction} (h : Idle s as u)
      (hstops : Stops s.held u bs v) (hlast : Idle v cs t) (hout : out = as ++ bs ++ cs) :
      SessionsStep s out t .stop

/-- `SocksServer::stop` with what follows it. -/
theorem stopped_of_run (hs : Sound s) {a : ClientHostAction} (ha : ∀ k, ofSession k a = none)
    (howned : ClientHost.owned a = none)
    (hrun : (stopServer >>= fun _ => emit a : Handler L).run s = ⟨t, out, .ok ()⟩) :
    ∃ u v as bs cs, Idle s as u ∧ Stops s.held u bs v ∧ Idle v cs t ∧ out = as ++ bs ++ cs := by
  rw [run_bind] at hrun
  obtain ⟨v, first, _, last, hstop, hlast, rfl⟩ := andThen_eq_ok hrun
  rw [stopServer, run_bind] at hstop
  obtain ⟨u, as, _, bs, hclose, hloop, rfl⟩ := andThen_eq_ok hstop
  have hidle : Idle s as u := by
    have h := idle_close_acceptor s
    rw [hclose] at h
    exact h
  have hlast' : Idle v last t := by
    have h := idle_emit ha howned v
    rw [hlast] at h
    exact h
  rw [run_bind, run_get, andThen_ok, List.nil_append] at hloop
  have hheld : u.held = s.held := by rw [held, hidle.sessions]; rfl
  rw [hheld] at hloop
  refine ⟨u, v, as, bs, last, hidle, stops_of_run (fun k hk => ?_) hloop, hlast', rfl⟩
  obtain ⟨id, hid⟩ := mem_held.mp hk
  obtain ⟨g, hg, hlive, -⟩ := hs.held id k hid
  exact ⟨g, hidle.accepted ▸ hg, hlive⟩

theorem sessions_step (hs : Sound s) {e : ClientHostEvent} (henabled : enabled s e = true)
    (hrun : (handle e).run s = ⟨t, out, .ok ()⟩) : SessionsStep s out t e := by
  have hmove : ∀ {k f}, answering s e = some (k, f) → SessionMove k f s t out := by
    intro k f hanswer
    obtain ⟨g, h⟩ := answers_of_enabled hs henabled hanswer
    rw [h.run] at hrun
    exact move_of_run h.session h.enabled h.free h.released hrun
  cases e with
  | connected opens listens =>
      have h := Relates.swallow (· == ClientHostFault.exception) (idle_start opens listens) s
      have hrun' : (swallow (· == .exception) (start opens listens)).run s =
          ⟨t, out, .ok ()⟩ := hrun
      rw [hrun'] at h
      exact .connected h
  | closed =>
      obtain ⟨u, v, as, bs, cs, h, hstops, hlast, hout⟩ := stopped_of_run hs (fun _ => rfl) rfl hrun
      exact .closed h hstops hlast hout
  | stop =>
      obtain ⟨u, v, as, bs, cs, h, hstops, hlast, hout⟩ := stopped_of_run hs (fun _ => rfl) rfl hrun
      exact .stop h hstops hlast hout
  | finishAccept i result =>
      cases hrun
      exact .finishAccept ⟨rfl, rfl, rfl, rfl, rfl, fun _ => rfl, rfl⟩
  | onAccept i genStreamId readBuf remotePort =>
      have h := accept_cases i genStreamId readBuf remotePort s
      rw [hrun] at h
      rcases h with h | h
      · exact .notAccepted h
      · exact .accepted h
  | session k e => exact .session (hmove rfl)
  | relay k e => exact .relay (hmove rfl)
  | destroyed k => exact .destroyed (hmove rfl)
  | message data relay =>
      by_cases hheard : ∃ header payload, frameOf data = some (header, payload) ∧
          (s.find header.streamId).isSome
      · obtain ⟨header, payload, hframe, hsome⟩ := hheard
        exact .message hframe hsome (hmove (by simp [answering, hframe, hsome]))
      · have hunknown : ∀ header payload, frameOf data = some (header, payload) →
            s.find header.streamId = none := fun header payload hframe =>
          Option.not_isSome_iff_eq_none.mp fun hsome => hheard ⟨header, payload, hframe, hsome⟩
        rw [run_message_unheard hs.onSyn relay hunknown] at hrun
        cases hrun
        exact .unheard hunknown rfl rfl

/-- No move makes or numbers a session. -/
theorem SessionMove.numbers {e : AppEvent} (h : SessionMove k e s t out) :
    k < s.accepted.length ∧ t.accepted.length = s.accepted.length ∧ t.id = s.id := by
  obtain ⟨g, c, as, hk, -, -, rfl, -, -⟩ := h.move
  exact ⟨(List.getElem?_eq_some_iff.mp hk).1, by rw [after_accepted, List.length_set],
    (after_acceptor k c as s).2.2⟩

theorem SessionMove.actions_other {e : AppEvent} {j : Nat} (h : SessionMove j e s t out)
    (hne : j ≠ k) : out.filterMap (ofSession k) = [] := by
  obtain ⟨g, c, as, -, -, -, -, rfl, -⟩ := h.move
  exact of_session_other hne as

theorem Stops.numbers {ks : List Nat} (h : Stops ks s out t) :
    t.accepted.length = s.accepted.length ∧ t.id = s.id := by
  induction h with
  | nil => exact ⟨rfl, rfl⟩
  | cons hmove _ ih =>
      obtain ⟨-, hlength, hid⟩ := hmove.numbers
      exact ⟨ih.1.trans hlength, ih.2.trans hid⟩

theorem Stops.actions_other {ks : List Nat} (h : Stops ks s out t) (hk : k ∉ ks) :
    out.filterMap (ofSession k) = [] := by
  induction h with
  | nil => rfl
  | cons hmove _ ih =>
      rw [List.mem_cons, not_or] at hk
      rw [List.filterMap_append, hmove.actions_other (Ne.symm hk.1), ih hk.2, List.nil_append]

/-- Only an accept makes a session. -/
theorem SessionsStep.numbers {e : ClientHostEvent} (h : SessionsStep s out t e) :
    (t.accepted.length = s.accepted.length ∧ t.id = s.id) ∨
      ∃ i genStreamId readBuf remotePort, e = .onAccept i genStreamId readBuf remotePort ∧
        Accepted genStreamId readBuf remotePort s out t := by
  cases h with
  | connected h | finishAccept h | notAccepted h => exact .inl ⟨by rw [h.accepted], h.id⟩
  | accepted h => exact .inr ⟨_, _, _, _, rfl, h⟩
  | session h | relay h | destroyed h | message _ _ h => exact .inl h.numbers.2
  | unheard _ h => exact .inl ⟨by rw [h], by rw [h]⟩
  | closed h hstops hlast | stop h hstops hlast =>
      obtain ⟨hlength, hid⟩ := hstops.numbers
      exact .inl ⟨by rw [hlast.accepted, hlength, h.accepted], by rw [hlast.id, hid, h.id]⟩

/-! ## Faults -/

/-- A session that is told to close always returns. -/
theorem stop_returns (c : NetworkRtcApp L) :
    ((NetworkRtcApp.onAssociation (.session .stop)).run c).result = .ok () := by
  have hassociation :
      ((Association.handle (.session .stop)).run c.association).result = .ok () := by
    rw [Association.handle, run_performing, Socks5Session.run_stop]
    cases c.association.session.tcpSocket <;> rfl
  rw [NetworkRtcApp.run_on_association, hassociation]
  rfl

/-- The loop of `SocksServer::stop` always returns. -/
theorem stops_return {ks : List Nat} (hks : ∀ k ∈ ks, k < s.accepted.length) :
    ((forEach ks fun k => onSession k (NetworkRtcApp.onAssociation (.session .stop)) :
      Handler L).run s).result = .ok () := by
  induction ks generalizing s with
  | nil => rfl
  | cons k ks ih =>
      have hk := List.getElem?_eq_getElem (hks k List.mem_cons_self)
      rw [forEach_cons, run_bind, run_on_session hk, stop_returns]
      refine ih fun j hj => ?_
      rw [after_accepted, List.length_set]
      exact hks j (List.mem_cons_of_mem k hj)

/-- `close` of the acceptor always returns. -/
theorem run_close_acceptor (s : ClientHost L) :
    ∃ u as, (closeAcceptor : Handler L).run s = ⟨u, as, .ok ()⟩ := by
  rw [closeAcceptor, run_bind, run_get, andThen_ok, run_ite]
  cases s.isOpen <;> exact ⟨_, _, rfl⟩

/-- `SocksServer::stop` always returns. -/
theorem run_stop_server (hs : Sound s) :
    ∃ u as, (stopServer : Handler L).run s = ⟨u, as, .ok ()⟩ := by
  obtain ⟨u, as, hrun⟩ := run_close_acceptor s
  have hidle := idle_close_acceptor s
  rw [hrun] at hidle
  have hheld : u.held = s.held := by rw [held, hidle.sessions]; rfl
  have hresult : ((forEach u.held fun k =>
      onSession k (NetworkRtcApp.onAssociation (.session .stop)) : Handler L).run u).result =
        .ok () := by
    refine stops_return fun k hk => ?_
    rw [hheld] at hk
    obtain ⟨id, hid⟩ := mem_held.mp hk
    obtain ⟨g, hg, -⟩ := hs.held id k hid
    rw [hidle.accepted]
    exact (List.getElem?_eq_some_iff.mp hg).1
  rw [stopServer, run_bind, hrun, andThen_ok, run_bind, run_get, andThen_ok]
  generalize (forEach u.held fun k =>
    onSession k (NetworkRtcApp.onAssociation (.session .stop)) : Handler L).run u = o at hresult ⊢
  obtain ⟨v, bs, result⟩ := o
  cases hresult
  exact ⟨_, _, rfl⟩

/-- Only a session that answers an event can end in a fault. -/
theorem answering_of_fault (hs : Sound s) {e : ClientHostEvent} {fault : ClientHostFault}
    (henabled : enabled s e = true) (hfault : ((handle e).run s).result = .error fault) :
    ∃ k f, answering s e = some (k, f) := by
  cases e with
  | session k e => exact ⟨k, _, rfl⟩
  | relay k e => exact ⟨k, _, rfl⟩
  | destroyed k => exact ⟨k, _, rfl⟩
  | message data relay =>
      by_cases hheard : ∃ header payload, frameOf data = some (header, payload) ∧
          (s.find header.streamId).isSome
      · obtain ⟨header, payload, hframe, hsome⟩ := hheard
        exact ⟨s.owner header.streamId, .message data relay, by simp [answering, hframe, hsome]⟩
      · have hunknown : ∀ header payload, frameOf data = some (header, payload) →
            s.find header.streamId = none := fun header payload hframe =>
          Option.not_isSome_iff_eq_none.mp fun hsome => hheard ⟨header, payload, hframe, hsome⟩
        rw [run_message_unheard hs.onSyn relay hunknown] at hfault
        cases hfault
  | connected opens listens =>
      have hreturns : ((handle (.connected opens listens)).run s).result = .ok () := by
        rw [handle, swallow_result]
        cases hopen : s.isOpen <;> cases opens <;> cases listens <;>
          simp [start, hopen, doAccept]
      rw [hreturns] at hfault
      cases hfault
  | closed | stop =>
      obtain ⟨u, as, hrun⟩ := run_stop_server hs
      simp [handle, hrun] at hfault
  | finishAccept i result => cases hfault
  | onAccept i genStreamId readBuf remotePort =>
      rcases hresult : Operation.resultAt s.accepts i with _ | (error | ⟨⟩)
      · simp [handle, hresult] at hfault
      · cases error <;> simp [handle, hresult, onAccept, doAccept] at hfault
      · simp [handle, hresult, onAccept, acceptSession, doAccept] at hfault

/-! ## What holds at any time -/

theorem Sound.idle (hs : Sound s) (h : Idle s out t) : Sound t := by
  have hfind : t.find = s.find := by
    funext i
    rw [find, h.mux]
  refine ⟨by rw [h.mux, hs.sendFunc], by rw [h.mux, hs.onSyn], ?_, ?_, ?_, ?_⟩
  · rw [hfind]
    exact hs.known
  · rw [hfind, h.owner, h.accepted]
    exact hs.led
  · rw [hfind, h.owner, h.accepted]
    exact hs.own
  · rw [h.sessions, h.accepted]
    exact hs.held

/-- The session at an index once one has been accepted. -/
theorem get_concat {α : Type} {xs : List α} {k : Nat} {x y : α} (h : (xs ++ [x])[k]? = some y) :
    xs[k]? = some y ∨ (k = xs.length ∧ y = x) := by
  rcases Nat.lt_trichotomy k xs.length with hlt | heq | hgt
  · rw [List.getElem?_append_left hlt] at h
    exact .inl h
  · subst heq
    rw [List.getElem?_concat_length] at h
    exact .inr ⟨rfl, (Option.some.inj h).symm⟩
  · rw [List.getElem?_eq_none (by rw [List.length_append]; exact hgt)] at h
    cases h

theorem Accepted.keeps {genStreamId : Nat → UInt32} {readBuf : Nat → UInt8} {remotePort : UInt16}
    (h : Accepted genStreamId readBuf remotePort s out t) {g : AcceptedSession L}
    (hk : s.accepted[k]? = some g) : t.accepted[k]? = some g := by
  rw [h.accepted, List.getElem?_append_left (List.getElem?_eq_some_iff.mp hk).1, hk]

theorem Sound.accepted {genStreamId : Nat → UInt32} {readBuf : Nat → UInt8} {remotePort : UInt16}
    (hs : Sound s) (h : Accepted genStreamId readBuf remotePort s out t) : Sound t := by
  have hfind : t.find = s.find := by
    funext i
    rw [find, h.mux]
  refine ⟨by rw [h.mux, hs.sendFunc], by rw [h.mux, hs.onSyn], ?_, fun i hi => ?_,
    fun k g i hk hlive hi => ?_, fun id k hk => ?_⟩
  · rw [hfind]
    exact hs.known
  · rw [hfind] at hi
    rw [h.owner, h.accepted, List.length_append]
    exact Nat.lt_add_right _ (hs.led i hi)
  · rw [hfind, h.owner]
    rw [h.accepted] at hk
    rcases get_concat hk with hk | ⟨-, rfl⟩
    · exact hs.own k g i hk hlive hi
    · -- the new session has no stream
      cases hi
  · rw [h.sessions] at hk
    by_cases hid : id = SessionIdGenerator.createSessionId s.id
    · rw [hid, AList.lookup_insert] at hk
      cases hk
      exact ⟨_, by rw [h.accepted, List.getElem?_concat_length], rfl, hid.symm⟩
    · rw [AList.lookup_insert_ne hid] at hk
      obtain ⟨g, hg, hlive, hsame⟩ := hs.held id k hk
      exact ⟨g, h.keeps hg, hlive, hsame⟩

theorem Sound.move {e : AppEvent} (hs : Sound s) (h : SessionMove k e s t out) : Sound t := by
  obtain ⟨g, g', hmoved⟩ := h.moved
  exact hs.moved hmoved

theorem Sound.stops {ks : List Nat} (hs : Sound s) (h : Stops ks s out t) : Sound t := by
  induction h with
  | nil => exact hs
  | cons hmove _ ih => exact ih (hs.move hmove)

theorem Sound.step (hs : Sound s) {e : ClientHostEvent} (h : SessionsStep s out t e) : Sound t := by
  cases h with
  | connected h | finishAccept h | notAccepted h => exact hs.idle h
  | accepted h => exact hs.accepted h
  | session h | relay h | destroyed h | message _ _ h => exact hs.move h
  | unheard _ h => exact h ▸ hs
  | closed h hstops hlast | stop h hstops hlast => exact ((hs.idle h).stops hstops).idle hlast

end ClientHost

end RtcVpn
