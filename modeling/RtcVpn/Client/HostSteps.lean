import RtcVpn.Client.ClientHost

/-!
# The steps of the client

Whatever happens to a session, the client runs one handler of it on the
multiplexer all sessions share. `SessionMove` says so once for the callbacks of
the session's sockets, the frames for its streams, the close by `stop` and the
destructor; what every other step does concerns the acceptor only.
-/

namespace RtcVpn

namespace ClientHost

open Effect

variable {L : Llhttp}

/-- The streams that the actions of a session register. -/
def createdIds (as : List AppAction) : List UInt32 :=
  (as.filterMap NetworkRtcApp.sessionAction).filterMap ClientAction.createdId

/-- The action of a session among those of the client. -/
def ofSession (k : Nat) : ClientHostAction → Option AppAction
  | .session j action => if j = k then some action else none
  | _ => none

theorem of_session_own (k : Nat) (as : List AppAction) :
    (as.map (.session k)).filterMap (ofSession k) = as := by
  simp [List.filterMap_map, Function.comp_def, ofSession]

theorem of_session_other {j k : Nat} (hne : j ≠ k) (as : List AppAction) :
    (as.map (.session j)).filterMap (ofSession k) = [] := by
  simp [List.filterMap_map, Function.comp_def, ofSession, hne]

/-! ## What a handler of a session does -/

/-- The client once a session has taken an action. -/
def carried (k : Nat) : AppAction → ClientHost L → ClientHost L
  | .association (.session (.createSession streamId)), s =>
      { s with owner := Function.update s.owner streamId k }
  | .association (.session (.onClose sessionId)), s =>
      { s with sessions := s.sessions.erase sessionId }
  | _, s => s

theorem run_carry_out (k : Nat) (a : AppAction) (s : ClientHost L) :
    (carryOut k a).run s = ⟨carried k a s, [.session k a], .ok ()⟩ := by
  cases a with
  | association a =>
      cases a with
      | relay a => rfl
      | session a => cases a <;> rfl
  | _ => rfl

/-- The client once a session has run a handler and taken its actions. -/
def after (k : Nat) (c : NetworkRtcApp L) (as : List AppAction) (s : ClientHost L) : ClientHost L :=
  as.foldl (fun s a => carried k a s) (update k c s)

/-- A handler of a session that has been made. -/
theorem run_on_session {s : ClientHost L} {k : Nat} {g : AcceptedSession L}
    (hk : s.accepted[k]? = some g) (x : NetworkRtcApp.Handler L) :
    (onSession k x).run s =
      ⟨after k (x.run (view g s)).state (x.run (view g s)).actions s,
        (x.run (view g s)).actions.map (.session k),
        (x.run (view g s)).result.mapError (.session k)⟩ := by
  rw [onSession, run_bind, run_get, andThen_ok, hk]
  dsimp only
  rw [run_performing, run_forEach (run_carry_out k), ← List.map_eq_flatMap, after]
  cases (x.run (view g s)).result <;> rfl

section

variable (k : Nat) (c : NetworkRtcApp L) (as : List AppAction) (s : ClientHost L)

/-- A property of the client that no action of a session changes. -/
theorem after_induction {P : ClientHost L → Prop} (hstart : P (update k c s))
    (hkeep : ∀ t a, P t → P (carried k a t)) : P (after k c as s) := by
  unfold after
  generalize update k c s = t at hstart
  induction as generalizing t with
  | nil => exact hstart
  | cons a as ih => exact ih _ (hkeep t a hstart)

@[simp] theorem after_mux : (after k c as s).mux = c.mux := by
  refine after_induction k c as s (P := fun t => t.mux = c.mux) rfl fun t a ht => ?_
  rw [← ht]
  cases a with
  | association a =>
      cases a with
      | relay a => rfl
      | session a => cases a <;> rfl
  | _ => rfl

@[simp] theorem after_accepted :
    (after k c as s).accepted = s.accepted.set k ⟨c.association, c.destroyed⟩ := by
  refine after_induction k c as s
    (P := fun t => t.accepted = s.accepted.set k ⟨c.association, c.destroyed⟩) rfl fun t a ht => ?_
  rw [← ht]
  cases a with
  | association a =>
      cases a with
      | relay a => rfl
      | session a => cases a <;> rfl
  | _ => rfl

/-- The acceptor is none of a session's business. -/
@[simp] theorem after_acceptor : (after k c as s).isOpen = s.isOpen ∧
    (after k c as s).accepts = s.accepts ∧ (after k c as s).id = s.id := by
  refine after_induction k c as s
    (P := fun t => t.isOpen = s.isOpen ∧ t.accepts = s.accepts ∧ t.id = s.id) ⟨rfl, rfl, rfl⟩
    fun t a ht => ?_
  rw [← ht.1, ← ht.2.1, ← ht.2.2]
  cases a with
  | association a =>
      cases a with
      | relay a => exact ⟨rfl, rfl, rfl⟩
      | session a => cases a <;> exact ⟨rfl, rfl, rfl⟩
  | _ => exact ⟨rfl, rfl, rfl⟩

/-- A session's close removes ids from `sessions_` and adds none. -/
theorem lookup_after {i : UInt32} {j : Nat} (h : (after k c as s).sessions.lookup i = some j) :
    s.sessions.lookup i = some j := by
  refine after_induction k c as s (P := fun t => ∀ i j, t.sessions.lookup i = some j →
    s.sessions.lookup i = some j) (fun _ _ hi => hi) (fun t a ht i j hi => ?_) i j h
  cases a with
  | association a =>
      cases a with
      | relay a => exact ht i j hi
      | session a =>
          cases a with
          | onClose sessionId =>
              have hi' : (t.sessions.erase sessionId).lookup i = some j := hi
              by_cases heq : i = sessionId
              · rw [heq, AList.lookup_erase] at hi'
                cases hi'
              · rw [AList.lookup_erase_ne heq] at hi'
                exact ht i j hi'
          | _ => exact ht i j hi
  | _ => exact ht i j hi

/-- The streams that a session registers lead to it. -/
@[simp] theorem after_owner (i : UInt32) :
    (after k c as s).owner i = if i ∈ createdIds as then k else s.owner i := by
  have hall : ∀ t : ClientHost L, (as.foldl (fun s a => carried k a s) t).owner i =
      if i ∈ createdIds as then k else t.owner i := by
    induction as with
    | nil => exact fun t => rfl
    | cons a as ih =>
        intro t
        rw [List.foldl_cons, ih]
        -- only `createSession` registers a stream
        have hother : createdIds (a :: as) = createdIds as → (carried k a t).owner = t.owner →
            (if i ∈ createdIds as then k else (carried k a t).owner i) =
              if i ∈ createdIds (a :: as) then k else t.owner i := by
          intro hids howner
          rw [hids, howner]
        cases a with
        | association a =>
            cases a with
            | relay a => exact hother rfl rfl
            | session a =>
                cases a with
                | createSession j =>
                    have hids : createdIds (.association (.session (.createSession j)) :: as) =
                        j :: createdIds as := rfl
                    have howner : (carried k (.association (.session (.createSession j))) t).owner =
                        Function.update t.owner j k := rfl
                    rw [hids, howner]
                    by_cases hi : i ∈ createdIds as
                    · simp [hi]
                    · by_cases hij : i = j
                      · simp [hij]
                      · simp [hi, hij]
                | _ => exact hother rfl rfl
        | _ => exact hother rfl rfl
  exact hall (update k c s)

end

/-! ## Moves -/

/-- From `s` to `t` session `k` answers an event, on the multiplexer all sessions share; the ids it
registers are free, and it is destroyed only when `sessions_` does not hold it. -/
structure SessionMove (k : Nat) (e : AppEvent) (s t : ClientHost L) (out : List ClientHostAction) :
    Prop where
  move : ∃ g c as, s.accepted[k]? = some g ∧ NetworkRtcApp.enabled (view g s) e = true ∧
    (NetworkRtcApp.handle e).run (view g s) = ⟨c, as, .ok ()⟩ ∧ t = after k c as s ∧
    out = as.map (.session k) ∧ free s.mux.sessionManager (createdIds as) = true
  released : e = .destroyed → k ∉ s.held

/-- Only what the browser sends makes a session register streams. -/
theorem created_of_message {g : AcceptedSession L} {s : ClientHost L} {e : ClientEvent}
    (he : ∀ data, e ≠ .browserData data) :
    createdIds ((NetworkRtcApp.onAssociation (.session e)).run (view g s)).actions = [] := by
  have hactions := (Association.run_session e g.association).2.1
  have hsyns : ((Socks5Session.handle e).run g.association.session).actions.filterMap
      ClientAction.createdId = [] := by
    have hsettled : Relates Socks5Session.Settled
        (Socks5Session.handle e : Socks5Session.Handler L Unit) := Socks5Session.settled_handle he
    rw [NetworkRtcApp.created_ids_handle]
    exact (hsettled g.association.session).syns
  have hprefix := hactions.filterMap ClientAction.createdId
  rw [hsyns, List.prefix_nil] at hprefix
  rw [createdIds, NetworkRtcApp.run_on_association, NetworkRtcApp.session_actions_map]
  exact hprefix

/-- A relay registers no streams. -/
theorem created_of_relay {g : AcceptedSession L} {s : ClientHost L} (e : RelayEvent) :
    createdIds ((NetworkRtcApp.onAssociation (.relay e)).run (view g s)).actions = [] := by
  rw [createdIds, (NetworkRtcApp.run_on_relay e (view g s)).2.2.2]
  rfl

/-- A message makes no session register streams. -/
theorem created_of_frame {g : AcceptedSession L} {s : ClientHost L} (data : Bytes)
    (relay : Option (AddressV4 × UInt16)) :
    createdIds ((NetworkRtcApp.handle (.message data relay)).run (view g s)).actions = [] := by
  rw [NetworkRtcApp.run_message]
  rcases (view g s).mux.onMessage data with fault | (_ | upcall)
  · rfl
  · rfl
  · dsimp only
    unfold NetworkRtcApp.onUpcall
    rw [run_bind, run_get, andThen_ok, List.nil_append, run_ite]
    split
    · rfl
    · cases upcall with
      | onSyn => rfl
      | onDataCtrl session ctrl protocol =>
          rw [createdIds, (NetworkRtcApp.run_p2p_data_ctrl ctrl protocol (view g s)).2]
          rfl
      | _ => exact created_of_message fun data he => by cases he

/-- What a handler of a session does that returns. -/
theorem move_of_run {s t : ClientHost L} {k : Nat} {g : AcceptedSession L} {e : AppEvent}
    {out : List ClientHostAction} (hk : s.accepted[k]? = some g)
    (henabled : NetworkRtcApp.enabled (view g s) e = true)
    (hfree : free s.mux.sessionManager
      (createdIds ((NetworkRtcApp.handle e).run (view g s)).actions) = true)
    (hreleased : e = .destroyed → k ∉ s.held)
    (hrun : (onSession k (NetworkRtcApp.handle e)).run s = ⟨t, out, .ok ()⟩) :
    SessionMove k e s t out := by
  rw [run_on_session hk] at hrun
  generalize hx : (NetworkRtcApp.handle e).run (view g s) = o at hrun hfree
  obtain ⟨c, as, result⟩ := o
  cases result with
  | error fault => cases hrun
  | ok _ =>
      cases hrun
      exact ⟨⟨g, c, as, hk, henabled, hx, rfl, rfl, hfree⟩, hreleased⟩

/-! ## Messages -/

/-- Two handlers that do the same to a session. -/
theorem on_session_congr {k : Nat} {s : ClientHost L} {x y : NetworkRtcApp.Handler L}
    (h : ∀ g, s.accepted[k]? = some g → x.run (view g s) = y.run (view g s)) :
    (onSession k x).run s = (onSession k y).run s := by
  cases hk : s.accepted[k]? with
  | none => simp [onSession, hk]
  | some g => rw [run_on_session hk, run_on_session hk, h g hk]

/-- A message whose frame belongs to no stream. -/
theorem run_message_unheard {s : ClientHost L} (hsyn : s.mux.onSyn = false) {data : Bytes}
    (relay : Option (AddressV4 × UInt16))
    (hunknown : ∀ h payload, frameOf data = some (h, payload) →
      s.mux.sessionManager.findSession h.streamId = none) :
    (handle (.message data relay)).run s = ⟨s, [], .ok ()⟩ := by
  have hnone := SessionMux.on_message_unknown hsyn hunknown
  simp [handle, onMessage, hnone]

/-- A message whose frame belongs to a stream is answered by the session the stream leads to. -/
theorem run_message_answered {s : ClientHost L} (hsyn : s.mux.onSyn = false) {data payload : Bytes}
    (relay : Option (AddressV4 × UInt16)) {h : FrameHeader} {g : AcceptedSession L}
    (hframe : frameOf data = some (h, payload))
    (hk : s.accepted[s.owner h.streamId]? = some g) :
    (handle (.message data relay)).run s =
      (onSession (s.owner h.streamId) (NetworkRtcApp.handle (.message data relay))).run s := by
  have hquiet : s.mux.onMessage data = .ok none → (handle (.message data relay)).run s =
      (onSession (s.owner h.streamId) (NetworkRtcApp.handle (.message data relay))).run s := by
    intro hnone
    have hview : (NetworkRtcApp.handle (.message data relay)).run (view g s) =
        ⟨view g s, [], .ok ()⟩ := by
      rw [NetworkRtcApp.run_message, show (view g s).mux.onMessage data = .ok none from hnone]
    have hsame : after (s.owner h.streamId) (view g s) [] s = s := by
      have hset : s.accepted.set (s.owner h.streamId) g = s.accepted := by
        obtain ⟨hlt, hget⟩ := List.getElem?_eq_some_iff.mp hk
        rw [← hget, List.set_getElem_self]
      show { s with accepted := s.accepted.set (s.owner h.streamId) g } = s
      rw [hset]
    rw [run_on_session hk, hview]
    dsimp only
    rw [hsame]
    simp [handle, onMessage, hnone, Except.mapError]
  have hanswer : ∀ upcall, s.mux.onMessage data = .ok (some upcall) →
      (onUpcall relay upcall).run s =
        (onSession (s.owner h.streamId) (NetworkRtcApp.onUpcall relay upcall)).run s →
      (handle (.message data relay)).run s =
        (onSession (s.owner h.streamId) (NetworkRtcApp.handle (.message data relay))).run s := by
    intro upcall hmessage hupcall
    have hsame : (onSession (s.owner h.streamId) (NetworkRtcApp.onUpcall relay upcall)).run s =
        (onSession (s.owner h.streamId) (NetworkRtcApp.handle (.message data relay))).run s := by
      refine on_session_congr fun g _ => ?_
      rw [NetworkRtcApp.run_message,
        show (view g s).mux.onMessage data = .ok (some upcall) from hmessage]
    rw [← hsame, ← hupcall]
    simp [handle, onMessage, hmessage]
  rcases s.mux.on_message_cases data with hnone | ⟨h', payload', hframe', hcase⟩
  · exact hquiet hnone
  · rw [hframe] at hframe'
    cases hframe'
    rcases hcase with ⟨host, port, htype, hpayload, hmessage⟩ | ⟨session', hfind', hcase⟩
    · -- the client never sets `on_syn_`
      refine hquiet ?_
      rw [SessionMux.on_message_eq, hframe]
      simp only [htype, SessionMux.onSynFrame, hpayload, except_ok_bind, hsyn]
      rfl
    · have hid : session'.streamId = h.streamId := SessionManager.stream_id_of_find hfind'
      rcases hcase with ⟨ok, -, hmessage⟩ | hmessage | ⟨-, hmessage⟩ | ⟨byte, rest, -, -, hmessage⟩
      all_goals
        refine hanswer _ hmessage ?_
        rw [← hid]
        rfl

end ClientHost

end RtcVpn
