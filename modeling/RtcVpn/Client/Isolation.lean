import RtcVpn.Client.HostSteps
import RtcVpn.Library.Projection

/-!
# Sessions do not disturb each other

The sessions of a client share the multiplexer, but each one goes through the
run it would go through alone. What carries the argument is that a stream leads
to the session that has registered it, which `gen_stream_id` sees to by drawing
only ids that are not registered, and that a destructor removes no stream but
its own.
-/

namespace RtcVpn

namespace NetworkRtcApp

open Effect

variable {L : Llhttp} {c d : NetworkRtcApp L} {e : AppEvent} {new : List AppAction}

/-- An event that leads to no callback of the session, nor to its destructor. -/
theorem unchanged_of_none (he : e ≠ .destroyed) (hnone : sessionEvent c e = none)
    (hrun : (handle e).run c = ⟨d, new, .ok ()⟩) :
    d.association.session = c.association.session ∧ d.mux = c.mux ∧ d.destroyed = c.destroyed ∧
      new.filterMap sessionAction = [] := by
  cases e with
  | session e => cases hnone
  | destroyed => exact absurd rfl he
  | relay e =>
      obtain ⟨hsession, hmux, hdestroyed, hactions⟩ := run_on_relay e c
      have hrun' : (onAssociation (.relay e)).run c = ⟨d, new, .ok ()⟩ := hrun
      rw [hrun'] at hsession hmux hdestroyed hactions
      exact ⟨hsession, hmux, hdestroyed, hactions⟩
  | message data relay =>
      have hquiet : ∀ o : Outcome (NetworkRtcApp L) AppAction AppFault Unit,
          o = ⟨d, new, .ok ()⟩ → o.state = c → o.actions.filterMap sessionAction = [] →
          d.association.session = c.association.session ∧ d.mux = c.mux ∧
            d.destroyed = c.destroyed ∧ new.filterMap sessionAction = [] := by
        intro o ho hstate hactions
        subst ho
        dsimp only at hstate hactions
        exact ⟨by rw [hstate], by rw [hstate], by rw [hstate], hactions⟩
      rw [run_message] at hrun
      cases hmessage : c.mux.onMessage data with
      | error fault =>
          rw [hmessage] at hrun
          cases hrun
      | ok answer =>
          rw [hmessage] at hrun
          cases answer with
          | none => exact hquiet _ hrun rfl rfl
          | some upcall =>
              dsimp only at hrun
              by_cases hdestroyed : c.destroyed = true
              · exact hquiet _ hrun (by simp [onUpcall, hdestroyed])
                  (by simp [onUpcall, hdestroyed])
              · cases upcall with
                | onSyn streamId host port protocol =>
                    exact hquiet _ hrun (by simp [onUpcall]) (by simp [onUpcall])
                | onDataCtrl session ctrl protocol =>
                    have hctrl : (onUpcall relay (.onDataCtrl session ctrl protocol)).run c =
                        (p2pDataCtrl ctrl protocol).run c := by simp [onUpcall, hdestroyed]
                    obtain ⟨hstate, hactions⟩ := run_p2p_data_ctrl ctrl protocol c
                    exact hquiet _ hrun (by rw [hctrl, hstate]) (by rw [hctrl, hactions])
                | _ => simp [sessionEvent, hdestroyed, hmessage] at hnone

/-- What an event other than the destructor does to the streams of a session: it registers those
it opens, and carries on with the last of them or the one it had. -/
theorem streams_of_run (he : e ≠ .destroyed) (henabled : enabled c e = true)
    (hrun : (handle e).run c = ⟨d, new, .ok ()⟩) :
    d.destroyed = c.destroyed ∧
      d.association.session.sessionId = c.association.session.sessionId ∧
      d.mux = registering c.mux ((new.filterMap sessionAction).filterMap ClientAction.createdId) ∧
      (d.association.session.session = c.association.session.session ∨
        ∃ i ∈ (new.filterMap sessionAction).filterMap ClientAction.createdId,
          d.association.session.session = some i) := by
  have hstep : (networkRtcApp L).step (.ok c) e = some (.ok d, new) := by
    rw [networkRtcApp, machine_step_ok henabled, hrun]
    rfl
  cases hevent : sessionEvent c e with
  | none =>
      obtain ⟨hsession, hmux, hdestroyed, hactions⟩ := unchanged_of_none he hevent hrun
      rw [hsession, hactions]
      exact ⟨hdestroyed, rfl, hmux, .inl rfl⟩
  | some e' =>
      obtain ⟨hhandler, hmux, hdestroyed⟩ := ((app_step hstep).1 e' hevent).alive d rfl
      have htally := Socks5Session.tally_handle e' c.association.session
      have hcreated := created_ids_handle e' c.association.session
      rw [hhandler] at htally hcreated
      dsimp only at htally hcreated
      refine ⟨hdestroyed, htally.sessionId, hmux, ?_⟩
      rw [htally.session]
      split
      · exact .inl rfl
      · next hne =>
          have hle := htally.created
          refine .inr ⟨_, ?_, rfl⟩
          rw [hcreated, htally.syns]
          refine List.mem_map.mpr ⟨_, List.mem_range'_1.mpr ?_, rfl⟩
          omega

/-- The streams that are registered once some more have been. -/
theorem find_registered (mux : SessionMux) (ids : List UInt32) (i : UInt32) :
    (registering mux ids).sessionManager.findSession i =
      if i ∈ ids then some (sessionCallbacks i) else mux.sessionManager.findSession i := by
  induction ids generalizing mux with
  | nil => rfl
  | cons j ids ih =>
      have hone : registering mux (j :: ids) = registering (registering mux [j]) ids := rfl
      have hfind : (registering mux [j]).sessionManager.findSession i =
          if i = j then some (sessionCallbacks j) else mux.sessionManager.findSession i :=
        SessionManager.find_register_session _ _ _
      rw [hone, ih, hfind]
      by_cases hi : i ∈ ids
      · simp [hi]
      · by_cases hij : i = j
        · simp [hij]
        · simp [hi, hij]

/-- The same session in an app with another multiplexer. -/
def SameSession (c d : NetworkRtcApp L) : Prop :=
  c.association = d.association ∧ c.destroyed = d.destroyed

/-- A handler of the session or of its relay does the same on any multiplexer. -/
theorem agrees_on_association (e : AssociationEvent) :
    Agrees SameSession (onAssociation e : Handler L) (onAssociation e) := by
  refine .performing (fun c d h => h.1) (fun a c d h => ⟨rfl, h.2⟩) fun action => ?_
  cases action with
  | relay action => exact .emit _
  | session action =>
      cases action with
      | createSession streamId => exact .bind (.emit _) fun _ => .modify fun c d h => h
      | _ => exact .emit _

theorem agrees_obey (ctrl : CtrlType) {socket socket' : Bool} (h : socket = socket')
    (fault : AssociationFault) (stop start : AppAction) :
    Agrees SameSession (obey ctrl socket fault stop start : Handler L)
      (obey ctrl socket' fault stop start) := by
  subst h
  cases ctrl with
  | pause | receive => exact .ite Iff.rfl (.emit _) (.fail _)
  | other => exact .pure ()

theorem agrees_p2p_data_ctrl (ctrl : CtrlType) (protocol : Protocol) :
    Agrees SameSession (p2pDataCtrl ctrl protocol : Handler L) (p2pDataCtrl ctrl protocol) := by
  refine .get_bind fun c d h => ?_
  cases protocol with
  | udpAssociate =>
      dsimp only
      rw [h.1]
      cases d.association.relay with
      | none => exact .fail _
      | some r => exact agrees_obey ctrl rfl _ _ _
  | httpPlain | socks5Connect | httpsConnect => exact agrees_obey ctrl (by rw [h.1]) _ _ _
  | unknown | other => exact .pure ()

theorem agrees_on_upcall (relay : Option (AddressV4 × UInt16)) (upcall : Upcall) :
    Agrees SameSession (onUpcall relay upcall : Handler L) (onUpcall relay upcall) := by
  refine .get_bind fun c d h => .ite (by rw [h.2]) (.pure ()) ?_
  cases upcall with
  | onSyn => exact .pure ()
  | onDataCtrl session ctrl protocol => exact agrees_p2p_data_ctrl ctrl protocol
  | onSynack | onData | onClose => exact agrees_on_association _

theorem agrees_destroy_session :
    Agrees SameSession (destroySession : Handler L) destroySession := by
  refine .bind (.get_bind fun c d h => ?_) fun _ => .bind (.get_bind fun c d h => ?_) fun _ =>
    .modify fun c d h => ⟨h.1, rfl⟩
  · exact .ite (by rw [h.1]) (agrees_on_association _) (.pure ())
  · rw [h.1]
    cases d.association.session.session with
    | none => exact .pure ()
    | some streamId => exact .modify fun c d h => h

/-- What a session does is decided by the session, its relay and the callback a message invokes. -/
theorem run_same_session {c₁ c₂ : NetworkRtcApp L} (h : SameSession c₁ c₂)
    (hmessage : ∀ data relay, e = .message data relay →
      c₁.mux.onMessage data = c₂.mux.onMessage data) :
    ((handle e).run c₁).actions = ((handle e).run c₂).actions ∧
      ((handle e).run c₁).result = ((handle e).run c₂).result ∧
      SameSession ((handle e).run c₁).state ((handle e).run c₂).state := by
  cases e with
  | session e => exact agrees_on_association (.session e) c₁ c₂ h
  | relay e => exact agrees_on_association (.relay e) c₁ c₂ h
  | destroyed => exact agrees_destroy_session c₁ c₂ h
  | message data relay =>
      rw [run_message, run_message, hmessage data relay rfl]
      cases c₂.mux.onMessage data with
      | error fault => exact ⟨rfl, rfl, h⟩
      | ok answer =>
          cases answer with
          | none => exact ⟨rfl, rfl, h⟩
          | some upcall => exact agrees_on_upcall relay upcall c₁ c₂ h

end NetworkRtcApp

namespace ClientHost

open Effect

variable {L : Llhttp} {s t : ClientHost L} {k : Nat} {e : AppEvent} {out : List ClientHostAction}

/-- The session registered for a stream. -/
abbrev find (s : ClientHost L) (i : UInt32) : Option Session := s.mux.sessionManager.findSession i

/-- What `gen_stream_id` returns is not registered. -/
theorem find_of_free {m : SessionManager} {ids : List UInt32} (h : free m ids = true) :
    ids.Nodup ∧ ∀ i ∈ ids, m.findSession i = none := by
  induction ids generalizing m with
  | nil => exact ⟨List.nodup_nil, by simp⟩
  | cons j ids ih =>
      simp only [free, Bool.and_eq_true, Option.isNone_iff_eq_none] at h
      obtain ⟨⟨-, hj⟩, hrest⟩ := h
      obtain ⟨hnodup, hnone⟩ := ih hrest
      have hother : ∀ i ∈ ids, i ≠ j ∧ m.findSession i = none := by
        intro i hi
        have hi' := hnone i hi
        rw [SessionManager.find_create_session] at hi'
        split at hi'
        · cases hi'
        · next hne => exact ⟨hne, hi'⟩
      refine ⟨List.nodup_cons.mpr ⟨fun hmem => (hother j hmem).1 rfl, hnodup⟩, fun i hi => ?_⟩
      rcases List.mem_cons.mp hi with rfl | hi
      · exact hj
      · exact (hother i hi).2

/-- From `s` to `t` session `k` registers streams that were free, or is destroyed and with it the
last of its streams. -/
structure Moved (k : Nat) (s t : ClientHost L) (g g' : AcceptedSession L) : Prop where
  before : s.accepted[k]? = some g
  accepted : t.accepted = s.accepted.set k g'
  sessionId : g'.association.session.sessionId = g.association.session.sessionId
  sendFunc : t.mux.sendFunc = s.mux.sendFunc
  onSyn : t.mux.onSyn = s.mux.onSyn
  sessions : ∀ id j, t.sessions.lookup id = some j → s.sessions.lookup id = some j
  streams :
    (g'.destroyed = g.destroyed ∧ ∃ ids : List UInt32, (∀ i ∈ ids, s.find i = none) ∧
        (∀ i, t.find i = if i ∈ ids then some (NetworkRtcApp.sessionCallbacks i) else s.find i) ∧
        (∀ i, t.owner i = if i ∈ ids then k else s.owner i) ∧
        (g'.association.session.session = g.association.session.session ∨
          ∃ i ∈ ids, g'.association.session.session = some i)) ∨
      (k ∉ s.held ∧ g.destroyed = false ∧ g'.destroyed = true ∧ t.owner = s.owner ∧
        ∀ i, t.find i = if g.association.session.session = some i then none else s.find i)

/-- What the destructor of a session leaves registered. -/
theorem find_unregistered (c : NetworkRtcApp L) (i : UInt32) :
    (NetworkRtcApp.unregistered c).sessionManager.findSession i =
      if c.association.session.session = some i then none
      else c.mux.sessionManager.findSession i := by
  unfold NetworkRtcApp.unregistered
  split
  · next j hj =>
      have hfind : (c.withSessions (·.removeSession j)).mux.sessionManager.findSession i =
          if i = j then none else c.mux.sessionManager.findSession i :=
        SessionManager.find_remove_session _ _ _
      rw [hfind, hj]
      by_cases hij : i = j
      · simp [hij]
      · rw [if_neg hij, if_neg (fun h => hij (Option.some.inj h).symm)]
  · next hnone => rw [if_neg (by simp [hnone])]

theorem SessionMove.moved (h : SessionMove k e s t out) : ∃ g g', Moved k s t g g' := by
  obtain ⟨g, c, as, hk, henabled, hrun, rfl, -, hfree⟩ := h.move
  refine ⟨g, ⟨c.association, c.destroyed⟩, ?_⟩
  by_cases he : e = .destroyed
  · subst he
    obtain ⟨hactions, halive⟩ := NetworkRtcApp.run_destroy_session (view g s)
    have hrun' : (NetworkRtcApp.destroySession).run (view g s) = ⟨c, as, .ok ()⟩ := hrun
    rw [hrun'] at hactions halive
    obtain ⟨hsession, hdestroyed, hmux⟩ := halive rfl
    dsimp only at hactions hsession hdestroyed hmux
    have hids : createdIds as = [] := by
      rw [createdIds, hactions]
      rfl
    have hlive : g.destroyed = false := by
      simp only [NetworkRtcApp.enabled, view, Bool.and_eq_true, Bool.not_eq_true'] at henabled
      exact henabled.1
    refine ⟨hk, after_accepted k c as s, by rw [hsession]; rfl, ?_, ?_,
      fun id j => lookup_after k c as s, .inr ⟨h.released rfl, hlive, hdestroyed, ?_, fun i => ?_⟩⟩
    · rw [after_mux, hmux, NetworkRtcApp.unregistered]
      split <;> rfl
    · rw [after_mux, hmux, NetworkRtcApp.unregistered]
      split <;> rfl
    · funext i
      rw [after_owner, hids, if_neg (by simp)]
    · rw [find, after_mux, hmux, find_unregistered]
      rfl
  · obtain ⟨hdestroyed, hid, hmux, hsession⟩ := NetworkRtcApp.streams_of_run he henabled hrun
    refine ⟨hk, after_accepted k c as s, hid, by rw [after_mux, hmux]; rfl,
      by rw [after_mux, hmux]; rfl, fun id j => lookup_after k c as s,
      .inl ⟨hdestroyed, createdIds as, (find_of_free hfree).2, fun i => ?_, after_owner k c as s,
        hsession⟩⟩
    rw [find, after_mux, hmux, NetworkRtcApp.find_registered]
    rfl

/-! ## What holds at any time -/

/-- Every registered stream leads to a session that has been made, every session that is not
destroyed has its stream registered for itself, and `sessions_` holds such sessions only, each
under its own id. -/
structure Sound (s : ClientHost L) : Prop where
  sendFunc : s.mux.sendFunc = true
  onSyn : s.mux.onSyn = false
  known : ∀ i session, s.find i = some session → session = NetworkRtcApp.sessionCallbacks i
  led : ∀ i, (s.find i).isSome → s.owner i < s.accepted.length
  own : ∀ k g i, s.accepted[k]? = some g → g.destroyed = false →
    g.association.session.session = some i → (s.find i).isSome ∧ s.owner i = k
  held : ∀ id k, s.sessions.lookup id = some k → ∃ g, s.accepted[k]? = some g ∧
    g.destroyed = false ∧ g.association.session.sessionId = id

theorem sound_started (peerConnId : UInt32) : Sound (started L peerConnId) where
  sendFunc := rfl
  onSyn := rfl
  known i session h := by cases h
  led i h := by cases h
  own k g i hk := by cases hk
  held id k h := by simp [started] at h

theorem mem_held {k : Nat} : k ∈ s.held ↔ ∃ id, s.sessions.lookup id = some k := by
  rw [held, List.mem_map]
  constructor
  · rintro ⟨⟨id, j⟩, hmem, rfl⟩
    exact ⟨id, AList.mem_lookup_iff.mpr hmem⟩
  · rintro ⟨id, hid⟩
    exact ⟨⟨id, k⟩, AList.mem_lookup_iff.mp hid, rfl⟩

/-- The session at an index once one of them has changed. -/
theorem get_set {α : Type} {xs : List α} {j k : Nat} {x y : α}
    (h : (xs.set k x)[j]? = some y) : (j = k ∧ y = x) ∨ (j ≠ k ∧ xs[j]? = some y) := by
  by_cases hjk : j = k
  · subst hjk
    rw [List.getElem?_set_self'] at h
    cases hx : xs[j]? with
    | none => simp [hx] at h
    | some z =>
        simp only [hx, Option.map_eq_map, Option.map_some, Option.some.injEq] at h
        exact .inl ⟨rfl, h.symm⟩
  · rw [List.getElem?_set_ne (Ne.symm hjk)] at h
    exact .inr ⟨hjk, h⟩

theorem Sound.moved {g g' : AcceptedSession L} (hs : Sound s) (h : Moved k s t g g') :
    Sound t := by
  have hlength : t.accepted.length = s.accepted.length := by
    rw [h.accepted, List.length_set]
  have hk : k < s.accepted.length := (List.getElem?_eq_some_iff.mp h.before).1
  have hself : t.accepted[k]? = some g' := by
    rw [h.accepted]
    exact List.getElem?_set_self hk
  have hothers : ∀ j, j ≠ k → t.accepted[j]? = s.accepted[j]? := fun j hj => by
    rw [h.accepted, List.getElem?_set_ne (Ne.symm hj)]
  rcases h.streams with ⟨hsame, ids, hfree, hfind, howner, hsession⟩ |
      ⟨hreleased, hlive, hdestroyed, howner, hfind⟩
  · refine ⟨h.sendFunc.trans hs.sendFunc, h.onSyn.trans hs.onSyn, fun i session hi => ?_,
      fun i hi => ?_, fun j x i hj hx hi => ?_, fun id j hj => ?_⟩
    · rw [hfind] at hi
      split at hi
      · exact (Option.some.inj hi).symm
      · exact hs.known i session hi
    · rw [howner, hlength]
      split
      · exact hk
      · next hmem =>
          rw [hfind, if_neg hmem] at hi
          exact hs.led i hi
    · rw [h.accepted] at hj
      -- a stream that was registered before is none of the new ones
      have hold : ∀ j', (s.find i).isSome ∧ s.owner i = j' →
          (t.find i).isSome ∧ t.owner i = j' := by
        intro j' hold
        have hmem : i ∉ ids := fun hmem => by simp [hfree i hmem] at hold
        rw [hfind, howner, if_neg hmem, if_neg hmem]
        exact hold
      rcases get_set hj with ⟨rfl, rfl⟩ | ⟨-, hj⟩
      · rcases hsession with hsession | ⟨i', hmem, hi'⟩
        · exact hold _ (hs.own _ g i h.before (hsame.symm.trans hx) (hsession.symm.trans hi))
        · obtain rfl : i = i' := by
            rw [hi] at hi'
            exact Option.some.inj hi'
          rw [hfind, howner, if_pos hmem, if_pos hmem]
          exact ⟨rfl, rfl⟩
      · exact hold _ (hs.own j x i hj hx hi)
    · obtain ⟨x, hx, hnot, hid⟩ := hs.held id j (h.sessions id j hj)
      by_cases hjk : j = k
      · subst hjk
        rw [h.before] at hx
        cases hx
        exact ⟨g', hself, hsame.trans hnot, h.sessionId.trans hid⟩
      · exact ⟨x, (hothers j hjk).trans hx, hnot, hid⟩
  · refine ⟨h.sendFunc.trans hs.sendFunc, h.onSyn.trans hs.onSyn, fun i session hi => ?_,
      fun i hi => ?_, fun j x i hj hx hi => ?_, fun id j hj => ?_⟩
    · rw [hfind] at hi
      split at hi
      · cases hi
      · exact hs.known i session hi
    · rw [howner, hlength]
      rw [hfind] at hi
      split at hi
      · cases hi
      · exact hs.led i hi
    · rw [h.accepted] at hj
      rcases get_set hj with ⟨rfl, rfl⟩ | ⟨hjk, hj⟩
      · rw [hdestroyed] at hx
        cases hx
      · obtain ⟨hsome, hown⟩ := hs.own j x i hj hx hi
        have hne : g.association.session.session ≠ some i := by
          intro hg
          exact hjk (hown.symm.trans (hs.own k g i h.before hlive hg).2)
        rw [hfind, if_neg hne, howner]
        exact ⟨hsome, hown⟩
    · have hj' := h.sessions id j hj
      obtain ⟨x, hx, hnot, hid⟩ := hs.held id j hj'
      have hjk : j ≠ k := by
        rintro rfl
        exact hreleased (mem_held.mpr ⟨id, hj'⟩)
      exact ⟨x, (hothers j hjk).trans hx, hnot, hid⟩

end ClientHost

end RtcVpn
