import RtcVpn.Client.Closing
import RtcVpn.Client.NetworkRtcApp

/-!
# The steps of the client's end

A step of the app runs one handler of its session, or leaves the session alone.
Which of the two, and which handler, is told by `sessionEvent`.
-/

namespace RtcVpn

namespace Association

open Effect

variable {L : Llhttp}

/-! ## The session within its association -/

/-- The action of the session that an action of its association is. -/
def sessionAction : AssociationAction → Option ClientAction
  | .session action => some action
  | .relay _ => none

/-- Carrying out the session's actions leaves the session alone, and stops after one if it stops. -/
theorem run_carry_out_all (as : List ClientAction) (a : Association L) :
    ((forEach as carryOut).run a).state.session = a.session ∧
      ((forEach as carryOut).run a).actions.filterMap sessionAction <+: as ∧
      (((forEach as carryOut).run a).result = .ok () →
        ((forEach as carryOut).run a).actions.filterMap sessionAction = as) := by
  induction as generalizing a with
  | nil => exact ⟨rfl, List.prefix_refl _, fun _ => rfl⟩
  | cons x as ih =>
      -- one action, which is taken whether or not the relay stops at it
      have hone : ((carryOut x).run a).state.session = a.session ∧
          ((carryOut x).run a).actions.filterMap sessionAction = [x] := by
        cases x with
        | revP2pData data =>
            cases hrelay : a.relay with
            | none => simp [carryOut, onRelay, hrelay, sessionAction]
            | some r =>
                simp [carryOut, run_on_relay hrelay, sessionAction, List.filterMap_map,
                  Function.comp_def]
        | _ => exact ⟨rfl, rfl⟩
      obtain ⟨hsession, hactions⟩ := hone
      rw [forEach, run_bind]
      generalize (carryOut x).run a = o at hsession hactions ⊢
      obtain ⟨b, bs, result⟩ := o
      cases result with
      | error fault =>
          rw [andThen_error]
          refine ⟨hsession, ?_, fun hok => by cases hok⟩
          rw [hactions]
          exact ⟨as, rfl⟩
      | ok _ =>
          obtain ⟨hstate, hprefix', hall⟩ := ih b
          rw [andThen_ok]
          refine ⟨hstate.trans hsession, ?_, fun hok => ?_⟩
          · rw [List.filterMap_append, hactions]
            exact List.prefix_cons_inj x |>.mpr hprefix'
          · rw [List.filterMap_append, hactions, hall hok]
            rfl

/-- Actions of which none is for the relay are all taken. -/
theorem run_carry_out_whole {as : List ClientAction} (has : ∀ data, .revP2pData data ∉ as)
    (a : Association L) : ((forEach as carryOut).run a).actions.filterMap sessionAction = as := by
  refine (run_carry_out_all as a).2.2 ?_
  induction as generalizing a with
  | nil => rfl
  | cons x as ih =>
      have hone : ∃ b bs, (carryOut x).run a = ⟨b, bs, .ok ()⟩ := by
        cases x with
        | revP2pData data => exact absurd List.mem_cons_self (has data)
        | _ => exact ⟨_, _, rfl⟩
      obtain ⟨b, bs, hrun⟩ := hone
      rw [forEach, run_bind, hrun, andThen_ok]
      exact ih (fun data hmem => has data (List.mem_cons_of_mem x hmem)) b

/-- What the association does with an event of its session is what the session does. -/
theorem run_session (e : ClientEvent) (a : Association L) :
    ((handle (.session e)).run a).state.session = ((Socks5Session.handle e).run a.session).state ∧
      ((handle (.session e)).run a).actions.filterMap sessionAction <+:
        ((Socks5Session.handle e).run a.session).actions ∧
      (((handle (.session e)).run a).result = .ok () →
        ((Socks5Session.handle e).run a.session).result = .ok () ∧
        ((handle (.session e)).run a).actions.filterMap sessionAction =
          ((Socks5Session.handle e).run a.session).actions) := by
  rw [handle, run_performing]
  generalize (Socks5Session.handle e).run a.session = o
  obtain ⟨s, as, result⟩ := o
  obtain ⟨hsession, hprefix', hall⟩ := run_carry_out_all as { a with session := s }
  refine ⟨hsession, hprefix', fun hok => ?_⟩
  dsimp only at hok ⊢
  generalize (forEach as carryOut).run { a with session := s } = done at hok hall ⊢
  obtain ⟨b, bs, _ | _⟩ := done
  · cases hok
  · refine ⟨?_, hall rfl⟩
    cases result with
    | error fault => cases hok
    | ok _ => rfl

/-- The events of the relay are none of the session's business. -/
theorem run_relay (e : RelayEvent) (a : Association L) :
    ((handle (.relay e)).run a).state.session = a.session ∧
      ((handle (.relay e)).run a).actions.filterMap sessionAction = [] := by
  rw [handle]
  cases hrelay : a.relay with
  | none => simp [onRelay, hrelay]
  | some r =>
      simp [run_on_relay hrelay, sessionAction, List.filterMap_map, Function.comp_def]

end Association

namespace NetworkRtcApp

open Effect

variable {L : Llhttp}

/-! ## The session within the app -/

/-- The action of the session that an action of the app is. -/
def sessionAction : AppAction → Option ClientAction
  | .association action => Association.sessionAction action
  | _ => none

/-- The callback of the session that an event of the app leads to. -/
def sessionEvent (c : NetworkRtcApp L) : AppEvent → Option ClientEvent
  | .session event => some event
  | .message data relay =>
      if c.destroyed then none
      else
        match c.mux.onMessage data with
        | .ok (some (.onSynack _ ok protocol)) => some (.synack ok protocol relay)
        | .ok (some (.onData _ payload protocol)) => some (.data payload protocol)
        | .ok (some (.onClose _ protocol)) => some (.fin protocol)
        | _ => none
  | .relay _ | .destroyed => none

/-- The app once its session has taken an action. -/
def carried : AssociationAction → NetworkRtcApp L → NetworkRtcApp L
  | .session (.createSession streamId), c =>
      c.withSessions (·.registerSession (sessionCallbacks streamId))
  | _, c => c

theorem run_carry_out (a : AssociationAction) (c : NetworkRtcApp L) :
    (carryOut a).run c = ⟨carried a c, [.association a], .ok ()⟩ := by
  cases a with
  | relay action => rfl
  | session action => cases action <;> rfl

/-- What the handlers of the association do within the app. -/
theorem run_on_association (e : AssociationEvent) (c : NetworkRtcApp L) :
    (onAssociation e).run c =
      ⟨((Association.handle e).run c.association).actions.foldl (fun c a => carried a c)
          { c with association := ((Association.handle e).run c.association).state },
        ((Association.handle e).run c.association).actions.map .association,
        ((Association.handle e).run c.association).result.mapError .association⟩ := by
  rw [onAssociation, run_performing, run_forEach run_carry_out, ← List.map_eq_flatMap]
  cases ((Association.handle e).run c.association).result <;> rfl

@[simp] theorem carried_association (as : List AssociationAction) (c : NetworkRtcApp L) :
    (as.foldl (fun c a => carried a c) c).association = c.association := by
  induction as generalizing c with
  | nil => rfl
  | cons a as ih =>
      rw [List.foldl_cons, ih]
      cases a with
      | relay action => rfl
      | session action => cases action <;> rfl

@[simp] theorem carried_destroyed (as : List AssociationAction) (c : NetworkRtcApp L) :
    (as.foldl (fun c a => carried a c) c).destroyed = c.destroyed := by
  induction as generalizing c with
  | nil => rfl
  | cons a as ih =>
      rw [List.foldl_cons, ih]
      cases a with
      | relay action => rfl
      | session action => cases action <;> rfl

/-- The multiplexer once streams have been registered. -/
def registering (mux : SessionMux) (ids : List UInt32) : SessionMux :=
  { mux with sessionManager :=
      ids.foldl (fun m i => m.registerSession (sessionCallbacks i)) mux.sessionManager }

@[simp] theorem carried_mux (as : List AssociationAction) (c : NetworkRtcApp L) :
    (as.foldl (fun c a => carried a c) c).mux =
      registering c.mux ((as.filterMap Association.sessionAction).filterMap
        ClientAction.createdId) := by
  induction as generalizing c with
  | nil => rfl
  | cons a as ih =>
      rw [List.foldl_cons, ih]
      cases a with
      | relay action => rfl
      | session action => cases action <;> rfl

theorem session_actions_map (as : List AssociationAction) :
    (as.map AppAction.association).filterMap sessionAction =
      as.filterMap Association.sessionAction := by
  rw [List.filterMap_map]
  rfl

/-- What an event that leads to a callback of the session does. -/
structure SessionStep (c : NetworkRtcApp L) (e : ClientEvent)
    (x : Except AppFault (NetworkRtcApp L))
    (new : List AppAction) : Prop where
  actions : new.filterMap sessionAction <+:
    ((Socks5Session.handle e).run c.association.session).actions
  whole : (∀ data, .revP2pData data ∉
      ((Socks5Session.handle e).run c.association.session).actions) →
    new.filterMap sessionAction = ((Socks5Session.handle e).run c.association.session).actions
  alive : ∀ d, x = .ok d →
    (Socks5Session.handle e).run c.association.session =
      ⟨d.association.session, new.filterMap sessionAction, .ok ()⟩ ∧
    d.mux = registering c.mux ((new.filterMap sessionAction).filterMap ClientAction.createdId) ∧
    d.destroyed = c.destroyed

/-- What an event that leads to no callback of the session does. -/
structure OtherStep (c : NetworkRtcApp L) (x : Except AppFault (NetworkRtcApp L))
    (new : List AppAction) : Prop where
  actions : new.filterMap sessionAction = []
  alive : ∀ d, x = .ok d → d.association.session = c.association.session ∧
    ((d.mux = c.mux ∧ d.destroyed = c.destroyed) ∨
      (c.association.session.tcpSocket = false ∧ d.destroyed = true ∧
        d.mux.sendFunc = c.mux.sendFunc ∧ d.mux.onSyn = c.mux.onSyn ∧
        ∀ i s, d.mux.sessionManager.findSession i = some s →
          c.mux.sessionManager.findSession i = some s))

variable {c : NetworkRtcApp L} {x : Except AppFault (NetworkRtcApp L)} {new : List AppAction}

theorem session_step_of_run {e : ClientEvent}
    (hx : x = ((onAssociation (.session e)).run c).result.map fun _ =>
      ((onAssociation (.session e)).run c).state)
    (hnew : new = ((onAssociation (.session e)).run c).actions) : SessionStep c e x new := by
  obtain ⟨hsession, hactions, hall⟩ := Association.run_session e c.association
  have hwhole : (∀ data, .revP2pData data ∉
        ((Socks5Session.handle e).run c.association.session).actions) →
      new.filterMap sessionAction =
        ((Socks5Session.handle e).run c.association.session).actions := by
    intro hnone
    rw [hnew, run_on_association, session_actions_map, Association.handle, run_performing]
    exact Association.run_carry_out_whole hnone _
  rw [run_on_association] at hx hnew
  generalize (Association.handle (.session e)).run c.association = o
    at hx hnew hsession hactions hall
  obtain ⟨a, as, result⟩ := o
  generalize hrun : (Socks5Session.handle e).run c.association.session = i at hsession hactions hall
  obtain ⟨s, acts, answer⟩ := i
  dsimp only at hx hnew hsession hactions hall
  have hnew' : new.filterMap sessionAction = as.filterMap Association.sessionAction := by
    rw [hnew, session_actions_map]
  refine ⟨?_, hrun ▸ hwhole, ?_⟩
  · rw [hnew', hrun]
    exact hactions
  · intro d hd
    rw [hx] at hd
    cases result with
    | error fault => cases hd
    | ok _ =>
        cases hd
        obtain ⟨rfl, hsame⟩ := hall rfl
        rw [hnew', carried_association, carried_mux, carried_destroyed, hsame, hsession]
        exact ⟨hrun, rfl, rfl⟩

/-- A step that changes neither the session nor what is registered. -/
theorem OtherStep.of_same (hnew : new.filterMap sessionAction = [])
    (hx : ∀ d, x = .ok d → d.association.session = c.association.session ∧ d.mux = c.mux ∧
      d.destroyed = c.destroyed) : OtherStep c x new where
  actions := hnew
  alive d hd := ⟨(hx d hd).1, .inl (hx d hd).2⟩

/-- The events of the relay. -/
theorem run_on_relay (e : RelayEvent) (c : NetworkRtcApp L) :
    ((onAssociation (.relay e)).run c).state.association.session = c.association.session ∧
      ((onAssociation (.relay e)).run c).state.mux = c.mux ∧
      ((onAssociation (.relay e)).run c).state.destroyed = c.destroyed ∧
      ((onAssociation (.relay e)).run c).actions.filterMap sessionAction = [] := by
  obtain ⟨hsession, hactions⟩ := Association.run_relay e c.association
  rw [run_on_association, session_actions_map, carried_association, carried_mux, carried_destroyed,
    hactions]
  exact ⟨hsession, rfl, rfl, rfl⟩

/-- What a control value makes the app do. -/
theorem run_obey (ctrl : CtrlType) (socket : Bool) (fault : AssociationFault)
    {stop start : AppAction} (hstop : sessionAction stop = none)
    (hstart : sessionAction start = none)
    (c : NetworkRtcApp L) :
    ((obey ctrl socket fault stop start).run c).state = c ∧
      ((obey ctrl socket fault stop start).run c).actions.filterMap sessionAction = [] := by
  cases ctrl <;> cases socket <;> simp [obey, hstop, hstart]

theorem run_p2p_data_ctrl (ctrl : CtrlType) (protocol : Protocol) (c : NetworkRtcApp L) :
    ((p2pDataCtrl ctrl protocol).run c).state = c ∧
      ((p2pDataCtrl ctrl protocol).run c).actions.filterMap sessionAction = [] := by
  cases protocol with
  | udpAssociate =>
      cases hrelay : c.association.relay with
      | none => simp [p2pDataCtrl, hrelay]
      | some r => simpa [p2pDataCtrl, hrelay] using run_obey ctrl r.socket _ rfl rfl c
  | httpPlain | socks5Connect | httpsConnect =>
      simpa [p2pDataCtrl] using run_obey ctrl _ _ rfl rfl c
  | unknown | other => simp [p2pDataCtrl]

/-- The multiplexer once the session has been destroyed. -/
def unregistered (c : NetworkRtcApp L) : SessionMux :=
  match c.association.session.session with
  | some i => (c.withSessions (·.removeSession i)).mux
  | none => c.mux

/-- The destructor of the session. -/
theorem run_destroy_session (c : NetworkRtcApp L) :
    (destroySession.run c).actions.filterMap sessionAction = [] ∧
      ((destroySession.run c).result = .ok () →
        (destroySession.run c).state.association.session = c.association.session ∧
        (destroySession.run c).state.destroyed = true ∧
        (destroySession.run c).state.mux = unregistered c) := by
  have hclose : ((closeRelay : Handler L).run c).state.association.session = c.association.session ∧
      (closeRelay.run c).state.mux = c.mux ∧
      (closeRelay.run c).actions.filterMap sessionAction = [] := by
    obtain ⟨hsession, hmux, -, hactions⟩ := run_on_relay .close c
    rw [closeRelay, run_bind, run_get, andThen_ok, run_ite]
    split
    · exact ⟨hsession, hmux, hactions⟩
    · exact ⟨rfl, rfl, rfl⟩
  obtain ⟨hsession, hmux, hactions⟩ := hclose
  rw [destroySession, run_bind]
  generalize (closeRelay : Handler L).run c = o at hsession hmux hactions ⊢
  obtain ⟨d, as, _ | _⟩ := o
  · exact ⟨hactions, nofun⟩
  · dsimp only at hsession hmux hactions
    cases hstream : c.association.session.session <;>
      simp [removeSession, hactions, hsession, hmux, unregistered, hstream, withSessions]

/-- The app once its session has been destroyed knows no stream that it did not know before. -/
theorem find_unregistered {i : UInt32} {s : Session}
    (h : (unregistered c).sessionManager.findSession i = some s) :
    c.mux.sessionManager.findSession i = some s := by
  unfold unregistered at h
  split at h
  · next j _ =>
      have hfind : (c.mux.sessionManager.removeSession j).findSession i = some s := h
      rw [SessionManager.find_remove_session] at hfind
      split at hfind
      · cases hfind
      · exact hfind
  · exact h

/-- A handler that leaves the app alone but for its relay. -/
theorem OtherStep.of_run {o : Outcome (NetworkRtcApp L) AppAction AppFault Unit}
    (hx : x = o.result.map fun _ => o.state) (hnew : new = o.actions)
    (hsession : o.state.association.session = c.association.session) (hmux : o.state.mux = c.mux)
    (hdestroyed : o.state.destroyed = c.destroyed)
    (hactions : o.actions.filterMap sessionAction = []) : OtherStep c x new := by
  refine .of_same (hnew ▸ hactions) fun d hd => ?_
  rw [hx] at hd
  cases hresult : o.result with
  | error fault =>
      rw [hresult] at hd
      cases hd
  | ok _ =>
      rw [hresult] at hd
      cases hd
      exact ⟨hsession, hmux, hdestroyed⟩

/-- What a message makes the app do. -/
theorem run_message (data : Bytes) (relay : Option (AddressV4 × UInt16)) :
    (handle (.message data relay)).run c =
      match c.mux.onMessage data with
      | .error fault => ⟨c, [], .error (.access fault)⟩
      | .ok none => ⟨c, [], .ok ()⟩
      | .ok (some upcall) => (onUpcall relay upcall).run c := by
  cases hmessage : c.mux.onMessage data with
  | error fault => simp [handle, onMessage, hmessage]
  | ok upcall => cases upcall <;> simp [handle, onMessage, hmessage]

/-- A handler that leaves the whole app alone. -/
theorem OtherStep.of_quiet {o : Outcome (NetworkRtcApp L) AppAction AppFault Unit}
    (hx : x = o.result.map fun _ => o.state) (hnew : new = o.actions) (hstate : o.state = c)
    (hactions : o.actions.filterMap sessionAction = []) : OtherStep c x new :=
  .of_run hx hnew (by rw [hstate]) (by rw [hstate]) (by rw [hstate]) hactions

/-- The destructor of a session whose socket has been closed. -/
theorem OtherStep.of_destroy (hsocket : c.association.session.tcpSocket = false)
    (hx : x = ((destroySession : Handler L).run c).result.map fun _ => (destroySession.run c).state)
    (hnew : new = ((destroySession : Handler L).run c).actions) : OtherStep c x new := by
  obtain ⟨hactions, halive⟩ := run_destroy_session c
  refine ⟨hnew ▸ hactions, fun d hd => ?_⟩
  rw [hx] at hd
  cases hresult : (destroySession.run c).result with
  | error fault =>
      rw [hresult] at hd
      cases hd
  | ok _ =>
      rw [hresult] at hd
      cases hd
      obtain ⟨hsession, hdestroyed, hmux⟩ := halive hresult
      refine ⟨hsession, .inr ⟨hsocket, hdestroyed, ?_, ?_, fun i s hfind => ?_⟩⟩
      · rw [hmux, unregistered]
        split <;> rfl
      · rw [hmux, unregistered]
        split <;> rfl
      · rw [hmux] at hfind
        exact find_unregistered hfind

/-- An event that leads to no callback of the session. -/
theorem other_of_none {e : AppEvent} (hnone : sessionEvent c e = none) (h : OtherStep c x new) :
    (∀ e', sessionEvent c e = some e' → SessionStep c e' x new) ∧
      (sessionEvent c e = none → OtherStep c x new) := by
  rw [hnone]
  exact ⟨fun _ he => (by cases he), fun _ => h⟩

/-- A callback of the multiplexer is one of the session, or leaves the session alone. -/
theorem upcall_step {data : Bytes} {relay : Option (AddressV4 × UInt16)} {upcall : Upcall}
    (hmessage : c.mux.onMessage data = .ok (some upcall))
    (hx : x = ((onUpcall relay upcall).run c).result.map fun _ =>
      ((onUpcall relay upcall).run c).state)
    (hnew : new = ((onUpcall relay upcall).run c).actions) :
    (∀ e', sessionEvent c (.message data relay) = some e' → SessionStep c e' x new) ∧
      (sessionEvent c (.message data relay) = none → OtherStep c x new) := by
  by_cases hdestroyed : c.destroyed = true
  · have hrun : (onUpcall relay upcall).run c = ⟨c, [], .ok ()⟩ := by
      simp [onUpcall, hdestroyed]
    rw [hrun] at hx hnew
    exact other_of_none (by simp [sessionEvent, hdestroyed]) (.of_quiet hx hnew rfl rfl)
  have hevent : ∀ e'', sessionEvent c (.message data relay) = some e'' →
      (onUpcall relay upcall).run c = (onAssociation (.session e'')).run c →
      (∀ e', sessionEvent c (.message data relay) = some e' → SessionStep c e' x new) ∧
        (sessionEvent c (.message data relay) = none → OtherStep c x new) := by
    intro e'' he hrun
    rw [hrun] at hx hnew
    rw [he]
    refine ⟨?_, nofun⟩
    rintro _ ⟨⟩
    exact session_step_of_run hx hnew
  cases upcall with
  | onSyn streamId host port protocol =>
      have hrun : (onUpcall relay (.onSyn streamId host port protocol)).run c =
          ⟨c, [], .ok ()⟩ := by simp [onUpcall]
      rw [hrun] at hx hnew
      exact other_of_none (by simp [sessionEvent, hdestroyed, hmessage])
        (.of_quiet hx hnew rfl rfl)
  | onDataCtrl session ctrl protocol =>
      have hrun : (onUpcall relay (.onDataCtrl session ctrl protocol)).run c =
          (p2pDataCtrl ctrl protocol).run c := by simp [onUpcall, hdestroyed]
      rw [hrun] at hx hnew
      obtain ⟨hstate, hactions⟩ := run_p2p_data_ctrl ctrl protocol c
      exact other_of_none (by simp [sessionEvent, hdestroyed, hmessage])
        (.of_quiet hx hnew hstate hactions)
  | onSynack session ok protocol =>
      exact hevent (.synack ok protocol relay)
        (by simp [sessionEvent, hdestroyed, hmessage]) (by simp [onUpcall, hdestroyed])
  | onData session payload protocol =>
      exact hevent (.data payload protocol)
        (by simp [sessionEvent, hdestroyed, hmessage]) (by simp [onUpcall, hdestroyed])
  | onClose session protocol =>
      exact hevent (.fin protocol)
        (by simp [sessionEvent, hdestroyed, hmessage]) (by simp [onUpcall, hdestroyed])

/-- A step of the app is one of its session, or leaves the session alone. -/
theorem app_step {e : AppEvent} (hstep : (networkRtcApp L).step (.ok c) e = some (x, new)) :
    (∀ e', sessionEvent c e = some e' → SessionStep c e' x new) ∧
      (sessionEvent c e = none → OtherStep c x new) := by
  obtain ⟨_, hc, henabled, hx, hnew⟩ := machine_step_eq_some hstep
  cases hc
  cases e with
  | session e =>
      refine ⟨?_, nofun⟩
      rintro _ ⟨⟩
      exact session_step_of_run hx hnew
  | relay e =>
      obtain ⟨hsession, hmux, hdestroyed, hactions⟩ := run_on_relay e c
      exact other_of_none rfl (.of_run hx hnew hsession hmux hdestroyed hactions)
  | destroyed =>
      have hsocket : c.association.session.tcpSocket = false := by
        simp only [enabled, Bool.and_eq_true, Bool.not_eq_true'] at henabled
        exact henabled.2
      exact other_of_none rfl (.of_destroy hsocket hx hnew)
  | message data relay =>
      rw [run_message] at hx hnew
      cases hmessage : c.mux.onMessage data with
      | error fault =>
          rw [hmessage] at hx hnew
          exact other_of_none (by simp [sessionEvent, hmessage]) (.of_quiet hx hnew rfl rfl)
      | ok answer =>
          rw [hmessage] at hx hnew
          cases answer with
          | none =>
              exact other_of_none (by simp [sessionEvent, hmessage]) (.of_quiet hx hnew rfl rfl)
          | some upcall => exact upcall_step hmessage hx hnew

end NetworkRtcApp

end RtcVpn
