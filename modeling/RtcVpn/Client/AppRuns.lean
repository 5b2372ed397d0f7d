import RtcVpn.Client.AppSteps
import RtcVpn.Server.Closing

/-!
# Runs of the client's end

What holds of the app in every run: it knows the streams that its session has
opened, with their callbacks, until the session is destroyed, and its session
has sent one `FIN` frame at most.
-/

namespace RtcVpn

/-- The `FIN` frames among what the app does. -/
def AppAction.finId (a : AppAction) : Option UInt32 :=
  (NetworkRtcApp.sessionAction a).bind ClientAction.finId

/-- The `SYN` frames among what the app does. -/
def AppAction.synId (a : AppAction) : Option UInt32 :=
  (NetworkRtcApp.sessionAction a).bind ClientAction.synId

namespace NetworkRtcApp

open Effect

variable {L : Llhttp} {c : NetworkRtcApp L} {es : List AppEvent} {out new : List AppAction}

/-- An app whose session began in a state, after some actions. -/
structure Upkeep (s : Socks5Session L) (out : List AppAction) (c : NetworkRtcApp L) : Prop where
  tally : Socks5Session.Tally s (out.filterMap sessionAction) c.association.session
  sendFunc : c.mux.sendFunc = true
  onSyn : c.mux.onSyn = false
  known : ∀ i session, c.mux.sessionManager.findSession i = some session →
    session = sessionCallbacks i
  registered : c.destroyed = false → ∀ i ∈ out.filterMap AppAction.synId,
    (c.mux.sessionManager.findSession i).isSome
  destroyed : c.destroyed = true → c.association.session.tcpSocket = false
  fins : c.association.session.tcpSocket = true → out.filterMap AppAction.finId = []

theorem fin_ids_eq (as : List AppAction) :
    as.filterMap AppAction.finId = (as.filterMap sessionAction).filterMap ClientAction.finId := by
  rw [List.filterMap_filterMap]
  rfl

theorem syn_ids_eq (as : List AppAction) :
    as.filterMap AppAction.synId = (as.filterMap sessionAction).filterMap ClientAction.synId := by
  rw [List.filterMap_filterMap]
  rfl

/-- Where the session does nothing, it opens no stream and sends no `FIN` frame. -/
theorem ids_of_quiet (out : List AppAction) (h : new.filterMap sessionAction = []) :
    (out ++ new).filterMap AppAction.synId = out.filterMap AppAction.synId ∧
      (out ++ new).filterMap AppAction.finId = out.filterMap AppAction.finId := by
  rw [List.filterMap_append, List.filterMap_append, syn_ids_eq new, fin_ids_eq new, h]
  simp

/-- What is registered is known by the callbacks of a session, if it was before. -/
theorem find_registering {mux : SessionMux} (ids : List UInt32)
    (h : ∀ i session, mux.sessionManager.findSession i = some session →
      session = sessionCallbacks i) :
    (∀ i session, (registering mux ids).sessionManager.findSession i = some session →
        session = sessionCallbacks i) ∧
      ∀ i, i ∈ ids ∨ (mux.sessionManager.findSession i).isSome →
        ((registering mux ids).sessionManager.findSession i).isSome := by
  induction ids generalizing mux with
  | nil => exact ⟨h, fun i hi => hi.resolve_left (by simp)⟩
  | cons j ids ih =>
      have hfind : ∀ i, (registering mux [j]).sessionManager.findSession i =
          if i = j then some (sessionCallbacks j) else mux.sessionManager.findSession i :=
        fun i => SessionManager.find_register_session _ _ _
      have hone : ∀ i session, (registering mux [j]).sessionManager.findSession i = some session →
          session = sessionCallbacks i := by
        intro i session hi
        rw [hfind] at hi
        split at hi
        · next hij =>
            cases hi
            rw [hij]
        · exact h i session hi
      obtain ⟨hknown, hsome⟩ := ih hone
      refine ⟨hknown, fun i hi => hsome i ?_⟩
      rw [hfind]
      rcases hi with hi | hi
      · rcases List.mem_cons.mp hi with rfl | hi
        · exact .inr (by simp)
        · exact .inl hi
      · right
        split
        · rfl
        · exact hi

/-- A callback of the session registers the streams it opens. -/
theorem created_ids_handle (e : ClientEvent) (s : Socks5Session L) :
    ((Socks5Session.handle e).run s).actions.filterMap ClientAction.createdId =
      ((Socks5Session.handle e).run s).actions.filterMap ClientAction.synId := by
  by_cases he : e = .browserClosed
  · subst he
    obtain ⟨-, -, hcreated⟩ := Socks5Session.fins_browser_closed s
    have hsettled : Relates Socks5Session.Settled
        (Socks5Session.handle .browserClosed : Socks5Session.Handler L Unit) :=
      Socks5Session.settled_handle nofun
    rw [hcreated, (hsettled s).syns]
  · exact (Socks5Session.calm_handle (L := L) he s).created

section

variable {s : Socks5Session L} {d : NetworkRtcApp L} {e : AppEvent}

/-- A step that runs no callback of the session. -/
theorem Upkeep.other (h : Upkeep s out c)
    (hstep : (networkRtcApp L).step (.ok c) e = some (.ok d, new)) (he : sessionEvent c e = none) :
    Upkeep s (out ++ new) d := by
  obtain ⟨hactions, halive⟩ := (app_step hstep).2 he
  obtain ⟨hsame, hmux⟩ := halive d rfl
  obtain ⟨hsyns, hfins⟩ := ids_of_quiet out hactions
  have htally : Socks5Session.Tally s ((out ++ new).filterMap sessionAction)
      d.association.session := by
    rw [List.filterMap_append, hactions, List.append_nil, hsame]
    exact h.tally
  rcases hmux with ⟨hmux, hdestroyed⟩ | ⟨hsocket, hdestroyed, hsend, hsyn, hfind⟩
  · refine ⟨htally, hmux ▸ h.sendFunc, hmux ▸ h.onSyn, hmux ▸ h.known, ?_, ?_, ?_⟩
    · rw [hdestroyed, hmux, hsyns]
      exact h.registered
    · rw [hdestroyed, hsame]
      exact h.destroyed
    · rw [hsame, hfins]
      exact h.fins
  · -- the session has been destroyed
    refine ⟨htally, hsend.trans h.sendFunc, hsyn.trans h.onSyn,
      fun i session hi => h.known i session (hfind i session hi), ?_, ?_, ?_⟩
    · rw [hdestroyed]
      exact nofun
    · rw [hsame]
      exact fun _ => hsocket
    · rw [hsame, hsocket]
      exact nofun

/-- A step that runs a callback of the session. -/
theorem Upkeep.callback {e' : ClientEvent} (h : Upkeep s out c)
    (hstep : (networkRtcApp L).step (.ok c) e = some (.ok d, new))
    (he : sessionEvent c e = some e') : Upkeep s (out ++ new) d := by
  obtain ⟨hrun, hmux, hdestroyed⟩ := ((app_step hstep).1 e' he).alive d rfl
  have hcreated := created_ids_handle e' c.association.session
  have htally := Socks5Session.tally_handle (L := L) e' c.association.session
  rw [hrun] at hcreated htally
  dsimp only at hcreated htally
  obtain ⟨hknown, hsome⟩ := find_registering
    ((new.filterMap sessionAction).filterMap ClientAction.createdId) h.known
  have hcalm : e' ≠ .browserClosed →
      Socks5Session.Calm c.association.session (new.filterMap sessionAction)
        d.association.session := by
    intro hne
    have hcalm := Socks5Session.calm_handle (L := L) hne c.association.session
    rw [hrun] at hcalm
    exact hcalm
  have hclosed : e' = .browserClosed → d.association.session.tcpSocket = false := by
    rintro rfl
    have hfins := (Socks5Session.fins_browser_closed c.association.session).1
    rw [hrun] at hfins
    exact hfins
  refine ⟨?_, by rw [hmux]; exact h.sendFunc, by rw [hmux]; exact h.onSyn, ?_, ?_, ?_, ?_⟩
  · rw [List.filterMap_append]
    exact Socks5Session.composes_tally.trans h.tally htally
  · rw [hmux]
    exact hknown
  · rw [hdestroyed, hmux, hcreated]
    rw [hcreated] at hsome
    intro halive i hi
    rw [List.filterMap_append] at hi
    refine hsome i ((List.mem_append.mp hi).symm.imp (fun h => ?_) fun hi => ?_)
    · rwa [← syn_ids_eq]
    · exact h.registered halive i hi
  · intro hd
    by_cases hne : e' = .browserClosed
    · exact hclosed hne
    · rw [(hcalm hne).socket]
      exact h.destroyed (hdestroyed ▸ hd)
  · intro hd
    have hne : e' ≠ .browserClosed := by
      intro heq
      rw [hclosed heq] at hd
      cases hd
    rw [(hcalm hne).socket] at hd
    rw [List.filterMap_append, h.fins hd, fin_ids_eq, (hcalm hne).fins]
    rfl

/-- A step that leaves the app alive. -/
theorem Upkeep.step (h : Upkeep s out c)
    (hstep : (networkRtcApp L).step (.ok c) e = some (.ok d, new)) :
    Upkeep s (out ++ new) d := by
  cases he : sessionEvent c e with
  | none => exact h.other hstep he
  | some e' => exact h.callback hstep he

end

/-! ## Whole runs -/

/-- An app with a session that has just been accepted. -/
theorem upkeep_started (peerConnId : UInt32) (a : Association L) :
    Upkeep a.session [] (started peerConnId a) where
  tally := Socks5Session.composes_tally.refl _
  sendFunc := rfl
  onSyn := rfl
  known i session h := by cases h
  registered _ i hi := by cases hi
  destroyed h := by cases h
  fins _ := rfl

variable {peerConnId : UInt32} {a : Association L} {x : Except AppFault (NetworkRtcApp L)}

/-- What holds of a live app. -/
theorem upkeep_run (hrun : (networkRtcApp L).run (.ok (started peerConnId a)) es =
    some (.ok c, out)) :
    Upkeep a.session out c := by
  refine Machine.run_induction (m := networkRtcApp L)
    (P := fun _ out x => ∀ c, x = .ok c → Upkeep a.session out c) ?_ ?_ hrun c rfl
  · rintro c ⟨⟩
    exact upkeep_started peerConnId a
  · intro es out x e y new _ ih hstep d hd
    subst hd
    obtain ⟨c, rfl, _, _⟩ := machine_step_alive hstep
    exact (ih c rfl).step hstep

/-- What comes from the browser's socket or the owner of the session comes in no message. -/
theorem eq_of_session_event_local {e : AppEvent} {e' : ClientEvent} (hlocal : isLocal e' = true)
    (h : sessionEvent c e = some e') : e = .session e' := by
  cases e with
  | session e =>
      cases h
      rfl
  | relay e => cases h
  | destroyed => cases h
  | message data relay =>
      simp only [sessionEvent] at h
      split at h
      · cases h
      · split at h <;> cases h <;> cases hlocal

/-- The `FIN` frames of a step: none while the browser's socket is there afterwards or the peer has
closed, and one at most. -/
theorem fins_step {e : AppEvent} (hstep : (networkRtcApp L).step (.ok c) e = some (x, new)) :
    (new.filterMap AppAction.finId).length ≤ 1 ∧
      (c.association.session.isP2pClosed = true → new.filterMap AppAction.finId = [] ∧
        ∀ d, x = .ok d → d.association.session.isP2pClosed = true) ∧
      (c.association.session.tcpSocket = false → new.filterMap AppAction.finId = [] ∧
        ∀ d, x = .ok d → d.association.session.tcpSocket = false) := by
  obtain ⟨_, hc, henabled, _, _⟩ := machine_step_eq_some hstep
  cases hc
  obtain ⟨hsession, hother⟩ := app_step hstep
  rw [fin_ids_eq]
  cases he : sessionEvent c e with
  | none =>
      obtain ⟨hactions, halive⟩ := hother he
      rw [hactions]
      refine ⟨Nat.zero_le _, fun hp2p => ⟨rfl, fun d hd => ?_⟩,
          fun hsocket => ⟨rfl, fun d hd => ?_⟩⟩
      · rw [(halive d hd).1, hp2p]
      · rw [(halive d hd).1, hsocket]
  | some e' =>
      obtain ⟨hactions, -, halive⟩ := hsession e' he
      have hfins := hactions.filterMap ClientAction.finId
      by_cases hne : e' = .browserClosed
      · subst hne
        obtain rfl := eq_of_session_event_local rfl he
        have hopen : c.association.session.tcpSocket = true := by
          simp only [enabled, Association.enabled, Socks5Session.enabled, Bool.and_eq_true]
            at henabled
          exact henabled.2
        obtain ⟨-, hclosed, -⟩ := Socks5Session.fins_browser_closed c.association.session
        rw [hclosed] at hfins
        refine ⟨?_, fun hp2p => ?_, fun hsocket => absurd hopen (by simp [hsocket])⟩
        · refine hfins.length_le.trans ?_
          split
          · exact Nat.zero_le 1
          · cases c.association.session.session <;> simp
        · rw [if_pos hp2p, List.prefix_nil] at hfins
          refine ⟨hfins, fun d hd => ?_⟩
          obtain ⟨out, hrun, -⟩ := Socks5Session.run_browser_closed c.association.session
          rw [(halive d hd).1] at hrun
          have hstate : d.association.session = _ := congrArg Outcome.state hrun
          rw [hstate]
          exact hp2p
      · have hcalm := Socks5Session.calm_handle (L := L) hne c.association.session
        rw [hcalm.fins, List.prefix_nil] at hfins
        rw [hfins]
        refine ⟨Nat.zero_le _, fun hp2p => ⟨rfl, fun d hd => ?_⟩,
          fun hsocket => ⟨rfl, fun d hd => ?_⟩⟩
        · have hyielded := hcalm.yielded hp2p
          rw [(halive d hd).1] at hyielded
          exact hyielded
        · have hsame := hcalm.socket
          rw [(halive d hd).1] at hsame
          exact hsame.trans hsocket

/-- A run sends one `FIN` frame at most, even if it ends in a fault, and none while the browser's
socket is there. -/
theorem fins_run (hrun : (networkRtcApp L).run (.ok (started peerConnId a)) es = some (x, out)) :
    (out.filterMap AppAction.finId).length ≤ 1 := by
  refine (Machine.run_induction (m := networkRtcApp L)
    (P := fun _ out x => (out.filterMap AppAction.finId).length ≤ 1 ∧
      ∀ c, x = .ok c → c.association.session.tcpSocket = true → out.filterMap AppAction.finId = [])
    ?_ ?_ hrun).1
  · exact ⟨Nat.zero_le 1, fun _ _ _ => rfl⟩
  · intro es out x e y new hbefore ih hstep
    obtain ⟨c, rfl, _, _, _⟩ := machine_step_eq_some hstep
    obtain ⟨hone, -, hsilent⟩ := fins_step hstep
    rw [List.filterMap_append]
    refine ⟨?_, ?_⟩
    · cases hsocket : c.association.session.tcpSocket with
      | true => rwa [ih.2 c rfl hsocket, List.nil_append]
      | false => rw [(hsilent hsocket).1, List.append_nil]; exact ih.1
    · intro d hd hopen
      subst hd
      have hafter := (upkeep_run (Machine.run_snoc.mpr ⟨_, _, _, hbefore, hstep, rfl⟩)).fins hopen
      rwa [List.filterMap_append] at hafter

/-- Once the peer has closed, no `FIN` frame is sent. -/
theorem no_fin_of_p2p_closed {y : Except AppFault (NetworkRtcApp L)} {rest : List AppAction}
    {after : List AppEvent} (hrun : (networkRtcApp L).run y after = some (x, rest))
    (hp2p : ∀ c, y = .ok c → c.association.session.isP2pClosed = true) :
    rest.filterMap AppAction.finId = [] := by
  refine (Machine.run_induction (m := networkRtcApp L)
    (P := fun _ out x => out.filterMap AppAction.finId = [] ∧
      ∀ c, x = .ok c → c.association.session.isP2pClosed = true) ?_ ?_ hrun).1
  · exact ⟨rfl, hp2p⟩
  · intro es out x e y new _ ih hstep
    obtain ⟨c, rfl, _, _, _⟩ := machine_step_eq_some hstep
    obtain ⟨-, hclosed, -⟩ := fins_step hstep
    obtain ⟨hnew, halive⟩ := hclosed (ih.2 c rfl)
    rw [List.filterMap_append, ih.1, hnew]
    exact ⟨rfl, halive⟩

/-- A `FIN` frame for a stream of a session that has not been destroyed. -/
theorem session_event_fin {s : Socks5Session L} {data : Bytes}
    {relay : Option (AddressV4 × UInt16)} {i : UInt32} (h : Upkeep s out c)
    (hdestroyed : c.destroyed = false) (hi : i ∈ out.filterMap AppAction.synId)
    (hframe : FinFrame data i) :
    ∃ protocol, sessionEvent c (.message data relay) = some (.fin protocol) := by
  obtain ⟨header, payload, hframe, htype, rfl⟩ := hframe
  obtain ⟨session, hfind⟩ := Option.isSome_iff_exists.mp (h.registered hdestroyed _ hi)
  obtain rfl := h.known _ session hfind
  have hupcall : c.mux.onMessage data =
      .ok (some (.onClose (sessionCallbacks header.streamId) header.protocol)) := by
    rw [SessionMux.on_message_eq, hframe]
    simp only [htype, SessionMux.onFinFrame, hfind]
    rfl
  exact ⟨header.protocol, by simp [sessionEvent, hdestroyed, hupcall]⟩

/-- Once a `FIN` frame for a stream of the session has arrived while the browser's socket is there,
the session sends none, and it has sent none before. -/
theorem no_fin_after_fin {before after : List AppEvent} {first : List AppAction} {data : Bytes}
    {relay : Option (AddressV4 × UInt16)} {i : UInt32}
    (hbefore : (networkRtcApp L).run (.ok (started peerConnId a)) before = some (.ok c, first))
    (hi : i ∈ first.filterMap AppAction.synId) (hframe : FinFrame data i)
    (hsocket : c.association.session.tcpSocket = true)
    (hrun : (networkRtcApp L).run (.ok (started peerConnId a))
      (before ++ .message data relay :: after) = some (x, out)) :
    out.filterMap AppAction.finId = [] := by
  have hupkeep := upkeep_run hbefore
  have hdestroyed : c.destroyed = false := by
    by_contra hd
    have hgone := hupkeep.destroyed (by simpa using hd)
    rw [hsocket] at hgone
    cases hgone
  obtain ⟨_, first', rest, hbefore', hrest, rfl⟩ := Machine.run_append.mp hrun
  rw [hbefore] at hbefore'
  cases hbefore'
  obtain ⟨y, new, rest', hstep, hafter, rfl⟩ := Machine.run_cons.mp hrest
  obtain ⟨protocol, hevent⟩ : ∃ protocol, sessionEvent _ (.message data relay) =
      some (.fin protocol) := session_event_fin hupkeep hdestroyed hi hframe
  obtain ⟨hactions, -, halive⟩ := (app_step hstep).1 _ hevent
  rw [Socks5Session.run_fin] at hactions halive
  -- the callback has the socket close at most, and remembers
  have hnew : new.filterMap AppAction.finId = [] := by
    rw [fin_ids_eq, ← List.prefix_nil]
    refine (hactions.filterMap ClientAction.finId).trans ?_
    split <;> exact List.prefix_refl _
  have hlater : rest'.filterMap AppAction.finId = [] := by
    refine no_fin_of_p2p_closed hafter fun d hd => ?_
    have hstate := congrArg Outcome.state (halive d hd).1
    rw [← show _ = d.association.session from hstate]
  rw [List.filterMap_append, List.filterMap_append, hupkeep.fins hsocket, hnew, hlater]
  rfl

end NetworkRtcApp

end RtcVpn
