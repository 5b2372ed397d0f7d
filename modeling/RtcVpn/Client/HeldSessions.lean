import RtcVpn.Client.HostRuns

/-!
# The sessions that `sessions_` holds

What `SocksServer` does to `sessions_` is what an owner of numbered objects
does: every accept makes a session with the next id, and the close callback of a
session erases its id. A session calls back once at most, and not after `stop`
has taken the callback from it, so a session that was told to close stays in
`sessions_` when its socket has closed.
-/

namespace RtcVpn

/-- The id a session gives to its close callback. -/
def ClientAction.closedId : ClientAction → Option UInt32
  | .onClose sessionId => some sessionId
  | _ => none

namespace Socks5Session

open Effect

variable {L : Llhttp}

/-! ## The close callback -/

/-- From `s` to `t` the session calls its owner back once at most, which it does if it has not yet
done so and still has the callback. -/
structure CallsBack (s : Socks5Session L) (out : List ClientAction) (t : Socks5Session L) :
    Prop where
  sessionId : t.sessionId = s.sessionId
  isClosed : s.isClosed = true → t.isClosed = true
  onClose : s.onClose = false → t.onClose = false
  closedIds : out.filterMap ClientAction.closedId = [] ∨
    (out.filterMap ClientAction.closedId = [s.sessionId] ∧ s.isClosed = false ∧
      s.onClose = true ∧ t.isClosed = true)

theorem composes_calls_back : Composes (CallsBack (L := L)) where
  refl s := ⟨rfl, id, id, .inl rfl⟩
  trans {s t u as bs} h h' := by
    refine ⟨h'.sessionId.trans h.sessionId, fun hs => h'.isClosed (h.isClosed hs),
      fun hs => h'.onClose (h.onClose hs), ?_⟩
    rw [List.filterMap_append]
    rcases h.closedIds with hfirst | ⟨hfirst, hopen, hset, hclosed⟩
    · rcases h'.closedIds with hsecond | ⟨hsecond, hopen, hset, hclosed⟩
      · exact .inl (by rw [hfirst, hsecond]; rfl)
      · -- what holds before the second part held before the first one
        have hopen' : s.isClosed = false := by
          by_contra hs
          rw [h.isClosed (Bool.not_eq_false _ ▸ hs)] at hopen
          cases hopen
        have hset' : s.onClose = true := by
          by_contra hs
          rw [h.onClose (Bool.not_eq_true _ ▸ hs)] at hset
          cases hset
        exact .inr ⟨by rw [hfirst, hsecond, h.sessionId]; rfl, hopen', hset', hclosed⟩
    · -- a session that has called back has closed, and does not call back again
      rcases h'.closedIds with hsecond | ⟨-, hagain, -⟩
      · exact .inr ⟨by rw [hfirst, hsecond]; rfl, hopen, hset, h'.isClosed hclosed⟩
      · rw [hclosed] at hagain
        cases hagain

/-- A change of members that the close callback does not depend on. -/
theorem calls_back_of_same {s t : Socks5Session L} {out : List ClientAction}
    (h : t.sessionId = s.sessionId ∧ t.isClosed = s.isClosed ∧ t.onClose = s.onClose)
    (hout : out.filterMap ClientAction.closedId = []) : CallsBack s out t :=
  ⟨h.1, h.2.1.trans, h.2.2.trans, .inl hout⟩

theorem calls_back_of_core {s t : Socks5Session L} (h : t.core = s.core) : CallsBack s [] t := by
  simp only [core, Prod.mk.injEq] at h
  exact calls_back_of_same ⟨h.1, h.2.2.2.2.2.2.2.1, h.2.2.2.2.2.2.1⟩ rfl

theorem calls_back_reads : AdmitsReads (CallsBack (L := L)) where
  composes := composes_calls_back
  send _ _ := calls_back_of_same ⟨rfl, rfl, rfl⟩ rfl
  close _ := calls_back_of_same ⟨rfl, rfl, rfl⟩ rfl
  forward _ _ _ _ := calls_back_of_same ⟨rfl, rfl, rfl⟩ rfl
  update := calls_back_of_core
  request _ := calls_back_of_same ⟨rfl, rfl, rfl⟩ rfl

theorem calls_back_frames : AdmitsFrames (CallsBack (L := L)) where
  composes := composes_calls_back
  send _ _ := calls_back_of_same ⟨rfl, rfl, rfl⟩ rfl
  close _ := calls_back_of_same ⟨rfl, rfl, rfl⟩ rfl
  forward _ _ _ _ := calls_back_of_same ⟨rfl, rfl, rfl⟩ rfl
  update h _ _ := calls_back_of_core h
  relay _ := calls_back_of_same ⟨rfl, rfl, rfl⟩ rfl
  datagram _ _ := calls_back_of_same ⟨rfl, rfl, rfl⟩ rfl

/-- The close of the browser's socket is what makes a session call back. -/
theorem calls_back_handle (e : ClientEvent) : Relates CallsBack (handle e : Handler L Unit) := by
  cases e with
  | browserData data => exact calls_back_reads.browser_data data
  | synack ok protocol relay => exact calls_back_frames.synack ok protocol relay
  | data payload protocol => exact calls_back_frames.data payload protocol
  | browserClosed =>
      intro s
      obtain ⟨out, hrun, -⟩ := run_browser_closed s
      have hids : ((handle .browserClosed).run s).actions.filterMap ClientAction.closedId =
          if s.isClosed || !s.onClose then [] else [s.sessionId] := by
        cases hsession : s.session <;> cases hp2p : s.isP2pClosed <;>
          cases hclosed : s.isClosed <;> cases honClose : s.onClose <;>
          simp [handle, closeSession, hsession, hp2p, hclosed, honClose, ClientAction.closedId,
            List.filterMap_cons]
      rw [hrun] at hids ⊢
      refine ⟨rfl, fun _ => rfl, id, ?_⟩
      dsimp only at hids ⊢
      cases hclosed : s.isClosed with
      | true => exact .inl (by rw [hids, hclosed]; rfl)
      | false =>
          cases honClose : s.onClose with
          | true => exact .inr ⟨by rw [hids, hclosed, honClose]; rfl, rfl, rfl, rfl⟩
          | false => exact .inl (by rw [hids, hclosed, honClose]; rfl)
  | browserQueue status =>
      intro s
      cases hsession : s.session with
      | none =>
          rw [run_browser_queue_none hsession]
          exact composes_calls_back.refl s
      | some id =>
          rw [run_browser_queue hsession]
          exact calls_back_of_same ⟨rfl, rfl, rfl⟩ rfl
  | fin protocol =>
      intro s
      rw [run_fin]
      exact calls_back_of_same ⟨rfl, rfl, rfl⟩ (by split <;> rfl)
  | stop =>
      intro s
      rw [run_stop]
      exact ⟨rfl, id, fun _ => rfl, .inl (by split <;> rfl)⟩

end Socks5Session

namespace NetworkRtcApp

open Effect

variable {L : Llhttp} {c d : NetworkRtcApp L} {e : AppEvent} {new : List AppAction}

/-- Whatever happens to a session. -/
theorem calls_back_of_run (henabled : enabled c e = true)
    (hrun : (handle e).run c = ⟨d, new, .ok ()⟩) :
    Socks5Session.CallsBack c.association.session (new.filterMap sessionAction)
      d.association.session := by
  have hstep : (networkRtcApp L).step (.ok c) e = some (.ok d, new) := by
    rw [networkRtcApp, machine_step_ok henabled, hrun]
    rfl
  cases hevent : sessionEvent c e with
  | none =>
      obtain ⟨hactions, halive⟩ := (app_step hstep).2 hevent
      rw [hactions, (halive d rfl).1]
      exact Socks5Session.composes_calls_back.refl _
  | some e' =>
      obtain ⟨hhandler, -, -⟩ := ((app_step hstep).1 e' hevent).alive d rfl
      have hcalls := Socks5Session.calls_back_handle e' c.association.session
      rw [hhandler] at hcalls
      exact hcalls

end NetworkRtcApp

namespace ClientHost

open Effect

variable {L : Llhttp} {s t : ClientHost L} {k : Nat} {e : AppEvent} {out : List ClientHostAction}

/-! ## The owner of the sessions -/

/-- The ids that the close callback of a session is given. -/
def closedIds (as : List AppAction) : List UInt32 :=
  (as.filterMap NetworkRtcApp.sessionAction).filterMap ClientAction.closedId

theorem owned_map (k : Nat) (as : List AppAction) :
    (as.map (.session k)).filterMap owned = (closedIds as).map fun _ => .close k := by
  rw [closedIds, List.filterMap_map, List.filterMap_filterMap, List.map_filterMap]
  refine List.filterMap_congr fun a _ => ?_
  cases a with
  | association a =>
      cases a with
      | relay a => rfl
      | session a => cases a <;> rfl
  | _ => rfl

/-- The close callback erases the id it is given. -/
theorem after_sessions (k : Nat) (c : NetworkRtcApp L) (as : List AppAction) (s : ClientHost L) :
    (after k c as s).sessions = (closedIds as).foldl (fun m id => m.erase id) s.sessions := by
  have hall : ∀ t : ClientHost L, (as.foldl (fun s a => carried k a s) t).sessions =
      (closedIds as).foldl (fun m id => m.erase id) t.sessions := by
    induction as with
    | nil => exact fun t => rfl
    | cons a as ih =>
        intro t
        rw [List.foldl_cons, ih]
        cases a with
        | association a =>
            cases a with
            | relay a => rfl
            | session a => cases a <;> rfl
        | _ => rfl
  exact hall (update k c s)

/-- The session has been made and has closed. -/
def HasClosed (s : ClientHost L) (k : Nat) : Prop :=
  ∃ g, s.accepted[k]? = some g ∧ g.association.session.isClosed = true

/-- `sessions_` and the ids of the sessions are those of an owner whose objects have closed only if
the sessions have. -/
structure Owned (s : ClientHost L) (r : Registry UInt32) : Prop where
  counter : r.counter = s.id
  entries : r.entries = s.sessions
  made : r.made = s.accepted.map fun g => g.association.session.sessionId
  closed : ∀ j ∈ r.closed, HasClosed s j

theorem owned_started (peerConnId : UInt32) : Owned (started L peerConnId) noSessions where
  counter := rfl
  entries := rfl
  made := rfl
  closed j hj := by cases hj

/-- The owner goes along with what the client does. -/
def OwnerFollows (s : ClientHost L) (out : List ClientHostAction) (t : ClientHost L) : Prop :=
  ∀ r, Owned s r →
    ∃ r' acts, socksServer.run r (out.filterMap owned) = some (r', acts) ∧ Owned t r'

theorem composes_owner_follows : Composes (OwnerFollows (L := L)) where
  refl s r hr := ⟨r, [], rfl, hr⟩
  trans {s t u as bs} h h' := by
    intro r hr
    obtain ⟨r', acts, hrun, hr'⟩ := h r hr
    obtain ⟨r'', acts', hrun', hr''⟩ := h' r' hr'
    refine ⟨r'', acts ++ acts', ?_, hr''⟩
    rw [List.filterMap_append]
    exact Machine.run_append.mpr ⟨r', acts, acts', hrun, hrun', rfl⟩

theorem Idle.owner_follows (h : Idle s out t) : OwnerFollows s out t := by
  intro r hr
  refine ⟨r, [], by rw [h.owned]; rfl, ?_⟩
  refine ⟨hr.counter.trans h.id.symm, hr.entries.trans h.sessions.symm, by rw [h.accepted, hr.made],
    fun j hj => ?_⟩
  unfold HasClosed
  rw [h.accepted]
  exact hr.closed j hj

theorem Accepted.owner_follows {genStreamId : Nat → UInt32} {readBuf : Nat → UInt8}
    {remotePort : UInt16} (h : Accepted genStreamId readBuf remotePort s out t) :
    OwnerFollows s out t := by
  intro r hr
  have hlength : r.made.length = s.accepted.length := by rw [hr.made, List.length_map]
  obtain ⟨acts, hrun⟩ : ∃ acts, socksServer.run r [.accept] =
      some (r.accept SessionIdGenerator.createSessionId, acts) :=
    ⟨_, Machine.run_singleton.mpr rfl⟩
  refine ⟨_, acts, by rw [h.owned]; exact hrun, ?_, ?_, ?_, fun j hj => ?_⟩
  · show SessionIdGenerator.createSessionId r.counter = t.id
    rw [hr.counter, h.id]
  · show r.entries.insert (SessionIdGenerator.createSessionId r.counter) r.made.length = t.sessions
    rw [hr.counter, hr.entries, hlength, h.sessions]
  · show r.made ++ [SessionIdGenerator.createSessionId r.counter] = _
    rw [hr.counter, hr.made, h.accepted, List.map_append]
    rfl
  · obtain ⟨g, hg, hclosed⟩ := hr.closed j hj
    exact ⟨g, h.keeps hg, hclosed⟩

/-- What the close callback has to do with a move of a session. -/
theorem SessionMove.calls_back (h : SessionMove k e s t out) :
    ∃ g g', s.accepted[k]? = some g ∧ t.accepted = s.accepted.set k g' ∧ t.id = s.id ∧
      Socks5Session.CallsBack g.association.session
        ((out.filterMap (ofSession k)).filterMap NetworkRtcApp.sessionAction)
        g'.association.session ∧
      t.sessions = (closedIds (out.filterMap (ofSession k))).foldl (fun m id => m.erase id)
        s.sessions ∧
      out.filterMap owned = (closedIds (out.filterMap (ofSession k))).map fun _ => .close k := by
  obtain ⟨g, c, as, hk, henabled, hrun, rfl, rfl, -⟩ := h.move
  rw [of_session_own]
  exact ⟨g, ⟨c.association, c.destroyed⟩, hk, after_accepted k c as s,
    (after_acceptor k c as s).2.2, NetworkRtcApp.calls_back_of_run henabled hrun,
    after_sessions k c as s, owned_map k as⟩

theorem SessionMove.owner_follows (h : SessionMove k e s t out) : OwnerFollows s out t := by
  intro r hr
  obtain ⟨g, g', hk, haccepted, hid, hcalls, hsessions, howned⟩ := h.calls_back
  have hmade : r.made = t.accepted.map fun g => g.association.session.sessionId := by
    rw [haccepted, hr.made]
    refine List.ext_getElem? fun j => ?_
    rw [List.getElem?_map, List.getElem?_map]
    by_cases hj : k = j
    · subst hj
      rw [hk, List.getElem?_set_self (List.getElem?_eq_some_iff.mp hk).1]
      exact congrArg some hcalls.sessionId.symm
    · rw [List.getElem?_set_ne hj]
  have hclosed : ∀ j, HasClosed s j → HasClosed t j := by
    intro j hj
    obtain ⟨x, hx, hxclosed⟩ := hj
    unfold HasClosed
    rw [haccepted]
    by_cases hjk : k = j
    · subst hjk
      rw [hk] at hx
      cases hx
      exact ⟨g', List.getElem?_set_self (List.getElem?_eq_some_iff.mp hk).1,
        hcalls.isClosed hxclosed⟩
    · exact ⟨x, by rw [List.getElem?_set_ne hjk, hx], hxclosed⟩
  rcases hcalls.closedIds with hnone | ⟨hone, hopen, -, hafter⟩
  · have hids : closedIds (out.filterMap (ofSession k)) = [] := hnone
    rw [howned, hids]
    rw [hids] at hsessions
    exact ⟨r, [], rfl, hr.counter.trans hid.symm, hr.entries.trans hsessions.symm, hmade,
      fun j hj => hclosed j (hr.closed j hj)⟩
  · have hids : closedIds (out.filterMap (ofSession k)) = [g.association.session.sessionId] := hone
    have hid' : r.made[k]? = some g.association.session.sessionId := by
      rw [hr.made, List.getElem?_map, hk]
      rfl
    -- the owner's object is still alive, so the close is one of its steps
    have halive : r.Alive k := by
      refine ⟨(List.getElem?_eq_some_iff.mp hid').1, fun hmem => ?_⟩
      obtain ⟨x, hx, hxclosed⟩ := hr.closed k hmem
      rw [hk] at hx
      cases hx
      rw [hopen] at hxclosed
      cases hxclosed
    rw [howned, hids]
    rw [hids] at hsessions
    refine ⟨r.close k g.association.session.sessionId, _,
      Machine.run_singleton.mpr (Registry.step_close halive hid'), hr.counter.trans hid.symm, ?_,
      hmade, fun j hj => ?_⟩
    · show r.entries.erase _ = _
      rw [hr.entries, hsessions]
      rfl
    · rcases List.mem_cons.mp hj with rfl | hj
      · exact ⟨g', by rw [haccepted, List.getElem?_set_self (List.getElem?_eq_some_iff.mp hk).1],
          hafter⟩
      · exact hclosed j (hr.closed j hj)

theorem Stops.owner_follows {ks : List Nat} (h : Stops ks s out t) : OwnerFollows s out t := by
  induction h with
  | nil s => exact composes_owner_follows.refl s
  | cons hmove _ ih => exact composes_owner_follows.trans hmove.owner_follows ih

theorem SessionsStep.owner_follows {e : ClientHostEvent} (h : SessionsStep s out t e) :
    OwnerFollows s out t := by
  cases h with
  | connected h | finishAccept h | notAccepted h => exact h.owner_follows
  | accepted h => exact h.owner_follows
  | session h | relay h | destroyed h | message _ _ h => exact h.owner_follows
  | unheard _ h hout =>
      subst h hout
      exact composes_owner_follows.refl _
  | closed h hstops hlast hout | stop h hstops hlast hout =>
      subst hout
      have hstopped := composes_owner_follows.trans h.owner_follows hstops.owner_follows
      exact composes_owner_follows.trans hstopped hlast.owner_follows

/-- Every run of the client is one of the owner of its sessions. -/
theorem owned_run {peerConnId : UInt32} {es : List ClientHostEvent}
    (hrun : (clientHost L).run (.ok (started L peerConnId)) es = some (.ok s, out)) :
    Sound s ∧ ∃ r acts, socksServer.run noSessions (out.filterMap owned) = some (r, acts) ∧
      Owned s r := by
  refine alive_induction (P := fun _ out s => Sound s ∧ ∃ r acts,
    socksServer.run noSessions (out.filterMap owned) = some (r, acts) ∧ Owned s r)
    ⟨sound_started peerConnId, noSessions, [], rfl, owned_started peerConnId⟩ ?_ hrun
  intro es out s e t new _ hs henabled hhandle
  obtain ⟨hsound, r, acts, hbefore, hr⟩ := hs
  have hstep := sessions_step hsound henabled hhandle
  obtain ⟨r', acts', hafter, hr'⟩ := hstep.owner_follows r hr
  refine ⟨hsound.step hstep, r', acts ++ acts', ?_, hr'⟩
  rw [List.filterMap_append]
  exact Machine.run_append.mpr ⟨r, acts, acts', hbefore, hafter, rfl⟩

/-! ## Sessions that have been stopped -/

/-- The session no longer has the close callback. -/
def Silenced (s : ClientHost L) (k : Nat) : Prop :=
  ∃ g, s.accepted[k]? = some g ∧ g.association.session.onClose = false

/-- From `s` to `t` a session that no longer has the close callback does not call back. -/
def StaysSilent (k : Nat) (s : ClientHost L) (out : List ClientHostAction) (t : ClientHost L) :
    Prop :=
  Silenced s k → Silenced t k ∧ .close k ∉ out.filterMap owned

theorem composes_stays_silent (k : Nat) : Composes (StaysSilent (L := L) k) where
  refl s hs := ⟨hs, List.not_mem_nil⟩
  trans {s t u as bs} h h' := by
    intro hs
    obtain ⟨ht, has⟩ := h hs
    obtain ⟨hu, hbs⟩ := h' ht
    refine ⟨hu, fun hmem => ?_⟩
    rw [List.filterMap_append] at hmem
    exact (List.mem_append.mp hmem).elim has hbs

theorem Idle.stays_silent (h : Idle s out t) : StaysSilent k s out t := by
  rintro ⟨g, hg, hset⟩
  exact ⟨⟨g, by rw [h.accepted, hg], hset⟩, by rw [h.owned]; exact List.not_mem_nil⟩

theorem Accepted.stays_silent {genStreamId : Nat → UInt32} {readBuf : Nat → UInt8}
    {remotePort : UInt16} (h : Accepted genStreamId readBuf remotePort s out t) :
    StaysSilent k s out t := by
  rintro ⟨g, hg, hset⟩
  exact ⟨⟨g, h.keeps hg, hset⟩, by rw [h.owned]; simp⟩

/-- What a session does makes no other session call back. -/
theorem SessionMove.owned_other {j : Nat} (h : SessionMove j e s t out) (hne : j ≠ k) :
    .close k ∉ out.filterMap owned := by
  obtain ⟨-, -, -, -, -, -, -, howned⟩ := h.calls_back
  intro hmem
  rw [howned, List.mem_map] at hmem
  obtain ⟨_, -, heq⟩ := hmem
  cases heq
  exact hne rfl

theorem SessionMove.stays_silent {j : Nat} (h : SessionMove j e s t out) :
    StaysSilent k s out t := by
  rintro ⟨g, hg, hset⟩
  obtain ⟨x, x', hj, haccepted, -, hcalls, -, howned⟩ := h.calls_back
  by_cases hjk : j = k
  · subst hjk
    rw [hj] at hg
    cases hg
    have hnone : closedIds (out.filterMap (ofSession j)) = [] := by
      rcases hcalls.closedIds with hnone | ⟨-, -, hkept, -⟩
      · exact hnone
      · rw [hset] at hkept
        cases hkept
    refine ⟨⟨x', ?_, hcalls.onClose hset⟩, by rw [howned, hnone]; exact List.not_mem_nil⟩
    rw [haccepted, List.getElem?_set_self (List.getElem?_eq_some_iff.mp hj).1]
  · exact ⟨⟨g, by rw [haccepted, List.getElem?_set_ne hjk, hg], hset⟩, h.owned_other hjk⟩

/-- `stop` takes the close callback from a session, which does not call back on that. -/
theorem SessionMove.silenced (h : SessionMove k (.session .stop) s t out) :
    Silenced t k ∧ .close k ∉ out.filterMap owned := by
  obtain ⟨g, c, as, hk, henabled, hrun, rfl, rfl, -⟩ := h.move
  have hstep : (networkRtcApp L).step (.ok (view g s)) (.session .stop) = some (.ok c, as) := by
    rw [networkRtcApp, machine_step_ok henabled, hrun]
    rfl
  obtain ⟨hhandler, -, -⟩ := ((NetworkRtcApp.app_step hstep).1 .stop rfl).alive c rfl
  rw [Socks5Session.run_stop] at hhandler
  obtain ⟨hstate, hactions, -⟩ := Outcome.mk.inj hhandler
  refine ⟨⟨⟨c.association, c.destroyed⟩, ?_, by rw [← hstate]⟩, ?_⟩
  · rw [after_accepted, List.getElem?_set_self (List.getElem?_eq_some_iff.mp hk).1]
  · have hnone : closedIds as = [] := by
      rw [closedIds, ← hactions]
      split <;> rfl
    rw [owned_map, hnone]
    exact List.not_mem_nil

theorem Stops.stays_silent {ks : List Nat} (h : Stops ks s out t) : StaysSilent k s out t := by
  induction h with
  | nil s => exact (composes_stays_silent k).refl s
  | cons hmove _ ih => exact (composes_stays_silent k).trans hmove.stays_silent ih

/-- The loop of `SocksServer::stop` takes the close callback from every session. -/
theorem Stops.silenced {ks : List Nat} (h : Stops ks s out t) (hk : k ∈ ks) :
    Silenced t k ∧ .close k ∉ out.filterMap owned := by
  induction h with
  | nil => cases hk
  | @cons j ks s t u as bs hmove hrest ih =>
      rw [List.filterMap_append, List.mem_append, not_or]
      by_cases hjk : j = k
      · subst hjk
        obtain ⟨hsilent, has⟩ := hmove.silenced
        obtain ⟨hafter, hbs⟩ := hrest.stays_silent hsilent
        exact ⟨hafter, has, hbs⟩
      · obtain ⟨hafter, hbs⟩ := ih ((List.mem_cons.mp hk).resolve_left (Ne.symm hjk))
        exact ⟨hafter, hmove.owned_other hjk, hbs⟩

theorem SessionsStep.stays_silent {e : ClientHostEvent} (h : SessionsStep s out t e) :
    StaysSilent k s out t := by
  cases h with
  | connected h | finishAccept h | notAccepted h => exact h.stays_silent
  | accepted h => exact h.stays_silent
  | session h | relay h | destroyed h | message _ _ h => exact h.stays_silent
  | unheard _ h hout =>
      subst h hout
      exact (composes_stays_silent k).refl _
  | closed h hstops hlast hout | stop h hstops hlast hout =>
      subst hout
      have hcomposes := composes_stays_silent (L := L) k
      exact hcomposes.trans (hcomposes.trans h.stays_silent hstops.stays_silent) hlast.stays_silent

/-- Every session that `sessions_` holds has lost its close callback after `SocksServer::stop`. -/
theorem SessionsStep.silenced {e : ClientHostEvent} (h : SessionsStep s out t e)
    (he : e = .stop ∨ e = .closed) (hk : k ∈ s.held) :
    Silenced t k ∧ .close k ∉ out.filterMap owned := by
  have hall : ∀ {u v : ClientHost L} {as bs cs : List ClientHostAction}, Idle s as u →
      Stops s.held u bs v → Idle v cs t → out = as ++ bs ++ cs →
      Silenced t k ∧ .close k ∉ out.filterMap owned := by
    intro u v as bs cs h hstops hlast hout
    obtain ⟨hsilent, hbs⟩ := hstops.silenced hk
    obtain ⟨hafter, -⟩ := hlast.stays_silent hsilent
    rw [hout, List.filterMap_append, List.filterMap_append, h.owned, hlast.owned, List.nil_append,
      List.append_nil]
    exact ⟨hafter, hbs⟩
  rcases he with rfl | rfl
  · cases h with
    | stop h hstops hlast hout => exact hall h hstops hlast hout
  · cases h with
    | closed h hstops hlast hout => exact hall h hstops hlast hout

/-- A session that has lost its close callback does not call back. -/
theorem silent_run {es : List ClientHostEvent} (hs : Sound s) (hk : Silenced s k)
    (hrun : (clientHost L).run (.ok s) es = some (.ok t, out)) :
    Silenced t k ∧ .close k ∉ out.filterMap owned := by
  have hall : Sound t ∧ StaysSilent k s out t := by
    refine alive_induction (P := fun _ out t => Sound t ∧ StaysSilent k s out t)
      ⟨hs, (composes_stays_silent k).refl s⟩ ?_ hrun
    intro es out t e u new _ ih henabled hhandle
    obtain ⟨hsound, hsilent⟩ := ih
    have hstep := sessions_step hsound henabled hhandle
    exact ⟨hsound.step hstep, (composes_stays_silent k).trans hsilent hstep.stays_silent⟩
  exact hall.2 hk

/-- No session is accepted while one is open that was accepted a multiple of 65536 sessions
earlier. -/
def InTime (out : List ClientHostAction) : Prop :=
  socksServer.Meets LiveIds.InTime noSessions (out.filterMap owned)

end ClientHost

open ClientHost

variable {L : Llhttp} {peerConnId : UInt32} {s t : ClientHost L} {es fs : List ClientHostEvent}
  {out new : List ClientHostAction}

/-- As long as no session is accepted while one is open that was accepted a multiple of 65536
sessions earlier, `sessions_` holds exactly the sessions that have been accepted and have not called
back. -/
theorem held_iff (hrun : (clientHost L).run (.ok (ClientHost.started L peerConnId)) es =
      some (.ok s, out)) (hids : InTime out) (k : Nat) :
    k ∈ s.held ↔ k < s.accepted.length ∧ .close k ∉ out.filterMap owned := by
  obtain ⟨-, r, acts, hregistry, hr⟩ := owned_run hrun
  have hunique := (live_ids_unique_iff (.inl rfl) hregistry).mpr hids
  have howned := hunique _ [] r acts (List.append_nil _).symm hregistry
  have halive : r.Alive k ↔ k < s.accepted.length ∧ .close k ∉ out.filterMap owned := by
    rw [Registry.Alive, Registry.mem_closed_iff hregistry, hr.made, List.length_map]
  rw [mem_held, ← halive, ← hr.entries]
  constructor
  · intro h
    obtain ⟨id, hid⟩ := h
    exact (howned.live id k hid).1
  · intro h
    exact ⟨_, howned.registered k _ h (List.getElem?_eq_getElem h.1)⟩

/-- Two sessions are accepted, and the browser closes the first one's socket. -/
def oneCloses : List ClientHostEvent :=
  [.connected true true, .finishAccept 0 (.ok ()), .onAccept 0 (fun _ => 5) (fun _ => 0) 0,
    .finishAccept 0 (.ok ()), .onAccept 0 (fun _ => 6) (fun _ => 0) 0, .session 0 .browserClosed]

/-- `sessions_` holds the second one. -/
theorem held_iff_two_sessions :
    ∃ s out, (clientHost .idle).run (.ok (ClientHost.started .idle 1)) oneCloses =
        some (.ok s, out) ∧
      ∀ k, k ∈ s.held ↔ k < s.accepted.length ∧ .close k ∉ out.filterMap owned := by
  obtain ⟨s, out, hrun, hcount⟩ : ∃ s out, (clientHost .idle).run
      (.ok (ClientHost.started .idle 1)) oneCloses = some (.ok s, out) ∧
        (out.filterMap owned).count .accept = 2 := ⟨_, _, rfl, rfl⟩
  exact ⟨s, out, hrun, held_iff hrun (LiveIds.meets_of_few (by omega))⟩

/-- A session that `SocksServer::stop` has told to close stays in `sessions_`, whatever happens
afterwards: it is never destroyed, and its stream stays registered and leads to it. As for
`held_iff`, no session is accepted while one is open that was accepted a multiple of 65536 sessions
earlier, in the whole run. -/
theorem stopped_sessions_kept
    (hrun : (clientHost L).run (.ok (ClientHost.started L peerConnId)) es = some (.ok s, out))
    {e : ClientHostEvent} (he : e = .stop ∨ e = .closed)
    (hafter : (clientHost L).run (.ok s) (e :: fs) = some (.ok t, new)) (hids : InTime (out ++ new))
    {k : Nat} (hk : k ∈ s.held) :
    k ∈ t.held ∧ ∃ g, t.accepted[k]? = some g ∧ g.destroyed = false ∧
      ∀ i, g.association.session.session = some i →
        (t.mux.sessionManager.findSession i).isSome ∧ t.owner i = k := by
  have hwhole := Machine.run_append.mpr ⟨_, _, _, hrun, hafter, rfl⟩
  obtain ⟨hsound, -⟩ := owned_run hrun
  obtain ⟨hsound', -⟩ := owned_run hwhole
  have hfirst : InTime out := by
    unfold InTime at hids
    rw [List.filterMap_append] at hids
    exact hids.front
  obtain ⟨-, hopen⟩ := (held_iff hrun hfirst k).mp hk
  obtain ⟨hsilent, hnew⟩ : Silenced t k ∧ .close k ∉ new.filterMap owned := by
    obtain ⟨x, as, bs, hfirst, hrest, rfl⟩ := Machine.run_cons.mp hafter
    obtain ⟨u, rfl⟩ := Effect.alive_of_run hrest
    obtain ⟨_, hc, henabled, hhandle⟩ := Effect.machine_step_alive hfirst
    cases hc
    have hstep := sessions_step hsound henabled hhandle
    obtain ⟨hsilent, has⟩ := hstep.silenced he hk
    obtain ⟨hsilent', hbs⟩ := silent_run (hsound.step hstep) hsilent hrest
    rw [List.filterMap_append, List.mem_append, not_or]
    exact ⟨hsilent', has, hbs⟩
  have hheld : k ∈ t.held := by
    obtain ⟨g, hg, -⟩ := hsilent
    refine (held_iff hwhole hids k).mpr ⟨(List.getElem?_eq_some_iff.mp hg).1, ?_⟩
    rw [List.filterMap_append, List.mem_append, not_or]
    exact ⟨hopen, hnew⟩
  obtain ⟨id, hid⟩ := mem_held.mp hheld
  obtain ⟨g, hg, hlive, -⟩ := hsound'.held id k hid
  exact ⟨hheld, g, hg, hlive, fun i hi => hsound'.own k g i hg hlive hi⟩

/-- The browsers of both sessions close their sockets once the client has been stopped. -/
theorem stopped_sessions_kept_two :
    ∃ s t out new, (clientHost .idle).run (.ok (ClientHost.started .idle 1)) (oneCloses.take 5) =
        some (.ok s, out) ∧
      (clientHost .idle).run (.ok s) [.stop, .session 0 .browserClosed, .session 1 .browserClosed] =
        some (.ok t, new) ∧
      ∀ k, k < 2 → k ∈ t.held ∧ ∃ g, t.accepted[k]? = some g ∧ g.destroyed = false ∧
        ∀ i, g.association.session.session = some i →
          (t.mux.sessionManager.findSession i).isSome ∧ t.owner i = k := by
  obtain ⟨s, t, out, new, hrun, hafter, hcount, hheld⟩ : ∃ s t out new,
      (clientHost .idle).run (.ok (ClientHost.started .idle 1)) (oneCloses.take 5) =
        some (.ok s, out) ∧
      (clientHost .idle).run (.ok s) [.stop, .session 0 .browserClosed, .session 1 .browserClosed] =
        some (.ok t, new) ∧
      ((out ++ new).filterMap owned).count .accept = 2 ∧ s.held = [1, 0] :=
    ⟨_, _, _, _, rfl, rfl, rfl, rfl⟩
  refine ⟨s, t, out, new, hrun, hafter, fun k hk => ?_⟩
  refine stopped_sessions_kept hrun (.inl rfl) hafter (LiveIds.meets_of_few (by omega)) ?_
  rw [hheld, List.mem_cons, List.mem_singleton]
  omega

end RtcVpn
