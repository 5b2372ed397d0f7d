import RtcVpn.Client.HostRuns

/-!
# A session behaves as if it were alone

For each session of a client there is an app of its own, the client as that
session sees it: it takes the messages of the data channel and has in its
multiplexer the session's streams only. Every run of the client is, for each
session it has accepted, a run of that app. It makes no difference to the app
whether it takes the messages for streams that are not the session's.
-/

namespace RtcVpn

/-- The message that an event of the app delivers. -/
def AppEvent.delivered : AppEvent → Option (Bytes × Option (AddressV4 × UInt16))
  | .message data answer => some (data, answer)
  | _ => none

/-- The message that an event of the client delivers. -/
def ClientHostEvent.delivered : ClientHostEvent → Option (Bytes × Option (AddressV4 × UInt16))
  | .message data answer => some (data, answer)
  | _ => none

namespace ClientHost

open Effect

variable {L : Llhttp} {s t : ClientHost L} {j k : Nat} {out : List ClientHostAction}
  {mine : UInt32 → Bool}

/-- The app of session `k` alone: its part of the multiplexer is what is registered for it, which
are some of the streams that are `mine`. -/
structure Seen (mine : UInt32 → Bool) (k : Nat) (s : ClientHost L) (c : NetworkRtcApp L) :
    Prop where
  sound : Sound s
  session : s.accepted[k]? = some ⟨c.association, c.destroyed⟩
  onSyn : c.mux.onSyn = false
  streams : ∀ i, c.mux.sessionManager.findSession i = if s.owner i = k then s.find i else none
  mine : ∀ i, s.owner i = k → (s.find i).isSome → mine i = true

/-- The streams that session `k` registers. -/
def registered (k : Nat) (out : List ClientHostAction) : List UInt32 :=
  createdIds (out.filterMap (ofSession k))

/-- The streams that are registered once a session has answered an event. -/
theorem find_of_run {c d : NetworkRtcApp L} {e : AppEvent} {as : List AppAction}
    (henabled : NetworkRtcApp.enabled c e = true)
    (hrun : (NetworkRtcApp.handle e).run c = ⟨d, as, .ok ()⟩) :
    d.mux.onSyn = c.mux.onSyn ∧ ∀ i, d.mux.sessionManager.findSession i =
      if i ∈ createdIds as then some (NetworkRtcApp.sessionCallbacks i)
      else if e = .destroyed ∧ c.association.session.session = some i then none
      else c.mux.sessionManager.findSession i := by
  by_cases he : e = .destroyed
  · subst he
    obtain ⟨hactions, halive⟩ := NetworkRtcApp.run_destroy_session c
    have hrun' : NetworkRtcApp.destroySession.run c = ⟨d, as, .ok ()⟩ := hrun
    rw [hrun'] at hactions halive
    obtain ⟨-, -, hmux⟩ := halive rfl
    dsimp only at hactions hmux
    refine ⟨?_, fun i => ?_⟩
    · rw [hmux, NetworkRtcApp.unregistered]
      split <;> rfl
    · rw [hmux, find_unregistered, createdIds, hactions]
      simp
  · obtain ⟨-, -, hmux, -⟩ := NetworkRtcApp.streams_of_run he henabled hrun
    refine ⟨by rw [hmux]; rfl, fun i => ?_⟩
    rw [hmux, NetworkRtcApp.find_registered, if_neg (fun h : e = .destroyed ∧ _ => he h.1)]
    rfl

/-! ## Steps -/

/-- What an event of the client is for session `k`. -/
def seenEvent (mine : UInt32 → Bool) (k : Nat) (s : ClientHost L) :
    ClientHostEvent → Option AppEvent
  | .session j event => if j = k then some (.session event) else none
  | .relay j event => if j = k then some (.relay event) else none
  | .destroyed j => if j = k then some .destroyed else none
  | .message data relay => if meantFor mine data then some (.message data relay) else none
  | .closed | .stop => if s.held.contains k then some (.session .stop) else none
  | _ => none

/-- What the app of session `k` does when the client goes to `t`: it answers an event in the same
way, or nothing happens to it. -/
def Follows (mine : UInt32 → Bool) (k : Nat) (c : NetworkRtcApp L) (out : List ClientHostAction)
    (t : ClientHost L) (event : Option AppEvent) : Prop :=
  Responds NetworkRtcApp.enabled NetworkRtcApp.handle (Seen mine k t) c
    (out.filterMap (ofSession k)) event

theorem Follows.prepend {c : NetworkRtcApp L} {first rest : List ClientHostAction}
    {event : Option AppEvent} (h : Follows mine k c rest t event)
    (hfirst : first.filterMap (ofSession k) = []) : Follows mine k c (first ++ rest) t event := by
  rw [Follows, List.filterMap_append, hfirst, List.nil_append]
  exact h

namespace Seen

variable {c : NetworkRtcApp L} {e : AppEvent}

/-- What leaves the sessions alone. -/
theorem idle (h : Seen mine k s c) (hidle : Idle s out t) : Seen mine k t c where
  sound := h.sound.idle hidle
  session := by rw [hidle.accepted, h.session]
  onSyn := h.onSyn
  streams i := by rw [hidle.owner, find, hidle.mux, h.streams i]
  mine i := by
    rw [hidle.owner, find, hidle.mux]
    exact h.mine i

theorem accepted {genStreamId : Nat → UInt32} {readBuf : Nat → UInt8} {remotePort : UInt16}
    (h : Seen mine k s c) (hmore : Accepted genStreamId readBuf remotePort s out t) :
    Seen mine k t c where
  sound := h.sound.accepted hmore
  session := hmore.keeps h.session
  onSyn := h.onSyn
  streams i := by rw [hmore.owner, find, hmore.mux, h.streams i]
  mine i := by
    rw [hmore.owner, find, hmore.mux]
    exact h.mine i

/-- A move of another session registers and removes streams of its own only. -/
theorem other (h : Seen mine k s c) (hne : j ≠ k) (hmove : SessionMove j e s t out) :
    Seen mine k t c := by
  have hsound := h.sound.move hmove
  obtain ⟨g, g', hmoved⟩ := hmove.moved
  have hfind : ∀ i, (if t.owner i = k then t.find i else none) =
      if s.owner i = k then s.find i else none := by
    intro i
    rcases hmoved.streams with ⟨-, ids, hfree, hfind, howner, -⟩ | ⟨-, hlive, -, howner, hfind⟩
    · rw [hfind, howner]
      by_cases hi : i ∈ ids
      · rw [if_pos hi, if_pos hi, if_neg hne, hfree i hi, ite_self]
      · rw [if_neg hi, if_neg hi]
    · rw [hfind, howner]
      by_cases hi : g.association.session.session = some i
      · -- the stream belongs to the session that is destroyed
        have hown := (h.sound.own j g i hmoved.before hlive hi).2
        rw [if_pos hi, hown, if_neg hne, if_neg hne]
      · rw [if_neg hi]
  refine ⟨hsound, ?_, h.onSyn, fun i => (h.streams i).trans (hfind i).symm, fun i howner hi => ?_⟩
  · rw [hmoved.accepted, List.getElem?_set_ne hne, h.session]
  · have hsome : (if s.owner i = k then s.find i else none).isSome := by
      rw [← hfind, if_pos howner]
      exact hi
    split at hsome
    · next howner' => exact h.mine i howner' hsome
    · cases hsome

/-- A move of the session is one of the app. -/
theorem own (h : Seen mine k s c) (hmove : SessionMove k e s t out)
    (hmine : ∀ i ∈ registered k out, mine i = true)
    (hmessage : ∀ data relay, e = .message data relay →
      c.mux.onMessage data = s.mux.onMessage data) :
    Follows mine k c out t (some e) := by
  have hsound := h.sound.move hmove
  obtain ⟨g, d, as, hk, henabled, hrun, rfl, rfl, hfree⟩ := hmove.move
  rw [h.session] at hk
  cases hk
  rw [registered, of_session_own] at hmine
  have hsame : NetworkRtcApp.SameSession c (view ⟨c.association, c.destroyed⟩ s) := ⟨rfl, rfl⟩
  obtain ⟨hactions, hresult, hassociation, hdestroyed⟩ :=
    NetworkRtcApp.run_same_session hsame hmessage
  have henabled' : NetworkRtcApp.enabled c e = true := by
    rw [← henabled]
    cases e <;> rfl
  rw [hrun] at hactions hresult hassociation hdestroyed
  generalize hc : (NetworkRtcApp.handle e).run c = o at hactions hresult hassociation hdestroyed
  obtain ⟨c', as', result⟩ := o
  dsimp only at hactions hresult hassociation hdestroyed
  subst hactions hresult
  obtain ⟨honSyn, hfind⟩ := find_of_run henabled' hc
  have hfind' : ∀ i, d.mux.sessionManager.findSession i =
      if i ∈ createdIds as' then some (NetworkRtcApp.sessionCallbacks i)
      else if e = .destroyed ∧ c.association.session.session = some i then none else s.find i :=
    (find_of_run henabled hrun).2
  refine ⟨henabled', c', by rw [of_session_own, hc], hsound, ?_, honSyn.trans h.onSyn, fun i => ?_,
    fun i howner hi => ?_⟩
  · rw [after_accepted, List.getElem?_set_self (List.getElem?_eq_some_iff.mp h.session).1,
      hassociation, hdestroyed]
  · rw [find, after_mux, after_owner, hfind, hfind', h.streams]
    by_cases hi : i ∈ createdIds as'
    · rw [if_pos hi, if_pos hi, if_pos hi, if_pos rfl]
    · rw [if_neg hi, if_neg hi, if_neg hi]
      by_cases hgone : e = .destroyed ∧ c.association.session.session = some i
      · rw [if_pos hgone, if_pos hgone, ite_self]
      · rw [if_neg hgone, if_neg hgone]
  · rw [after_owner] at howner
    rw [find, after_mux, hfind'] at hi
    by_cases hnew : i ∈ createdIds as'
    · exact hmine i hnew
    · rw [if_neg hnew] at howner hi
      split at hi
      · cases hi
      · exact h.mine i howner hi

/-- A move of a session, which is one of the app if the session is the app's. -/
theorem move (h : Seen mine k s c) (he : ∀ data relay, e ≠ .message data relay)
    (hmine : ∀ i ∈ registered k out, mine i = true) (hmove : SessionMove j e s t out) :
    Follows mine k c out t (if j = k then some e else none) := by
  by_cases hj : j = k
  · subst hj
    rw [if_pos rfl]
    exact h.own hmove hmine fun data relay heq => absurd heq (he data relay)
  · rw [if_neg hj]
    exact ⟨hmove.actions_other hj, h.other hj hmove⟩

/-- `stop` tells each of the sessions once. -/
theorem stops {ks : List Nat} (h : Seen mine k s c) (hnodup : ks.Nodup)
    (hstops : Stops ks s out t) :
    Follows mine k c out t (if ks.contains k then some (.session .stop) else none) := by
  induction hstops generalizing c with
  | nil => exact ⟨rfl, h⟩
  | @cons i ks s t u as bs hmove hrest ih =>
      obtain ⟨hi, hnodup⟩ := List.nodup_cons.mp hnodup
      by_cases hik : i = k
      · subst hik
        have hnone : registered i as = [] := by
          obtain ⟨g, c', as', -, -, hrun, -, rfl, -⟩ := hmove.move
          have hcreated :
              createdIds ((NetworkRtcApp.handle (.session .stop)).run (view g s)).actions = [] :=
            created_of_message fun data he => by cases he
          rw [hrun] at hcreated
          rw [registered, of_session_own, hcreated]
        obtain ⟨henabled, d, hrun, hseen⟩ := h.own hmove
          (fun j hj => by rw [hnone] at hj; cases hj) fun data relay he => by cases he
        have hlater := ih hseen hnodup
        rw [if_neg (by simpa using hi)] at hlater
        obtain ⟨hactions, hseen'⟩ := hlater
        rw [if_pos (by simp)]
        refine ⟨henabled, d, ?_, hseen'⟩
        rw [List.filterMap_append, hactions, List.append_nil, hrun]
      · have hcontains : (i :: ks).contains k = ks.contains k := by simp [Ne.symm hik]
        rw [hcontains]
        exact (ih (h.other hik hmove) hnodup).prepend (hmove.actions_other hik)

/-- The app takes a message as the client does if the frame's stream leads to it. -/
theorem on_message_own (h : Seen mine k s c) {data payload : Bytes} {header : FrameHeader}
    (hframe : frameOf data = some (header, payload)) (howner : s.owner header.streamId = k) :
    c.mux.onMessage data = s.mux.onMessage data := by
  refine SessionMux.on_message_of_find (h.onSyn.trans h.sound.onSyn.symm)
    fun header' payload' hf => ?_
  rw [hframe] at hf
  cases hf
  rw [h.streams, if_pos howner]

/-- A message that invokes nothing leaves the app alone, whether it takes it or not. -/
theorem quiet (h : Seen mine k t c) {data : Bytes} (relay : Option (AddressV4 × UInt16))
    (hunknown : ∀ header payload, frameOf data = some (header, payload) →
      c.mux.sessionManager.findSession header.streamId = none)
    (hout : out.filterMap (ofSession k) = []) :
    Follows mine k c out t
      (if meantFor mine data then some (.message data relay) else none) := by
  have hnone := SessionMux.on_message_unknown h.onSyn hunknown
  split
  · exact ⟨rfl, c, by rw [NetworkRtcApp.run_message, hnone, hout], h⟩
  · exact ⟨hout, h⟩

end Seen

/-- The sessions in `sessions_` are different ones. -/
theorem Sound.held_nodup (hs : Sound s) : s.held.Nodup := by
  refine List.Nodup.map_on (fun x hx y hy hxy => ?_) s.sessions.nodupKeys.nodup
  obtain ⟨i, j⟩ := x
  obtain ⟨i', j'⟩ := y
  obtain rfl : j = j' := hxy
  obtain ⟨g, hg, -, hid⟩ := hs.held i j (AList.mem_lookup_iff.mpr hx)
  obtain ⟨g', hg', -, hid'⟩ := hs.held i' j (AList.mem_lookup_iff.mpr hy)
  rw [hg] at hg'
  cases hg'
  rw [← hid, ← hid']

theorem Follows.idle {c : NetworkRtcApp L} {event : Option AppEvent} {u : ClientHost L}
    {last : List ClientHostAction} (h : Follows mine k c out u event) (hlast : Idle u last t) :
    Follows mine k c (out ++ last) t event := by
  rw [Follows, List.filterMap_append, hlast.actions, List.append_nil]
  exact h.imp fun c' hseen => hseen.idle hlast

theorem delivered_event (k : Nat) (s : ClientHost L) (e : ClientHostEvent) :
    (seenEvent (fun _ => true) k s e).toList.filterMap AppEvent.delivered =
      e.delivered.toList := by
  cases e with
  | session j e | relay j e | destroyed j => by_cases hj : j = k <;>
      simp [seenEvent, hj, AppEvent.delivered, ClientHostEvent.delivered]
  | closed | stop => by_cases hk : k ∈ s.held <;>
      simp [seenEvent, hk, AppEvent.delivered, ClientHostEvent.delivered]
  | message data relay =>
      simp [seenEvent, meantFor, Option.all_true, AppEvent.delivered, ClientHostEvent.delivered]
  | _ => rfl

namespace Seen

variable {c : NetworkRtcApp L}

/-- `SocksServer::stop` with what is done before and after it. -/
theorem stopped {u v : ClientHost L} {as bs cs : List ClientHostAction} (h : Seen mine k s c)
    (hfirst : Idle s as u) (hstops : Stops s.held u bs v) (hlast : Idle v cs t) :
    Follows mine k c (as ++ bs ++ cs) t
      (if s.held.contains k then some (.session .stop) else none) := by
  have hfollows := (h.idle hfirst).stops h.sound.held_nodup hstops
  exact (hfollows.prepend (hfirst.actions k)).idle hlast

/-- A step of the client is a step of the app, or nothing the app sees. -/
theorem step {e : ClientHostEvent} (h : Seen mine k s c) (hstep : SessionsStep s out t e)
    (hmine : ∀ i ∈ registered k out, mine i = true) :
    Follows mine k c out t (seenEvent mine k s e) := by
  cases hstep with
  | connected hidle | finishAccept hidle | notAccepted hidle =>
      exact ⟨hidle.actions k, h.idle hidle⟩
  | accepted hmore => exact ⟨hmore.actions k, h.accepted hmore⟩
  | session hmove | relay hmove | destroyed hmove =>
      exact h.move (fun _ _ he => by cases he) hmine hmove
  | closed hfirst hstops hlast hout | stop hfirst hstops hlast hout =>
      rw [hout]
      exact h.stopped hfirst hstops hlast
  | @unheard data relay hunknown ht hout =>
      subst ht hout
      refine h.quiet relay (fun header payload hframe => ?_) rfl
      rw [h.streams, hunknown header payload hframe, ite_self]
  | @message data payload relay header hframe hfind hmove =>
      by_cases howner : s.owner header.streamId = k
      · have hmeant : meantFor mine data = true := by
          rw [meantFor, hframe]
          exact h.mine _ howner hfind
        rw [howner] at hmove
        rw [seenEvent, if_pos hmeant]
        refine h.own hmove hmine fun data' relay' he => ?_
        cases he
        exact h.on_message_own hframe howner
      · refine (h.other howner hmove).quiet relay (fun header' payload' hf => ?_)
          (hmove.actions_other howner)
        rw [hframe] at hf
        cases hf
        rw [h.streams, if_neg howner]

end Seen

/-- The client as session `k` sees it. -/
theorem seen_by (L : Llhttp) (mine : UInt32 → Bool) (k : Nat) :
    (clientHost L).Projects (networkRtcApp L) (onAlive (seenEvent mine k)) (ofSession k)
      (Alive (Seen mine k))
      (aliveCovers fun _ _ _ out => ∀ i ∈ registered k out, mine i = true) :=
  projects fun h henabled hrun hmine => h.step (sessions_step h.sound henabled hrun) hmine

/-! ## Sessions that have not been accepted yet -/

/-- A session that has not been accepted takes messages and does nothing. -/
theorem unborn_step (mine : UInt32 → Bool) (hs : Sound s) (hk : s.accepted.length ≤ k)
    {e : ClientHostEvent} (hstep : SessionsStep s out t e) :
    (∀ f, seenEvent mine k s e = some f → ∃ data relay, f = .message data relay) ∧
      out.filterMap (ofSession k) = [] := by
  have hother : ∀ {j f}, SessionMove j f s t out → j ≠ k := fun hmove => by
    have hlt := hmove.numbers.1
    omega
  have hheld : k ∉ s.held := fun hmem => by
    obtain ⟨id, hid⟩ := mem_held.mp hmem
    obtain ⟨g, hg, -⟩ := hs.held id k hid
    have hlt := (List.getElem?_eq_some_iff.mp hg).1
    omega
  have hmessage : ∀ data relay f,
      (if meantFor mine data then some (AppEvent.message data relay) else none) = some f →
      ∃ data relay, f = .message data relay := by
    intro data relay f hf
    split at hf
    · exact ⟨data, relay, (Option.some.inj hf).symm⟩
    · cases hf
  cases hstep with
  | connected hidle | finishAccept hidle | notAccepted hidle =>
      exact ⟨fun f hf => (by cases hf), hidle.actions k⟩
  | accepted hmore => exact ⟨fun f hf => (by cases hf), hmore.actions k⟩
  | session hmove | relay hmove | destroyed hmove =>
      have hne := hother hmove
      exact ⟨fun f hf => by simp [seenEvent, hne] at hf, hmove.actions_other hne⟩
  | unheard hunknown ht hout => exact ⟨hmessage _ _, by rw [hout]; rfl⟩
  | message hframe hfind hmove => exact ⟨hmessage _ _, hmove.actions_other (hother hmove)⟩
  | closed hfirst hstops hlast hout | stop hfirst hstops hlast hout =>
      refine ⟨fun f hf => by simp [seenEvent, hheld] at hf, ?_⟩
      rw [hout, List.filterMap_append, List.filterMap_append, hfirst.actions,
        hstops.actions_other hheld, hlast.actions]
      rfl

/-- The app of a session that has not been accepted. -/
structure Unborn (k : Nat) (first : NetworkRtcApp L) (s : ClientHost L) (c : NetworkRtcApp L) :
    Prop where
  sound : Sound s
  later : s.accepted.length ≤ k
  app : c = first

theorem unborn_by (L : Llhttp) (mine : UInt32 → Bool) (k : Nat) (peerConnId : UInt32)
    (a : Association L) :
    (clientHost L).Projects (networkRtcApp L) (onAlive (seenEvent mine k)) (ofSession k)
      (Alive (Unborn k (.started peerConnId a)))
      (aliveCovers fun _ _ t _ => t.accepted.length ≤ k) := by
  refine projects fun {s t c e out} h henabled hrun hlater => ?_
  have hstep := sessions_step h.sound henabled hrun
  obtain ⟨hmessage, hnone⟩ := unborn_step mine h.sound h.later hstep
  have hunborn : Unborn k (.started peerConnId a) t c := ⟨h.sound.step hstep, hlater, h.app⟩
  cases hevent : seenEvent mine k s e with
  | none => exact ⟨hnone, hunborn⟩
  | some f =>
      obtain ⟨data, relay, rfl⟩ := hmessage f hevent
      have hquiet : c.mux.onMessage data = .ok none := by
        rw [h.app]
        exact SessionMux.on_message_unknown rfl fun _ _ _ => rfl
      exact ⟨rfl, c, by rw [NetworkRtcApp.run_message, hquiet, hnone], hunborn⟩

/-- The app of a session that has just been accepted. -/
theorem Seen.first {peerConnId : UInt32} {genStreamId : Nat → UInt32} {readBuf : Nat → UInt8}
    {remotePort : UInt16} (hs : Sound s) (h : Accepted genStreamId readBuf remotePort s out t) :
    Seen mine s.accepted.length t (.started peerConnId
      (.started L (SessionIdGenerator.createSessionId s.id) genStreamId readBuf remotePort)) := by
  -- what is registered leads to the sessions there were before
  have hold : ∀ i, t.owner i = s.accepted.length → t.find i = none := by
    intro i howner
    rw [h.owner] at howner
    rw [find, h.mux]
    refine Option.not_isSome_iff_eq_none.mp fun hsome => ?_
    have hlt := hs.led i hsome
    omega
  refine ⟨hs.accepted h, ?_, rfl, fun i => ?_, fun i howner hi => ?_⟩
  · rw [h.accepted, List.getElem?_concat_length]
    rfl
  · split
    · next howner => exact (hold i howner).symm
    · rfl
  · rw [hold i howner] at hi
    cases hi

/-! ## Runs -/

/-- The sessions are accounted for: what leads to them, and their numbers. -/
structure Accounted (s : ClientHost L) : Prop where
  sound : Sound s
  next : SessionIdGenerator.createSessionId s.id = LiveIds.idOf s.accepted.length

theorem accounted_started (L : Llhttp) (peerConnId : UInt32) : Accounted (started L peerConnId) :=
  ⟨sound_started peerConnId, rfl⟩

theorem Accounted.step {e : ClientHostEvent} (h : Accounted s) (hstep : SessionsStep s out t e) :
    Accounted t := by
  refine ⟨h.sound.step hstep, ?_⟩
  rcases hstep.numbers with ⟨hlength, hid⟩ | ⟨i, genStreamId, readBuf, remotePort, -, hmore⟩
  · rw [hid, hlength, h.next]
  · rw [hmore.id, h.next, hmore.accepted, List.length_append, List.length_singleton,
      LiveIds.create_session_id_id_of]

/-- The events of session `k` in a run of the client. -/
def seenEvents (L : Llhttp) (mine : UInt32 → Bool) (k : Nat) (peerConnId : UInt32)
    (es : List ClientHostEvent) : List AppEvent :=
  (clientHost L).seen (onAlive (seenEvent mine k)) (.ok (started L peerConnId)) es

/-- What a run of the client is for session `k`, before and after it has been accepted. -/
structure Apart (mine : UInt32 → Bool) (k : Nat) (peerConnId : UInt32) (es : List ClientHostEvent)
    (out : List ClientHostAction) (s : ClientHost L) : Prop where
  unborn : s.accepted.length ≤ k → ∀ a,
    (networkRtcApp L).run (.ok (.started peerConnId a)) (seenEvents L mine k peerConnId es) =
      some (.ok (.started peerConnId a), out.filterMap (ofSession k))
  born : k < s.accepted.length → ∃ i genStreamId readBuf remotePort c,
    .onAccept i genStreamId readBuf remotePort ∈ es ∧
      (networkRtcApp L).run (.ok (.started peerConnId
          (.started L (LiveIds.idOf k) genStreamId readBuf remotePort)))
          (seenEvents L mine k peerConnId es) =
        some (.ok c, out.filterMap (ofSession k)) ∧ Seen mine k s c

theorem Apart.step {peerConnId : UInt32} {es : List ClientHostEvent} {new : List ClientHostAction}
    {e : ClientHostEvent} (h : Apart mine k peerConnId es out s) (hs : Accounted s)
    (hes : (clientHost L).run (.ok (started L peerConnId)) es = some (.ok s, out))
    (hstep : (clientHost L).step (.ok s) e = some (.ok t, new))
    (hmine : ∀ i ∈ registered k new, mine i = true) :
    Apart mine k peerConnId (es ++ [e]) (out ++ new) t := by
  obtain ⟨_, hs', henabled, hnew⟩ := machine_step_alive hstep
  cases hs'
  have hsessions := sessions_step hs.sound henabled hnew
  have hevents : seenEvents L mine k peerConnId (es ++ [e]) =
      seenEvents L mine k peerConnId es ++ (seenEvent mine k s e).toList :=
    Machine.seen_snoc hes hstep
  have hgrown : ∀ {x y z fs} {as bs : List AppAction}, (networkRtcApp L).run x fs = some (y, as) →
      (networkRtcApp L).run y (seenEvent mine k s e).toList = some (z, bs) →
      (networkRtcApp L).run x (fs ++ (seenEvent mine k s e).toList) = some (z, as ++ bs) :=
    fun h h' => Machine.run_append.mpr ⟨_, _, _, h, h', rfl⟩
  have hunborn : t.accepted.length ≤ k → ∀ a,
      (networkRtcApp L).run (.ok (.started peerConnId a))
          (seenEvents L mine k peerConnId (es ++ [e])) =
        some (.ok (.started peerConnId a), (out ++ new).filterMap (ofSession k)) := by
    intro hlater a
    have hlater' : s.accepted.length ≤ k := by
      rcases hsessions.numbers with ⟨hlength, -⟩ | ⟨_, _, _, _, _, hmore⟩
      · omega
      · rw [hmore.accepted, List.length_append, List.length_singleton] at hlater
        omega
    have hrel : Alive (φ := ClientHostFault) (ψ := AppFault) (Unborn k (.started peerConnId a))
        (.ok s) (.ok (.started peerConnId a)) := ⟨hs.sound, hlater', rfl⟩
    obtain ⟨y, hlast, hrel'⟩ := unborn_by L mine k peerConnId a hrel hstep hlater
    cases y with
    | error fault => exact hrel'.elim
    | ok c =>
        obtain rfl := hrel'.app
        rw [hevents, List.filterMap_append]
        exact hgrown (h.unborn hlater' a) hlast
  refine ⟨hunborn, fun hk => ?_⟩
  by_cases hborn : k < s.accepted.length
  · obtain ⟨i, genStreamId, readBuf, remotePort, c, hmem, hrun, hseen⟩ := h.born hborn
    obtain ⟨y, hlast, hrel⟩ := seen_by L mine k (s := .ok s) (t := .ok c) hseen hstep hmine
    cases y with
    | error fault => exact hrel.elim
    | ok d =>
        refine ⟨i, genStreamId, readBuf, remotePort, d, List.mem_append_left _ hmem, ?_, hrel⟩
        rw [hevents, List.filterMap_append]
        exact hgrown hrun hlast
  · rcases hsessions.numbers with ⟨hlength, -⟩ | ⟨i, genStreamId, readBuf, remotePort, rfl, hmore⟩
    · omega
    · have hlength : t.accepted.length = s.accepted.length + 1 := by
        rw [hmore.accepted, List.length_append, List.length_singleton]
      obtain rfl : k = s.accepted.length := by omega
      have hfirst : Seen mine s.accepted.length t (.started peerConnId (.started L
          (LiveIds.idOf s.accepted.length) genStreamId readBuf remotePort)) := by
        rw [← hs.next]
        exact .first hs.sound hmore
      refine ⟨i, genStreamId, readBuf, remotePort, _, by simp, ?_, hfirst⟩
      rw [hevents, List.filterMap_append, hmore.actions]
      exact hgrown (h.unborn le_rfl _) rfl

theorem apart_run {peerConnId : UInt32} {es : List ClientHostEvent} (mine : UInt32 → Bool) (k : Nat)
    (hrun : (clientHost L).run (.ok (started L peerConnId)) es = some (.ok t, out))
    (hmine : ∀ i ∈ registered k out, mine i = true) :
    Accounted t ∧ Apart mine k peerConnId es out t := by
  refine alive_induction (P := fun es out t => (∀ i ∈ registered k out, mine i = true) →
    Accounted t ∧ Apart mine k peerConnId es out t) ?_ ?_ hrun hmine
  · intro _
    exact ⟨accounted_started L peerConnId, fun _ a => rfl, fun hk => absurd hk (Nat.not_lt_zero k)⟩
  · intro es out s e t new hes ih henabled hnew hmine
    have hregistered : registered k (out ++ new) = registered k out ++ registered k new := by
      simp [registered, createdIds]
    rw [hregistered] at hmine
    obtain ⟨hs, hapart⟩ := ih fun i hi => hmine i (List.mem_append_left _ hi)
    refine ⟨hs.step (sessions_step hs.sound henabled hnew), hapart.step hs hes ?_
      fun i hi => hmine i (List.mem_append_right _ hi)⟩
    rw [clientHost, machine_step_ok henabled, hnew]
    rfl

/-- A session takes every message if all streams are taken for its own. -/
theorem delivered_seen {peerConnId : UInt32} {es : List ClientHostEvent} (k : Nat)
    (hrun : (clientHost L).run (.ok (started L peerConnId)) es = some (.ok t, out)) :
    (seenEvents L (fun _ => true) k peerConnId es).filterMap AppEvent.delivered =
      es.filterMap ClientHostEvent.delivered := by
  refine alive_induction (P := fun es _ _ =>
    (seenEvents L (fun _ => true) k peerConnId es).filterMap AppEvent.delivered =
      es.filterMap ClientHostEvent.delivered) rfl ?_ hrun
  intro es out s e t new hes ih henabled hnew
  have hstep : (clientHost L).step (.ok s) e = some (.ok t, new) := by
    rw [clientHost, machine_step_ok henabled, hnew]
    rfl
  have hevents : seenEvents L (fun _ => true) k peerConnId (es ++ [e]) =
      seenEvents L (fun _ => true) k peerConnId es ++ (seenEvent (fun _ => true) k s e).toList :=
    Machine.seen_snoc hes hstep
  rw [hevents, List.filterMap_append, List.filterMap_append, ih, delivered_event]
  cases he : e.delivered <;> simp [he]

end ClientHost

open ClientHost in
/-- Session `k` has gone through the run of an app of its own, which takes every message of the data
channel and has the session's streams in its multiplexer and no other. -/
def RunsAlone {L : Llhttp} (peerConnId : UInt32) (es : List ClientHostEvent)
    (out : List ClientHostAction) (t : ClientHost L) (k : Nat) (g : AcceptedSession L) : Prop :=
  ∃ i genStreamId readBuf remotePort c,
    .onAccept i genStreamId readBuf remotePort ∈ es ∧
    (networkRtcApp L).run (.ok (.started peerConnId
        (.started L (LiveIds.idOf k) genStreamId readBuf remotePort)))
        (seenEvents L (fun _ => true) k peerConnId es) =
      some (.ok c, out.filterMap (ofSession k)) ∧
    (seenEvents L (fun _ => true) k peerConnId es).filterMap AppEvent.delivered =
      es.filterMap ClientHostEvent.delivered ∧
    g = ⟨c.association, c.destroyed⟩ ∧
    ∀ i, c.mux.sessionManager.findSession i = if t.owner i = k then t.find i else none

/-- A message reaches the session that its frame's stream leads to, if any, and no other; a stream
that a session is left with leads to that session. -/
theorem streams_private {L : Llhttp} {peerConnId : UInt32} {t : ClientHost L}
    {es : List ClientHostEvent} {out : List ClientHostAction}
    (hrun : (clientHost L).run (.ok (.started L peerConnId)) es = some (.ok t, out)) :
    (∀ k g i, t.accepted[k]? = some g → g.destroyed = false →
      g.association.session.session = some i → (t.find i).isSome ∧ t.owner i = k) ∧
    ∀ data relay header payload u new, frameOf data = some (header, payload) →
      (clientHost L).step (.ok t) (.message data relay) = some (.ok u, new) →
      ∀ k, t.find header.streamId = none ∨ t.owner header.streamId ≠ k →
        u.accepted[k]? = t.accepted[k]? ∧ new.filterMap (ClientHost.ofSession k) = [] := by
  have hsound := (ClientHost.apart_run (fun _ => true) 0 hrun fun _ _ => rfl).1.sound
  refine ⟨hsound.own, fun data relay header payload u new hframe hstep k hk => ?_⟩
  obtain ⟨_, ht, henabled, hnew⟩ := Effect.machine_step_alive hstep
  cases ht
  cases ClientHost.sessions_step hsound henabled hnew with
  | unheard hunknown hu hout =>
      rw [hu, hout]
      exact ⟨rfl, rfl⟩
  | message hframe' hfind hmove =>
      rw [hframe] at hframe'
      cases hframe'
      have hne : t.owner header.streamId ≠ k := by
        refine hk.resolve_left fun hnone => ?_
        rw [hnone] at hfind
        cases hfind
      obtain ⟨g, g', hmoved⟩ := hmove.moved
      exact ⟨by rw [hmoved.accepted, List.getElem?_set_ne hne], hmove.actions_other hne⟩

/-- Every session of a client goes through the run it would go through alone. -/
theorem session_alone {L : Llhttp} {peerConnId : UInt32} {t : ClientHost L}
    {es : List ClientHostEvent} {out : List ClientHostAction}
    (hrun : (clientHost L).run (.ok (.started L peerConnId)) es = some (.ok t, out)) :
    ∀ k g, t.accepted[k]? = some g → RunsAlone peerConnId es out t k g := by
  intro k g hk
  obtain ⟨-, hapart⟩ := ClientHost.apart_run (fun _ => true) k hrun fun _ _ => rfl
  obtain ⟨i, genStreamId, readBuf, remotePort, c, hmem, happ, hseen⟩ :=
    hapart.born (List.getElem?_eq_some_iff.mp hk).1
  refine ⟨i, genStreamId, readBuf, remotePort, c, hmem, happ, ClientHost.delivered_seen k hrun, ?_,
    hseen.streams⟩
  exact Option.some.inj (hk.symm.trans hseen.session)

/-- Two browsers, of which the second one has asked for a target and the first one has left. -/
def twoBrowsers : List ClientHostEvent :=
  [.connected true true, .finishAccept 0 (.ok ()), .onAccept 0 (fun _ => 5) (fun _ => 0) 0,
    .session 0 (.browserData [5, 1, 0]), .finishAccept 0 (.ok ()),
    .onAccept 0 (fun _ => 6) (fun _ => 0) 0, .session 1 (.browserData [5, 1, 0]),
    .session 0 .browserClosed, .session 1 (.browserData [5, 1, 0, 1, 10, 0, 0, 1, 0, 80]),
    .destroyed 0, .message ((packMessage (makeFrame 6 .synack .socks5Connect [0])).getD []) none]

/-- Data for the second one. -/
def dataForSecond : Bytes := (packMessage (makeFrame 6 .data .socks5Connect [7])).getD []

/-- The second one is left with its stream, and data on it is none of the first one's business. -/
theorem streams_private_two :
    ∃ t out g u new,
      (clientHost .idle).run (.ok (.started .idle 1)) twoBrowsers = some (.ok t, out) ∧
      t.accepted[1]? = some g ∧ ((t.find 6).isSome ∧ t.owner 6 = 1) ∧
      (clientHost .idle).step (.ok t) (.message dataForSecond none) = some (.ok u, new) ∧
      (new.filterMap (ClientHost.ofSession 1)).filterMap NetworkRtcApp.sessionAction =
        [.tcpSend [7]] ∧
      u.accepted[0]? = t.accepted[0]? ∧ new.filterMap (ClientHost.ofSession 0) = [] := by
  obtain ⟨t, out, g, u, new, hrun, hg, hdestroyed, hsession, hstep, hsent⟩ : ∃ t out g u new,
      (clientHost .idle).run (.ok (.started .idle 1)) twoBrowsers = some (.ok t, out) ∧
      t.accepted[1]? = some g ∧ g.destroyed = false ∧ g.association.session.session = some 6 ∧
      (clientHost .idle).step (.ok t) (.message dataForSecond none) = some (.ok u, new) ∧
      (new.filterMap (ClientHost.ofSession 1)).filterMap NetworkRtcApp.sessionAction =
        [.tcpSend [7]] := ⟨_, _, _, _, _, rfl, rfl, rfl, rfl, rfl, rfl⟩
  obtain ⟨hown, hother⟩ := streams_private hrun
  obtain ⟨hfind, howner⟩ := hown 1 g 6 hg hdestroyed hsession
  obtain ⟨header, payload, hframe, hid⟩ : ∃ header payload,
      frameOf dataForSecond = some (header, payload) ∧ header.streamId = 6 := ⟨_, _, rfl, rfl⟩
  have hne : t.owner header.streamId ≠ 0 := by
    rw [hid, howner]
    decide
  obtain ⟨hsame, hsilent⟩ :=
    hother dataForSecond none header payload u new hframe hstep 0 (.inr hne)
  exact ⟨t, out, g, u, new, hrun, hg, ⟨hfind, howner⟩, hstep, hsent, hsame, hsilent⟩

/-- The second one is told that its target has been reached. -/
theorem session_alone_two :
    ∃ t out g, (clientHost .idle).run (.ok (.started .idle 1)) twoBrowsers = some (.ok t, out) ∧
      t.accepted[1]? = some g ∧
      (out.filterMap (ClientHost.ofSession 1)).filterMap NetworkRtcApp.sessionAction =
        [.tcpSend [5, 0], .createSession 6, .sendSyn 6 (text "10.0.0.1") 80 .socks5Connect,
          .tcpSend [5, 0, 0, 1, 0, 0, 0, 0, 0, 0]] ∧
      RunsAlone 1 twoBrowsers out t 1 g := by
  obtain ⟨t, out, g, hrun, hg, hactions⟩ : ∃ t out g, (clientHost .idle).run
      (.ok (.started .idle 1)) twoBrowsers = some (.ok t, out) ∧ t.accepted[1]? = some g ∧
      (out.filterMap (ClientHost.ofSession 1)).filterMap NetworkRtcApp.sessionAction =
        [.tcpSend [5, 0], .createSession 6, .sendSyn 6 (text "10.0.0.1") 80 .socks5Connect,
          .tcpSend [5, 0, 0, 1, 0, 0, 0, 0, 0, 0]] := ⟨_, _, _, rfl, rfl, rfl⟩
  exact ⟨t, out, g, hrun, hg, hactions, session_alone hrun 1 g hg⟩

namespace ClientHost

open Effect

variable {L : Llhttp} {s : ClientHost L} {k : Nat} {e : ClientHostEvent} {f : AppEvent}
  {mine : UInt32 → Bool}

theorem seen_of_answering (h : answering s e = some (k, f)) :
    seenEvent (fun _ => true) k s e = some f := by
  cases e with
  | session j e | relay j e | destroyed j =>
      cases h
      exact if_pos rfl
  | message data relay =>
      obtain ⟨rfl, -⟩ := answering_message h
      exact if_pos (by simp [meantFor])
  | _ => cases h

/-- What the app does at an event that its session answers. -/
theorem Seen.answer {c : NetworkRtcApp L} {g : AcceptedSession L} (h : Seen mine k s c)
    (hanswer : answering s e = some (k, f)) (ha : Answers s e k f g) :
    NetworkRtcApp.enabled c f = true ∧
      ((NetworkRtcApp.handle f).run c).actions.map (.session k) = ((handle e).run s).actions ∧
      ((NetworkRtcApp.handle f).run c).result.mapError (.session k) =
        ((handle e).run s).result := by
  have hk := ha.session
  rw [h.session] at hk
  cases hk
  have hmessage : ∀ data relay, f = .message data relay →
      c.mux.onMessage data = s.mux.onMessage data := by
    rintro data relay rfl
    cases e with
    | message data' relay' =>
        obtain ⟨he, header, payload, hframe, -, howner⟩ := answering_message hanswer
        cases he
        exact h.on_message_own hframe howner
    | _ => cases hanswer
  have hsame : NetworkRtcApp.SameSession c (view ⟨c.association, c.destroyed⟩ s) := ⟨rfl, rfl⟩
  obtain ⟨hactions, hresult, -⟩ := NetworkRtcApp.run_same_session hsame hmessage
  refine ⟨?_, ?_, ?_⟩
  · rw [← ha.enabled]
    cases f <;> rfl
  · rw [ha.run, run_on_session ha.session, hactions]
  · rw [ha.run, run_on_session ha.session, hresult]

end ClientHost

open ClientHost Effect in
/-- A client stops with a fault only where one of its sessions would stop with it alone. -/
theorem fault_alone {L : Llhttp} {peerConnId : UInt32} {es : List ClientHostEvent}
    {out : List ClientHostAction} {fault : ClientHostFault}
    (hrun : (clientHost L).run (.ok (.started L peerConnId)) es = some (.error fault, out)) :
    ∃ k f i genStreamId readBuf remotePort, fault = .session k f ∧
      .onAccept i genStreamId readBuf remotePort ∈ es ∧
      (networkRtcApp L).run (.ok (.started peerConnId
          (.started L (LiveIds.idOf k) genStreamId readBuf remotePort)))
          (seenEvents L (fun _ => true) k peerConnId es) =
        some (.error f, out.filterMap (ofSession k)) := by
  rcases List.eq_nil_or_concat es with rfl | ⟨front, e, rfl⟩
  · cases hrun
  rw [List.concat_eq_append] at hrun ⊢
  obtain ⟨x, first, last, hfront, hstep, rfl⟩ := Machine.run_snoc.mp hrun
  obtain ⟨s, rfl, henabled, hfault, hlast⟩ := machine_step_eq_some hstep
  have hresult : ((handle e).run s).result = .error fault := by
    cases hr : ((handle e).run s).result with
    | ok _ =>
        rw [hr] at hfault
        cases hfault
    | error f =>
        rw [hr] at hfault
        cases hfault
        rfl
  have hsound := (apart_run (fun _ => true) 0 hfront fun _ _ => rfl).1.sound
  obtain ⟨k, f, hanswer⟩ := answering_of_fault hsound henabled hresult
  obtain ⟨g, ha⟩ := answers_of_enabled hsound henabled hanswer
  obtain ⟨-, hapart⟩ := apart_run (fun _ => true) k hfront fun _ _ => rfl
  obtain ⟨i, genStreamId, readBuf, remotePort, c, hmem, happ, hseen⟩ :=
    hapart.born (List.getElem?_eq_some_iff.mp ha.session).1
  obtain ⟨henabled', hactions, hresult'⟩ := hseen.answer hanswer ha
  rw [hresult] at hresult'
  have hevents : seenEvents L (fun _ => true) k peerConnId (front ++ [e]) =
      seenEvents L (fun _ => true) k peerConnId front ++ [f] := by
    have hsnoc : seenEvents L (fun _ => true) k peerConnId (front ++ [e]) =
        seenEvents L (fun _ => true) k peerConnId front ++
          (seenEvent (fun _ => true) k s e).toList := Machine.seen_snoc hfront hstep
    rw [hsnoc, seen_of_answering hanswer]
    rfl
  cases hown : ((NetworkRtcApp.handle f).run c).result with
  | ok _ =>
      rw [hown] at hresult'
      cases hresult'
  | error f' =>
      rw [hown] at hresult'
      cases hresult'
      refine ⟨k, f', i, genStreamId, readBuf, remotePort, rfl, List.mem_append_left _ hmem, ?_⟩
      have hlast' : last.filterMap (ofSession k) = ((NetworkRtcApp.handle f).run c).actions := by
        rw [hlast, ← hactions, of_session_own]
      rw [hevents, List.filterMap_append, hlast']
      refine Machine.run_snoc.mpr ⟨_, _, _, happ, ?_, rfl⟩
      rw [networkRtcApp, machine_step_ok henabled', hown]
      rfl

/-- The second one leaves before it is told whether its target has been reached. -/
def lateAnswer : List ClientHostEvent :=
  [.connected true true, .finishAccept 0 (.ok ()), .onAccept 0 (fun _ => 5) (fun _ => 0) 0,
    .session 0 (.browserData [5, 1, 0]), .finishAccept 0 (.ok ()),
    .onAccept 0 (fun _ => 6) (fun _ => 0) 0, .session 1 (.browserData [5, 1, 0]),
    .session 1 (.browserData [5, 1, 0, 1, 10, 0, 0, 1, 0, 80]), .session 1 .browserClosed,
    .message ((packMessage (makeFrame 6 .synack .socks5Connect [0])).getD []) none]

/-- The answer finds no socket, and the first one is stopped with it. -/
theorem fault_alone_late :
    ∃ out, (clientHost .idle).run (.ok (.started .idle 1)) lateAnswer =
        some (.error (.session 1 (.association (.session .nullTcpSocket))), out) ∧
      ∃ k f i genStreamId readBuf remotePort,
        ClientHostFault.session 1 (.association (.session .nullTcpSocket)) = .session k f ∧
        .onAccept i genStreamId readBuf remotePort ∈ lateAnswer ∧
        (networkRtcApp .idle).run (.ok (.started 1
            (.started .idle (LiveIds.idOf k) genStreamId readBuf remotePort)))
            (ClientHost.seenEvents .idle (fun _ => true) k 1 lateAnswer) =
          some (.error f, out.filterMap (ClientHost.ofSession k)) := by
  obtain ⟨out, hrun⟩ : ∃ out, (clientHost .idle).run (.ok (.started .idle 1)) lateAnswer =
      some (.error (.session 1 (.association (.session .nullTcpSocket))), out) := ⟨_, rfl⟩
  exact ⟨out, hrun, fault_alone hrun⟩

end RtcVpn
