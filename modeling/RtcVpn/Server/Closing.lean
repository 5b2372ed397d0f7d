import RtcVpn.Server.Ownership

/-!
# The `FIN` frames of the server

A tunnel sends its `FIN` frame when the socket of its target closes, unless it
has been told that the peer has closed. While no `SYN` frame names a stream a
second time a stream has one tunnel, so it has one `FIN` frame at most, and
none once its own has arrived before the target's socket closed.
-/

namespace RtcVpn

/-- The stream a message opens, if it carries a well-formed `SYN` frame. -/
def synIdOf (message : Bytes) : Option UInt32 :=
  match frameOf message with
  | some (h, payload) =>
      match h.type, decodeSynPayload payload with
      | .syn, .ok (some _) => some h.streamId
      | _, _ => none
  | none => none

/-- The message carries a `FIN` frame for the stream. -/
def FinFrame (message : Bytes) (streamId : UInt32) : Prop :=
  ∃ h payload, frameOf message = some (h, payload) ∧ h.type = .fin ∧ h.streamId = streamId

/-- The stream an event opens. -/
def ServerEvent.synId : ServerEvent → Option UInt32
  | .message data => synIdOf data
  | _ => none

/-- The stream of a `FIN` frame that is sent. -/
def ServerAction.finId : ServerAction → Option UInt32
  | .sendFin id _ => some id
  | _ => none

namespace TunnelServer

open Effect

theorem syn_id_of_eq_some {message : Bytes} {i : UInt32} :
    synIdOf message = some i ↔ ∃ protocol, SynFrame message i protocol := by
  unfold synIdOf
  constructor
  · intro h
    split at h
    · next h' payload hframe =>
        split at h
        · next r htype hpayload =>
            cases h
            exact ⟨_, h', payload, r.1, r.2, hframe, htype, hpayload, rfl, rfl⟩
        · cases h
    · cases h
  · rintro ⟨protocol, h, payload, host, port, hframe, htype, hpayload, rfl, rfl⟩
    simp [hframe, htype, hpayload]

/-! ## What a step makes the server do -/

/-- An action that neither starts a target nor sends a frame. -/
def Mild : ServerAction → Prop
  | .startTarget _ _ _ | .sendFin _ _ => False
  | _ => True

theorem Mild.fin_id {a : ServerAction} (h : Mild a) : a.finId = none := by
  cases a with
  | sendFin => exact absurd h id
  | _ => rfl

/-- Looking for the interface of a tunnel does nothing. -/
theorem respects_interface_of {A : ServerAction → Prop} (tunnel : Nat) :
    Respects (fun _ => True) A (interfaceOf tunnel) := by
  refine Respects.get.bind fun u => ?_
  cases u.tunnels[tunnel]? with
  | none => exact Respects.fail _
  | some t =>
      dsimp only
      cases t.sessionInterface with
      | none => exact Respects.fail _
      | some i => exact Respects.pure _

/-- Closing a tunnel has its target closed, if anything. -/
theorem respects_close {A : ServerAction → Prop} (hclose : ∀ k, A (.closeTarget k)) (tunnel : Nat) :
    Respects (fun _ => True) A (close tunnel) :=
  (respects_interface_of tunnel).bind fun _ =>
    .bind (.modify fun _ _ => trivial) fun _ => .emit (hclose tunnel)

/-- The close of the peer connection starts the timer and has targets closed. -/
theorem respects_controller_closed {A : ServerAction → Prop} (htimer : A .startTimer)
    (hclose : ∀ k, A (.closeTarget k)) : Respects (fun _ => True) A controllerClosed :=
  .bind (.emit htimer) fun _ => Respects.get.bind fun _ => .forEach _ (respects_close hclose)

/-- Any upcall but one for a `SYN` frame. -/
theorem mild_on_upcall {upcall : Upcall}
    (h : ∀ streamId host port protocol, upcall ≠ .onSyn streamId host port protocol) :
    Respects (fun _ => True) Mild (onUpcall upcall) := by
  have huse : ∀ {tunnel : Nat} {a : ServerAction}, Mild a → Respects (fun _ => True) Mild (do
      let _ ← interfaceOf tunnel
      emit a : ServerHandler) :=
    fun ha => (respects_interface_of _).bind fun _ => .emit ha
  cases upcall with
  | onSyn streamId host port protocol => exact absurd rfl (h streamId host port protocol)
  | onSynack session ok protocol => exact .pure ()
  | onData session payload protocol =>
      refine Respects.get.bind fun u => ?_
      cases protocol with
      | unknown | other => exact .pure ()
      | _ => exact huse trivial
  | onClose session protocol => exact Respects.get.bind fun _ => respects_close (fun _ => trivial) _
  | onDataCtrl session ctrl protocol =>
      refine Respects.get.bind fun u => ?_
      cases ctrl with
      | other => exact .pure ()
      | _ => exact huse trivial

/-- Any message but a well-formed `SYN` frame. -/
theorem mild_on_message {message : Bytes}
    (h : ¬ ∃ streamId protocol, SynFrame message streamId protocol) :
    Respects (fun _ => True) Mild (onMessage message) := by
  refine Respects.get.bind fun s => ?_
  rcases s.mux.on_message_cases message with hnone | ⟨h', payload, hframe, hopen | hsession⟩
  · rw [hnone]
    exact .pure ()
  · obtain ⟨host, port, htype, hpayload, _⟩ := hopen
    exact absurd ⟨_, _, h', payload, host, port, hframe, htype, hpayload, rfl, rfl⟩ h
  · obtain ⟨session, _, ⟨ok, _, hupcall⟩ | hupcall | ⟨-, hupcall⟩ | ⟨byte, rest, -, -, hupcall⟩⟩ :=
      hsession
    all_goals
      rw [hupcall]
      exact mild_on_upcall nofun

/-- The handler of a well-formed `SYN` frame. -/
theorem run_syn_message {s : TunnelServer} (hs : Sound s) {message : Bytes} {i : UInt32}
    {protocol : Protocol} (h : SynFrame message i protocol) :
    ∃ host port, (handle (.message message)).run s = (onSyn i host port protocol).run s := by
  obtain ⟨h', payload, host, port, hframe, htype, hpayload, rfl, rfl⟩ := h
  have hupcall := SessionMux.on_message_syn hs.onSyn hframe htype hpayload
  exact ⟨host, port, by simp [handle, onMessage, hupcall, onUpcall]⟩

/-- What a step makes the server do, even if it ends in a fault: a target's close aside, it starts
the target of the tunnel that it opens, or does nothing of that kind. -/
theorem actions_cases {s : TunnelServer} {x : Except ServerFault TunnelServer} {e : ServerEvent}
    {new : List ServerAction} (hs : Sound s) (he : ∀ tunnel, e ≠ .targetClosed tunnel)
    (hstep : tunnelServer.step (.ok s) e = some (x, new)) :
    ((∀ a ∈ new, Mild a) ∧ ∀ u, x = .ok u → Undisturbed s u) ∨
      ∃ message i protocol host port, e = .message message ∧ SynFrame message i protocol ∧
        new = [.startTarget s.tunnels.length host port] ∧ x = .ok (s.opened i protocol) := by
  obtain ⟨_, hs', _, hx, hnew⟩ := machine_step_eq_some hstep
  cases hs'
  have hundisturbed : Keeps (Undisturbed s) (handle e) → ∀ u, x = .ok u → Undisturbed s u := by
    rintro hkeeps u rfl
    obtain ⟨_, hs', _, hrun⟩ := machine_step_alive hstep
    cases hs'
    have hu := hkeeps.state (Undisturbed.refl s)
    rwa [hrun] at hu
  cases e with
  | targetClosed tunnel => exact absurd rfl (he tunnel)
  | controllerClosed =>
      have hmild : Respects (fun _ => True) Mild controllerClosed :=
        respects_controller_closed trivial fun _ => trivial
      refine .inl ⟨?_, hundisturbed undisturbed_controller_closed⟩
      rw [hnew]
      exact hmild.actions (s := s) trivial
  | message message =>
      by_cases hsyn : ∃ i protocol, SynFrame message i protocol
      · obtain ⟨i, protocol, hframe⟩ := hsyn
        obtain ⟨host, port, hrun⟩ := run_syn_message hs hframe
        by_cases hprotocol : Supported protocol
        · rw [hrun, run_on_syn hprotocol] at hx hnew
          exact .inr ⟨message, i, protocol, host, port, rfl, hframe, hnew, hx⟩
        · have hnone : ((onSyn i host port protocol).run s).actions = [] := by
            simp [onSyn, start, init, interfaceOf, withSessions, make_tunnel_unsupported hprotocol]
          have hfault : x = .error (.nullInterface s.tunnels.length) := by
            rw [hx, hrun, run_on_syn_unsupported hprotocol]
            rfl
          subst hfault
          refine .inl ⟨?_, fun _ h => by cases h⟩
          rw [hnew, hrun, hnone]
          simp
      · refine .inl ⟨?_, hundisturbed (undisturbed_on_message hsyn)⟩
        rw [hnew]
        exact (mild_on_message hsyn).actions (s := s) trivial

/-- Only the close of a target's socket makes the server send a `FIN` frame. -/
theorem no_fin_step {s : TunnelServer} {x : Except ServerFault TunnelServer} {e : ServerEvent}
    {new : List ServerAction} (hs : Sound s) (he : ∀ tunnel, e ≠ .targetClosed tunnel)
    (hstep : tunnelServer.step (.ok s) e = some (x, new)) : ∀ a ∈ new, a.finId = none := by
  rcases actions_cases hs he hstep with ⟨hmild, _⟩ | ⟨_, _, _, _, _, _, _, rfl, _⟩
  · exact fun a ha => (hmild a ha).fin_id
  · simp [ServerAction.finId]

/-! ## What a run has sent -/

/-- The stream of every tunnel ever made, in order. -/
def streamIds (s : TunnelServer) : List UInt32 := s.tunnels.map TunnelSession.streamId

/-- While no stream is opened twice, a stream has one tunnel. -/
theorem tunnel_unique {s : TunnelServer} (h : s.streamIds.Nodup) {j k : Nat} {t u : TunnelSession}
    (ht : s.tunnels[j]? = some t) (hu : s.tunnels[k]? = some u) (hid : t.streamId = u.streamId) :
    j = k := by
  obtain ⟨hj, rfl⟩ := List.getElem?_eq_some_iff.mp ht
  obtain ⟨hk, rfl⟩ := List.getElem?_eq_some_iff.mp hu
  have hj' : j < s.streamIds.length := by simpa [streamIds] using hj
  refine (List.getElem?_inj hj' h).mp ?_
  simp [streamIds, hj, hk, hid]

/-- A live server after some events: its tunnels are those the `SYN` frames have opened, and a
`FIN` frame is that of a tunnel that has closed. -/
structure History (es : List ServerEvent) (out : List ServerAction) (s : TunnelServer) : Prop where
  unclosed : Unclosed s
  streams : s.streamIds = es.filterMap ServerEvent.synId
  fins : ∀ i, (∃ a ∈ out, a.finId = some i) →
    ∃ (k : Nat) (t : TunnelSession), s.tunnels[k]? = some t ∧ t.streamId = i ∧
      t.sessionInterface = none
  registered : (es.filterMap ServerEvent.synId).Nodup → Registered s
  once : (es.filterMap ServerEvent.synId).Nodup → (out.filterMap ServerAction.finId).Nodup

theorem history_started (sessionId : UInt32) : History [] [] (started sessionId) where
  unclosed k i c d hk := by simp [started] at hk
  streams := rfl
  fins i h := by
    obtain ⟨a, ha, _⟩ := h
    cases ha
  registered _ i k hlive := by
    obtain ⟨t, j, ht, _⟩ := hlive
    cases ht
  once _ := List.nodup_nil

/-- A step that opens no stream and sends no `FIN` frame. -/
theorem History.undisturbed {es : List ServerEvent} {out new : List ServerAction}
    {s u : TunnelServer} {e : ServerEvent} (h : History es out s) (hkeep : Undisturbed s u)
    (he : e.synId = none) (hnew : ∀ a ∈ new, a.finId = none) :
    History (es ++ [e]) (out ++ new) u := by
  have hids : (es ++ [e]).filterMap ServerEvent.synId = es.filterMap ServerEvent.synId := by
    simp [he]
  have hstreams : u.streamIds = s.streamIds := by
    have hmap := congrArg (List.map Prod.fst) hkeep.tunnels
    simpa [streamIds, outline, Function.comp_def] using hmap
  have hfins : new.filterMap ServerAction.finId = [] := List.filterMap_eq_nil_iff.mpr hnew
  refine ⟨hkeep.unclosed h.unclosed, by rw [hids, hstreams, h.streams], fun i hi => ?_,
    fun hnodup => ?_, fun hnodup => ?_⟩
  · obtain ⟨a, ha, hfin⟩ := hi
    rcases List.mem_append.mp ha with ha | ha
    · obtain ⟨k, t, ht, hid, hnone⟩ := h.fins i ⟨a, ha, hfin⟩
      have hout : (u.tunnels.map outline)[k]? = some (outline t) := by
        rw [hkeep.tunnels, List.getElem?_map, ht]
        rfl
      rw [List.getElem?_map] at hout
      obtain ⟨t', ht', heq⟩ := Option.map_eq_some_iff.mp hout
      simp only [outline, Prod.mk.injEq, hnone, Option.map_none, Option.map_eq_none_iff] at heq
      exact ⟨k, t', ht', heq.1.trans hid, heq.2.2⟩
    · rw [hnew a ha] at hfin
      cases hfin
  · rw [hids] at hnodup
    exact hkeep.registered (h.registered hnodup)
  · rw [hids] at hnodup
    rw [List.filterMap_append, hfins, List.append_nil]
    exact h.once hnodup

/-- A `SYN` frame. -/
theorem History.opened {es : List ServerEvent} {out new : List ServerAction} {s : TunnelServer}
    {message : Bytes} {i : UInt32} {protocol : Protocol} (h : History es out s)
    (hframe : SynFrame message i protocol) (hprotocol : Supported protocol)
    (hnew : ∀ a ∈ new, a.finId = none) :
    History (es ++ [.message message]) (out ++ new) (s.opened i protocol) := by
  have hid : (ServerEvent.message message).synId = some i :=
    syn_id_of_eq_some.mpr ⟨protocol, hframe⟩
  have hids : (es ++ [ServerEvent.message message]).filterMap ServerEvent.synId =
      es.filterMap ServerEvent.synId ++ [i] := by
    simp [hid]
  have hfins : new.filterMap ServerAction.finId = [] := List.filterMap_eq_nil_iff.mpr hnew
  refine ⟨unclosed_opened h.unclosed, ?_, fun j hj => ?_, fun hnodup => ?_, fun hnodup => ?_⟩
  · rw [hids, ← h.streams]
    show (s.tunnels ++ [makeTunnel i protocol]).map TunnelSession.streamId = _
    rw [List.map_append]
    rfl
  · obtain ⟨a, ha, hfin⟩ := hj
    rcases List.mem_append.mp ha with ha | ha
    · obtain ⟨k, t, ht, hstream, hnone⟩ := h.fins j ⟨a, ha, hfin⟩
      have hk := (List.getElem?_eq_some_iff.mp ht).1
      exact ⟨k, t, (List.getElem?_append_left hk).trans ht, hstream, hnone⟩
    · rw [hnew a ha] at hfin
      cases hfin
  · rw [hids] at hnodup
    have hold := List.nodup_append.mp hnodup
    refine (registered_opened_iff hprotocol (h.registered hold.1)).mpr ?_
    rintro ⟨k, t, j, ht, rfl, _⟩
    have hmem : t.streamId ∈ s.streamIds :=
      List.mem_map_of_mem (List.mem_of_getElem? ht)
    rw [h.streams] at hmem
    exact hold.2.2 _ hmem _ (List.mem_singleton_self _) rfl
  · rw [hids] at hnodup
    rw [List.filterMap_append, hfins, List.append_nil]
    exact h.once (List.nodup_append.mp hnodup).1

/-- The close of a tunnel's target. -/
theorem History.closed {es : List ServerEvent} {out : List ServerAction} {s : TunnelServer}
    {tunnel : Nat} {t : TunnelSession} {i : SessionInterface} (h : History es out s)
    (ht : s.tunnels[tunnel]? = some t) (hinterface : t.sessionInterface = some i) :
    History (es ++ [.targetClosed tunnel])
      (out ++ if i.isP2pClosed then [] else [.sendFin t.streamId t.protocol])
      (s.closed tunnel t.streamId) := by
  have hlive : LiveTunnel s t.streamId tunnel := ⟨t, i, ht, rfl, hinterface⟩
  have hids : (es ++ [ServerEvent.targetClosed tunnel]).filterMap ServerEvent.synId =
      es.filterMap ServerEvent.synId := by
    simp [ServerEvent.synId]
  have hnow : (s.closed tunnel t.streamId).tunnels[tunnel]? =
      some { t with isClosed := true, sessionInterface := none } := by
    show (s.tunnels.modify tunnel _)[tunnel]? = _
    rw [List.getElem?_modify_eq, ht]
    rfl
  refine ⟨unclosed_closed h.unclosed, ?_, fun j hj => ?_, fun hnodup => ?_, fun hnodup => ?_⟩
  · rw [hids, ← h.streams]
    exact map_modify_same ht rfl
  · obtain ⟨a, ha, hfin⟩ := hj
    rcases List.mem_append.mp ha with ha | ha
    · obtain ⟨k, t', ht', hid, hnone⟩ := h.fins j ⟨a, ha, hfin⟩
      have hk : tunnel ≠ k := by
        rintro rfl
        rw [ht] at ht'
        cases ht'
        rw [hinterface] at hnone
        cases hnone
      refine ⟨k, t', ?_, hid, hnone⟩
      show (s.tunnels.modify tunnel _)[k]? = _
      rw [List.getElem?_modify_ne _ _ hk, ht']
    · have hstream : t.streamId = j := by
        split at ha
        · cases ha
        · cases List.mem_singleton.mp ha
          exact Option.some.inj hfin
      exact ⟨tunnel, _, hnow, hstream, rfl⟩
  · rw [hids] at hnodup
    exact registered_closed (h.registered hnodup) hlive
  · rw [hids] at hnodup
    have honce := h.once hnodup
    rw [List.filterMap_append]
    split
    · simpa using honce
    · refine List.nodup_append.mpr ⟨honce, by simp [ServerAction.finId], ?_⟩
      intro j hj j' hj' heq
      simp only [List.filterMap_cons, ServerAction.finId, List.filterMap_nil,
        List.mem_singleton] at hj'
      subst heq hj'
      -- the stream's only tunnel has not closed, so it has sent no frame yet
      obtain ⟨a, ha, hfin⟩ := List.mem_filterMap.mp hj
      obtain ⟨k, t', ht', hid, hnone⟩ := h.fins _ ⟨a, ha, hfin⟩
      rw [← h.streams] at hnodup
      obtain rfl := tunnel_unique hnodup ht ht' hid.symm
      rw [ht] at ht'
      cases ht'
      rw [hinterface] at hnone
      cases hnone

variable {sessionId : UInt32} {es : List ServerEvent} {out : List ServerAction}

/-- The server after a step that leaves it alive. -/
theorem History.step {s u : TunnelServer} {e : ServerEvent} {new : List ServerAction}
    (h : History es out s) (hs : Sound s)
    (hstep : tunnelServer.step (.ok s) e = some (.ok u, new)) :
    History (es ++ [e]) (out ++ new) u := by
  obtain ⟨_, hs', _, hrun⟩ := machine_step_alive hstep
  cases hs'
  by_cases he : ∃ tunnel, e = .targetClosed tunnel
  · obtain ⟨tunnel, rfl⟩ := he
    by_cases hlive : ∃ i, LiveTunnel s i tunnel
    · obtain ⟨_, t, j, ht, _, hinterface⟩ := hlive
      rw [show (handle (.targetClosed tunnel)).run s = _ from
        run_target_closed h.unclosed ht hinterface] at hrun
      cases hrun
      exact h.closed ht hinterface
    · rw [show (handle (.targetClosed tunnel)).run s = _ from
        run_target_closed_again hlive] at hrun
      cases hrun
      exact h.undisturbed (Undisturbed.refl s) rfl (by simp)
  · have hnofin := no_fin_step hs (fun tunnel heq => he ⟨tunnel, heq⟩) hstep
    rcases step_cases hs h.unclosed hstep with
      ⟨message, i, protocol, rfl, hframe, hprotocol, rfl⟩ | ⟨tunnel, i, heq, _⟩ | ⟨hsyn, hkeep⟩
    · exact h.opened hframe hprotocol hnofin
    · exact absurd ⟨tunnel, heq⟩ he
    · refine h.undisturbed hkeep ?_ hnofin
      cases e with
      | message message =>
          refine Option.eq_none_iff_forall_ne_some.mpr fun i hi => ?_
          obtain ⟨protocol, hframe⟩ := syn_id_of_eq_some.mp hi
          exact hsyn message rfl ⟨i, protocol, hframe⟩
      | _ => rfl

/-- The close callback of a target's socket always returns. -/
theorem target_closed_ok {s : TunnelServer} (hs : Unclosed s) (tunnel : Nat) :
    ((targetClosed tunnel).run s).result = .ok () := by
  by_cases hlive : ∃ i, LiveTunnel s i tunnel
  · obtain ⟨_, t, j, ht, _, hinterface⟩ := hlive
    rw [run_target_closed hs ht hinterface]
  · rw [run_target_closed_again hlive]

/-- What a run leaves, and the `FIN` frames it has sent even if it ended in a fault. -/
theorem history_run {x : Except ServerFault TunnelServer}
    (hrun : tunnelServer.run (.ok (started sessionId)) es = some (x, out)) :
    (∀ s, x = .ok s → History es out s) ∧
      ((es.filterMap ServerEvent.synId).Nodup → (out.filterMap ServerAction.finId).Nodup) := by
  refine Machine.run_induction (P := fun es out x => (∀ s, x = .ok s → History es out s) ∧
    ((es.filterMap ServerEvent.synId).Nodup → (out.filterMap ServerAction.finId).Nodup)) ?_ ?_ hrun
  · refine ⟨?_, fun _ => List.nodup_nil⟩
    rintro s ⟨⟩
    exact history_started sessionId
  · intro es out x e y new hbefore ih hstep
    obtain ⟨s, rfl, he, hy, hnew⟩ := machine_step_eq_some hstep
    have hs := ih.1 s rfl
    cases y with
    | ok u =>
        have hu := hs.step (sound_run (sound_started sessionId) hbefore) hstep
        refine ⟨?_, hu.once⟩
        rintro _ ⟨⟩
        exact hu
    | error fault =>
        refine ⟨nofun, fun hnodup => ?_⟩
        have hnofin : ∀ a ∈ new, a.finId = none := by
          refine no_fin_step (sound_run (sound_started sessionId) hbefore) ?_ hstep
          rintro tunnel rfl
          rw [show ((handle (.targetClosed tunnel)).run s).result = .ok () from
            target_closed_ok hs.unclosed tunnel] at hy
          cases hy
        rw [List.filterMap_append] at hnodup ⊢
        rw [List.filterMap_eq_nil_iff.mpr hnofin, List.append_nil]
        exact ih.2 (List.nodup_append.mp hnodup).1

/-- The server sends `FIN` frames for streams only that it has been asked to open. -/
theorem fin_of_syn {x : Except ServerFault TunnelServer}
    (hrun : tunnelServer.run (.ok (started sessionId)) es = some (x, out)) {i : UInt32}
    (hi : i ∈ out.filterMap ServerAction.finId) : i ∈ es.filterMap ServerEvent.synId := by
  refine Machine.run_induction (m := tunnelServer) (P := fun es out x =>
    i ∈ out.filterMap ServerAction.finId → i ∈ es.filterMap ServerEvent.synId) (by simp) ?_ hrun hi
  intro es out x e y new hbefore ih hstep hi
  obtain ⟨s, rfl, _, hy, hnew⟩ := machine_step_eq_some hstep
  have hhistory := (history_run hbefore).1 s rfl
  rw [List.filterMap_append] at hi ⊢
  rcases List.mem_append.mp hi with hi | hi
  · exact List.mem_append_left _ (ih hi)
  · -- only a target's close sends one, and it leaves the server alive
    obtain ⟨b, hb, hfin⟩ := List.mem_filterMap.mp hi
    have hsound := sound_run (sound_started sessionId) hbefore
    by_cases he : ∃ tunnel, e = .targetClosed tunnel
    · obtain ⟨tunnel, rfl⟩ := he
      have hok : y = .ok ((handle (.targetClosed tunnel)).run s).state := by
        rw [hy, show ((handle (.targetClosed tunnel)).run s).result = .ok () from
          target_closed_ok hhistory.unclosed tunnel]
        rfl
      subst hok
      have hafter := hhistory.step hsound hstep
      obtain ⟨k, t, ht, hid, -⟩ := hafter.fins i ⟨b, List.mem_append_right _ hb, hfin⟩
      rw [← List.filterMap_append, ← hafter.streams, ← hid]
      exact List.mem_map_of_mem (List.mem_of_getElem? ht)
    · rw [no_fin_step hsound (fun tunnel heq => he ⟨tunnel, heq⟩) hstep b hb] at hfin
      cases hfin

/-! ## Once the peer's `FIN` frame has arrived -/

/-- The handler of a `FIN` frame tells the tunnel that its stream leads to. -/
theorem run_fin_message {s : TunnelServer} {message : Bytes} {i : UInt32} {k : Nat}
    (hs : Sound s) (hregistered : Registered s) (hframe : FinFrame message i)
    (hlive : LiveTunnel s i k) :
    ∃ u, (handle (.message message)).run s = ⟨u, [.closeTarget k], .ok ()⟩ ∧ Yielded u k := by
  obtain ⟨h', payload, hframe, htype, rfl⟩ := hframe
  obtain ⟨hfind, howner, _⟩ := hregistered _ k hlive
  obtain ⟨session, hsession⟩ := Option.isSome_iff_exists.mp hfind
  obtain ⟨hcallbacks, _⟩ := hs.sessions _ session hsession
  subst hcallbacks
  have hupcall : s.mux.onMessage message =
      .ok (some (.onClose (tunnelCallbacks h'.streamId) h'.protocol)) := by
    rw [SessionMux.on_message_eq, hframe]
    simp only [htype, SessionMux.onFinFrame, hsession]
    rfl
  obtain ⟨t, j, ht, _, hinterface⟩ := hlive
  refine ⟨{ s with tunnels := s.tunnels.modify k (p2pClosed j) }, ?_,
    yielded_p2p_closed k j k (.inl rfl)⟩
  have hsame : (handle (.message message)).run s = (close k).run s := by
    rw [← howner]
    simp [handle, onMessage, hupcall, onUpcall, tunnelCallbacks]
  rw [hsame, run_close ht hinterface]

/-- A tunnel that has yielded has done so after every step, and it sends no `FIN` frame. -/
theorem yielded_step {s : TunnelServer} {x : Except ServerFault TunnelServer} {e : ServerEvent}
    {new : List ServerAction} {k : Nat} {t : TunnelSession} (hs : Sound s) (h : History es out s)
    (hnodup : (es.filterMap ServerEvent.synId).Nodup) (ht : s.tunnels[k]? = some t)
    (hyielded : Yielded s k) (hstep : tunnelServer.step (.ok s) e = some (x, new)) :
    (∀ a ∈ new, a.finId ≠ some t.streamId) ∧ ∀ u, x = .ok u → Yielded u k := by
  obtain ⟨_, hs', _, hx, hnew⟩ := machine_step_eq_some hstep
  cases hs'
  constructor
  · intro a ha hfin
    by_cases he : ∃ tunnel, e = .targetClosed tunnel
    · obtain ⟨tunnel, rfl⟩ := he
      rw [show handle (.targetClosed tunnel) = targetClosed tunnel from rfl] at hnew
      by_cases hlive : ∃ i, LiveTunnel s i tunnel
      · obtain ⟨_, t', j, ht', _, hinterface⟩ := hlive
        rw [run_target_closed h.unclosed ht' hinterface] at hnew
        rw [hnew] at ha
        split at ha
        · cases ha
        · next hp2p =>
            cases List.mem_singleton.mp ha
            rw [← h.streams] at hnodup
            obtain rfl := tunnel_unique hnodup ht' ht (Option.some.inj hfin)
            exact hp2p (hyielded t' j ht' hinterface)
      · rw [run_target_closed_again hlive] at hnew
        rw [hnew] at ha
        cases ha
    · rw [no_fin_step hs (fun tunnel heq => he ⟨tunnel, heq⟩) hstep a ha] at hfin
      cases hfin
  · rintro u rfl
    have hk := (List.getElem?_eq_some_iff.mp ht).1
    rcases step_cases hs h.unclosed hstep with ⟨_, i, protocol, rfl, _, _, rfl⟩ |
      ⟨tunnel, i, rfl, _, rfl⟩ | ⟨_, hkeep⟩
    · intro t' j ht' hinterface
      have hold : (s.tunnels ++ [makeTunnel i protocol])[k]? = some t' := ht'
      rw [List.getElem?_append_left hk] at hold
      exact hyielded t' j hold hinterface
    · intro t' j ht' hinterface
      have hmodified : (s.tunnels.modify tunnel fun t =>
          { t with isClosed := true, sessionInterface := none })[k]? = some t' := ht'
      by_cases htunnel : tunnel = k
      · subst htunnel
        rw [List.getElem?_modify_eq] at hmodified
        obtain ⟨_, _, rfl⟩ := Option.map_eq_some_iff.mp hmodified
        cases hinterface
      · rw [List.getElem?_modify_ne _ _ htunnel] at hmodified
        exact hyielded t' j hmodified hinterface
    · exact hkeep.yielded k hyielded

/-- Tunnels keep their place and their stream. -/
theorem stream_ids_step {s u : TunnelServer} {e : ServerEvent} {new : List ServerAction} {k : Nat}
    {i : UInt32} (hs : Sound s) (h : History es out s)
    (hstep : tunnelServer.step (.ok s) e = some (.ok u, new)) (hk : s.streamIds[k]? = some i) :
    u.streamIds[k]? = some i := by
  have hlt := (List.getElem?_eq_some_iff.mp hk).1
  rw [h.streams] at hk hlt
  rw [(h.step hs hstep).streams, List.filterMap_append, List.getElem?_append_left hlt, hk]

theorem stream_ids_eq_some {s : TunnelServer} {k : Nat} {i : UInt32} :
    s.streamIds[k]? = some i ↔ ∃ t, s.tunnels[k]? = some t ∧ t.streamId = i := by
  rw [streamIds, List.getElem?_map, Option.map_eq_some_iff]

/-- No `FIN` frame has been sent for the stream of a live tunnel. -/
theorem no_fin_of_live {s : TunnelServer} {i : UInt32} {k : Nat} (h : History es out s)
    (hnodup : (es.filterMap ServerEvent.synId).Nodup) (hlive : LiveTunnel s i k) :
    ∀ a ∈ out, a.finId ≠ some i := by
  intro a ha hfin
  obtain ⟨k', t', ht', hid', hnone⟩ := h.fins i ⟨a, ha, hfin⟩
  obtain ⟨t, j, ht, hid, hinterface⟩ := hlive
  obtain rfl := tunnel_unique (h.streams ▸ hnodup) ht ht' (hid.trans hid'.symm)
  rw [ht] at ht'
  cases ht'
  rw [hinterface] at hnone
  cases hnone

/-- From a state where the stream's tunnel has yielded on, no `FIN` frame is sent for it. -/
theorem no_fin_of_yielded {s : TunnelServer} {x : Except ServerFault TunnelServer}
    {before after : List ServerEvent} {first rest : List ServerAction} {i : UInt32} {k : Nat}
    (hbefore : tunnelServer.run (.ok (started sessionId)) before = some (.ok s, first))
    (hafter : tunnelServer.run (.ok s) after = some (x, rest)) (hyielded : Yielded s k)
    (hplace : s.streamIds[k]? = some i)
    (hnodup : ((before ++ after).filterMap ServerEvent.synId).Nodup) :
    ∀ a ∈ rest, a.finId ≠ some i := by
  have hrun : ((before ++ after).filterMap ServerEvent.synId).Nodup →
      (∀ a ∈ rest, a.finId ≠ some i) ∧
        ∀ w, x = .ok w → Yielded w k ∧ w.streamIds[k]? = some i := by
    refine Machine.run_induction (m := tunnelServer) (P := fun es out x =>
      ((before ++ es).filterMap ServerEvent.synId).Nodup →
        (∀ a ∈ out, a.finId ≠ some i) ∧
          ∀ w, x = .ok w → Yielded w k ∧ w.streamIds[k]? = some i) ?_ ?_ hafter
    · refine fun _ => ⟨by simp, ?_⟩
      rintro _ ⟨⟩
      exact ⟨hyielded, hplace⟩
    · intro es out x e y new hes ih hstep hnodup
      obtain ⟨w, rfl, _, _, _⟩ := machine_step_eq_some hstep
      rw [← List.append_assoc, List.filterMap_append] at hnodup
      have hold := (List.nodup_append.mp hnodup).1
      obtain ⟨hout, hw⟩ := ih hold
      obtain ⟨hyielded, hplace⟩ := hw w rfl
      have hwhole := Machine.run_append.mpr ⟨_, _, _, hbefore, hes, rfl⟩
      have hsound := sound_run (sound_started sessionId) hwhole
      have hhistory := (history_run hwhole).1 w rfl
      obtain ⟨t, ht, rfl⟩ := stream_ids_eq_some.mp hplace
      obtain ⟨hnew, hy⟩ := yielded_step hsound hhistory hold ht hyielded hstep
      refine ⟨fun a ha => ?_, ?_⟩
      · rcases List.mem_append.mp ha with ha | ha
        · exact hout a ha
        · exact hnew a ha
      · rintro u rfl
        exact ⟨hy u rfl, stream_ids_step hsound hhistory hstep hplace⟩
  exact (hrun hnodup).1

/-- Once a `FIN` frame has arrived at a live tunnel, the server sends none for its stream, and it
has sent none before. -/
theorem no_fin_after_fin {s : TunnelServer} {x : Except ServerFault TunnelServer}
    {before after : List ServerEvent} {first : List ServerAction} {message : Bytes} {i : UInt32}
    {k : Nat} (hbefore : tunnelServer.run (.ok (started sessionId)) before = some (.ok s, first))
    (hframe : FinFrame message i) (hlive : LiveTunnel s i k)
    (hrun : tunnelServer.run (.ok (started sessionId)) (before ++ .message message :: after) =
      some (x, out))
    (hnodup : ((before ++ .message message :: after).filterMap ServerEvent.synId).Nodup) :
    ∀ a ∈ out, a.finId ≠ some i := by
  have hs := sound_run (sound_started sessionId) hbefore
  have hhistory := (history_run hbefore).1 s rfl
  have hids : (before.filterMap ServerEvent.synId).Nodup := by
    rw [List.filterMap_append] at hnodup
    exact (List.nodup_append.mp hnodup).1
  obtain ⟨_, first', rest, hbefore', hrest, rfl⟩ := Machine.run_append.mp hrun
  rw [hbefore] at hbefore'
  cases hbefore'
  obtain ⟨u, hmessage, hyielded⟩ := run_fin_message hs (hhistory.registered hids) hframe hlive
  have hstep : tunnelServer.step (.ok s) (.message message) = some (.ok u, [.closeTarget k]) := by
    rw [tunnelServer, machine_step_ok rfl, hmessage]
    rfl
  obtain ⟨_, new, rest', hstep', hafter, rfl⟩ := Machine.run_cons.mp hrest
  rw [hstep] at hstep'
  cases hstep'
  have hplace : u.streamIds[k]? = some i := by
    obtain ⟨t, j, ht, hid, _⟩ := hlive
    exact stream_ids_step hs hhistory hstep (stream_ids_eq_some.mpr ⟨t, ht, hid⟩)
  have hlater := no_fin_of_yielded (Machine.run_snoc.mpr ⟨_, _, _, hbefore, hstep, rfl⟩) hafter
    hyielded hplace (by simpa using hnodup)
  intro a ha
  rcases List.mem_append.mp ha with ha | ha
  · exact no_fin_of_live hhistory hids hlive a ha
  · rcases List.mem_append.mp ha with ha | ha
    · cases List.mem_singleton.mp ha
      exact nofun
    · exact hlater a ha

end TunnelServer

end RtcVpn
