import RtcVpn.Server.Robustness

/-!
# Which tunnel the registries lead to

A `SYN` frame enters its tunnel in `tunnel_sessions_` and in the multiplexer
under an id the peer has chosen, over whatever is there, and the close of a
tunnel erases its stream id from both. As long as no `SYN` frame names the
stream of a tunnel that has not closed, both lead to the tunnels that are live,
and a tunnel erases nothing but itself.
-/

namespace RtcVpn

namespace TunnelServer

open Effect

/-- Every tunnel that has not closed is registered under its stream id, in the multiplexer with
its own callbacks and in `tunnel_sessions_`. -/
def Registered (s : TunnelServer) : Prop :=
  ∀ i k, LiveTunnel s i k → (s.mux.sessionManager.findSession i).isSome ∧ s.owner i = k ∧
    s.tunnelSessions.lookup i = some k

/-- The message is a well-formed `SYN` frame. -/
def SynFrame (message : Bytes) (streamId : UInt32) (protocol : Protocol) : Prop :=
  ∃ h payload host port, frameOf message = some (h, payload) ∧ h.type = .syn ∧
    decodeSynPayload payload = .ok (some (host, port)) ∧ h.streamId = streamId ∧
    h.protocol = protocol

/-- The message is a well-formed `SYN` frame, with a protocol there are tunnels for, that names
the stream of a tunnel that has not closed. -/
def OpensOver (s : TunnelServer) (message : Bytes) : Prop :=
  ∃ streamId protocol, SynFrame message streamId protocol ∧ Supported protocol ∧
    ∃ k, LiveTunnel s streamId k

/-! ## What the registries and the tunnels show of their state -/

/-- A tunnel but for what it knows of the peer's close. -/
def outline (t : TunnelSession) : UInt32 × Bool × Option Bool :=
  (t.streamId, t.isClosed, t.sessionInterface.map SessionInterface.isClosed)

/-- The tunnel has closed or has been told of the peer's close. -/
def Yielded (s : TunnelServer) (k : Nat) : Prop :=
  ∀ t i, s.tunnels[k]? = some t → t.sessionInterface = some i → i.isP2pClosed = true

/-- The stream and the protocol of every tunnel ever made. -/
def names (s : TunnelServer) : List (UInt32 × Protocol) :=
  s.tunnels.map fun t => (t.streamId, t.protocol)

/-- The registries, the tunnels they lead to and the tunnels as such are those of `s`, but for what
the tunnels know of the peer's close, which they do not forget. -/
structure Undisturbed (s u : TunnelServer) : Prop where
  registries : u.registries = s.registries
  owner : u.owner = s.owner
  tunnels : u.tunnels.map outline = s.tunnels.map outline
  names : u.names = s.names
  yielded : ∀ k, Yielded s k → Yielded u k

theorem Undisturbed.refl (s : TunnelServer) : Undisturbed s s :=
  ⟨rfl, rfl, rfl, rfl, fun _ h => h⟩

theorem Undisturbed.trans {s t u : TunnelServer} (h : Undisturbed s t) (h' : Undisturbed t u) :
    Undisturbed s u :=
  ⟨h'.registries.trans h.registries, h'.owner.trans h.owner, h'.tunnels.trans h.tunnels,
    h'.names.trans h.names, fun k hk => h'.yielded k (h.yielded k hk)⟩

/-- A change of a tunnel that does not change what is read from it. -/
theorem map_modify_same {α : Type} {g : TunnelSession → α} {f : TunnelSession → TunnelSession}
    {ts : List TunnelSession} {tunnel : Nat} {t : TunnelSession} (ht : ts[tunnel]? = some t)
    (hg : g (f t) = g t) : (ts.modify tunnel f).map g = ts.map g := by
  apply List.ext_getElem?
  intro k
  simp only [List.getElem?_map, List.getElem?_modify]
  by_cases hk : tunnel = k
  · subst hk
    simp [ht, hg]
  · simp [hk]

/-- Marking a tunnel as closed by the peer. -/
theorem yielded_p2p_closed {s : TunnelServer} (tunnel : Nat) (i : SessionInterface) (k : Nat)
    (hk : k = tunnel ∨ Yielded s k) :
    Yielded { s with tunnels := s.tunnels.modify tunnel (p2pClosed i) } k := by
  intro t j ht hinterface
  have ht' : (s.tunnels.modify tunnel (p2pClosed i))[k]? = some t := ht
  by_cases htunnel : k = tunnel
  · subst htunnel
    rw [List.getElem?_modify_eq] at ht'
    obtain ⟨t', _, rfl⟩ := Option.map_eq_some_iff.mp ht'
    cases hinterface
    rfl
  · rw [List.getElem?_modify_ne _ _ (Ne.symm htunnel)] at ht'
    exact (hk.resolve_left htunnel) t j ht' hinterface

/-- Which tunnels are live, by their outlines. -/
theorem live_tunnel_iff {s : TunnelServer} {i : UInt32} {k : Nat} :
    LiveTunnel s i k ↔ ∃ c d, (s.tunnels.map outline)[k]? = some (i, c, some d) := by
  rw [List.getElem?_map]
  constructor
  · rintro ⟨t, j, ht, rfl, hinterface⟩
    exact ⟨t.isClosed, j.isClosed, by simp [ht, outline, hinterface]⟩
  · rintro ⟨c, d, h⟩
    obtain ⟨t, ht, hout⟩ := Option.map_eq_some_iff.mp h
    obtain ⟨hstream, hrest⟩ := Prod.mk.inj hout
    obtain ⟨j, hj, _⟩ := Option.map_eq_some_iff.mp (Prod.mk.inj hrest).2
    exact ⟨t, j, ht, hstream, hj⟩

theorem Undisturbed.live_iff {s u : TunnelServer} (h : Undisturbed s u) {i : UInt32} {k : Nat} :
    LiveTunnel u i k ↔ LiveTunnel s i k := by
  rw [live_tunnel_iff, live_tunnel_iff, h.tunnels]

/-- A tunnel with an interface has not closed, nor has the interface. -/
def Unclosed (s : TunnelServer) : Prop :=
  ∀ (k : Nat) i c d, (s.tunnels.map outline)[k]? = some (i, c, some d) → c = false ∧ d = false

theorem Undisturbed.unclosed {s u : TunnelServer} (h : Undisturbed s u) (hs : Unclosed s) :
    Unclosed u := by
  rw [Unclosed, h.tunnels]
  exact hs

theorem Undisturbed.registered {s u : TunnelServer} (h : Undisturbed s u) (hs : Registered s) :
    Registered u := by
  intro i k hlive
  obtain ⟨hfind, howner, hlookup⟩ := hs i k (h.live_iff.mp hlive)
  obtain ⟨hsessions, htunnels⟩ := Prod.mk.inj h.registries
  refine ⟨?_, by rw [h.owner, howner], by rw [htunnels, hlookup]⟩
  rw [SessionManager.findSession] at hfind ⊢
  rwa [hsessions]

/-! ## Handlers that disturb nothing -/

variable {s : TunnelServer}

theorem undisturbed_interface_of (tunnel : Nat) : Keeps (Undisturbed s) (interfaceOf tunnel) := by
  refine Respects.get.bind fun u => ?_
  cases u.tunnels[tunnel]? with
  | none => exact Respects.fail _
  | some t =>
      dsimp only
      cases t.sessionInterface with
      | none => exact Respects.fail _
      | some i => exact Respects.pure _

theorem undisturbed_close (tunnel : Nat) : Keeps (Undisturbed s) (close tunnel) := by
  refine keeps_of_state fun u h => ?_
  cases ht : u.tunnels[tunnel]? with
  | none => simpa [close, interfaceOf, ht] using h
  | some t =>
      cases hinterface : t.sessionInterface with
      | none => simpa [close, interfaceOf, ht, hinterface] using h
      | some i =>
          rw [run_close ht hinterface]
          refine h.trans ⟨rfl, rfl, ?_, map_modify_same ht rfl,
            fun k hk => yielded_p2p_closed tunnel i k (.inr hk)⟩
          -- the tunnel changes, but not its outline
          exact map_modify_same ht (by simp [p2pClosed, outline, hinterface])

theorem undisturbed_p2p_rev_data (tunnel : Nat) (data : Bytes) (protocol : Protocol) :
    Keeps (Undisturbed s) (p2pRevData tunnel data protocol) := by
  have huse : Keeps (Undisturbed s) (do
      let _ ← interfaceOf tunnel
      Effect.emit (.revP2pData tunnel data) : ServerHandler) :=
    Respects.bind (undisturbed_interface_of tunnel) fun _ => Respects.emit trivial
  cases protocol with
  | unknown => exact Respects.pure _
  | other byte hbyte => exact Respects.pure _
  | _ => exact huse

theorem undisturbed_p2p_rev_ctrl (tunnel : Nat) (ctrl : CtrlType) :
    Keeps (Undisturbed s) (p2pRevCtrl tunnel ctrl) := by
  cases ctrl with
  | other byte hbyte => exact Respects.pure _
  | _ => exact Respects.bind (undisturbed_interface_of tunnel) fun _ => Respects.emit trivial

theorem undisturbed_controller_closed : Keeps (Undisturbed s) controllerClosed :=
  (Respects.emit trivial).bind fun _ =>
    Respects.get.bind fun _ => Respects.forEach _ undisturbed_close

/-- Any upcall of the multiplexer but a `SYN`. -/
theorem undisturbed_on_upcall {upcall : Upcall}
    (h : ∀ streamId host port protocol, upcall ≠ .onSyn streamId host port protocol) :
    Keeps (Undisturbed s) (onUpcall upcall) := by
  cases upcall with
  | onSyn streamId host port protocol => exact absurd rfl (h streamId host port protocol)
  | onSynack session ok protocol => exact Respects.pure _
  | onData session payload protocol =>
      exact Respects.get.bind fun _ => undisturbed_p2p_rev_data _ _ _
  | onClose session protocol => exact Respects.get.bind fun _ => undisturbed_close _
  | onDataCtrl session ctrl protocol =>
      exact Respects.get.bind fun _ => undisturbed_p2p_rev_ctrl _ _

/-- Any message but a well-formed `SYN` frame. -/
theorem undisturbed_on_message {message : Bytes}
    (h : ¬ ∃ streamId protocol, SynFrame message streamId protocol) :
    Keeps (Undisturbed s) (onMessage message) := by
  refine Respects.get.bind fun u => ?_
  rcases u.mux.on_message_cases message with hnone | ⟨h', payload, hframe, hopen | hsession⟩
  · rw [hnone]
    exact Respects.pure _
  · obtain ⟨host, port, htype, hpayload, _⟩ := hopen
    exact absurd ⟨_, _, h', payload, host, port, hframe, htype, hpayload, rfl, rfl⟩ h
  · obtain ⟨session, _, ⟨ok, _, hupcall⟩ | hupcall | ⟨-, hupcall⟩ | ⟨byte, rest, -, -, hupcall⟩⟩ :=
      hsession
    all_goals
      rw [hupcall]
      exact undisturbed_on_upcall nofun

/-! ## Opening and closing -/

/-- Opening a tunnel leaves it the only one registered under its stream id. -/
theorem live_opened_iff {streamId i : UInt32} {protocol : Protocol} {k : Nat}
    (h : Supported protocol) :
    LiveTunnel (s.opened streamId protocol) i k ↔
      LiveTunnel s i k ∨ (i = streamId ∧ k = s.tunnels.length) := by
  constructor
  · rintro ⟨t, j, ht, rfl, hinterface⟩
    have ht' : (s.tunnels ++ [makeTunnel streamId protocol])[k]? = some t := ht
    by_cases hk : k < s.tunnels.length
    · rw [List.getElem?_append_left hk] at ht'
      exact .inl ⟨t, j, ht', rfl, hinterface⟩
    · rw [List.getElem?_append_right (by omega), List.getElem?_singleton] at ht'
      split at ht'
      · cases ht'
        exact .inr ⟨rfl, by omega⟩
      · cases ht'
  · rintro (h' | ⟨rfl, rfl⟩)
    · exact h'.append _
    · exact ⟨makeTunnel i protocol, {}, by simp [opened], rfl, make_tunnel_supported h⟩

/-- Opening a tunnel keeps the tunnels registered if and only if it takes no live tunnel's place. -/
theorem registered_opened_iff {streamId : UInt32} {protocol : Protocol} (h : Supported protocol)
    (hs : Registered s) :
    Registered (s.opened streamId protocol) ↔ ¬ ∃ k, LiveTunnel s streamId k := by
  constructor
  · rintro hopened ⟨k, hlive⟩
    obtain ⟨_, howner, _⟩ := hopened streamId k ((live_opened_iff h).mpr (.inl hlive))
    obtain ⟨_, hnew, _⟩ := hopened streamId s.tunnels.length
      ((live_opened_iff h).mpr (.inr ⟨rfl, rfl⟩))
    obtain ⟨t, _, ht, _⟩ := hlive
    have hlt : k < s.tunnels.length := (List.getElem?_eq_some_iff.mp ht).1
    omega
  · intro hfree i k hlive
    have hfind : ∀ j, (s.opened streamId protocol).mux.sessionManager.findSession j =
        if j = streamId then some (tunnelCallbacks streamId)
        else s.mux.sessionManager.findSession j :=
      fun j => SessionManager.find_register_session _ _ _
    rcases (live_opened_iff h).mp hlive with hold | ⟨rfl, rfl⟩
    · have hne : i ≠ streamId := fun heq => hfree ⟨k, heq ▸ hold⟩
      obtain ⟨hsome, howner, hlookup⟩ := hs i k hold
      refine ⟨by rw [hfind, if_neg hne]; exact hsome, ?_, ?_⟩
      · exact (Function.update_of_ne hne _ _).trans howner
      · exact (AList.lookup_insert_ne hne).trans hlookup
    · refine ⟨by rw [hfind, if_pos rfl]; rfl, Function.update_self _ _ _, ?_⟩
      exact AList.lookup_insert s.tunnelSessions

theorem unclosed_opened {streamId : UInt32} {protocol : Protocol} (hs : Unclosed s) :
    Unclosed (s.opened streamId protocol) := by
  intro k i c d hk
  have hk' : ((s.tunnels ++ [makeTunnel streamId protocol]).map outline)[k]? =
      some (i, c, some d) := hk
  rw [List.map_append] at hk'
  by_cases hlt : k < (s.tunnels.map outline).length
  · rw [List.getElem?_append_left hlt] at hk'
    exact hs k i c d hk'
  · rw [List.getElem?_append_right (by omega), List.map_singleton, List.getElem?_singleton] at hk'
    split at hk'
    · cases protocol <;> cases hk' <;> exact ⟨rfl, rfl⟩
    · cases hk'

/-- The server once a tunnel of a stream has closed. -/
def closed (s : TunnelServer) (tunnel : Nat) (streamId : UInt32) : TunnelServer where
  mux := (s.withSessions (·.removeSession streamId)).mux
  tunnelSessions := s.tunnelSessions.erase streamId
  tunnels := s.tunnels.modify tunnel fun t => { t with isClosed := true, sessionInterface := none }
  owner := s.owner

/-- The close callback of a target's socket, for a tunnel that has not closed. -/
theorem run_target_closed {tunnel : Nat} {t : TunnelSession} {i : SessionInterface}
    (hs : Unclosed s) (ht : s.tunnels[tunnel]? = some t)
    (hinterface : t.sessionInterface = some i) :
    (targetClosed tunnel).run s =
      ⟨s.closed tunnel t.streamId,
        if i.isP2pClosed then [] else [.sendFin t.streamId t.protocol], .ok ()⟩ := by
  obtain ⟨hclosed, hiclosed⟩ := hs tunnel t.streamId t.isClosed i.isClosed
    (by simp [ht, outline, hinterface])
  cases hp2p : i.isP2pClosed <;>
    simp [targetClosed, ht, hinterface, hiclosed, hclosed, hp2p, closeFunc, modifyTunnel,
      closed, withSessions, List.modify_modify_eq, Function.comp_def]

/-- The close callback of a target's socket, for a tunnel that has closed or never was. -/
theorem run_target_closed_again {tunnel : Nat} (h : ¬ ∃ i, LiveTunnel s i tunnel) :
    (targetClosed tunnel).run s = ⟨s, [], .ok ()⟩ := by
  cases ht : s.tunnels[tunnel]? with
  | none => simp [targetClosed, ht]
  | some t =>
      cases hinterface : t.sessionInterface with
      | none => simp [targetClosed, ht, hinterface]
      | some i => exact absurd ⟨t.streamId, t, i, ht, rfl, hinterface⟩ h

/-- The tunnels that are live once one has closed. -/
theorem live_closed_iff {tunnel k : Nat} {streamId i : UInt32} :
    LiveTunnel (s.closed tunnel streamId) i k ↔ LiveTunnel s i k ∧ k ≠ tunnel := by
  constructor
  · rintro ⟨t, j, ht, rfl, hinterface⟩
    have ht' : (s.tunnels.modify tunnel fun t =>
        { t with isClosed := true, sessionInterface := none })[k]? = some t := ht
    by_cases hk : k = tunnel
    · subst hk
      obtain ⟨t', _, rfl⟩ := Option.map_eq_some_iff.mp (List.getElem?_modify_eq _ _ _ ▸ ht')
      cases hinterface
    · rw [List.getElem?_modify_ne _ _ (Ne.symm hk)] at ht'
      exact ⟨⟨t, j, ht', rfl, hinterface⟩, hk⟩
  · rintro ⟨hlive, hk⟩
    exact hlive.modify_of_ne _ (Ne.symm hk)

theorem unclosed_closed {tunnel : Nat} {streamId : UInt32} (hs : Unclosed s) :
    Unclosed (s.closed tunnel streamId) := by
  intro k i c d hk
  have hk' : ((s.tunnels.modify tunnel fun t =>
      { t with isClosed := true, sessionInterface := none }).map outline)[k]? =
      some (i, c, some d) := hk
  rw [List.getElem?_map, List.getElem?_modify] at hk'
  by_cases htunnel : tunnel = k
  · subst htunnel
    obtain ⟨t, ht, hout⟩ := Option.map_eq_some_iff.mp hk'
    obtain ⟨t', _, rfl⟩ := Option.map_eq_some_iff.mp ht
    simp [outline] at hout
  · refine hs k i c d ?_
    simpa [htunnel] using hk'

theorem names_closed {tunnel : Nat} {streamId i : UInt32} (hlive : LiveTunnel s i tunnel) :
    (s.closed tunnel streamId).names = s.names := by
  obtain ⟨t, j, ht, _⟩ := hlive
  exact map_modify_same ht rfl

/-- Closing a tunnel keeps the others registered. -/
theorem registered_closed {tunnel : Nat} {streamId : UInt32} (hs : Registered s)
    (hlive : LiveTunnel s streamId tunnel) : Registered (s.closed tunnel streamId) := by
  intro i k hk
  obtain ⟨hold, hne⟩ := live_closed_iff.mp hk
  obtain ⟨hfind, howner, hlookup⟩ := hs i k hold
  have hstream : i ≠ streamId := by
    rintro rfl
    exact hne (howner.symm.trans (hs i tunnel hlive).2.1)
  refine ⟨?_, howner, (AList.lookup_erase_ne hstream).trans hlookup⟩
  show ((s.mux.sessionManager.removeSession streamId).findSession i).isSome
  rwa [SessionManager.find_remove_session, if_neg hstream]

/-! ## Steps -/

/-- What one step that leaves the server alive does to the registries. -/
theorem step_cases {u : TunnelServer} {e : ServerEvent} {out : List ServerAction}
    (h : Sound s) (hs : Unclosed s) (hstep : tunnelServer.step (.ok s) e = some (.ok u, out)) :
    (∃ message streamId protocol, e = .message message ∧ SynFrame message streamId protocol ∧
      Supported protocol ∧ u = s.opened streamId protocol) ∨
    (∃ tunnel streamId, e = .targetClosed tunnel ∧ LiveTunnel s streamId tunnel ∧
      u = s.closed tunnel streamId) ∨
    ((∀ message, e = .message message → ¬ ∃ streamId protocol, SynFrame message streamId protocol) ∧
      Undisturbed s u) := by
  obtain ⟨s', hs', _, hrun⟩ := machine_step_alive hstep
  cases hs'
  cases e with
  | message message =>
      by_cases hsyn : ∃ streamId protocol, SynFrame message streamId protocol
      · obtain ⟨streamId, protocol, hframe⟩ := hsyn
        obtain ⟨h', payload, host, port, hpacked, htype, hpayload, rfl, rfl⟩ := id hframe
        have hupcall := SessionMux.on_message_syn h.onSyn hpacked htype hpayload
        have hsame : (handle (.message message)).run s =
            (onSyn h'.streamId host port h'.protocol).run s := by
          simp [handle, onMessage, hupcall, onUpcall]
        by_cases hsupported : Supported h'.protocol
        · rw [hsame, run_on_syn hsupported] at hrun
          cases hrun
          exact .inl ⟨message, _, _, rfl, hframe, hsupported, rfl⟩
        · have hfault := @run_on_syn_unsupported s h'.streamId host port _ hsupported
          rw [← hsame, hrun] at hfault
          cases hfault
      · have hkeep := (undisturbed_on_message (s := s) hsyn).state (Undisturbed.refl s)
        rw [show (onMessage message).run s = ⟨u, out, .ok ()⟩ from hrun] at hkeep
        exact .inr (.inr ⟨fun _ h => by cases h; exact hsyn, hkeep⟩)
  | targetClosed tunnel =>
      by_cases hlive : ∃ i, LiveTunnel s i tunnel
      · obtain ⟨i, t, j, ht, rfl, hinterface⟩ := id hlive
        rw [show (handle (.targetClosed tunnel)).run s = _ from
          run_target_closed hs ht hinterface] at hrun
        cases hrun
        exact .inr (.inl ⟨tunnel, t.streamId, rfl, ⟨t, j, ht, rfl, hinterface⟩, rfl⟩)
      · rw [show (handle (.targetClosed tunnel)).run s = _ from
          run_target_closed_again hlive] at hrun
        cases hrun
        exact .inr (.inr ⟨fun _ h => (by cases h), Undisturbed.refl s⟩)
  | controllerClosed =>
      have hkeep := (undisturbed_controller_closed (s := s)).state (Undisturbed.refl s)
      rw [show controllerClosed.run s = ⟨u, out, .ok ()⟩ from hrun] at hkeep
      exact .inr (.inr ⟨fun _ h => (by cases h), hkeep⟩)

/-! ## Runs -/

variable {sessionId : UInt32} {es : List ServerEvent} {out : List ServerAction}

/-- Along every run the tunnels that have an interface have not closed. -/
theorem unclosed_run (hrun : tunnelServer.run (.ok (started sessionId)) es = some (.ok s, out)) :
    Unclosed s := by
  refine Machine.run_induction (P := fun _ _ x => ∀ s, x = .ok s → Unclosed s) ?_ ?_ hrun s rfl
  · rintro s ⟨⟩ k i c d hk
    simp [started] at hk
  · intro before mid x e y new hx ih hstep u hu
    subst hu
    obtain ⟨s, rfl, _, _⟩ := machine_step_alive hstep
    have hsound := sound_run (sound_started sessionId) hx
    rcases step_cases hsound (ih s rfl) hstep with ⟨_, _, _, _, _, _, rfl⟩ | ⟨_, _, _, _, rfl⟩ |
      ⟨_, hkeep⟩
    · exact unclosed_opened (ih s rfl)
    · exact unclosed_closed (ih s rfl)
    · exact hkeep.unclosed (ih s rfl)

/-- What the close of a tunnel removes from the registries leads to that tunnel. -/
structure RemovesItself (tunnel : Nat) (s u : TunnelServer) : Prop where
  sessions : ∀ i, (s.mux.sessionManager.findSession i).isSome →
    u.mux.sessionManager.findSession i = none → s.owner i = tunnel
  tunnelSessions : ∀ i k, s.tunnelSessions.lookup i = some k →
    u.tunnelSessions.lookup i = none → k = tunnel

/-- Tunnels that are registered remove themselves only. -/
theorem removes_itself {u : TunnelServer} {tunnel : Nat} (h : Sound s) (hs : Unclosed s)
    (hregistered : Registered s)
    (hstep : tunnelServer.step (.ok s) (.targetClosed tunnel) = some (.ok u, out)) :
    RemovesItself tunnel s u := by
  rcases step_cases h hs hstep with ⟨_, _, _, heq, _⟩ | ⟨k, streamId, heq, hlive, rfl⟩ | ⟨_, hkeep⟩
  · cases heq
  · cases heq
    obtain ⟨_, howner, hlookup⟩ := hregistered streamId tunnel hlive
    refine ⟨fun i hsome hnone => ?_, fun i k hi hnone => ?_⟩
    · have hnone' : (s.mux.sessionManager.removeSession streamId).findSession i = none := hnone
      rw [SessionManager.find_remove_session] at hnone'
      by_cases hstream : i = streamId
      · rw [hstream, howner]
      · rw [if_neg hstream] at hnone'
        simp [hnone'] at hsome
    · have hnone' : (s.tunnelSessions.erase streamId).lookup i = none := hnone
      by_cases hstream : i = streamId
      · rw [hstream, hlookup] at hi
        exact (Option.some.inj hi).symm
      · rw [AList.lookup_erase_ne hstream, hi] at hnone'
        cases hnone'
  · obtain ⟨hsessions, htunnels⟩ := Prod.mk.inj hkeep.registries
    refine ⟨fun i hsome hnone => ?_, fun i k hi hnone => ?_⟩
    · rw [SessionManager.findSession] at hsome hnone
      rw [hsessions] at hnone
      simp [hnone] at hsome
    · rw [htunnels, hi] at hnone
      cases hnone

/-- All along a sequence of events the tunnels that have not closed are registered under their
stream ids, and the close of a tunnel removes only what leads to it. -/
structure Owned (sessionId : UInt32) (es : List ServerEvent) : Prop where
  registered : ∀ before after s out, es = before ++ after →
    tunnelServer.run (.ok (started sessionId)) before = some (.ok s, out) → Registered s
  removes : tunnelServer.AllSteps
    (fun x e y _ => ∀ s u tunnel, x = .ok s → y = .ok u → e = .targetClosed tunnel →
      RemovesItself tunnel s u) (.ok (started sessionId)) es

/-- No message opens a tunnel over one that has not closed. -/
def NoReuse (s : TunnelServer) (e : ServerEvent) : Prop :=
  ∀ message, e = .message message → ¬ OpensOver s message

/-- The close of a tunnel opens none. -/
theorem no_reuse_target_closed {tunnel : Nat} : NoReuse s (.targetClosed tunnel) := by
  intro message h
  cases h

/-- A server whose tunnels have all closed. -/
theorem no_reuse_of_closed {e : ServerEvent} (h : ∀ t ∈ s.tunnels, t.sessionInterface = none) :
    NoReuse s e := by
  rintro message rfl ⟨streamId, protocol, _, _, k, t, i, ht, _, hinterface⟩
  rw [h t (List.mem_of_getElem? ht)] at hinterface
  cases hinterface

end TunnelServer

open TunnelServer

/-- In every run of a server session, the tunnels that have not closed are registered under their
stream ids and a close removes its own tunnel only, if and only if no `SYN` frame names the stream
of a tunnel that has not closed. -/
theorem tunnels_owned_iff {sessionId : UInt32} {es : List ServerEvent}
    {r : Except ServerFault TunnelServer} {out : List ServerAction}
    (hrun : tunnelServer.run (.ok (started sessionId)) es = some (r, out)) :
    Owned sessionId es ↔
      tunnelServer.Meets (Effect.WhenAlive NoReuse) (.ok (started sessionId)) es := by
  have hiff : _ ↔ tunnelServer.Meets (Effect.WhenAlive NoReuse) (.ok (started sessionId)) es :=
    Machine.forall_reached_iff_meets (P := fun _ _ x => ∀ s, x = .ok s → Registered s) ?_ ?_ hrun
  · refine Iff.trans ⟨fun h before after x mid hsplit hx s hs => ?_, fun h => ⟨?_, ?_⟩⟩ hiff
    · subst hs
      exact h.registered before after s mid hsplit hx
    · exact fun before after s mid hsplit hs => h before after _ mid hsplit hs s rfl
    · rintro before e after x mid y new hsplit hx hstep s u tunnel rfl rfl rfl
      exact removes_itself (sound_run (sound_started sessionId) hx) (unclosed_run hx)
        (h before _ _ mid hsplit hx s rfl) hstep
  · rintro s ⟨⟩ i k ⟨t, j, ht, _⟩
    simp [started] at ht
  · intro before mid x e y new hx hP hstep
    obtain ⟨s, rfl, _, _⟩ := Effect.machine_step_eq_some hstep
    have hsound := sound_run (sound_started sessionId) hx
    rw [Effect.when_alive_ok]
    constructor
    · -- a frame that opens a tunnel over a live one leaves that one unregistered
      rintro hafter message rfl ⟨streamId, protocol, hframe, hsupported, hlive⟩
      obtain ⟨h', payload, host, port, hpacked, htype, hpayload, rfl, rfl⟩ := hframe
      have hupcall := SessionMux.on_message_syn hsound.onSyn hpacked htype hpayload
      have hopen : (handle (.message message)).run s = _ :=
        (show (onMessage message).run s = (onSyn h'.streamId host port h'.protocol).run s by
          simp [onMessage, hupcall, onUpcall]).trans (run_on_syn hsupported)
      obtain ⟨s', hs', _, rfl, _⟩ := Effect.machine_step_eq_some hstep
      cases hs'
      rw [hopen] at hafter
      exact (registered_opened_iff hsupported (hP s rfl)).mp (hafter _ rfl) hlive
    · intro hreuse u hu
      subst hu
      rcases step_cases hsound (unclosed_run hx) hstep with
        ⟨message, streamId, protocol, rfl, hframe, hsupported, rfl⟩ |
        ⟨tunnel, streamId, rfl, hlive, rfl⟩ | ⟨_, hkeep⟩
      · exact (registered_opened_iff hsupported (hP s rfl)).mpr fun hlive =>
          hreuse message rfl ⟨streamId, protocol, hframe, hsupported, hlive⟩
      · exact registered_closed (hP s rfl) hlive
      · exact hkeep.registered (hP s rfl)

/-- A tunnel is opened, closes, and its stream id is used again. -/
theorem tunnels_owned_id_used_again :
    Owned 1 [.message [0, 0, 0, 10, 0, 0, 0, 5, 1, 1, 1, 97, 0, 80], .targetClosed 0,
      .message [0, 0, 0, 10, 0, 0, 0, 5, 1, 1, 1, 97, 0, 80]] := by
  obtain ⟨s, out, hopen⟩ : ∃ s out, tunnelServer.run (.ok (started 1))
      ([] ++ [.message [0, 0, 0, 10, 0, 0, 0, 5, 1, 1, 1, 97, 0, 80]]) = some (.ok s, out) :=
    ⟨_, _, rfl⟩
  obtain ⟨t, out', hclosed, htunnels⟩ : ∃ t out', tunnelServer.run (.ok (started 1))
      ([] ++ [.message [0, 0, 0, 10, 0, 0, 0, 5, 1, 1, 1, 97, 0, 80]] ++ [.targetClosed 0]) =
        some (.ok t, out') ∧ t.tunnels = [⟨5, .socks5Connect, none, true⟩] := ⟨_, _, rfl, rfl⟩
  have hmeets : tunnelServer.Meets (Effect.WhenAlive NoReuse) (.ok (started 1))
      [.message [0, 0, 0, 10, 0, 0, 0, 5, 1, 1, 1, 97, 0, 80], .targetClosed 0,
        .message [0, 0, 0, 10, 0, 0, 0, 5, 1, 1, 1, 97, 0, 80]] :=
    (((Machine.meets_nil _).snoc rfl
    (Effect.when_alive_ok.mpr (no_reuse_of_closed (by simp [started])))).snoc hopen
    (Effect.when_alive_ok.mpr no_reuse_target_closed)).snoc hclosed
    (Effect.when_alive_ok.mpr (no_reuse_of_closed (by simp [htunnels])))
  obtain ⟨r, out'', hrun⟩ : ∃ r out'', tunnelServer.run (.ok (started 1))
      [.message [0, 0, 0, 10, 0, 0, 0, 5, 1, 1, 1, 97, 0, 80], .targetClosed 0,
        .message [0, 0, 0, 10, 0, 0, 0, 5, 1, 1, 1, 97, 0, 80]] = some (.ok r, out'') :=
    ⟨_, _, rfl⟩
  exact (tunnels_owned_iff hrun).mpr hmeets

/-- The id of a stream that the peer has closed is used again before the target's socket has
closed: the old tunnel's close erases the new one. -/
theorem reused_stream_id_unregistered :
    ¬ Owned 1 [.message [0, 0, 0, 10, 0, 0, 0, 5, 1, 1, 1, 97, 0, 80],
      .message [0, 0, 0, 6, 0, 0, 0, 5, 4, 1],
      .message [0, 0, 0, 10, 0, 0, 0, 5, 1, 1, 1, 97, 0, 80], .targetClosed 0] := by
  intro h
  obtain ⟨s, out, hrun, hlookup, htunnel⟩ : ∃ s out, tunnelServer.run (.ok (started 1))
      [.message [0, 0, 0, 10, 0, 0, 0, 5, 1, 1, 1, 97, 0, 80],
        .message [0, 0, 0, 6, 0, 0, 0, 5, 4, 1],
        .message [0, 0, 0, 10, 0, 0, 0, 5, 1, 1, 1, 97, 0, 80], .targetClosed 0] =
      some (.ok s, out) ∧ s.tunnelSessions.lookup 5 = none ∧
        s.tunnels[1]? = some ⟨5, .socks5Connect, some ⟨false, false⟩, false⟩ :=
    ⟨_, _, rfl, rfl, rfl⟩
  obtain ⟨_, _, hregistered⟩ := h.registered _ [] s out (List.append_nil _).symm hrun 5 1
    ⟨_, _, htunnel, rfl, rfl⟩
  rw [hlookup] at hregistered
  cases hregistered

end RtcVpn
