import RtcVpn.Mux.Decoding
import RtcVpn.Server.Tunnel

/-!
# Robustness of the server

The callbacks of a tunnel dereference `session_interface_`, which is empty once
the tunnel has closed, and from the start if the protocol byte of its `SYN`
frame names no protocol. A tunnel that has closed is in neither registry, so
its callbacks are not reached any more; `Reachable` tunnels are live. A `SYN`
frame with an unsupported protocol is what breaks this.
-/

namespace RtcVpn

namespace TunnelServer

/-- What the registries hold: the sessions of the multiplexer and `tunnel_sessions_`. -/
def registries (s : TunnelServer) :
    AList (fun _ : UInt32 => Session) × AList (fun _ : UInt32 => Nat) :=
  (s.mux.sessionManager.sessions, s.tunnelSessions)

/-- The index names a tunnel of the stream whose `session_interface_` is not empty. -/
def LiveTunnel (s : TunnelServer) (streamId : UInt32) (tunnel : Nat) : Prop :=
  ∃ t i, s.tunnels[tunnel]? = some t ∧ t.streamId = streamId ∧ t.sessionInterface = some i

/-- Everything the registries lead to is a live tunnel of the stream it is registered under, and
the sessions have the callbacks of a tunnel. -/
structure Sound (s : TunnelServer) : Prop where
  onSyn : s.mux.onSyn = true
  sessions : ∀ i session, s.mux.sessionManager.findSession i = some session →
    session = tunnelCallbacks i ∧ LiveTunnel s i (s.owner i)
  tunnelSessions : ∀ i tunnel, s.tunnelSessions.lookup i = some tunnel → LiveTunnel s i tunnel

theorem sound_started (sessionId : UInt32) : Sound (started sessionId) where
  onSyn := rfl
  sessions i session h := by
    rw [started, SessionManager.find_empty] at h
    cases h
  tunnelSessions i tunnel h := by simp [started] at h

/-- A message that is no well-formed frame with a supported type and protocol. -/
def IllFormed (message : Bytes) : Prop :=
  ¬ ∃ h payload, frameOf message = some (h, payload) ∧ Supported h.protocol ∧
    (h.type = .synack ∨ h.type = .data ∨ h.type = .fin ∨ h.type = .dataCtrl ∨
      (h.type = .syn ∧ ∃ host port, decodeSynPayload payload = .ok (some (host, port))))

/-- A `SYN` frame, otherwise well formed, whose protocol is not supported. -/
def UnsupportedSyn (message : Bytes) : Prop :=
  ∃ h payload host port, frameOf message = some (h, payload) ∧ h.type = .syn ∧
    decodeSynPayload payload = .ok (some (host, port)) ∧ ¬ Supported h.protocol

/-! ## Live tunnels -/

/-- The handler of a live tunnel finds its interface. -/
theorem run_interface_of {s : TunnelServer} {streamId : UInt32} {tunnel : Nat}
    (h : LiveTunnel s streamId tunnel) :
    ∃ t i, s.tunnels[tunnel]? = some t ∧ t.streamId = streamId ∧
      (interfaceOf tunnel).run s = ⟨s, [], .ok (t, i)⟩ := by
  obtain ⟨t, i, htunnel, hstream, hinterface⟩ := h
  exact ⟨t, i, htunnel, hstream, by simp [interfaceOf, htunnel, hinterface]⟩

/-- A change of a tunnel that keeps its stream and leaves it an interface. -/
theorem LiveTunnel.modify {s : TunnelServer} {streamId : UInt32} {tunnel k : Nat}
    {f : TunnelSession → TunnelSession} (h : LiveTunnel s streamId tunnel)
    (hf : ∀ t, (f t).streamId = t.streamId ∧
      (t.sessionInterface.isSome → (f t).sessionInterface.isSome)) :
    LiveTunnel { s with tunnels := s.tunnels.modify k f } streamId tunnel := by
  obtain ⟨t, i, htunnel, hstream, hinterface⟩ := h
  by_cases hk : k = tunnel
  · obtain ⟨j, hj⟩ := Option.isSome_iff_exists.mp ((hf t).2 (by simp [hinterface]))
    exact ⟨f t, j, by simp [hk, htunnel], (hf t).1.trans hstream, hj⟩
  · exact ⟨t, i, by simp [hk, htunnel], hstream, hinterface⟩

/-- A change of another tunnel. -/
theorem LiveTunnel.modify_of_ne {s : TunnelServer} {streamId : UInt32} {tunnel k : Nat}
    (f : TunnelSession → TunnelSession) (h : LiveTunnel s streamId tunnel) (hk : k ≠ tunnel) :
    LiveTunnel { s with tunnels := s.tunnels.modify k f } streamId tunnel := by
  obtain ⟨t, i, htunnel, hstream, hinterface⟩ := h
  exact ⟨t, i, by simp [hk, htunnel], hstream, hinterface⟩

/-- Making a tunnel leaves the others alone. -/
theorem LiveTunnel.append {s : TunnelServer} {streamId : UInt32} {tunnel : Nat}
    (t : TunnelSession) (h : LiveTunnel s streamId tunnel) :
    LiveTunnel { s with tunnels := s.tunnels ++ [t] } streamId tunnel := by
  obtain ⟨t', i, htunnel, hstream, hinterface⟩ := h
  have hlt : tunnel < s.tunnels.length := (List.getElem?_eq_some_iff.mp htunnel).1
  exact ⟨t', i, by simp [List.getElem?_append_left hlt, htunnel], hstream, hinterface⟩

/-- Two streams have no live tunnel in common. -/
theorem LiveTunnel.ne {s : TunnelServer} {i j : UInt32} {tunnel k : Nat}
    (hi : LiveTunnel s i tunnel)
    {t : TunnelSession} (hk : s.tunnels[k]? = some t) (hj : t.streamId = j) (hne : i ≠ j) :
    k ≠ tunnel := by
  intro heq
  subst heq
  obtain ⟨t', _, htunnel, hstream, _⟩ := hi
  rw [hk] at htunnel
  cases htunnel
  exact hne (hstream.symm.trans hj)

/-- Changes to a tunnel that keep it live keep the server sound. -/
theorem Sound.modify {s : TunnelServer} (h : Sound s) {k : Nat} {f : TunnelSession → TunnelSession}
    (hf : ∀ t, (f t).streamId = t.streamId ∧
      (t.sessionInterface.isSome → (f t).sessionInterface.isSome)) :
    Sound { s with tunnels := s.tunnels.modify k f } where
  onSyn := h.onSyn
  sessions i session hi := by
    obtain ⟨hsession, hlive⟩ := h.sessions i session hi
    exact ⟨hsession, hlive.modify hf⟩
  tunnelSessions i tunnel hi := (h.tunnelSessions i tunnel hi).modify hf

/-- A server in which only the tunnels of the registries matter. -/
theorem sound_of_registries {s u : TunnelServer} (h : Sound s)
    (honSyn : u.mux.onSyn = s.mux.onSyn)
    (hsessions : ∀ i session, u.mux.sessionManager.findSession i = some session →
      s.mux.sessionManager.findSession i = some session ∧ u.owner i = s.owner i ∧
        (LiveTunnel s i (s.owner i) → LiveTunnel u i (s.owner i)))
    (htunnels : ∀ i tunnel, u.tunnelSessions.lookup i = some tunnel →
      s.tunnelSessions.lookup i = some tunnel ∧
        (LiveTunnel s i tunnel → LiveTunnel u i tunnel)) : Sound u where
  onSyn := honSyn.trans h.onSyn
  sessions i session hi := by
    obtain ⟨hs, howner, hlive⟩ := hsessions i session hi
    obtain ⟨hsession, hl⟩ := h.sessions i session hs
    exact ⟨hsession, howner ▸ hlive hl⟩
  tunnelSessions i tunnel hi := by
    obtain ⟨hs, hlive⟩ := htunnels i tunnel hi
    exact hlive (h.tunnelSessions i tunnel hs)

/-! ## Opening a tunnel -/

theorem make_tunnel_supported {streamId : UInt32} {protocol : Protocol} (h : Supported protocol) :
    (makeTunnel streamId protocol).sessionInterface = some {} := by
  rcases h with rfl | rfl | rfl | rfl <;> rfl

theorem make_tunnel_unsupported {streamId : UInt32} {protocol : Protocol}
    (h : ¬ Supported protocol) : (makeTunnel streamId protocol).sessionInterface = none := by
  cases protocol with
  | unknown => rfl
  | other byte hbyte => rfl
  | _ => exact absurd (by simp [Supported]) h

/-- The server once a tunnel has been opened. -/
def opened (s : TunnelServer) (streamId : UInt32) (protocol : Protocol) : TunnelServer where
  mux := (s.withSessions (·.registerSession (tunnelCallbacks streamId))).mux
  tunnelSessions := s.tunnelSessions.insert streamId s.tunnels.length
  tunnels := s.tunnels ++ [makeTunnel streamId protocol]
  owner := Function.update s.owner streamId s.tunnels.length

theorem run_on_syn {s : TunnelServer} {streamId : UInt32} {host : Bytes} {port : UInt16}
    {protocol : Protocol} (h : Supported protocol) :
    (onSyn streamId host port protocol).run s =
      ⟨s.opened streamId protocol, [.startTarget s.tunnels.length host port], .ok ()⟩ := by
  simp [onSyn, start, init, interfaceOf, withSessions, opened, make_tunnel_supported h]

/-- Opening a tunnel of no protocol dereferences the interface it does not have. -/
theorem run_on_syn_unsupported {s : TunnelServer} {streamId : UInt32} {host : Bytes}
    {port : UInt16} {protocol : Protocol} (h : ¬ Supported protocol) :
    ((onSyn streamId host port protocol).run s).result =
      .error (.nullInterface s.tunnels.length) := by
  simp [onSyn, start, init, interfaceOf, withSessions, make_tunnel_unsupported h]

theorem Sound.opened {s : TunnelServer} (h : Sound s) (streamId : UInt32) {protocol : Protocol}
    (hprotocol : Supported protocol) : Sound (s.opened streamId protocol) := by
  have hnew : LiveTunnel (s.opened streamId protocol) streamId s.tunnels.length :=
    ⟨makeTunnel streamId protocol, {}, by simp [TunnelServer.opened], rfl,
      make_tunnel_supported hprotocol⟩
  have hold : ∀ i tunnel, LiveTunnel s i tunnel →
      LiveTunnel (s.opened streamId protocol) i tunnel :=
    fun i tunnel hlive => hlive.append _
  refine ⟨h.onSyn, fun i session hi => ?_, fun i tunnel hi => ?_⟩
  · have hfind : (s.mux.sessionManager.registerSession (tunnelCallbacks streamId)).findSession i =
        some session := hi
    rw [SessionManager.find_register_session,
      show (tunnelCallbacks streamId).streamId = streamId from rfl] at hfind
    by_cases hstream : i = streamId
    · subst hstream
      rw [if_pos rfl] at hfind
      cases hfind
      refine ⟨rfl, ?_⟩
      simpa [TunnelServer.opened] using hnew
    · rw [if_neg hstream] at hfind
      obtain ⟨hsession, hlive⟩ := h.sessions i session hfind
      refine ⟨hsession, ?_⟩
      simpa [TunnelServer.opened, Function.update_of_ne hstream] using hold i _ hlive
  · by_cases hstream : i = streamId
    · subst hstream
      rw [TunnelServer.opened, AList.lookup_insert] at hi
      cases hi
      exact hnew
    · rw [TunnelServer.opened, AList.lookup_insert_ne hstream] at hi
      exact hold i tunnel (h.tunnelSessions i tunnel hi)

/-! ## The other callbacks -/

/-- The handler returns, keeps the server sound and leaves the registries alone. -/
def Harmless (s : TunnelServer) (x : ServerHandler) : Prop :=
  ∃ u out, x.run s = ⟨u, out, .ok ()⟩ ∧ Sound u ∧ u.registries = s.registries

theorem harmless_pure {s : TunnelServer} (h : Sound s) : Harmless s (pure ()) :=
  ⟨s, [], rfl, h, rfl⟩

/-- Use the interface of a live tunnel. -/
theorem harmless_interface {s : TunnelServer} {streamId : UInt32} {tunnel : Nat} (h : Sound s)
    (hlive : LiveTunnel s streamId tunnel) (a : ServerAction) :
    Harmless s (do
      let _ ← interfaceOf tunnel
      Effect.emit a) := by
  obtain ⟨t, i, _, _, hrun⟩ := run_interface_of hlive
  exact ⟨s, [a], by simp [hrun], h, rfl⟩

/-- The tunnel once told that the peer has closed. -/
def p2pClosed (i : SessionInterface) (t : TunnelSession) : TunnelSession :=
  { t with sessionInterface := some { i with isP2pClosed := true } }

theorem run_close {s : TunnelServer} {tunnel : Nat} {t : TunnelSession} {i : SessionInterface}
    (ht : s.tunnels[tunnel]? = some t) (hinterface : t.sessionInterface = some i) :
    (close tunnel).run s =
      ⟨{ s with tunnels := s.tunnels.modify tunnel (p2pClosed i) }, [.closeTarget tunnel],
        .ok ()⟩ := by
  simp [close, interfaceOf, ht, hinterface, modifyTunnel]
  rfl

theorem harmless_close {s : TunnelServer} {streamId : UInt32} {tunnel : Nat} (h : Sound s)
    (hlive : LiveTunnel s streamId tunnel) : Harmless s (close tunnel) := by
  obtain ⟨t, i, ht, _, hinterface⟩ := hlive
  exact ⟨_, _, run_close ht hinterface, h.modify fun t => ⟨rfl, fun _ => rfl⟩, rfl⟩

theorem harmless_p2p_rev_data {s : TunnelServer} {streamId : UInt32} {tunnel : Nat} (h : Sound s)
    (hlive : LiveTunnel s streamId tunnel) (data : Bytes) (protocol : Protocol) :
    Harmless s (p2pRevData tunnel data protocol) := by
  cases protocol with
  | unknown => exact harmless_pure h
  | other byte hbyte => exact harmless_pure h
  | _ => exact harmless_interface h hlive _

theorem harmless_p2p_rev_ctrl {s : TunnelServer} {streamId : UInt32} {tunnel : Nat} (h : Sound s)
    (hlive : LiveTunnel s streamId tunnel) (ctrl : CtrlType) :
    Harmless s (p2pRevCtrl tunnel ctrl) := by
  cases ctrl with
  | other byte hbyte => exact harmless_pure h
  | _ => exact harmless_interface h hlive _

/-! ## Messages -/

/-- Any message but a `SYN` frame with an unsupported protocol is handled: it opens a tunnel if it
is well formed, and leaves the registries alone otherwise. -/
theorem on_message_handled {s : TunnelServer} (h : Sound s) {message : Bytes}
    (hsyn : ¬ UnsupportedSyn message) :
    ∃ u out, (onMessage message).run s = ⟨u, out, .ok ()⟩ ∧ Sound u ∧
      (IllFormed message → u.registries = s.registries) := by
  have hrun : ∀ upcall, s.mux.onMessage message = .ok (some upcall) →
      (onMessage message).run s = (onUpcall upcall).run s := by
    intro upcall hupcall
    simp [onMessage, hupcall]
  rcases s.mux.on_message_cases message with hnone | ⟨h', payload, hframe, hopen | hsession⟩
  · exact ⟨s, [], by simp [onMessage, hnone], h, fun _ => rfl⟩
  · obtain ⟨host, port, htype, hpayload, hupcall⟩ := hopen
    have hsupported : Supported h'.protocol := by
      by_contra hunsupported
      exact hsyn ⟨h', payload, host, port, hframe, htype, hpayload, hunsupported⟩
    refine ⟨_, _, (hrun _ hupcall).trans (run_on_syn hsupported), h.opened _ hsupported, ?_⟩
    intro hill
    exact absurd ⟨h', payload, hframe, hsupported,
      .inr (.inr (.inr (.inr ⟨htype, host, port, hpayload⟩)))⟩ hill
  · obtain ⟨session, hfind, hupcall⟩ := hsession
    obtain ⟨hcallbacks, hlive⟩ := h.sessions _ session hfind
    subst hcallbacks
    suffices hharmless : Harmless s (onMessage message) by
      obtain ⟨u, out, hu, hsound, hregistries⟩ := hharmless
      exact ⟨u, out, hu, hsound, fun _ => hregistries⟩
    rcases hupcall with ⟨ok, hset, _⟩ | hdata | ⟨-, hclose⟩ |
      ⟨byte, rest, -, -, hctrl⟩
    · cases hset
    · rw [Harmless, hrun _ hdata]
      exact harmless_p2p_rev_data h hlive payload h'.protocol
    · rw [Harmless, hrun _ hclose]
      exact harmless_close h hlive
    · rw [Harmless, hrun _ hctrl]
      exact harmless_p2p_rev_ctrl h hlive _

/-- A `SYN` frame with an unsupported protocol ends the server. -/
theorem on_message_unsupported {s : TunnelServer} (h : Sound s) {message : Bytes}
    (hsyn : UnsupportedSyn message) :
    ((onMessage message).run s).result = .error (.nullInterface s.tunnels.length) := by
  obtain ⟨h', payload, host, port, hframe, htype, hpayload, hprotocol⟩ := hsyn
  have hupcall := SessionMux.on_message_syn h.onSyn hframe htype hpayload
  simpa [onMessage, hupcall, onUpcall] using run_on_syn_unsupported hprotocol

/-! ## Closing -/

/-- Removing a tunnel from both registries before its interface is reset. -/
theorem sound_close_func {s : TunnelServer} (h : Sound s) {tunnel : Nat} {t : TunnelSession}
    (ht : s.tunnels[tunnel]? = some t) (isClosed : Bool) :
    Sound ((closeFunc tunnel t.streamId isClosed).run s).state := by
  have hremoved : ∀ i session,
      (s.mux.sessionManager.removeSession t.streamId).findSession i = some session →
      i ≠ t.streamId ∧ s.mux.sessionManager.findSession i = some session := by
    intro i session hi
    rw [SessionManager.find_remove_session] at hi
    by_cases hstream : i = t.streamId
    · rw [if_pos hstream] at hi
      cases hi
    · rw [if_neg hstream] at hi
      exact ⟨hstream, hi⟩
  cases isClosed with
  | true =>
      refine sound_of_registries h rfl (fun i session hi => ?_) fun i k hi => ⟨hi, id⟩
      exact ⟨(hremoved i session hi).2, rfl, id⟩
  | false =>
      have hother : ∀ i k, i ≠ t.streamId → LiveTunnel s i k →
          LiveTunnel ((closeFunc tunnel t.streamId false).run s).state i k := by
        intro i k hstream hlive
        have hne := hlive.ne ht rfl hstream
        exact (hlive.modify_of_ne _ hne).modify_of_ne _ hne
      refine sound_of_registries h rfl (fun i session hi => ?_) fun i k hi => ?_
      · obtain ⟨hstream, hfind⟩ := hremoved i session hi
        exact ⟨hfind, rfl, hother i _ hstream⟩
      · have hlookup : (s.tunnelSessions.erase t.streamId).lookup i = some k := hi
        by_cases hstream : i = t.streamId
        · rw [hstream, AList.lookup_erase] at hlookup
          cases hlookup
        · rw [AList.lookup_erase_ne hstream] at hlookup
          exact ⟨hlookup, hother i k hstream⟩

theorem sound_target_closed {s : TunnelServer} (h : Sound s) (tunnel : Nat) :
    Sound ((targetClosed tunnel).run s).state := by
  cases ht : s.tunnels[tunnel]? with
  | none => simpa [targetClosed, ht] using h
  | some t =>
      cases hinterface : t.sessionInterface with
      | none => simpa [targetClosed, ht, hinterface] using h
      | some i =>
          cases hclosed : i.isClosed with
          | true => simpa [targetClosed, ht, hinterface, hclosed] using h
          | false =>
              have hmarked := h.modify (k := tunnel)
                (f := fun t => { t with sessionInterface := some { i with isClosed := true } })
                fun t => ⟨rfl, fun _ => rfl⟩
              have hget : (s.tunnels.modify tunnel fun t =>
                  { t with sessionInterface := some { i with isClosed := true } })[tunnel]? =
                  some { t with sessionInterface := some { i with isClosed := true } } := by
                simp [ht]
              have hfinal := sound_close_func hmarked hget t.isClosed
              cases hp2p : i.isP2pClosed <;>
                simpa [targetClosed, ht, hinterface, hclosed, hp2p, modifyTunnel] using hfinal

/-- Closing a tunnel keeps the server sound, whether the tunnel is live or not. -/
theorem keeps_sound_close (tunnel : Nat) : Effect.Keeps Sound (close tunnel) := by
  refine Effect.keeps_of_state fun s h => ?_
  cases ht : s.tunnels[tunnel]? with
  | none => simpa [close, interfaceOf, ht] using h
  | some t =>
      cases hinterface : t.sessionInterface with
      | none => simpa [close, interfaceOf, ht, hinterface] using h
      | some i =>
          rw [run_close ht hinterface]
          exact h.modify fun t => ⟨rfl, fun _ => rfl⟩

theorem sound_controller_closed {s : TunnelServer} (h : Sound s) :
    Sound (controllerClosed.run s).state := by
  have hkeeps : Effect.Keeps Sound controllerClosed :=
    (Effect.Respects.emit trivial).bind fun _ =>
      Effect.Respects.get.bind fun s => Effect.Respects.forEach _ keeps_sound_close
  exact hkeeps.state h

/-! ## Runs -/

/-- A step that leaves the server alive keeps it sound. -/
theorem sound_step {s u : TunnelServer} {e : ServerEvent} {out : List ServerAction} (h : Sound s)
    (hstep : tunnelServer.step (.ok s) e = some (.ok u, out)) : Sound u := by
  obtain ⟨s', hs', _, hrun⟩ := Effect.machine_step_alive hstep
  cases hs'
  cases e with
  | message data =>
      by_cases hsyn : UnsupportedSyn data
      · have hfault := on_message_unsupported h hsyn
        rw [show (onMessage data).run s = ⟨u, out, .ok ()⟩ from hrun] at hfault
        cases hfault
      · obtain ⟨u', out', hu, hsound, _⟩ := on_message_handled h hsyn
        rw [show (onMessage data).run s = ⟨u, out, .ok ()⟩ from hrun] at hu
        cases hu
        exact hsound
  | targetClosed tunnel =>
      have hsound := sound_target_closed h tunnel
      rwa [show (targetClosed tunnel).run s = ⟨u, out, .ok ()⟩ from hrun] at hsound
  | controllerClosed =>
      have hsound := sound_controller_closed h
      rwa [show controllerClosed.run s = ⟨u, out, .ok ()⟩ from hrun] at hsound

/-- A run that leaves the server alive keeps it sound. -/
theorem sound_run {s t : TunnelServer} {es : List ServerEvent} {out : List ServerAction}
    (h : Sound s) (hrun : tunnelServer.run (.ok s) es = some (.ok t, out)) : Sound t := by
  refine Machine.run_invariant (I := fun x => ∀ s, x = .ok s → Sound s) ?_ ?_ hrun t rfl
  · intro x e y new hx hstep u hu
    subst hu
    obtain ⟨s, rfl, _, _⟩ := Effect.machine_step_alive hstep
    exact sound_step (hx s rfl) hstep
  · intro s' hs'
    cases hs'
    exact h

/-- A state the server can reach from its start. -/
def Reachable (s : TunnelServer) : Prop :=
  ∃ sessionId es out, tunnelServer.run (.ok (started sessionId)) es = some (.ok s, out)

theorem Reachable.sound {s : TunnelServer} (h : Reachable s) : Sound s := by
  obtain ⟨sessionId, es, out, hrun⟩ := h
  exact sound_run (sound_started sessionId) hrun

/-- A message is handled robustly: no empty interface is dereferenced, and an ill-formed message
leaves the registries as they are. -/
def HandlesRobustly (x : Except ServerFault TunnelServer) (e : ServerEvent)
    (y : Except ServerFault TunnelServer) (_ : List ServerAction) : Prop :=
  ∀ s message, x = .ok s → e = .message message →
    ∃ u, y = .ok u ∧ (IllFormed message → u.registries = s.registries)

/-- A sound server handles a message robustly unless it is a `SYN` frame with an unsupported
protocol. -/
theorem handles_robustly_iff {s : TunnelServer} (h : Sound s) {message : Bytes}
    {y : Except ServerFault TunnelServer} {out : List ServerAction}
    (hstep : tunnelServer.step (.ok s) (.message message) = some (y, out)) :
    HandlesRobustly (.ok s) (.message message) y out ↔ ¬ UnsupportedSyn message := by
  obtain ⟨s', hs', _, hy, _⟩ := Effect.machine_step_eq_some hstep
  cases hs'
  constructor
  · intro hrobust hsyn
    obtain ⟨u, hu, _⟩ := hrobust s message rfl rfl
    have hfault := on_message_unsupported h hsyn
    rw [show ((handle (.message message)).run s).result = _ from hfault, hu] at hy
    cases hy
  · intro hsyn s' message' hs' hmessage
    cases hs'
    cases hmessage
    obtain ⟨u, out', hrun, _, hregistries⟩ := on_message_handled h hsyn
    rw [show (handle (.message message)).run s = ⟨u, out', .ok ()⟩ from hrun] at hy
    exact ⟨u, hy, hregistries⟩

end TunnelServer

open TunnelServer

/-- From any reachable state, every message of a sequence is handled without dereferencing an
empty `session_interface_`, the ill-formed ones without an effect on the registries, if and only
if none of them is a `SYN` frame that is well formed but for an unsupported protocol. -/
theorem server_robust_iff {s : TunnelServer} (h : Reachable s) (messages : List Bytes) :
    tunnelServer.AllSteps HandlesRobustly (.ok s) (messages.map .message) ↔
      ∀ message ∈ messages, ¬ UnsupportedSyn message := by
  constructor
  · intro hall
    -- along the messages the server stays alive and sound, and none so far is unsupported
    have hfront : ∀ before after, messages = before ++ after →
        (∃ t out, tunnelServer.run (.ok s) (before.map .message) = some (.ok t, out) ∧ Sound t) ∧
          ∀ message ∈ before, ¬ UnsupportedSyn message := by
      intro before
      induction before using List.reverseRecOn with
      | nil => exact fun _ _ => ⟨⟨s, [], rfl, h.sound⟩, by simp⟩
      | append_singleton before message ih =>
          intro after hsplit
          obtain ⟨⟨t, out, hrun, hsound⟩, hsupported⟩ :=
            ih (message :: after) (by rw [hsplit]; simp)
          obtain ⟨y, new, hstep⟩ : ∃ y new,
              tunnelServer.step (.ok t) (.message message) = some (y, new) :=
            ⟨_, _, Effect.machine_step_ok rfl⟩
          have hrobust := hall (before.map .message) (.message message) (after.map .message) _ _ _ _
            (by rw [hsplit]; simp) hrun hstep
          have hsyn := (handles_robustly_iff hsound hstep).mp hrobust
          obtain ⟨u, rfl, _⟩ := hrobust t message rfl rfl
          refine ⟨⟨u, out ++ new, ?_, sound_step hsound hstep⟩, ?_⟩
          · rw [List.map_append, List.map_singleton]
            exact Machine.run_snoc.mpr ⟨_, out, new, hrun, hstep, rfl⟩
          · intro m hm
            rcases List.mem_append.mp hm with hm | hm
            · exact hsupported m hm
            · rw [List.mem_singleton.mp hm]
              exact hsyn
    exact (hfront messages [] (by simp)).2
  · intro hsupported before e after x out y new hsplit hrun hstep
    obtain ⟨t, rfl, _, _, _⟩ := Effect.machine_step_eq_some hstep
    have hsound : Sound t := sound_run h.sound hrun
    intro t' message ht' he
    cases ht'
    subst he
    have hmem : message ∈ messages := by
      have he : ServerEvent.message message ∈ messages.map .message := by rw [hsplit]; simp
      obtain ⟨m, hm, hsame⟩ := List.mem_map.mp he
      cases hsame
      exact hm
    exact (handles_robustly_iff hsound hstep).mpr (hsupported message hmem) t message rfl rfl

theorem server_robust_tcp_syn :
    Reachable (started 1) ∧
      tunnelServer.AllSteps HandlesRobustly (.ok (started 1))
        ([[0, 0, 0, 10, 0, 0, 0, 5, 1, 1, 1, 97, 0, 80]].map .message) := by
  have hreachable : Reachable (started 1) := ⟨1, [], [], rfl⟩
  have hframe : frameOf [0, 0, 0, 10, 0, 0, 0, 5, 1, 1, 1, 97, 0, 80] =
      some (⟨5, .syn, .socks5Connect⟩, [1, 97, 0, 80]) :=
    frame_of_packed (by decide)
  refine ⟨hreachable, (server_robust_iff hreachable _).mpr ?_⟩
  intro message hmessage hsyn
  rw [List.mem_singleton] at hmessage
  subst hmessage
  obtain ⟨h, payload, host, port, hsame, _, _, hunsupported⟩ := hsyn
  rw [hframe] at hsame
  cases hsame
  exact hunsupported (by decide)

/-- A `SYN` frame whose protocol byte is zero, with an empty host and port 80, sent to a server
that has just started. -/
theorem unknown_protocol_ends_server :
    Reachable (started 1) ∧
      ¬ tunnelServer.AllSteps HandlesRobustly (.ok (started 1))
        ([[0, 0, 0, 9, 0, 0, 0, 5, 1, 0, 0, 0, 80]].map .message) := by
  have hreachable : Reachable (started 1) := ⟨1, [], [], rfl⟩
  have hframe : frameOf [0, 0, 0, 9, 0, 0, 0, 5, 1, 0, 0, 0, 80] =
      some (⟨5, .syn, .unknown⟩, [0, 0, 80]) :=
    frame_of_packed (by decide)
  refine ⟨hreachable, fun hall => ?_⟩
  obtain ⟨y, new, hstep⟩ : ∃ y new, tunnelServer.step (.ok (started 1))
      (.message [0, 0, 0, 9, 0, 0, 0, 5, 1, 0, 0, 0, 80]) = some (y, new) :=
    ⟨_, _, Effect.machine_step_ok rfl⟩
  have hpayload : decodeSynPayload [0, 0, 80] = .ok (some ([], 80)) :=
    @decode_encode_syn_payload [] 80 (by decide)
  have hrobust := hall [] _ [] _ _ _ _ rfl rfl hstep
  exact (handles_robustly_iff hreachable.sound hstep).mp hrobust
    ⟨_, _, [], 80, hframe, rfl, hpayload, by decide⟩

end RtcVpn
