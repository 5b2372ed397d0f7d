import RtcVpn.Client.SessionAlone
import RtcVpn.Tunnel.TargetsAlone

/-!
# A data channel with many sessions

The client with all its sessions and the server with all its tunnels, joined by
one channel in each direction. For each session the part of a run that concerns
its streams is a run of a link of its own, if no other session uses a stream
that it uses.
-/

namespace RtcVpn

/-- The frame of an action of the client. -/
def ClientHostAction.call : ClientHostAction → Option Call
  | .session _ action => action.call
  | _ => none

/-- What the client takes from the channel and puts into it. -/
def clientPort : Port ClientHostEvent ClientHostAction Bytes where
  receives
    | .message data _ => some data
    | _ => none
  sends a := a.call.bind Call.message

/-- The state of a channel. -/
abbrev Channel (L : Llhttp) : Type :=
  Duplex (Except ClientHostFault (ClientHost L)) (Except HostFault TunnelHost) Bytes

/-- The client and the server, joined. -/
def channel (L : Llhttp) :
    Machine (Channel L) (ClientHostEvent ⊕ HostEvent) (ClientHostAction ⊕ HostAction) :=
  duplex (clientHost L) tunnelHost clientPort hostPort

/-- A channel between a client that has no session yet and a server that has no tunnel yet. -/
def Channel.started (L : Llhttp) (peerConnId sessionId : UInt32) : Channel L :=
  .start (.ok (.started L peerConnId)) (.ok (.started sessionId))

namespace ClientHost

open Effect

variable {L : Llhttp} {s t : ClientHost L} {k : Nat} {out : List ClientHostAction}

/-- The streams for which session `k` sends frames. -/
def streamsOf (k : Nat) (out : List ClientHostAction) : List UInt32 :=
  (out.filterMap (ofSession k)).filterMap fun a => a.call.map Call.streamId

theorem mem_streams_of {i : UInt32} : i ∈ streamsOf k out ↔
    ∃ a c, .session k a ∈ out ∧ a.call = some c ∧ c.streamId = i := by
  constructor
  · intro hi
    obtain ⟨a, ha, hid⟩ := List.mem_filterMap.mp hi
    obtain ⟨c, hcall, hid⟩ := Option.map_eq_some_iff.mp hid
    obtain ⟨x, hx, hxa⟩ := List.mem_filterMap.mp ha
    cases x with
    | session j b =>
        rw [ofSession] at hxa
        split at hxa
        · next hj =>
            cases hxa
            subst hj
            exact ⟨a, c, hx, hcall, hid⟩
        · cases hxa
    | _ => cases hxa
  · rintro ⟨a, c, ha, hcall, rfl⟩
    refine List.mem_filterMap.mpr ⟨a, List.mem_filterMap.mpr ⟨_, ha, if_pos rfl⟩, ?_⟩
    rw [hcall]
    rfl

theorem streams_of_append (k : Nat) (as bs : List ClientHostAction) :
    streamsOf k (as ++ bs) = streamsOf k as ++ streamsOf k bs := by
  rw [streamsOf, List.filterMap_append, List.filterMap_append]
  rfl

theorem registered_append (k : Nat) (as bs : List ClientHostAction) :
    registered k (as ++ bs) = registered k as ++ registered k bs := by
  simp [registered, createdIds]

/-- An app registers a stream only when it sends the frame that opens it. -/
theorem created_sent {c d : NetworkRtcApp L} {e : AppEvent} {as : List AppAction}
    (henabled : NetworkRtcApp.enabled c e = true)
    (hrun : (NetworkRtcApp.handle e).run c = ⟨d, as, .ok ()⟩) :
    createdIds as = (as.filterMap NetworkRtcApp.sessionAction).filterMap ClientAction.synId := by
  have hstep : (networkRtcApp L).step (.ok c) e = some (.ok d, as) := by
    rw [networkRtcApp, machine_step_ok henabled, hrun]
    rfl
  rw [createdIds]
  cases hevent : NetworkRtcApp.sessionEvent c e with
  | none =>
      rw [((NetworkRtcApp.app_step hstep).2 hevent).actions]
      rfl
  | some e' =>
      obtain ⟨hhandler, -, -⟩ := ((NetworkRtcApp.app_step hstep).1 e' hevent).alive d rfl
      have hcreated := NetworkRtcApp.created_ids_handle e' c.association.session
      rw [hhandler] at hcreated
      exact hcreated

theorem SessionMove.created_sent {j : Nat} {e : AppEvent} (h : SessionMove j e s t out) :
    ∀ i ∈ registered k out, i ∈ streamsOf k out := by
  intro i hi
  by_cases hj : j = k
  · subst hj
    obtain ⟨g, c, as, -, henabled, hrun, -, rfl, -⟩ := h.move
    rw [registered, of_session_own, ClientHost.created_sent henabled hrun] at hi
    obtain ⟨x, hx, hsyn⟩ := List.mem_filterMap.mp hi
    obtain ⟨a, ha, hxa⟩ := List.mem_filterMap.mp hx
    refine mem_streams_of.mpr ⟨a, ?_⟩
    cases a with
    | association a =>
        cases a with
        | session a =>
            cases hxa
            cases x <;> cases hsyn
            exact ⟨_, List.mem_map_of_mem ha, rfl, rfl⟩
        | relay => cases hxa
    | _ => cases hxa
  · rw [registered, h.actions_other hj] at hi
    cases hi

theorem Stops.created_sent {ks : List Nat} (h : Stops ks s out t) :
    ∀ i ∈ registered k out, i ∈ streamsOf k out := by
  induction h with
  | nil => exact fun i hi => by cases hi
  | cons hmove _ ih =>
      intro i hi
      rw [registered_append, List.mem_append] at hi
      rw [streams_of_append, List.mem_append]
      exact hi.imp (hmove.created_sent i) (ih i)

/-- A session registers a stream only when it sends the frame that opens it. -/
theorem SessionsStep.created_sent {e : ClientHostEvent} (h : SessionsStep s out t e) :
    ∀ i ∈ registered k out, i ∈ streamsOf k out := by
  cases h with
  | connected h | finishAccept h | notAccepted h | accepted h =>
      intro i hi
      rw [registered, h.actions] at hi
      cases hi
  | session h | relay h | destroyed h | message _ _ h => exact h.created_sent
  | unheard _ _ hout =>
      intro i hi
      rw [hout] at hi
      cases hi
  | closed h hstops hlast hout | stop h hstops hlast hout =>
      intro i hi
      have hnone : ∀ {as : List ClientHostAction}, as.filterMap (ofSession k) = [] →
          i ∉ registered k as := by
        intro as has hmem
        rw [registered, has] at hmem
        cases hmem
      rw [hout, registered_append, registered_append, List.mem_append, List.mem_append] at hi
      rw [hout, streams_of_append, streams_of_append, List.mem_append, List.mem_append]
      have hstopped := (hi.resolve_right (hnone (hlast.actions k))).resolve_left
        (hnone (h.actions k))
      exact .inl (.inr (hstops.created_sent i hstopped))

end ClientHost

namespace Channel

open Effect Machine ClientHost

variable {L : Llhttp} {peerConnId sessionId : UInt32} {mine : UInt32 → Bool} {ids : List UInt32}
  {k : Nat}

/-- The frames of session `k` are for streams that are mine, those of other sessions are not. -/
def Separate (mine : UInt32 → Bool) (k : Nat) (out : List ClientHostAction) : Prop :=
  ∀ j a c, .session j a ∈ out → a.call = some c → (mine c.streamId = true ↔ j = k)

/-! ## The parts of the channel -/

/-- A message carries a frame that is mine if its stream is. -/
theorem meant_for_message {c : Call} {m : Bytes} (h : c.message = some m) :
    meantFor mine m = mine c.streamId := by
  rw [meantFor, Call.frame_of_message h]
  rfl

/-- The messages of frames, of which those that are mine are left. -/
theorem filter_messages {c : Option Call} {b : Bool} (h : ∀ x, c = some x → mine x.streamId = b) :
    (if b then c.bind Call.message else none) = (c.bind Call.message).filter (meantFor mine) := by
  cases c with
  | none => cases b <;> rfl
  | some x =>
      cases hm : x.message with
      | none => cases b <;> simp [hm]
      | some m =>
          have hmeant := (meant_for_message hm).trans (h x rfl)
          cases b <;> simp [hm, hmeant, Option.filter]

/-- What the client takes and sends for session `k`. -/
theorem meant_client
    {covers : ClientHost L → ClientHostEvent → ClientHost L → List ClientHostAction → Prop}
    (hcovers : ∀ {s e t out}, covers s e t out → Separate mine k out) :
    Meant (clientHost L) (onAlive (seenEvent mine k)) (ofSession k) (aliveCovers covers) clientPort
      appPort (meantFor mine) where
  receives {s s' e out} hstep _ := by
    obtain ⟨s, rfl, -⟩ := machine_step_eq_some hstep
    show (seenEvent mine k s e).bind appPort.receives = _
    cases e with
    | message data relay =>
        show (if meantFor mine data then some (AppEvent.message data relay) else none).bind _ = _
        by_cases hmeant : meantFor mine data = true <;>
          simp [clientPort, appPort, hmeant, Option.filter_some]
    | session j e | relay j e | destroyed j =>
        by_cases hj : j = k <;> simp [seenEvent, clientPort, appPort, hj]
    | closed | stop => by_cases hk : k ∈ s.held <;> simp [seenEvent, clientPort, appPort, hk]
    | _ => rfl
  sends {s s' e out} hstep hcov := by
    obtain ⟨s, rfl, -⟩ := machine_step_eq_some hstep
    cases s' with
    | error fault => exact hcov.elim
    | ok t =>
        have hseparate := hcovers hcov
        rw [List.filterMap_filterMap, List.filter_filterMap]
        refine List.filterMap_congr fun a ha => ?_
        cases a with
        | session j a =>
            have hmine : ∀ c, a.call = some c → mine c.streamId = decide (j = k) :=
              fun c hc => by rw [Bool.eq_iff_iff, hseparate j a c ha hc, decide_eq_true_eq]
            have hmessages := filter_messages hmine
            show (if j = k then some a else none).bind appPort.sends =
              (a.call.bind Call.message).filter (meantFor mine)
            rw [← hmessages]
            by_cases hj : j = k <;> simp [hj, appPort]
        | _ => rfl

/-- What the server takes and sends for the tunnels that are mine. -/
theorem meant_host {covers : TunnelHost → HostEvent → TunnelHost → List HostAction → Prop} :
    Meant tunnelHost (onAlive fun _ => TunnelHost.mineEvent mine ids)
      (TunnelHost.mineAction mine ids) (aliveCovers covers) hostPort hostPort (meantFor mine) where
  receives {s s' e out} hstep _ := by
    obtain ⟨s, rfl, -⟩ := machine_step_eq_some hstep
    show (TunnelHost.mineEvent mine ids e).bind hostPort.receives = _
    cases e with
    | message data =>
        by_cases hmeant : meantFor mine data = true <;>
          simp [TunnelHost.mineEvent, hostPort, hmeant, Option.filter_some]
    | target j report =>
        by_cases hj : Selection.selects mine ids j = true <;>
          simp [TunnelHost.mineEvent, hostPort, hj]
    | controllerClosed => rfl
  sends {s s' e out} _ _ := by
    rw [List.filterMap_filterMap, List.filter_filterMap]
    refine List.filterMap_congr fun a _ => ?_
    have hframe : ∀ (c : Call) (b : HostAction), b.call = some c →
        (if mine c.streamId then some b else none).bind hostPort.sends =
          (hostPort.sends b).filter (meantFor mine) := by
      intro c b hb
      have hsends : hostPort.sends b = (some c).bind Call.message := by
        show b.call.bind Call.message = _
        rw [hb]
      rw [hsends, ← filter_messages (b := mine c.streamId) fun x hx => by cases hx; rfl]
      cases mine c.streamId with
      | false => rfl
      | true => exact hsends
    cases a with
    | sendSynack i ok protocol => exact hframe (.sendSynack i ok protocol) _ rfl
    | sendData i data protocol => exact hframe (.sendData i data protocol) _ rfl
    | startReading j | stopReading j =>
        by_cases hj : Selection.selects mine ids j = true <;>
          simp [TunnelHost.mineAction, hostPort, HostAction.call, hj]
    | server a =>
        cases a with
        | sendFin i protocol =>
            have hfin := hframe (.sendFin i protocol) (.server (.sendFin i protocol)) rfl
            by_cases hi : mine i = true <;>
              simpa [TunnelHost.mineAction, TunnelServer.mineAction, Call.streamId, hi] using hfin
        | startTimer => rfl
        | startTarget j | revP2pData j | closeTarget j | startReceive j | pauseReceive j =>
            by_cases hj : Selection.selects mine ids j = true <;>
              simp [TunnelHost.mineAction, TunnelServer.mineAction, hostPort, HostAction.call, hj]

/-- What an event of the channel is for session `k` and its tunnels. -/
def partEvent (mine : UInt32 → Bool) (ids : List UInt32) (k : Nat) :
    Channel L → ClientHostEvent ⊕ HostEvent → Option (AppEvent ⊕ HostEvent) :=
  joinedEvent (onAlive (seenEvent mine k)) (onAlive fun _ => TunnelHost.mineEvent mine ids)

/-- What an action is for session `k` and its tunnels. -/
def partAction (mine : UInt32 → Bool) (ids : List UInt32) (k : Nat) :
    ClientHostAction ⊕ HostAction → Option (AppAction ⊕ HostAction) :=
  joinedAction (ofSession k) (TunnelHost.mineAction mine ids)

/-- A link is the part of a channel that concerns session `k`; `Left` relates the client and the
session. -/
abbrev PartOf (mine : UInt32 → Bool) (ids : List UInt32)
    (Left : ClientHost L → NetworkRtcApp L → Prop) : Channel L → Link L → Prop :=
  JoinedRel (Alive Left) (Alive (TunnelHost.Restricts mine ids)) (meantFor mine)

/-- Both ends stay alive, and `covers` holds of the steps of the client. -/
abbrev partCovers (ids : List UInt32)
    (covers : ClientHost L → ClientHostEvent → ClientHost L → List ClientHostAction → Prop) :
    Channel L → ClientHostEvent ⊕ HostEvent → Channel L → List (ClientHostAction ⊕ HostAction) →
      Prop :=
  joinedCovers (aliveCovers covers) (aliveCovers fun _ _ h _ => h.server.streamIds <+: ids)

/-- The channel seen from a session that has been accepted. -/
theorem seen_part (L : Llhttp) (mine : UInt32 → Bool) (ids : List UInt32) (k : Nat) :
    (channel L).Projects (link L) (partEvent mine ids k) (partAction mine ids k)
      (PartOf mine ids (Seen mine k)) (partCovers ids fun _ _ _ out => Separate mine k out) := by
  refine Projects.duplex (projects fun {s t c e out} h henabled hrun hseparate => ?_)
    (TunnelHost.mine_by mine ids) (meant_client id) meant_host
  have hstep := sessions_step h.sound henabled hrun
  refine h.step hstep fun i hi => ?_
  obtain ⟨a, c, ha, hcall, rfl⟩ := mem_streams_of.mp (hstep.created_sent i hi)
  exact (hseparate k a c ha hcall).mpr rfl

/-- The channel seen from a session that has not been accepted. -/
theorem unborn_part (mine : UInt32 → Bool) (ids : List UInt32) (k : Nat) (peerConnId : UInt32)
    (a : Association L) :
    (channel L).Projects (link L) (partEvent mine ids k) (partAction mine ids k)
      (PartOf mine ids (Unborn k (.started peerConnId a)))
      (partCovers ids fun _ _ t out => t.accepted.length ≤ k ∧ Separate mine k out) := by
  have hclient : (clientHost L).Projects (networkRtcApp L) (onAlive (seenEvent mine k))
      (ofSession k) (Alive (Unborn k (.started peerConnId a)))
      (aliveCovers fun _ _ t out => t.accepted.length ≤ k ∧ Separate mine k out) := by
    intro s t c e out hrel hstep hcovers
    exact unborn_by L mine k peerConnId a hrel hstep
      (alive_covers_mono And.left hcovers)
  exact .duplex hclient (TunnelHost.mine_by mine ids) (meant_client And.right) meant_host

/-! ## Runs -/

/-- The events of session `k` and its tunnels in a run of the channel. -/
def partEvents (L : Llhttp) (mine : UInt32 → Bool) (ids : List UInt32) (k : Nat)
    (peerConnId sessionId : UInt32) (es : List (ClientHostEvent ⊕ HostEvent)) :
    List (AppEvent ⊕ HostEvent) :=
  (channel L).seen (partEvent mine ids k) (started L peerConnId sessionId) es

/-- The run of a link that a run of the channel is for a session that was accepted as `a`. -/
def LinkRun (mine : UInt32 → Bool) (ids : List UInt32) (k : Nat) (peerConnId sessionId : UInt32)
    (a : Association L) (Left : ClientHost L → NetworkRtcApp L → Prop)
    (es : List (ClientHostEvent ⊕ HostEvent)) (out : List (ClientHostAction ⊕ HostAction))
    (d : Channel L) : Prop :=
  ∃ d', (link L).run (Link.started peerConnId a sessionId)
      (partEvents L mine ids k peerConnId sessionId es) =
    some (d', out.filterMap (partAction mine ids k)) ∧ PartOf mine ids Left d d'

/-- A run of the channel goes on as a run of the link. -/
theorem LinkRun.step {a : Association L} {Left : ClientHost L → NetworkRtcApp L → Prop}
    {covers : ClientHost L → ClientHostEvent → ClientHost L → List ClientHostAction → Prop}
    {es : List (ClientHostEvent ⊕ HostEvent)} {out new : List (ClientHostAction ⊕ HostAction)}
    {d d₁ : Channel L} {e : ClientHostEvent ⊕ HostEvent}
    (h : LinkRun mine ids k peerConnId sessionId a Left es out d)
    (hpart : (channel L).Projects (link L) (partEvent mine ids k) (partAction mine ids k)
      (PartOf mine ids Left) (partCovers ids covers))
    (hes : (channel L).run (started L peerConnId sessionId) es = some (d, out))
    (hstep : (channel L).step d e = some (d₁, new)) (hcovers : partCovers ids covers d e d₁ new) :
    LinkRun mine ids k peerConnId sessionId a Left (es ++ [e]) (out ++ new) d₁ := by
  obtain ⟨d', hrun, hrel⟩ := h
  obtain ⟨d₁', hlast, hrel'⟩ := hpart hrel hstep hcovers
  refine ⟨d₁', ?_, hrel'⟩
  rw [partEvents, Machine.seen_snoc hes hstep, List.filterMap_append]
  exact Machine.run_append.mpr ⟨_, _, _, hrun, hlast, rfl⟩

/-- What a run of the channel is for session `k`, before and after it has been accepted. -/
structure Linked (mine : UInt32 → Bool) (ids : List UInt32) (k : Nat)
    (peerConnId sessionId : UInt32) (es : List (ClientHostEvent ⊕ HostEvent))
    (out : List (ClientHostAction ⊕ HostAction)) (d : Channel L) (s : ClientHost L) : Prop where
  unborn : s.accepted.length ≤ k → ∀ a,
    LinkRun mine ids k peerConnId sessionId a (Unborn k (.started peerConnId a)) es out d
  born : k < s.accepted.length → ∃ i genStreamId readBuf remotePort,
    .inl (.onAccept i genStreamId readBuf remotePort) ∈ es ∧
      LinkRun mine ids k peerConnId sessionId
        (.started L (LiveIds.idOf k) genStreamId readBuf remotePort) (Seen mine k) es out d

variable {s t : ClientHost L} {g h : TunnelHost} {d d₁ : Channel L}
  {es : List (ClientHostEvent ⊕ HostEvent)} {out new : List (ClientHostAction ⊕ HostAction)}

/-- An accept that makes session `k` sends nothing, so that nothing happens to the link. -/
theorem LinkRun.first {i : Nat} {genStreamId : Nat → UInt32} {readBuf : Nat → UInt8}
    {remotePort : UInt16} {e : ClientHostEvent}
    (hlink : ∀ a, LinkRun mine ids s.accepted.length peerConnId sessionId a
      (Unborn s.accepted.length (.started peerConnId a)) es out d)
    (hs : Accounted s) (hleft : d.left = .ok s) (hleft' : d₁.left = .ok t)
    (hes : (channel L).run (started L peerConnId sessionId) es = some (d, out))
    (he : e = .onAccept i genStreamId readBuf remotePort)
    (hstep : (channel L).step d (.inl e) = some (d₁, new))
    (hmore : ClientHost.Accepted genStreamId readBuf remotePort s (lefts new) t) :
    LinkRun mine ids s.accepted.length peerConnId sessionId
      (.started L (LiveIds.idOf s.accepted.length) genStreamId readBuf remotePort)
      (Seen mine s.accepted.length) (es ++ [.inl e]) (out ++ new) d₁ := by
  subst he
  obtain ⟨d', hrun, hrel⟩ := hlink (.started L (LiveIds.idOf s.accepted.length) genStreamId readBuf
    remotePort)
  obtain ⟨q, x, acts, hq, hx, rfl, rfl⟩ := duplex_step_inl.mp hstep
  cases hq
  rw [lefts_map_inl] at hmore
  obtain rfl : x = .ok t := hleft'
  have hquiet : acts.filterMap clientPort.sends = [] := by
    refine List.filterMap_eq_nil_iff.mpr fun a ha => ?_
    cases a with
    | session j a =>
        have hnone := List.filterMap_eq_nil_iff.mp (hmore.actions j) _ ha
        simp [ofSession] at hnone
    | _ => rfl
  have hevents : partEvents L mine ids s.accepted.length peerConnId sessionId
      (es ++ [.inl (.onAccept i genStreamId readBuf remotePort)]) =
        partEvents L mine ids s.accepted.length peerConnId sessionId es := by
    have hnone : partEvent mine ids s.accepted.length d
        (.inl (.onAccept i genStreamId readBuf remotePort)) = none := by
      rw [partEvent, joinedEvent, hleft]
      rfl
    rw [partEvents, Machine.seen_snoc hes hstep, hnone]
    exact List.append_nil _
  have hactions : (acts.map Sum.inl : List (ClientHostAction ⊕ HostAction)).filterMap
      (partAction mine ids s.accepted.length) = [] := by
    rw [partAction, filter_map_inl, hmore.actions]
    rfl
  refine ⟨d', ?_, ?_⟩
  · rw [hevents, List.filterMap_append, hactions, List.append_nil]
    exact hrun
  · refine ⟨?_, hrel.right, ?_, hrel.toLeft⟩
    · have hunborn := hrel.left
      rw [hleft] at hunborn
      cases hc : d'.left with
      | error fault =>
          rw [hc] at hunborn
          exact hunborn.elim
      | ok c =>
          rw [hc] at hunborn
          obtain ⟨-, -, rfl⟩ := hunborn
          rw [← hs.next]
          exact Seen.first hs.sound hmore
    · rw [hquiet]
      exact hrel.toRight

/-- The ends of the channel were alive before a step after which they are alive. -/
theorem alive_of_step {e : ClientHostEvent ⊕ HostEvent}
    (hstep : (channel L).step d e = some (d₁, new)) (hleft : d₁.left = .ok t)
    (hright : d₁.right = .ok h) :
    ∃ s g, d.left = .ok s ∧ d.right = .ok g := by
  cases e with
  | inl e =>
      obtain ⟨q, x, acts, -, hx, rfl, -⟩ := duplex_step_inl.mp hstep
      obtain ⟨s, hs, -⟩ := machine_step_eq_some hx
      exact ⟨s, h, hs, hright⟩
  | inr e =>
      obtain ⟨q, x, acts, -, hx, rfl, -⟩ := duplex_step_inr.mp hstep
      obtain ⟨g, hg, -⟩ := machine_step_eq_some hx
      exact ⟨t, g, hleft, hg⟩

theorem Separate.append {as bs : List ClientHostAction} (h : Separate mine k (as ++ bs)) :
    Separate mine k as ∧ Separate mine k bs :=
  ⟨fun j a c ha => h j a c (List.mem_append_left _ ha),
    fun j a c ha => h j a c (List.mem_append_right _ ha)⟩

theorem Linked.step {e : ClientHostEvent ⊕ HostEvent}
    (hlinked : Linked mine ids k peerConnId sessionId es out d s) (hs : Accounted s)
    (hleft : d.left = .ok s) (hright : d.right = .ok g) (hleft' : d₁.left = .ok t)
    (hright' : d₁.right = .ok h)
    (hes : (channel L).run (started L peerConnId sessionId) es = some (d, out))
    (hstep : (channel L).step d e = some (d₁, new)) (hseparate : Separate mine k (lefts new))
    (hmade : h.server.streamIds <+: ids) :
    Accounted t ∧ Linked mine ids k peerConnId sessionId (es ++ [e]) (out ++ new) d₁ t := by
  have hcovers : ∀ {covers : ClientHost L → ClientHostEvent → ClientHost L → List ClientHostAction →
      Prop}, (∀ e, covers s e t (lefts new)) → partCovers ids covers d e d₁ new := by
    intro covers hall
    cases e with
    | inl e =>
        show aliveCovers covers d.left e d₁.left (lefts new)
        rw [hleft, hleft']
        exact hall e
    | inr e =>
        show aliveCovers _ d.right e d₁.right (rights new)
        rw [hright, hright']
        exact hmade
  have hborn : k < s.accepted.length → ∃ i genStreamId readBuf remotePort,
      .inl (.onAccept i genStreamId readBuf remotePort) ∈ es ++ [e] ∧
        LinkRun mine ids k peerConnId sessionId
          (.started L (LiveIds.idOf k) genStreamId readBuf remotePort) (Seen mine k)
          (es ++ [e]) (out ++ new) d₁ := by
    intro hk
    obtain ⟨i, genStreamId, readBuf, remotePort, hmem, hlink⟩ := hlinked.born hk
    exact ⟨i, genStreamId, readBuf, remotePort, List.mem_append_left _ hmem,
      hlink.step (seen_part L mine ids k) hes hstep (hcovers fun _ => hseparate)⟩
  have hunborn : s.accepted.length ≤ k → t.accepted.length ≤ k → ∀ a,
      LinkRun mine ids k peerConnId sessionId a (Unborn k (.started peerConnId a)) (es ++ [e])
        (out ++ new) d₁ :=
    fun hk hk' a => (hlinked.unborn hk a).step (unborn_part mine ids k peerConnId a) hes hstep
      (hcovers fun _ => ⟨hk', hseparate⟩)
  cases e with
  | inr e =>
      obtain ⟨q, x, acts, -, -, hd, -⟩ := duplex_step_inr.mp hstep
      obtain rfl : s = t := by
        rw [hd] at hleft'
        exact Except.ok.inj (hleft.symm.trans hleft')
      exact ⟨hs, fun hk => hunborn hk hk, hborn⟩
  | inl e =>
      have hsessions : SessionsStep s (lefts new) t e := by
        obtain ⟨q, x, acts, -, hx, rfl, rfl⟩ := duplex_step_inl.mp hstep
        obtain rfl : x = .ok t := hleft'
        rw [hleft] at hx
        obtain ⟨_, hs', henabled, hrun⟩ := machine_step_alive hx
        cases hs'
        rw [lefts_map_inl]
        exact sessions_step hs.sound henabled hrun
      refine ⟨hs.step hsessions, fun hk => ?_, fun hk => ?_⟩
      · refine hunborn ?_ hk
        rcases hsessions.numbers with ⟨hlength, -⟩ | ⟨_, _, _, _, -, hmore⟩
        · omega
        · rw [hmore.accepted, List.length_append] at hk
          omega
      · by_cases hk' : k < s.accepted.length
        · exact hborn hk'
        · rcases hsessions.numbers with
            ⟨hlength, -⟩ | ⟨i, genStreamId, readBuf, remotePort, he, hmore⟩
          · omega
          · have hlength : t.accepted.length = s.accepted.length + 1 := by
              rw [hmore.accepted, List.length_append, List.length_singleton]
            obtain rfl : k = s.accepted.length := by omega
            exact ⟨i, genStreamId, readBuf, remotePort, by simp [he],
              .first (hlinked.unborn le_rfl) hs hleft hleft' hes he hstep hmore⟩

theorem linked_run (mine : UInt32 → Bool) (k : Nat)
    (hrun : (channel L).run (started L peerConnId sessionId) es = some (d, out))
    (hleft : d.left = .ok s) (hright : d.right = .ok h) (hseparate : Separate mine k (lefts out))
    (hids : (rights es).filterMap HostEvent.synId <+: ids) :
    Accounted s ∧ Linked mine ids k peerConnId sessionId es out d s := by
  refine Machine.run_induction (m := channel L) (P := fun es out d => ∀ s h, d.left = .ok s →
    d.right = .ok h → Separate mine k (lefts out) →
    (rights es).filterMap HostEvent.synId <+: ids →
    Accounted s ∧ Linked mine ids k peerConnId sessionId es out d s) ?_ ?_ hrun s h hleft hright
      hseparate hids
  · intro s h hleft hright _ _
    cases hleft
    refine ⟨accounted_started L peerConnId, fun _ a => ⟨_, rfl, ?_⟩,
      fun hk => absurd hk (Nat.not_lt_zero k)⟩
    exact ⟨⟨sound_started peerConnId, Nat.zero_le k, rfl⟩,
      TunnelHost.restricts_started mine ids sessionId, rfl, rfl⟩
  · intro es out d e d₁ new hes ih hstep t h hleft' hright' hseparate hids
    obtain ⟨s, g, hleft, hright⟩ := alive_of_step hstep hleft' hright'
    rw [lefts_append] at hseparate
    obtain ⟨hbefore, hnew⟩ := hseparate.append
    have hjoined := duplex_run (Machine.run_snoc.mpr ⟨_, _, _, hes, hstep, rfl⟩)
    have hmade := TunnelHost.made_of_run hjoined.right hright' hids
    have hids' : (rights es).filterMap HostEvent.synId <+: ids := by
      rw [rights_append, List.filterMap_append] at hids
      exact (List.prefix_append _ _).trans hids
    obtain ⟨hs, hlinked⟩ := ih s g hleft hright hbefore hids'
    exact hlinked.step hs hleft hright hleft' hright' hes hstep hnew hmade

/-- No other session sends a frame for a stream that session `k` sends one for. -/
def StreamsApart (k : Nat) (out : List ClientHostAction) : Prop :=
  ∀ j, j ≠ k → ∀ i ∈ streamsOf k out, i ∉ streamsOf j out

/-- The streams of session `k` are told from the frames it sends in a run. -/
def ownStreams (k : Nat) (out : List (ClientHostAction ⊕ HostAction)) (i : UInt32) : Bool :=
  (streamsOf k (lefts out)).contains i

/-- The streams for which tunnels are opened in a run. -/
def openedStreams (es : List (ClientHostEvent ⊕ HostEvent)) : List UInt32 :=
  (rights es).filterMap HostEvent.synId

theorem StreamsApart.separate (hapart : StreamsApart k (lefts out)) :
    Separate (ownStreams k out) k (lefts out) := by
  intro j a c ha hcall
  have hmem : c.streamId ∈ streamsOf j (lefts out) := mem_streams_of.mpr ⟨a, c, ha, hcall, rfl⟩
  rw [ownStreams, List.contains_iff_mem]
  constructor
  · intro hown
    by_contra hj
    exact hapart j hj _ hown hmem
  · rintro rfl
    exact hmem

end Channel

open Channel in
/-- Session `k` has gone through a run of a link of its own, between the app of that session and a
server that has the tunnels of its streams only. -/
def RunsOnOwnLink {L : Llhttp} (peerConnId sessionId : UInt32)
    (es : List (ClientHostEvent ⊕ HostEvent)) (out : List (ClientHostAction ⊕ HostAction))
    (d : Channel L) (h : TunnelHost) (k : Nat) (g : AcceptedSession L) : Prop :=
  ∃ i genStreamId readBuf remotePort d' c h',
    .inl (.onAccept i genStreamId readBuf remotePort) ∈ es ∧
    (link L).run (Link.started peerConnId
        (.started L (LiveIds.idOf k) genStreamId readBuf remotePort) sessionId)
        (partEvents L (ownStreams k out) (openedStreams es) k peerConnId sessionId es) =
      some (d', out.filterMap (partAction (ownStreams k out) (openedStreams es) k)) ∧
    d'.left = .ok c ∧ d'.right = .ok h' ∧
    g = ⟨c.association, c.destroyed⟩ ∧
    h'.server.tunnels = h.server.tunnels.filter (fun u => ownStreams k out u.streamId) ∧
    d'.toRight.waiting = d.toRight.waiting.filter (meantFor (ownStreams k out)) ∧
    d'.toLeft.waiting = d.toLeft.waiting.filter (meantFor (ownStreams k out))

open Channel in
/-- Sessions whose streams are kept apart do not interfere on the channel they share. -/
theorem sessions_apart {L : Llhttp} {peerConnId sessionId : UInt32} {t : ClientHost L}
    {h : TunnelHost} {d : Channel L} {es : List (ClientHostEvent ⊕ HostEvent)}
    {out : List (ClientHostAction ⊕ HostAction)} {k : Nat} {g : AcceptedSession L}
    (hrun : (channel L).run (.started L peerConnId sessionId) es = some (d, out))
    (hleft : d.left = .ok t) (hright : d.right = .ok h) (hk : t.accepted[k]? = some g)
    (hapart : StreamsApart k (lefts out)) :
    RunsOnOwnLink peerConnId sessionId es out d h k g := by
  have hids : (rights es).filterMap HostEvent.synId <+: openedStreams es := List.prefix_rfl
  obtain ⟨-, hlinked⟩ := linked_run (ownStreams k out) k hrun hleft hright hapart.separate hids
  obtain ⟨i, genStreamId, readBuf, remotePort, hmem, d', hlink, hrel⟩ :=
    hlinked.born (List.getElem?_eq_some_iff.mp hk).1
  have hseen := hrel.left
  have hhost := hrel.right
  rw [hleft] at hseen
  rw [hright] at hhost
  cases hc : d'.left with
  | error fault =>
      rw [hc] at hseen
      exact hseen.elim
  | ok c =>
      cases hh : d'.right with
      | error fault =>
          rw [hh] at hhost
          exact hhost.elim
      | ok h' =>
          rw [hc] at hseen
          rw [hh] at hhost
          refine ⟨i, genStreamId, readBuf, remotePort, d', c, h', hmem, hlink, hc, hh, ?_,
            hhost.server.tunnels, hrel.toRight, hrel.toLeft⟩
          exact Option.some.inj (hk.symm.trans hseen.session)

/-- The message that carries a frame. -/
def sealed (i : UInt32) (type : FrameType) (payload : Bytes) : Bytes :=
  (packMessage (makeFrame i type .socks5Connect payload)).getD []

/-- Two browsers that ask for a target each. That of the first one cannot be reached; that of the
second one sends a byte. -/
def twoTargets : List (ClientHostEvent ⊕ HostEvent) :=
  [.inl (.connected true true), .inl (.finishAccept 0 (.ok ())),
    .inl (.onAccept 0 (fun _ => 5) (fun _ => 0) 0), .inl (.finishAccept 0 (.ok ())),
    .inl (.onAccept 0 (fun _ => 6) (fun _ => 0) 0), .inl (.session 0 (.browserData [5, 1, 0])),
    .inl (.session 1 (.browserData [5, 1, 0])),
    .inl (.session 0 (.browserData [5, 1, 0, 1, 10, 0, 0, 1, 0, 80])),
    .inl (.session 1 (.browserData [5, 1, 0, 1, 10, 0, 0, 2, 0, 80])),
    .inr (.message (sealed 5 .syn (encodeSynPayload (text "10.0.0.1") 80))),
    .inr (.message (sealed 6 .syn (encodeSynPayload (text "10.0.0.2") 80))),
    .inr (.target 1 (.connected true)), .inr (.target 0 (.connected false)),
    .inl (.message (sealed 6 .synack [0]) none), .inr (.target 1 (.data [7])),
    .inl (.message (sealed 5 .synack [1]) none), .inl (.message (sealed 6 .data [7]) none)]

open Channel in
/-- The second one is answered and gets the byte, as it would alone. -/
theorem sessions_apart_two :
    ∃ d out t h g, (channel .idle).run (.started .idle 1 9) twoTargets = some (d, out) ∧
      d.left = .ok t ∧ d.right = .ok h ∧ t.accepted[1]? = some g ∧
      ((lefts out).filterMap (ClientHost.ofSession 1)).filterMap NetworkRtcApp.sessionAction =
        [.tcpSend [5, 0], .createSession 6, .sendSyn 6 (text "10.0.0.2") 80 .socks5Connect,
          .tcpSend [5, 0, 0, 1, 0, 0, 0, 0, 0, 0], .tcpSend [7]] ∧
      RunsOnOwnLink 1 9 twoTargets out d h 1 g := by
  obtain ⟨d, out, t, h, g, hrun, hleft, hright, hg, hactions, hfirst, hsecond, hothers⟩ :
      ∃ d out t h g, (channel .idle).run (.started .idle 1 9) twoTargets = some (d, out) ∧
        d.left = .ok t ∧ d.right = .ok h ∧ t.accepted[1]? = some g ∧
        ((lefts out).filterMap (ClientHost.ofSession 1)).filterMap NetworkRtcApp.sessionAction =
          [.tcpSend [5, 0], .createSession 6, .sendSyn 6 (text "10.0.0.2") 80 .socks5Connect,
            .tcpSend [5, 0, 0, 1, 0, 0, 0, 0, 0, 0], .tcpSend [7]] ∧
        ClientHost.streamsOf 0 (lefts out) = [5] ∧ ClientHost.streamsOf 1 (lefts out) = [6] ∧
        ∀ j, ClientHost.streamsOf (j + 2) (lefts out) = [] :=
    ⟨_, _, _, _, _, rfl, rfl, rfl, rfl, rfl, rfl, rfl, fun _ => rfl⟩
  refine ⟨d, out, t, h, g, hrun, hleft, hright, hg, hactions,
    sessions_apart hrun hleft hright hg fun j hj i hi => ?_⟩
  rw [hsecond, List.mem_singleton] at hi
  subst hi
  rcases j with _ | _ | j
  · rw [hfirst]
    decide
  · exact absurd rfl hj
  · rw [hothers]
    exact List.not_mem_nil

end RtcVpn
