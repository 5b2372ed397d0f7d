import RtcVpn.Client.Leaks

/-!
# What the browser is handed

Behind the `SYN` frame of a session its browser is handed what the frames of the
stream bring: the answer with the `SYNACK` frame, and then the payload of each
`DATA` frame. A read may ask for a tunnel beside other requests; what is
answered to these reaches the same browser.
-/

namespace RtcVpn

/-- The tunnels that hand on what they carry as it is. -/
def Verbatim (p : Protocol) : Prop := p = .socks5Connect ∨ p = .httpsConnect

/-- A tunnel of this kind is the only one of its session. -/
def Alone (ps : List Protocol) : Prop := ∀ p ∈ ps, Verbatim p → ps = [p]

theorem alone_of_length {ps : List Protocol} (h : ps.length ≤ 1) : Alone ps := by
  intro p hp _
  obtain ⟨q, rfl⟩ := List.length_eq_one_iff.mp
    (Nat.le_antisymm h (List.length_pos_of_mem hp))
  rw [List.mem_singleton.mp hp]

theorem Alone.front {ps qs : List Protocol} (h : Alone qs) (hfront : ps <+: qs) : Alone ps := by
  intro p hp hverbatim
  have hqs := h p (hfront.subset hp) hverbatim
  rw [hqs] at hfront
  exact hfront.eq_of_length_le (List.length_pos_of_mem hp)

/-- What the browser is told of its target. -/
def answer (p : Protocol) (ok : Bool) : Bytes :=
  if p = .httpsConnect then if ok then Socks5Session.reply else Socks5Session.failReply
  else [0x05, if ok then 0x00 else 0x05, 0x00, 0x01, 0, 0, 0, 0, 0, 0]

namespace Socks5Session

open Effect

variable {L : Llhttp} {s : Socks5Session L} {p : Protocol}

/-! ## Reads -/

/-- A read that asks for a tunnel of an HTTP client asks for nothing else. -/
def ConnectAlone (s : Socks5Session L) (data : Bytes) : Prop :=
  Feeds s data → .httpsConnect ∈ protocolsOf s data → protocolsOf s data = [.httpsConnect]

/-- Such a read opens a tunnel only by itself. -/
theorem alone_read {data : Bytes} (hdata : 0 < data.length) (h : ConnectAlone s data) :
    Alone (synProtocols ((handle (.browserData data)).run s).actions) := by
  by_cases hfeeds : Feeds s data
  · have halone : Alone (protocolsOf s data) := by
      intro p hp hverbatim
      have hhttp : p = .httpsConnect ∨ p = .httpPlain := by
        unfold protocolsOf at hp
        split at hp
        · cases hp
        · exact HttpParser.mem_protocols_in hp
      rcases hhttp with rfl | rfl
      · exact h hfeeds hp
      · rcases hverbatim with hverbatim | hverbatim <;> cases hverbatim
    exact halone.front (syn_protocols_read hdata hfeeds)
  · refine alone_of_length ?_
    rw [syn_protocols_length]
    exact (read_one hdata).1 fun hfeeds' => absurd hfeeds' hfeeds

theorem QuietAfterSyn.front {as bs : List ClientAction} (h : QuietAfterSyn bs)
    (hfront : as <+: bs) : QuietAfterSyn as := by
  obtain ⟨rest, rfl⟩ := hfront
  rintro before a after rfl ha
  have hnone := h before a (after ++ rest) (by simp) ha
  rw [List.filterMap_append] at hnone
  exact (List.append_eq_nil_iff.mp hnone).1

/-! ## Behind the `SYN` frame -/

/-- The session has asked for its target, or has been refused. -/
def Over (s : Socks5Session L) : Prop :=
  s.phase = .connecting ∨ s.phase = .connected ∨ s.phase = .closed

/-- The `SYNACK` frame of a tunnel. -/
theorem run_answer (hp : Verbatim p) (ok : Bool) (relay : Option (AddressV4 × UInt16)) :
    (s.tcpSocket = true → ((handle (.synack ok p relay)).run s).actions =
        .tcpSend (answer p ok) :: if ok then [] else [.tcpClose]) ∧
      (s.tcpSocket = false → ((handle (.synack ok p relay)).run s).actions = [] ∧
        ((handle (.synack ok p relay)).run s).result = .error .nullTcpSocket) := by
  rcases hp with rfl | rfl <;> constructor <;> intro hsocket <;> cases ok <;>
    simp [handle, p2pSynack, replyToBrowser, sendSocksReply, httpsConnected, tcpSend, tcpClose,
      hsocket, answer]

/-- A `DATA` frame of a tunnel. -/
theorem run_payload (hp : Verbatim p) (payload : Bytes) :
    (s.tcpSocket = true →
        ((handle (.data payload p)).run s).actions = [.tcpSend payload]) ∧
      (s.tcpSocket = false → ((handle (.data payload p)).run s).actions = [] ∧
        ((handle (.data payload p)).run s).result = .error .nullTcpSocket) := by
  rcases hp with rfl | rfl <;> constructor <;> intro hsocket <;>
    simp [handle, p2pData, tcpSend, hsocket]

/-- No other event hands the browser anything once there is a stream. -/
theorem sent_other (hover : s.Over) {e : ClientEvent}
    (hsynack : ∀ ok p relay, e ≠ .synack ok p relay) (hdata : ∀ payload p, e ≠ .data payload p) :
    ((handle e).run s).actions.filterMap ClientAction.sent = [] := by
  cases e with
  | browserData data =>
      rw [List.filterMap_eq_nil_iff]
      exact fun a ha => (read_over hover data a ha).2
  | browserClosed =>
      cases hsession : s.session <;> cases hp2p : s.isP2pClosed <;> cases hclosed : s.isClosed <;>
        cases honClose : s.onClose <;>
        simp [handle, closeSession, hsession, hp2p, hclosed, honClose, ClientAction.sent]
  | browserQueue status =>
      cases hsession : s.session with
      | none =>
          rw [run_browser_queue_none hsession]
          rfl
      | some id =>
          rw [run_browser_queue hsession]
          rfl
  | synack ok p relay => exact absurd rfl (hsynack ok p relay)
  | data payload p => exact absurd rfl (hdata payload p)
  | fin protocol =>
      rw [run_fin]
      cases s.tcpSocket <;> rfl
  | stop =>
      rw [run_stop]
      cases s.tcpSocket <;> rfl

end Socks5Session

namespace NetworkRtcApp

open Effect

variable {L : Llhttp} {c d : NetworkRtcApp L} {es : List AppEvent} {out new : List AppAction}
  {x : Except AppFault (NetworkRtcApp L)} {e : AppEvent}

/-! ## The streams of the session -/

variable {peerConnId sessionId : UInt32} {genStreamId : Nat → UInt32} {readBuf : Nat → UInt8}
  {remotePort : UInt16}

theorem opened_run (hrun : (networkRtcApp L).run (.ok (started peerConnId
    (.started L sessionId genStreamId readBuf remotePort))) es = some (.ok c, out)) :
    Opened out c := by
  refine Machine.run_induction (m := networkRtcApp L)
    (P := fun _ out x => ∀ c, x = .ok c → Opened out c) ?_ ?_ hrun c rfl
  · intro c hc
    cases hc
    exact ⟨.of_zero rfl, fun i hi => by cases hi⟩
  · intro es out x e y new _ ih hstep d hd
    subst hd
    obtain ⟨c, rfl, -, -⟩ := machine_step_alive hstep
    exact (ih c rfl).step hstep

/-- A session that has opened a stream has gone past the handshake. -/
theorem Opened.over {s : Socks5Session L} (h : Opened out c) (hupkeep : Upkeep s out c)
    (hs : s.created = 0)
    (hsyns : Socks5Session.synProtocols (out.filterMap sessionAction) ≠ []) :
    c.association.session.Over := by
  by_contra hover
  have hzero : c.association.session.created = 0 :=
    h.single.early (fun h => hover (.inl h)) (fun h => hover (.inr (.inl h)))
      fun h => hover (.inr (.inr h))
  have hids := hupkeep.tally.syns
  rw [hs, hzero] at hids
  have hnone : Socks5Session.syns (out.filterMap sessionAction) = 0 :=
    List.length_eq_zero_iff.mpr hids
  rw [← Socks5Session.syn_protocols_length, List.length_eq_zero_iff] at hnone
  exact hsyns hnone

/-- Only a read of the browser's socket opens a stream. -/
theorem syn_step (hstep : (networkRtcApp L).step (.ok c) e = some (x, new))
    (hsyns : Socks5Session.synProtocols (new.filterMap sessionAction) ≠ []) :
    ∃ data, e = .session (.browserData data) ∧ ¬ c.association.session.Over ∧
      Socks5Session.QuietAfterSyn (new.filterMap sessionAction) ∧
      (c.association.session.ConnectAlone data →
        Alone (Socks5Session.synProtocols (new.filterMap sessionAction))) := by
  obtain ⟨_, hc, henabled, -, -⟩ := machine_step_eq_some hstep
  cases hc
  obtain ⟨hsession, hother⟩ := app_step hstep
  cases he : sessionEvent c e with
  | none =>
      rw [(hother he).actions] at hsyns
      exact absurd rfl hsyns
  | some e' =>
      have hactions := (hsession e' he).actions
      have hprotocols := hactions.filterMap ClientAction.synProtocol
      -- the handler opens a stream if some of its actions do
      have hopens : Socks5Session.syns
          ((Socks5Session.handle e').run c.association.session).actions ≠ 0 := by
        intro hzero
        rw [← Socks5Session.syn_protocols_length, List.length_eq_zero_iff] at hzero
        change _ <+: Socks5Session.synProtocols _ at hprotocols
        rw [hzero, List.prefix_nil] at hprotocols
        exact hsyns hprotocols
      by_cases hread : ∃ data, e' = .browserData data
      · obtain ⟨data, rfl⟩ := hread
        obtain rfl := eq_of_session_event_local rfl he
        have hdata := length_of_read henabled
        refine ⟨data, rfl, fun hover => hopens ?_, (Socks5Session.read_one hdata).2.front hactions,
          fun halone => (Socks5Session.alone_read hdata halone).front hprotocols⟩
        rw [Socks5Session.syns, List.length_eq_zero_iff, List.filterMap_eq_nil_iff]
        exact fun a ha => (Socks5Session.read_over hover data a ha).1
      · have hsettled := Socks5Session.settled_handle (L := L)
          (fun data h => hread ⟨data, h⟩) c.association.session
        refine absurd ?_ hopens
        rw [Socks5Session.syns, hsettled.syns]
        rfl

/-- The reads of the session ask for a tunnel of an HTTP client only by itself. -/
def ReadsConnectAlone (c : NetworkRtcApp L) : AppEvent → Prop
  | .session (.browserData data) => c.association.session.ConnectAlone data
  | _ => True

/-- A tunnel is then the only stream of its session. -/
theorem alone_run (hrun : (networkRtcApp L).run (.ok (started peerConnId
      (.started L sessionId genStreamId readBuf remotePort))) es = some (x, out))
    (hmeets : (networkRtcApp L).Meets (WhenAlive ReadsConnectAlone) (.ok (started peerConnId
      (.started L sessionId genStreamId readBuf remotePort))) es) :
    Alone (Socks5Session.synProtocols (out.filterMap sessionAction)) := by
  refine Machine.run_induction_of_meets (m := networkRtcApp L)
    (P := fun _ out _ => Alone (Socks5Session.synProtocols (out.filterMap sessionAction))) ?_ ?_
    hmeets hrun
  · exact alone_of_length (Nat.zero_le 1)
  · intro es out x e y new hbefore ih hreads hstep
    obtain ⟨c, rfl, -, -, -⟩ := machine_step_eq_some hstep
    rw [List.filterMap_append, Socks5Session.syn_protocols_append]
    by_cases hsyns : Socks5Session.synProtocols (new.filterMap sessionAction) = []
    · rw [hsyns, List.append_nil]
      exact ih
    · obtain ⟨data, rfl, hover, -, halone⟩ := syn_step hstep hsyns
      -- the first read that opens a stream is the last
      have hnone : Socks5Session.synProtocols (out.filterMap sessionAction) = [] := by
        by_contra hne
        exact hover ((opened_run hbefore).over (upkeep_run hbefore) rfl hne)
      rw [hnone, List.nil_append]
      exact halone (hreads c rfl)

end NetworkRtcApp

end RtcVpn
