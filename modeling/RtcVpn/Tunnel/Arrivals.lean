import RtcVpn.Client.Handover
import RtcVpn.Tunnel.Link

/-!
# What reaches the app

The `SYNACK` and `DATA` frames of a stream that reach the app are some that the
server has sent, in order and up to a point, for none of them is too long for a
message. Of a tunnel that is alone in its session they are what the socket of
its target has reported, with the protocol of its `SYN` frame.
-/

namespace RtcVpn

/-- A call's frame, if it is a reply on the stream. -/
def Call.replyOn (i : UInt32) : Call → Option Call
  | .sendSynack j ok protocol => if j = i then some (.sendSynack j ok protocol) else none
  | .sendData j data protocol => if j = i then some (.sendData j data protocol) else none
  | _ => none

/-- The reply on the stream that a message carries. -/
def replyOf (i : UInt32) (message : Bytes) : Option Call :=
  match frameOf message with
  | some (h, payload) =>
      if h.streamId = i then
        match h.type with
        | .synack => some (.sendSynack i (payload.head? == some 0) h.protocol)
        | .data => some (.sendData i payload h.protocol)
        | _ => none
      else none
  | none => none

/-- A message carries the reply it was packed from. -/
theorem reply_of_message {c : Call} {m : Bytes} (h : c.message = some m) (i : UInt32) :
    replyOf i m = c.replyOn i := by
  rw [replyOf, Call.frame_of_message h]
  cases c with
  | sendSynack j ok protocol => cases ok <;> by_cases hj : j = i <;>
      simp [Call.replyOn, Call.streamId, Call.type, Call.payload, Call.protocol, hj]
  | sendData j data protocol => by_cases hj : j = i <;>
      simp [Call.replyOn, Call.streamId, Call.type, Call.payload, Call.protocol, hj]
  | sendSyn | sendFin | sendDataCtrl => simp [Call.replyOn, Call.type]

/-- The reply on the stream that an event of the app delivers. -/
def AppEvent.replyOn (i : UInt32) (e : AppEvent) : Option Call :=
  (appPort.receives e).bind (replyOf i)

/-- What the session does in the run of a link. -/
def sessionActions (out : List (AppAction ⊕ HostAction)) : List ClientAction :=
  (lefts out).filterMap NetworkRtcApp.sessionAction

/-- The replies on a stream that have reached the app. -/
def repliesOn (i : UInt32) (es : List (AppEvent ⊕ HostEvent)) : List Call :=
  (lefts es).filterMap (AppEvent.replyOn i)

namespace TunnelHost

open Effect

/-- What the server sends as data fits into a message. -/
def Fits : HostAction → Prop
  | .sendData _ data _ => data.length ≤ Target.maxData
  | _ => True

/-- Carrying out the actions of the server sends no data. -/
theorem fits_carried (as : List ServerAction) : ∀ a ∈ as.flatMap carriedActions, Fits a := by
  intro a ha
  obtain ⟨b, -, hb⟩ := List.mem_flatMap.mp ha
  cases b with
  | startReceive tunnel | pauseReceive tunnel =>
      simp only [carriedActions, List.mem_cons, List.not_mem_nil, or_false] at hb
      rcases hb with rfl | rfl <;> trivial
  | _ =>
      obtain rfl := List.mem_singleton.mp hb
      trivial

/-- What the host sends as data has been reported by the socket of a target. -/
theorem fits_run {sessionId : UInt32} {es : List HostEvent} {out : List HostAction}
    {x : Except HostFault TunnelHost}
    (hrun : tunnelHost.run (.ok (started sessionId)) es = some (x, out)) :
    ∀ a ∈ out, Fits a := by
  refine Machine.run_induction (m := tunnelHost) (P := fun _ out _ => ∀ a ∈ out, Fits a) ?_ ?_ hrun
  · exact fun a ha => by cases ha
  intro es out x e y new _ ih hstep a ha
  obtain ⟨h, rfl, henabled, _, hnew⟩ := machine_step_eq_some hstep
  rcases List.mem_append.mp ha with ha | ha
  · exact ih a ha
  have hserver : ∀ e' (g : TunnelHost), ∀ a ∈ ((onServer e').run g).actions, Fits a := by
    intro e' g
    rw [run_on_server]
    exact fits_carried _
  rw [hnew] at ha
  cases e with
  | message message => exact hserver _ h a ha
  | controllerClosed => exact hserver _ h a ha
  | target k report =>
      have hreport : a ∈ ((onReport k report).run (h.reported k report)).actions := ha
      cases report with
      | closed => exact hserver _ _ a hreport
      | queue status => cases hreport
      | connected success =>
          cases ht : (h.reported k (.connected success)).server.tunnels[k]? <;>
            simp [onReport, onConnected, tunnelOf, ht] at hreport
          rw [hreport]
          trivial
      | data data =>
          have hfits : data.length ≤ Target.maxData := by
            cases htarget : h.targets k with
            | none => simp [enabled, htarget] at henabled
            | some t =>
                simp only [enabled, htarget, Option.any_some, Target.enabled, Bool.and_eq_true,
                  decide_eq_true_eq] at henabled
                exact henabled.2
          cases ht : (h.reported k (.data data)).server.tunnels[k]? <;>
            simp [onReport, onData, tunnelOf, ht] at hreport
          rw [hreport]
          exact hfits

end TunnelHost

namespace Link

open Effect

variable {L : Llhttp} {peerConnId sessionId : UInt32} {a : Association L} {d : Link L}
  {es : List (AppEvent ⊕ HostEvent)} {out : List (AppAction ⊕ HostAction)}

/-- A reply that the server sends travels in a message. -/
theorem reply_sent {x : HostAction} (hfits : TunnelHost.Fits x) (i : UInt32) :
    (hostPort.sends x).bind (replyOf i) = x.replyOn i := by
  have hpacked : ∀ c, 6 + c.payload.length < 2 ^ 32 → x.call = some c →
      (hostPort.sends x).bind (replyOf i) = c.replyOn i := by
    intro c hlength hcall
    obtain ⟨m, hm⟩ := Option.isSome_iff_exists.mp (Call.message_of_length hlength)
    have hsent : hostPort.sends x = some m := by
      show x.call.bind Call.message = some m
      rw [hcall]
      exact hm
    rw [hsent]
    exact reply_of_message hm i
  cases x with
  | server x =>
      cases x with
      | sendFin j protocol => exact hpacked (.sendFin j protocol) (by simp [Call.payload]) rfl
      | _ => rfl
  | startReading | stopReading => rfl
  | sendSynack j ok protocol =>
      exact hpacked (.sendSynack j ok protocol) (by simp [Call.payload]) rfl
  | sendData j data protocol =>
      refine hpacked (.sendData j data protocol) ?_ rfl
      have hdata : data.length ≤ 65536 + 262 := hfits
      show 6 + data.length < 2 ^ 32
      omega

/-- The replies that reach the app are those that the server has sent, up to a point. -/
theorem replies_prefix
    (hrun : (link L).run (started peerConnId a sessionId) es = some (d, out)) (i : UInt32) :
    repliesOn i es <+: (rights out).filterMap (HostAction.replyOn i) := by
  have hjoined := joined_of_run hrun
  have hprefix := hjoined.received_left.filterMap (replyOf i)
  rw [List.filterMap_filterMap, List.filterMap_filterMap] at hprefix
  have hsent : (rights out).filterMap (fun x => (hostPort.sends x).bind (replyOf i)) =
      (rights out).filterMap (HostAction.replyOn i) :=
    List.filterMap_congr fun x hx => reply_sent (TunnelHost.fits_run hjoined.right x hx) i
  rwa [hsent] at hprefix

/-! ## The replies of the one target -/

/-- The stream of a session that has opened one. -/
theorem syn_ids_of_alone {as : List ClientAction} {i : UInt32} {host : Bytes} {port : UInt16}
    {p : Protocol} (hmem : .sendSyn i host port p ∈ as)
    (halone : Socks5Session.synProtocols as = [p]) : as.filterMap ClientAction.synId = [i] := by
  have hlength := congrArg List.length halone
  rw [Socks5Session.syn_protocols_length] at hlength
  obtain ⟨j, hj⟩ := List.length_eq_one_iff.mp hlength
  have hi : i ∈ as.filterMap ClientAction.synId := List.mem_filterMap.mpr ⟨_, hmem, rfl⟩
  rw [hj] at hi ⊢
  rw [List.mem_singleton.mp hi]

/-- Nothing is replied on a stream that has not been opened. -/
theorem no_replies (hrun : (link L).run (started peerConnId a sessionId) es = some (d, out))
    (hnone : Socks5Session.synProtocols (sessionActions out) = []) (i : UInt32) :
    repliesOn i es = [] := by
  obtain ⟨h, hreplies, -⟩ := TunnelHost.replies_run (joined_of_run hrun).right
  have hopened := syn_ids_sublist hrun
  have hids : (lefts out).filterMap AppAction.synId = [] := by
    rw [NetworkRtcApp.syn_ids_eq]
    refine List.length_eq_zero_iff.mp ?_
    show Socks5Session.syns (sessionActions out) = 0
    rw [← Socks5Session.syn_protocols_length, hnone]
    rfl
  rw [hids, List.sublist_nil] at hopened
  have hstreams := hreplies.streams
  rw [hopened, List.prefix_nil] at hstreams
  have hprefix := replies_prefix hrun i
  rw [hreplies.silent i (by simp [hstreams]), List.prefix_nil] at hprefix
  exact hprefix

/-- A `SYN` frame that has reached the server is one of the session. -/
theorem syn_sent_by_session
    (hrun : (link L).run (started peerConnId a sessionId) es = some (d, out)) {data : Bytes}
    {i : UInt32} {p : Protocol} (hdata : .message data ∈ rights es)
    (hframe : TunnelServer.SynFrame data i p) :
    ∃ host port, .sendSyn i host port p ∈ sessionActions out := by
  have hmem : data ∈ (rights es).filterMap hostPort.receives :=
    List.mem_filterMap.mpr ⟨_, hdata, rfl⟩
  obtain ⟨x, hx, hsent⟩ := List.mem_filterMap.mp ((joined_of_run hrun).received_right.mem hmem)
  obtain ⟨c, hcall, hmessage⟩ := Option.bind_eq_some_iff.mp hsent
  obtain ⟨header, payload, host, port, hframe, htype, -, rfl, rfl⟩ := hframe
  rw [Call.frame_of_message hmessage] at hframe
  cases hframe
  cases c with
  | sendSyn j host port protocol =>
      refine ⟨host, port, List.mem_filterMap.mpr ⟨x, hx, ?_⟩⟩
      cases x with
      | association x =>
          cases x with
          | session x => cases x <;> cases hcall; rfl
          | relay x => cases x <;> cases hcall
      | _ => cases hcall
  | _ => cases htype

/-- What the server sends on the one stream of a session is what the socket of its target has
reported. -/
theorem replies_of_target
    (hrun : (link L).run (started peerConnId a sessionId) es = some (d, out)) {i : UInt32}
    {host : Bytes} {port : UInt16} {p : Protocol}
    (hmem : .sendSyn i host port p ∈ sessionActions out)
    (halone : Socks5Session.synProtocols (sessionActions out) = [p]) :
    (rights out).filterMap (HostAction.replyOn i) = [] ∨
      (rights es).filterMap HostEvent.synId = [i] ∧
        ∃ g, target.run {} ((rights es).filterMap (HostEvent.reportOf 0)) = some (g, []) ∧
          (rights out).filterMap (HostAction.replyOn i) =
            ((rights es).filterMap (HostEvent.reportOf 0)).filterMap (TargetReport.call i p) := by
  obtain ⟨h, hreplies, -⟩ := TunnelHost.replies_run (joined_of_run hrun).right
  have hopened := syn_ids_sublist hrun
  rw [NetworkRtcApp.syn_ids_eq] at hopened
  change List.Sublist _ ((sessionActions out).filterMap ClientAction.synId) at hopened
  rw [syn_ids_of_alone hmem halone] at hopened
  by_cases hname : i ∈ h.server.names.map Prod.fst
  · right
    have hids : (rights es).filterMap HostEvent.synId = [i] := by
      refine hopened.eq_of_length_le ?_
      exact (List.length_pos_of_mem hname).trans_le hreplies.streams.length_le
    have hnames := hreplies.streams
    rw [hids] at hnames
    have hone := hnames.eq_of_length_le (List.length_pos_of_mem hname)
    obtain ⟨⟨j, q⟩, hsingle⟩ := List.length_eq_one_iff.mp
      (by simpa using congrArg List.length hone : h.server.names.length = 1)
    rw [hsingle] at hone
    obtain rfl : j = i := by simpa using hone
    -- the `SYN` frame that opened it is that of the session
    obtain ⟨data, hdata, hframe⟩ := hreplies.named (j, q) (by simp [hsingle])
    obtain ⟨host', port', hsyn⟩ := syn_sent_by_session hrun hdata hframe
    have hq : q ∈ Socks5Session.synProtocols (sessionActions out) :=
      List.mem_filterMap.mpr ⟨_, hsyn, rfl⟩
    rw [halone, List.mem_singleton] at hq
    subst hq
    obtain ⟨g, -, htarget⟩ := hreplies.started 0 (by simp [hsingle])
    exact ⟨hids, g, htarget, hreplies.replies (by simp [hids]) 0 j q (by simp [hsingle])⟩
  · exact .inl (hreplies.silent i hname)

/-- Replies on it name the protocol of its `SYN` frame. -/
theorem protocol_of_reply
    (hrun : (link L).run (started peerConnId a sessionId) es = some (d, out)) {i : UInt32}
    {host : Bytes} {port : UInt16} {p : Protocol}
    (hmem : .sendSyn i host port p ∈ sessionActions out)
    (halone : Socks5Session.synProtocols (sessionActions out) = [p]) {r : Call}
    (hr : r ∈ repliesOn i es) : r.protocol = p := by
  have hprefix := replies_prefix hrun i
  have hsent := hprefix.subset hr
  rcases replies_of_target hrun hmem halone with hnone | ⟨-, -, -, hcalls⟩
  · rw [hnone] at hsent
    cases hsent
  · rw [hcalls] at hsent
    obtain ⟨report, -, hreport⟩ := List.mem_filterMap.mp hsent
    cases report <;> cases hreport <;> rfl

end Link

end RtcVpn
