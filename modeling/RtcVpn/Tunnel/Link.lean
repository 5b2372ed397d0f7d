import RtcVpn.Client.AppRuns
import RtcVpn.Library.Duplex
import RtcVpn.Mux.Transparency
import RtcVpn.Server.Replies

/-!
# The two ends of a data channel

The app with the session of one browser and the server-side session with its
targets, joined by a lossless first-in first-out channel in each direction.
Each frame that one of them hands to its `send_func_` is packed into a message,
and each message the other one takes from the channel carries such a frame.
-/

namespace RtcVpn

/-! ## Messages -/

namespace Call

/-- The frame type of a send function. -/
def type : Call → FrameType
  | sendSyn _ _ _ _ => .syn
  | sendSynack _ _ _ => .synack
  | sendData _ _ _ => .data
  | sendFin _ _ => .fin
  | sendDataCtrl _ _ _ => .dataCtrl

/-- The protocol of a call. -/
def protocol : Call → Protocol
  | sendSyn _ _ _ p | sendSynack _ _ p | sendData _ _ p | sendFin _ p | sendDataCtrl _ _ p => p

/-- The payload of a call's frame. -/
def payload : Call → Bytes
  | sendSyn _ host port _ => encodeSynPayload host port
  | sendSynack _ ok _ => [if ok then 0 else 1]
  | sendData _ data _ => data
  | sendFin _ _ => []
  | sendDataCtrl _ type _ => [if type = .receive then 0 else 1]

/-- The message a call puts into the channel: `send_func_` packs the frame, and drops it if it is
too long. -/
def message (c : Call) : Option Bytes :=
  packMessage (makeFrame c.streamId c.type c.protocol c.payload)

/-- The message of a call whose frame is not too long. -/
def packed (c : Call) : Bytes := c.message.getD []

/-- A payload that is not too long has a message. -/
theorem message_of_length {c : Call} (h : 6 + c.payload.length < 2 ^ 32) : c.message.isSome := by
  obtain ⟨m, hm, -⟩ := unpack_pack_message
    (show (makeFrame c.streamId c.type c.protocol c.payload).length < 2 ^ 32 by
      rwa [make_frame_length])
  exact Option.isSome_iff_exists.mpr ⟨m, hm⟩

/-- A payload with a message is shorter than its length field can tell. -/
theorem length_of_message {c : Call} {m : Bytes} (h : c.message = some m) :
    6 + c.payload.length < 2 ^ 32 := by
  have hlength := length_of_pack_message h
  rwa [make_frame_length] at hlength

/-- The frame that a message of the channel carries. -/
theorem frame_of_message {c : Call} {m : Bytes} (h : c.message = some m) :
    frameOf m = some (⟨c.streamId, c.type, c.protocol⟩, c.payload) :=
  frame_of_packed h

end Call

/-- The frame of an action of the session. -/
def ClientAction.call : ClientAction → Option Call
  | .sendSyn i host port protocol => some (.sendSyn i host port protocol)
  | .sendData i data protocol => some (.sendData i data protocol)
  | .sendFin i protocol => some (.sendFin i protocol)
  | .sendDataCtrl i ctrl protocol => some (.sendDataCtrl i ctrl protocol)
  | _ => none

/-- The frame of an action of the relay. -/
def RelayAction.call : RelayAction → Option Call
  | .sendData i data protocol => some (.sendData i data protocol)
  | .sendDataCtrl i ctrl protocol => some (.sendDataCtrl i ctrl protocol)
  | .sendSynack i ok protocol => some (.sendSynack i ok protocol)
  | _ => none

/-- The frame of an action of the app. -/
def AppAction.call : AppAction → Option Call
  | .association (.session a) => a.call
  | .association (.relay a) => a.call
  | _ => none

/-- The frame of an action of the host. -/
def HostAction.call : HostAction → Option Call
  | .server (.sendFin i protocol) => some (.sendFin i protocol)
  | .sendSynack i ok protocol => some (.sendSynack i ok protocol)
  | .sendData i data protocol => some (.sendData i data protocol)
  | _ => none

/-- The stream of a `FIN` frame that the host sends. -/
def HostAction.finId (a : HostAction) : Option UInt32 :=
  (TunnelHost.serverAction a).bind ServerAction.finId

/-! ## The link -/

/-- What the app takes from the channel and puts into it. -/
def appPort : Port AppEvent AppAction Bytes where
  receives
    | .message data _ => some data
    | _ => none
  sends a := a.call.bind Call.message

/-- What the server takes from the channel and puts into it. -/
def hostPort : Port HostEvent HostAction Bytes where
  receives
    | .message data => some data
    | _ => none
  sends a := a.call.bind Call.message

/-- The state of a link. -/
abbrev Link (L : Llhttp) : Type :=
  Duplex (Except AppFault (NetworkRtcApp L)) (Except HostFault TunnelHost) Bytes

/-- The app and the server, joined. -/
def link (L : Llhttp) : Machine (Link L) (AppEvent ⊕ HostEvent) (AppAction ⊕ HostAction) :=
  duplex (networkRtcApp L) tunnelHost appPort hostPort

namespace Link

variable {L : Llhttp}

/-- A link whose browser has just been accepted. -/
def started (peerConnId : UInt32) (a : Association L) (sessionId : UInt32) : Link L :=
  .start (.ok (.started peerConnId a)) (.ok (.started sessionId))

variable {peerConnId sessionId : UInt32} {a : Association L} {d : Link L}
  {es : List (AppEvent ⊕ HostEvent)} {out : List (AppAction ⊕ HostAction)}

/-- A run of the link comes apart. -/
theorem joined_of_run (hrun : (link L).run (started peerConnId a sessionId) es = some (d, out)) :
    Joined (networkRtcApp L) tunnelHost appPort hostPort (.ok (.started peerConnId a))
      (.ok (.started sessionId)) es out d :=
  duplex_run hrun

/-- A message that the app takes from the channel is one that the server has sent. -/
theorem sent_to_app (hrun : (link L).run (started peerConnId a sessionId) es = some (d, out))
    {data : Bytes} {relay : Option (AddressV4 × UInt16)}
    (hdata : .message data relay ∈ lefts es) :
    ∃ x ∈ rights out, ∃ c, x.call = some c ∧ c.message = some data := by
  have hmem : data ∈ (lefts es).filterMap appPort.receives :=
    List.mem_filterMap.mpr ⟨_, hdata, rfl⟩
  obtain ⟨x, hx, hsent⟩ := List.mem_filterMap.mp ((joined_of_run hrun).received_left.mem hmem)
  obtain ⟨c, hcall, hmessage⟩ := Option.bind_eq_some_iff.mp hsent
  exact ⟨x, hx, c, hcall, hmessage⟩

/-- What is read from the messages that the server takes from the channel, in order, is read from
some of the frames that the app has sent. -/
theorem received_by_host {α : Type}
    (hrun : (link L).run (started peerConnId a sessionId) es = some (d, out))
    {f : Bytes → Option α} {g : AppAction → Option α}
    (hfg : ∀ x c m, x.call = some c → c.message = some m → ∀ y, f m = some y → g x = some y) :
    ((rights es).filterMap fun e => (hostPort.receives e).bind f).Sublist
      ((lefts out).filterMap g) := by
  have hprefix' := ((joined_of_run hrun).received_right.filterMap f).sublist
  rw [List.filterMap_filterMap, List.filterMap_filterMap] at hprefix'
  refine hprefix'.trans ?_
  generalize lefts out = xs
  induction xs with
  | nil => exact List.Sublist.slnil
  | cons x xs ih =>
      rw [List.filterMap_cons, List.filterMap_cons]
      cases hsent : (appPort.sends x).bind f with
      | none =>
          cases g x with
          | none => exact ih
          | some y => exact ih.cons y
      | some y =>
          obtain ⟨m, hm, hy⟩ := Option.bind_eq_some_iff.mp hsent
          obtain ⟨c, hcall, hmessage⟩ := Option.bind_eq_some_iff.mp hm
          rw [hfg x c m hcall hmessage y hy]
          exact ih.cons_cons y

/-- The stream a message opens is that of the `SYN` frame it carries. -/
theorem syn_id_of_message {c : Call} {m : Bytes} {i : UInt32} (hmessage : c.message = some m)
    (hid : synIdOf m = some i) : ∃ host port protocol, c = .sendSyn i host port protocol := by
  obtain ⟨protocol, header, payload, host, port, hframe, htype, -, hi, -⟩ :=
    TunnelServer.syn_id_of_eq_some.mp hid
  rw [Call.frame_of_message hmessage] at hframe
  cases hframe
  cases c with
  | sendSyn j host port protocol => exact ⟨host, port, protocol, by rw [← hi]; rfl⟩
  | _ => cases htype

/-- The server opens streams only as the session has asked for them, in that order. -/
theorem syn_ids_sublist
    (hrun : (link L).run (started peerConnId a sessionId) es = some (d, out)) :
    ((rights es).filterMap HostEvent.synId).Sublist ((lefts out).filterMap AppAction.synId) := by
  have hread : HostEvent.synId = fun e => (hostPort.receives e).bind synIdOf := by
    funext e
    cases e <;> rfl
  rw [hread]
  refine received_by_host hrun fun x c m hcall hmessage i hi => ?_
  obtain ⟨host, port, protocol, rfl⟩ := syn_id_of_message hmessage hi
  cases x with
  | association x =>
      cases x with
      | session x => cases x <;> cases hcall; rfl
      | relay x => cases x <;> cases hcall
  | _ => cases hcall

/-- A `FIN` frame that reaches the app has been sent by the server. -/
theorem fin_sent_to_app
    (hrun : (link L).run (started peerConnId a sessionId) es = some (d, out)) {data : Bytes}
    {relay : Option (AddressV4 × UInt16)} {i : UInt32} (hdata : .message data relay ∈ lefts es)
    (hframe : FinFrame data i) : i ∈ (rights out).filterMap HostAction.finId := by
  obtain ⟨x, hx, c, hcall, hmessage⟩ := sent_to_app hrun hdata
  obtain ⟨header, payload, hframe, htype, rfl⟩ := hframe
  rw [Call.frame_of_message hmessage] at hframe
  cases hframe
  refine List.mem_filterMap.mpr ⟨x, hx, ?_⟩
  cases x with
  | server x => cases x <;> cases hcall; rfl
  | sendSynack | sendData => cases hcall; cases htype
  | startReading | stopReading => cases hcall

end Link

end RtcVpn
