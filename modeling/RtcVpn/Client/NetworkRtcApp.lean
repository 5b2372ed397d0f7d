import RtcVpn.Client.Association
import RtcVpn.Client.Handlers

/-!
# The client's end of the data channel

`NetworkRtcApp` with the session of one browser: its multiplexer, where the
session registers the streams it opens, and the session with its relay. A
message is unpacked and handed to `on_p2p_data`, and the callback this invokes
is one of the session's. The session is destroyed once the browser's socket has
reported its close; what its callbacks hold of it has expired then.
-/

namespace RtcVpn

/-- The multiplexer and a session; `destroyed` tells that the session's destructor has run. -/
structure NetworkRtcApp (L : Llhttp) where
  association : Association L
  mux : SessionMux
  destroyed : Bool := false

/-- The callbacks of the sockets of a session and of its relay, `SocksServer::stop`, a message on
the data channel with what the operating system answers if a relay is opened, and the destructor of
the session. -/
inductive AppEvent where
  | session (event : ClientEvent)
  | relay (event : RelayEvent)
  | message (data : Bytes) (relay : Option (AddressV4 × UInt16))
  | destroyed
  deriving DecidableEq, Repr

/-- What the session and its relay do, and what `p2p_data_ctrl` has their sockets do. -/
inductive AppAction where
  | association (action : AssociationAction)
  | startReading
  | stopReading
  | startReadingRelay
  | stopReadingRelay
  deriving DecidableEq, Repr

/-- A handler of the session or of the relay stops, or the input is read out of bounds. -/
inductive AppFault where
  | association (fault : AssociationFault)
  | access (fault : AccessFault)
  deriving DecidableEq, Repr

namespace NetworkRtcApp

open Effect

variable {L : Llhttp}

/-- A handler of the app. -/
abbrev Handler (L : Llhttp) : Type := Effect (NetworkRtcApp L) AppAction AppFault Unit

/-- The session of `create_session`, with the callbacks `request_remote_connect` sets. -/
def sessionCallbacks (streamId : UInt32) : Session :=
  { streamId := streamId, onData := true, onSynack := true, onClose := true }

/-- Change the registry of the multiplexer. -/
def withSessions (c : NetworkRtcApp L) (f : SessionManager → SessionManager) : NetworkRtcApp L :=
  { c with mux := { c.mux with sessionManager := f c.mux.sessionManager } }

/-- `create_session` registers a stream; the rest goes to sockets and to `send_func_`. -/
def carryOut : AssociationAction → Handler L
  | .session (.createSession streamId) => do
      emit (.association (.session (.createSession streamId)))
      modify fun c => c.withSessions (·.registerSession (sessionCallbacks streamId))
  | action => emit (.association action)

/-- A handler of the session with its relay. -/
def onAssociation (event : AssociationEvent) : Handler L :=
  performing association (fun a c => { c with association := a }) .association
    (Association.handle event) carryOut

/-- What a control value has a socket do, if it is there. -/
def obey (ctrl : CtrlType) (socket : Bool) (fault : AssociationFault) (stop start : AppAction) :
    Handler L :=
  match ctrl with
  | .pause => if socket then emit stop else fail (.association fault)
  | .receive => if socket then emit start else fail (.association fault)
  | .other _ _ => pure ()

/-- `p2p_data_ctrl`. -/
def p2pDataCtrl (ctrl : CtrlType) (protocol : Protocol) : Handler L := do
  let c ← get
  match protocol with
  | .udpAssociate =>
      match c.association.relay with
      | none => fail (.association (.session .nullUdpSession))
      | some r => obey ctrl r.socket (.relay .nullSocket) .stopReadingRelay .startReadingRelay
  | .httpPlain | .socks5Connect | .httpsConnect =>
      obey ctrl c.association.session.tcpSocket (.session .nullTcpSocket) .stopReading .startReading
  | _ => pure ()

/-- The callback the multiplexer invokes, unless the session it belongs to has expired. The client
never sets `on_syn_`. -/
def onUpcall (relay : Option (AddressV4 × UInt16)) (upcall : Upcall) : Handler L := do
  let c ← get
  if c.destroyed then pure ()
  else
    match upcall with
    | .onSyn _ _ _ _ => pure ()
    | .onSynack _ ok protocol => onAssociation (.session (.synack ok protocol relay))
    | .onData _ payload protocol => onAssociation (.session (.data payload protocol))
    | .onClose _ protocol => onAssociation (.session (.fin protocol))
    | .onDataCtrl _ ctrl protocol => p2pDataCtrl ctrl protocol

/-- The data channel callback: `unpackMessage`, `on_p2p_data` and the callback it invokes. -/
def onMessage (data : Bytes) (relay : Option (AddressV4 × UInt16)) : Handler L := do
  let c ← get
  match c.mux.onMessage data with
  | .error fault => fail (.access fault)
  | .ok none => pure ()
  | .ok (some upcall) => onUpcall relay upcall

/-- `udp_session_->close()` of the destructor, if there is a relay. -/
def closeRelay : Handler L := do
  let c ← get
  if c.association.relay.isSome then onAssociation (.relay .close) else pure ()

/-- `remove_session` of the destructor, if there is a session. -/
def removeSession : Handler L := do
  let c ← get
  match c.association.session.session with
  | some streamId => modify fun c => c.withSessions (·.removeSession streamId)
  | none => pure ()

/-- `Socks5Session::~Socks5Session`. -/
def destroySession : Handler L := do
  closeRelay
  removeSession
  modify fun c => { c with destroyed := true }

/-- The handler of each event. -/
def handle : AppEvent → Handler L
  | .session event => onAssociation (.session event)
  | .relay event => onAssociation (.relay event)
  | .message data relay => onMessage data relay
  | .destroyed => destroySession

/-- The events of the session that come from the browser's socket or from its owner. -/
def isLocal : ClientEvent → Bool
  | .browserData _ | .browserClosed | .browserQueue _ | .stop => true
  | _ => false

/-- What happens to a session happens before it is destroyed, which it is once its socket has
closed. Only its destructor closes the relay. -/
def enabled (c : NetworkRtcApp L) : AppEvent → Bool
  | .session event => !c.destroyed && isLocal event && c.association.enabled (.session event)
  | .relay event => event != .close && c.association.enabled (.relay event)
  | .message _ _ => true
  | .destroyed => !c.destroyed && !c.association.session.tcpSocket

/-- An app with a session that has just been accepted. -/
def started (peerConnId : UInt32) (association : Association L) : NetworkRtcApp L where
  association := association
  mux := { peerConnId := peerConnId, sendFunc := true }

end NetworkRtcApp

/-- The app as a machine. -/
def networkRtcApp (L : Llhttp) : Machine (Except AppFault (NetworkRtcApp L)) AppEvent AppAction :=
  Effect.machine NetworkRtcApp.enabled NetworkRtcApp.handle

end RtcVpn
