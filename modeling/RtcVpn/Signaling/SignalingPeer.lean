import RtcVpn.Library.Duplex
import RtcVpn.Server.Teardown
import RtcVpn.Signaling.SessionController

/-!
# The two ends of the signalling connection

`P2PSessionController` with its `SignalingClient` and the WebSocket: what
`connect` sends when the WebSocket opens, what is sent of the peer connection's
local description and candidates, and what is reported of its state and of the
WebSocket's close. Two of them are joined by the WebSocket, which delivers what
is sent while it is open in order.
-/

namespace RtcVpn

/-- The fields of an object whose values are strings, as all that is sent is. -/
abbrev SignalMessage : Type := List (String × String)

/-- The object with these fields. -/
def Json.ofFields (fields : SignalMessage) : Json :=
  .object (fields.map fun field => (field.1, .string field.2))

@[simp] theorem Json.find_of_fields (key : String) (fields : SignalMessage) :
    (Json.ofFields fields).find key = (fields.lookup key).map Json.string := by
  induction fields with
  | nil => rfl
  | cons field fields ih =>
      have hrest : (fields.map fun f => (f.1, Json.string f.2)).lookup key =
          (fields.lookup key).map Json.string := ih
      rw [Json.ofFields, Json.find_object, List.map_cons, List.lookup_cons, List.lookup_cons]
      cases key == field.1 with
      | true => rfl
      | false => exact hrest

/-- The states of a WebSocket; `isOpen` holds in one of them. -/
inductive WebSocketState where
  | connecting
  | open
  | closing
  | closed
  deriving DecidableEq, Repr

/-- `P2PSessionController::State`. -/
inductive SessionState where
  | connected
  | closed
  deriving DecidableEq, Repr

/-- `P2PSessionController` with `SignalingClient`. `connect` sets `open_callback_` when it is given
a URL. -/
structure SignalingPeer where
  controller : SessionController
  openCallback : Bool
  stateChangeCallback : Bool := true
  webSocket : WebSocketState := .connecting
  p2pConnected : Bool := false
  deriving DecidableEq, Repr

/-- The callbacks of the WebSocket and of the peer connection, and `disconnect`. -/
inductive PeerEvent where
  | opened
  | message (fields : SignalMessage) (peerConnection dataChannel : Construction)
  | closed
  | remoteDataChannel
  | localDescription (description : String)
  | localCandidate (candidate mid : String)
  | stateChange (state : PeerState)
  | disconnect
  deriving DecidableEq, Repr

/-- What the controller does, and what the WebSocket, the peer connection and the owner are
told. -/
inductive PeerAction where
  | controller (action : SignalAction)
  | send (fields : SignalMessage)
  | closeWebSocket
  | closeP2p
  | stateChange (state : SessionState)
  deriving DecidableEq, Repr

namespace SignalingPeer

open Effect

/-- A handler of the peer. -/
abbrev Handler : Type := Effect SignalingPeer PeerAction SignalFault Unit

/-- `SignalingClient::send`. -/
def send (fields : SignalMessage) : Handler := do
  let s ← get
  if s.webSocket = .open then emit (.send fields)
  else emit (.controller (.logError "send: WebSocket is not open"))

/-- `SignalingClient::disconnect`. -/
def disconnect : Handler := do
  emit .closeWebSocket
  modify fun s => { s with webSocket := if s.webSocket = .closed then .closed else .closing }

/-- What the controller sends goes to the WebSocket. -/
def carryOut : SignalAction → Handler
  | .send fields => send fields
  | .disconnect => disconnect
  | action => emit (.controller action)

/-- A handler of the controller. -/
def onController (event : SignalEvent) : Handler :=
  performing controller (fun c s => { s with controller := c }) id (SessionController.handle event)
    carryOut

/-- The message that asks for a login. -/
def verify (password : String) : SignalMessage := [("passwd", password), ("type", "verify")]

/-- `open_callback_`, if it is set. -/
def onOpen : Handler := do
  let s ← get
  if s.openCallback then send (verify s.controller.password) else pure ()

/-- The owner is told of a state, if it has asked for it. -/
def report (state : SessionState) : Handler := do
  let s ← get
  if s.stateChangeCallback then emit (.stateChange state) else pure ()

/-- The callback for the state of the peer connection. -/
def onStateChange : PeerState → Handler
  | .connected => do
      report .connected
      modify fun s => { s with p2pConnected := true }
  | .closed | .failed => do
      report .closed
      modify fun s => { s with p2pConnected := false }
      disconnect
  | _ => pure ()

/-- The callback for the close of the WebSocket. -/
def onClosed : Handler := do
  emit .closeP2p
  let s ← get
  if s.p2pConnected then pure () else report .closed

/-- The handler of each event. -/
def handle : PeerEvent → Handler
  | .opened => do
      modify fun s => { s with webSocket := .open }
      onOpen
  | .message fields peerConnection dataChannel =>
      onController (.message (.ofFields fields) peerConnection dataChannel)
  | .closed => do
      modify fun s => { s with webSocket := .closed }
      onClosed
  | .remoteDataChannel => onController .remoteDataChannel
  | .localDescription description =>
      send [("description", description), ("type", "description")]
  | .localCandidate candidate mid =>
      send [("candidate", candidate), ("mid", mid), ("type", "candidate")]
  | .stateChange state => onStateChange state
  | .disconnect => disconnect

/-- A WebSocket opens once, delivers messages until it has reported its close, and does that once.
The callbacks of the peer connection come once there is one. -/
def enabled (s : SignalingPeer) : PeerEvent → Bool
  | .opened => s.webSocket = .connecting
  | .message _ _ _ => s.webSocket = .open || s.webSocket = .closing
  | .closed => s.webSocket != .closed
  | .remoteDataChannel | .localDescription _ | .localCandidate _ _ | .stateChange _ =>
      s.controller.pc
  | .disconnect => true

/-- The client, after `connect(url)`. -/
def client (password : String) : SignalingPeer where
  controller := .attached password false
  openCallback := true

/-- The server, after `connect(ws)`. -/
def server (password : String) : SignalingPeer where
  controller := .attached password true
  openCallback := false

/-- The messages of a peer. -/
def port : Port PeerEvent PeerAction SignalMessage where
  receives
    | .message fields _ _ => some fields
    | _ => none
  sends
    | .send fields => some fields
    | _ => none

end SignalingPeer

/-- The peer as a machine. -/
def signalingPeer : Machine (Except SignalFault SignalingPeer) PeerEvent PeerAction :=
  Effect.machine SignalingPeer.enabled SignalingPeer.handle

/-- A client and a server, joined by the WebSocket. -/
def login : Machine (Duplex (Except SignalFault SignalingPeer) (Except SignalFault SignalingPeer)
    SignalMessage) (PeerEvent ⊕ PeerEvent) (PeerAction ⊕ PeerAction) :=
  duplex signalingPeer signalingPeer SignalingPeer.port SignalingPeer.port

end RtcVpn
