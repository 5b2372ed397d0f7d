import RtcVpn.Library.Effect
import RtcVpn.Signaling.Json

/-!
# The signalling side of a session

`P2PSessionController` with its `P2PClient`, as attached to an accepted
WebSocket by `connect(ws)`: what it does with every signalling message. The
same handler serves the server, which is sent `verify`, and the client, which is
sent `verifyACK`. Whether the WebRTC library manages to construct what it is
asked for is part of the event.
-/

namespace RtcVpn

/-- `P2PSessionController`: the password it is initialised with, whether the login callback is
set, and whether `pc_` and `dc_` of its `P2PClient` point to something. -/
structure SessionController where
  password : String
  loginSuccessCallback : Bool := true
  pc : Bool := false
  dc : Bool := false
  deriving DecidableEq, Repr

/-- What the library makes of a construction: it throws before the object is assigned, throws
while its callbacks are being bound, or succeeds. -/
inductive Construction where
  | throws
  | throwsBinding
  | succeeds
  deriving DecidableEq, Repr

/-- A signalling message with what the library does when it is handled, or a data channel that the
remote peer opened on the peer connection. -/
inductive SignalEvent where
  | message (json : Json) (peerConnection dataChannel : Construction)
  | remoteDataChannel

/-- What the controller does. -/
inductive SignalAction where
  | createPeerConnection
  | createDataChannel (label : String)
  | setRemoteDescription (sdp : String)
  | addRemoteCandidate (candidate mid : String)
  | loginSuccess
  | send (fields : List (String × String))
  | disconnect
  | logError (text : String)
  deriving DecidableEq, Repr

/-- An exception leaves the message callback, or a null pointer is dereferenced. -/
inductive SignalFault where
  | typeError
  | nullPeerConnection
  deriving DecidableEq, Repr

/-- A handler of the controller. -/
abbrev SignalHandler : Type := Effect SessionController SignalAction SignalFault Unit

namespace SessionController

open Effect

/-- Convert a field, or throw. -/
def orThrow {β : Type} : Option β → Effect SessionController SignalAction SignalFault β
  | some b => pure b
  | none => fail .typeError

/-- `P2PClient::createPeerConnection`; exceptions are caught and logged. -/
def createPeerConnection (outcome : Construction) : SignalHandler := do
  emit .createPeerConnection
  match outcome with
  | .throws => emit (.logError "P2PClient: createPeerConnection: ")
  | .throwsBinding => do
      modify fun s => { s with pc := true }
      emit (.logError "P2PClient: createPeerConnection: ")
  | .succeeds => modify fun s => { s with pc := true }

/-- `P2PClient::createDataChannel`, which dereferences `pc_`; exceptions are caught and logged. -/
def createDataChannel (label : String) (outcome : Construction) : SignalHandler := do
  emit (.createDataChannel label)
  let s ← get
  if !s.pc then fail .nullPeerConnection
  else
    match outcome with
    | .throws => emit (.logError "P2PClient: createDataChannel: ")
    | .throwsBinding => do
        modify fun s => { s with dc := true }
        emit (.logError "P2PClient: createDataChannel: ")
    | .succeeds => modify fun s => { s with dc := true }

/-- `P2PClient::handleSignalMessage`. -/
def handleSignalMessage (json : Json) : SignalHandler := do
  let type ← orThrow (json.value "type")
  let s ← get
  if type = "description" then
    match json.find "description" with
    | none => emit (.logError "No sdp")
    | some description => do
        let sdp ← orThrow description.asString
        if s.pc then emit (.setRemoteDescription sdp) else pure ()
  else if type = "candidate" then
    match json.find "candidate", json.find "mid" with
    | none, _ => emit (.logError "Error: No candidate field in Candidate message")
    | some _, none => emit (.logError "Error: No mid field in Candidate message")
    | some candidate, some mid => do
        let candidate ← orThrow candidate.asString
        let mid ← orThrow mid.asString
        if s.pc then emit (.addRemoteCandidate candidate mid) else pure ()
  else emit (.logError ("P2PClient: unhandled message type: " ++ type))

/-- The branch of `verifyACK`. -/
def onVerifyAck (json : Json) (peerConnection dataChannel : Construction) : SignalHandler :=
  if json.fieldEquals "result" "success" then do
    createPeerConnection peerConnection
    createDataChannel "data" dataChannel
  else do
    emit (.logError "verify failed!")
    emit .disconnect

/-- The branch of `verify`. -/
def onVerify (json : Json) (peerConnection : Construction) : SignalHandler := do
  let s ← get
  match json.find "passwd" with
  | some passwd => do
      let pwd ← orThrow passwd.asString
      if pwd = s.password then do
        createPeerConnection peerConnection
        if s.loginSuccessCallback then emit .loginSuccess else pure ()
        emit (.send [("result", "success"), ("type", "verifyACK")])
      else do
        emit (.logError "Password is incorrect")
        emit (.send [("result", "failed"), ("type", "verifyACK")])
  | none => do
      emit (.logError "Password is incorrect")
      emit (.send [("status", "failed"), ("type", "verifyACK")])

/-- The message handler that `init` installs. -/
def onMessage (json : Json) (peerConnection dataChannel : Construction) : SignalHandler := do
  let type ← orThrow (json.value "type")
  if type = "verifyACK" then onVerifyAck json peerConnection dataChannel
  else if type = "verify" then onVerify json peerConnection
  else handleSignalMessage json

/-- `SignalingClient`: a message without a `type` field does not reach the handler. The WebSocket
swallows the exceptions of its callbacks, a null pointer ends the process. -/
def handle : SignalEvent → SignalHandler
  | .message json peerConnection dataChannel =>
      match json.find "type" with
      | none => emit (.logError "Invalid message: no type field")
      | some _ => swallow (· = .typeError) (onMessage json peerConnection dataChannel)
  | .remoteDataChannel => modify fun s => { s with dc := true }

/-- Messages come at any time; only a peer connection announces data channels. -/
def enabled (s : SessionController) : SignalEvent → Bool
  | .message _ _ _ => true
  | .remoteDataChannel => s.pc

/-- A controller after `init` and `connect(ws)`. -/
def attached (password : String) (loginSuccessCallback : Bool) : SessionController :=
  { password := password, loginSuccessCallback := loginSuccessCallback }

end SessionController

/-- The controller as a machine. -/
def sessionController : Machine (Except SignalFault SessionController) SignalEvent SignalAction :=
  Effect.machine SessionController.enabled SessionController.handle

end RtcVpn
