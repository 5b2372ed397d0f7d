import RtcVpn.Library.Effect
import RtcVpn.Mux.SessionMux

/-!
# The server's tunnels

`TunnelSession` of `tunel_session` and the server-side `Socks5Session` of
`process_new_client`, which opens a tunnel for each `SYN` frame. The tunnel
objects ever made are kept in a list and named by their index in it, so that
`tunnel_sessions_` and the callbacks of the multiplexer's sessions point to
them. What a target's socket does is a matter of `TcpSocket` and `UdpSocket`;
here it is told to do things, and reports its close.
-/

namespace RtcVpn

/-- The members of `SessionInterface` that decide how it closes. -/
structure SessionInterface where
  isP2pClosed : Bool := false
  isClosed : Bool := false
  deriving DecidableEq, Repr

/-- `TunnelSession`; `session_interface_` may be empty. -/
structure TunnelSession where
  streamId : UInt32
  protocol : Protocol
  sessionInterface : Option SessionInterface
  isClosed : Bool := false
  deriving DecidableEq, Repr

/-- The server-side `Socks5Session`: the multiplexer, `tunnel_sessions_`, every tunnel ever made,
and for each stream id the tunnel that last set the callbacks of a session under it. -/
structure TunnelServer where
  mux : SessionMux
  tunnelSessions : AList (fun _ : UInt32 => Nat) := ∅
  tunnels : List TunnelSession := []
  owner : UInt32 → Nat := fun _ => 0

/-- A message on the data channel, the close callback of a tunnel's target socket, and the close
of the peer connection. -/
inductive ServerEvent where
  | message (data : Bytes)
  | targetClosed (tunnel : Nat)
  | controllerClosed

/-- What the server has its targets and its multiplexer do. -/
inductive ServerAction where
  | startTarget (tunnel : Nat) (host : Bytes) (port : UInt16)
  | revP2pData (tunnel : Nat) (data : Bytes)
  | closeTarget (tunnel : Nat)
  | startReceive (tunnel : Nat)
  | pauseReceive (tunnel : Nat)
  | sendFin (streamId : UInt32) (protocol : Protocol)
  | startTimer
  deriving DecidableEq, Repr

/-- An empty `session_interface_` is dereferenced, a tunnel is named that was never made, or the
input is read out of bounds. -/
inductive ServerFault where
  | nullInterface (tunnel : Nat)
  | noTunnel (tunnel : Nat)
  | access (fault : AccessFault)
  deriving DecidableEq, Repr

/-- A handler of the server. -/
abbrev ServerHandler : Type := Effect TunnelServer ServerAction ServerFault Unit

namespace TunnelServer

open Effect

/-- The protocols `TunnelSession` has an implementation for. -/
def Supported (protocol : Protocol) : Prop :=
  protocol = .httpPlain ∨ protocol = .udpAssociate ∨ protocol = .socks5Connect ∨
    protocol = .httpsConnect

instance : DecidablePred Supported := fun _ => inferInstanceAs (Decidable (_ ∨ _))

/-- `TunnelSession::TunnelSession`. -/
def makeTunnel (streamId : UInt32) (protocol : Protocol) : TunnelSession where
  streamId := streamId
  protocol := protocol
  sessionInterface :=
    match protocol with
    | .httpPlain => some {}
    | .udpAssociate => some {}
    | .socks5Connect => some {}
    | .httpsConnect => some {}
    | _ => none

/-- The tunnel of an index, and what its `session_interface_` points to. -/
def interfaceOf (tunnel : Nat) :
    Effect TunnelServer ServerAction ServerFault (TunnelSession × SessionInterface) := do
  let s ← get
  match s.tunnels[tunnel]? with
  | none => fail (.noTunnel tunnel)
  | some t =>
      match t.sessionInterface with
      | none => fail (.nullInterface tunnel)
      | some i => pure (t, i)

/-- Change a tunnel. -/
def modifyTunnel (tunnel : Nat) (f : TunnelSession → TunnelSession) : ServerHandler :=
  modify fun s => { s with tunnels := s.tunnels.modify tunnel f }

/-- The session `init` creates, with the callbacks it sets. -/
def tunnelCallbacks (streamId : UInt32) : Session :=
  { streamId := streamId, onData := true, onClose := true, onDataCtrl := true }

/-- Change the registry of the multiplexer. -/
def withSessions (s : TunnelServer) (f : SessionManager → SessionManager) : TunnelServer :=
  { s with mux := { s.mux with sessionManager := f s.mux.sessionManager } }

/-- `TunnelSession::init`: create the session, set its callbacks, bind the interface. -/
def init (tunnel : Nat) (streamId : UInt32) : ServerHandler := do
  modify fun s => { s.withSessions (·.registerSession (tunnelCallbacks streamId)) with
    owner := Function.update s.owner streamId tunnel }
  let _ ← interfaceOf tunnel
  pure ()

/-- `TunnelSession::start`. -/
def start (tunnel : Nat) (streamId : UInt32) (host : Bytes) (port : UInt16) : ServerHandler := do
  init tunnel streamId
  let _ ← interfaceOf tunnel
  emit (.startTarget tunnel host port)

/-- `TunnelSession::close`. -/
def close (tunnel : Nat) : ServerHandler := do
  let (_, i) ← interfaceOf tunnel
  modifyTunnel tunnel fun t => { t with sessionInterface := some { i with isP2pClosed := true } }
  emit (.closeTarget tunnel)

/-- `TunnelSession::p2p_revData`. -/
def p2pRevData (tunnel : Nat) (data : Bytes) (protocol : Protocol) : ServerHandler :=
  match protocol with
  | .httpPlain | .udpAssociate | .socks5Connect | .httpsConnect => do
      let _ ← interfaceOf tunnel
      emit (.revP2pData tunnel data)
  | _ => pure ()

/-- `TunnelSession::p2p_revCtrl`. -/
def p2pRevCtrl (tunnel : Nat) (ctrl : CtrlType) : ServerHandler :=
  match ctrl with
  | .receive => do
      let _ ← interfaceOf tunnel
      emit (.startReceive tunnel)
  | .pause => do
      let _ ← interfaceOf tunnel
      emit (.pauseReceive tunnel)
  | .other _ _ => pure ()

/-- The handler set by `set_on_syn`: it makes a tunnel, enters it in `tunnel_sessions_` and starts
it. -/
def onSyn (streamId : UInt32) (host : Bytes) (port : UInt16) (protocol : Protocol) :
    ServerHandler := do
  let s ← get
  let tunnel := s.tunnels.length
  modify fun s => { s with
    tunnels := s.tunnels ++ [makeTunnel streamId protocol]
    tunnelSessions := s.tunnelSessions.insert streamId tunnel }
  start tunnel streamId host port

/-- The callback the multiplexer invokes. No tunnel sets `on_synack_`. -/
def onUpcall : Upcall → ServerHandler
  | .onSyn streamId host port protocol => onSyn streamId host port protocol
  | .onSynack _ _ _ => pure ()
  | .onData session payload protocol => do
      let s ← get
      p2pRevData (s.owner session.streamId) payload protocol
  | .onClose session _ => do
      let s ← get
      close (s.owner session.streamId)
  | .onDataCtrl session ctrl _ => do
      let s ← get
      p2pRevCtrl (s.owner session.streamId) ctrl

/-- The data channel callback: `unpackMessage`, `on_p2p_data` and the callback it invokes. -/
def onMessage (data : Bytes) : ServerHandler := do
  let s ← get
  match s.mux.onMessage data with
  | .error fault => fail (.access fault)
  | .ok none => pure ()
  | .ok (some upcall) => onUpcall upcall

/-- The function bound by `bind_close_func` in `init`, with the one bound to `close_func_`. -/
def closeFunc (tunnel : Nat) (streamId : UInt32) (isClosed : Bool) : ServerHandler := do
  modify fun s => s.withSessions (·.removeSession streamId)
  if isClosed then pure ()
  else
    modifyTunnel tunnel fun t => { t with isClosed := true }
    modify fun s => { s with tunnelSessions := s.tunnelSessions.erase streamId }
    modifyTunnel tunnel fun t => { t with sessionInterface := none }

/-- The close callback of the target socket: `SessionInterface::closeSession`. The interface is
held by the callback, so it is there until it has closed. -/
def targetClosed (tunnel : Nat) : ServerHandler := do
  let s ← get
  match s.tunnels[tunnel]? with
  | none => pure ()
  | some t =>
      match t.sessionInterface with
      | none => pure ()
      | some i =>
          if i.isClosed then pure ()
          else
            if !i.isP2pClosed then emit (.sendFin t.streamId t.protocol) else pure ()
            modifyTunnel tunnel fun t => { t with
              sessionInterface := some { i with isClosed := true } }
            closeFunc tunnel t.streamId t.isClosed

/-- The state callback for `Closed`: the timer is started and every tunnel in the map closed. -/
def controllerClosed : ServerHandler := do
  emit .startTimer
  let s ← get
  forEach (s.tunnelSessions.entries.map Sigma.snd) close

/-- The handler of each event. -/
def handle : ServerEvent → ServerHandler
  | .message data => onMessage data
  | .targetClosed tunnel => targetClosed tunnel
  | .controllerClosed => controllerClosed

/-- A server session after `start`: `send_func_` and `on_syn_` are set, and there is no tunnel. -/
def started (sessionId : UInt32) : TunnelServer where
  mux := { peerConnId := sessionId, sendFunc := true, onSyn := true }

end TunnelServer

/-- The server-side session as a machine. -/
def tunnelServer : Machine (Except ServerFault TunnelServer) ServerEvent ServerAction :=
  Effect.machine (fun _ _ => true) TunnelServer.handle

end RtcVpn
