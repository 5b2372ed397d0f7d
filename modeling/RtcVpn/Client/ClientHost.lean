import RtcVpn.Client.AppRuns
import RtcVpn.Sessions.LiveIds
import RtcVpn.Socket.Operation

/-!
# The client with all its sessions

`NetworkRtcApp` with `SocksServer`, its acceptor and the sessions it has made,
which share one multiplexer. A stream that a session registers there leads to
that session, and `gen_stream_id` draws ids until it finds one that is not
registered. The callbacks of one session run one at a time; those of different
sessions, the frames of the peer and the acceptor come in any order.
-/

namespace RtcVpn

/-- A session that has been accepted; `destroyed` tells that its destructor has run. -/
structure AcceptedSession (L : Llhttp) where
  association : Association L
  destroyed : Bool := false

/-- The multiplexer and the session each stream leads to, every session in the order of its making,
`sessions_`, `id_` of the session id generator, and the acceptor with the accepts that are
outstanding. -/
structure ClientHost (L : Llhttp) where
  mux : SessionMux
  owner : UInt32 → Nat := fun _ => 0
  accepted : List (AcceptedSession L) := []
  sessions : AList (fun _ : UInt32 => Nat) := ∅
  id : UInt32 := 0
  isOpen : Bool := false
  accepts : List (Operation Unit) := []

/-- The states the session controller reports, with whether the acceptor can be opened and can
listen, and `NetworkRtcApp::stop`; the completion of an accept and its handler, with what a new
session finds; the callbacks of the sockets of the sessions and of their relays; a message on the
data channel; the destructor of a session. -/
inductive ClientHostEvent where
  | connected (opens listens : Bool)
  | closed
  | stop
  | finishAccept (i : Nat) (result : Except IoError Unit)
  | onAccept (i : Nat) (genStreamId : Nat → UInt32) (readBuf : Nat → UInt8) (remotePort : UInt16)
  | session (k : Nat) (event : ClientEvent)
  | relay (k : Nat) (event : RelayEvent)
  | message (data : Bytes) (relay : Option (AddressV4 × UInt16))
  | destroyed (k : Nat)

/-- What a session does, and what the acceptor and the app do. -/
inductive ClientHostAction where
  | session (k : Nat) (action : AppAction)
  | listen
  | asyncAccept
  | accepted (k : Nat)
  | acceptError
  | closeAcceptor
  | closeCallback
  | disconnect
  deriving DecidableEq, Repr

/-- A handler of a session stops, or the input is read out of bounds; an exception leaves `start`;
a session that has not been made is called. -/
inductive ClientHostFault where
  | session (k : Nat) (fault : AppFault)
  | access (fault : AccessFault)
  | exception
  | noSession (k : Nat)
  deriving DecidableEq, Repr

namespace ClientHost

open Effect

variable {L : Llhttp}

/-- A handler of the client. -/
abbrev Handler (L : Llhttp) : Type := Effect (ClientHost L) ClientHostAction ClientHostFault Unit

/-! ## Sessions -/

/-- A session with the multiplexer it shares. -/
def view (g : AcceptedSession L) (s : ClientHost L) : NetworkRtcApp L where
  association := g.association
  mux := s.mux
  destroyed := g.destroyed

/-- The client once a session has run a handler. -/
def update (k : Nat) (c : NetworkRtcApp L) (s : ClientHost L) : ClientHost L :=
  { s with mux := c.mux, accepted := s.accepted.set k ⟨c.association, c.destroyed⟩ }

/-- `create_session` makes the session the one its stream leads to. The close callback of a session
erases its id. -/
def carryOut (k : Nat) : AppAction → Handler L
  | .association (.session (.createSession streamId)) => do
      emit (.session k (.association (.session (.createSession streamId))))
      modify fun s => { s with owner := Function.update s.owner streamId k }
  | .association (.session (.onClose sessionId)) => do
      emit (.session k (.association (.session (.onClose sessionId))))
      modify fun s => { s with sessions := s.sessions.erase sessionId }
  | action => emit (.session k action)

/-- A handler of a session. -/
def onSession (k : Nat) (x : NetworkRtcApp.Handler L) : Handler L := do
  let s ← get
  match s.accepted[k]? with
  | none => fail (.noSession k)
  | some g => performing (view g) (update k) (.session k) x (carryOut k)

/-- The callback the multiplexer invokes is one of the session the stream leads to. The client
never sets `on_syn_`. -/
def onUpcall (relay : Option (AddressV4 × UInt16)) (upcall : Upcall) : Handler L := do
  let s ← get
  match upcall with
  | .onSyn _ _ _ _ => pure ()
  | .onSynack session _ _ | .onData session _ _ | .onClose session _ | .onDataCtrl session _ _ =>
      onSession (s.owner session.streamId) (NetworkRtcApp.onUpcall relay upcall)

/-- The data channel callback: `unpackMessage`, `on_p2p_data` and the callback it invokes. -/
def onMessage (data : Bytes) (relay : Option (AddressV4 × UInt16)) : Handler L := do
  let s ← get
  match s.mux.onMessage data with
  | .error fault => fail (.access fault)
  | .ok none => pure ()
  | .ok (some upcall) => onUpcall relay upcall

/-! ## The acceptor -/

/-- `async_accept` of `do_accept`. -/
def doAccept : Handler L := do
  emit .asyncAccept
  modify fun s => { s with accepts := s.accepts ++ [.initiate s.isOpen] }

/-- The session `do_accept` makes of a connection. -/
def acceptSession (genStreamId : Nat → UInt32) (readBuf : Nat → UInt8) (remotePort : UInt16) :
    Handler L := do
  let s ← get
  let sessionId := SessionIdGenerator.createSessionId s.id
  emit (.accepted s.accepted.length)
  modify fun s => { s with
    id := sessionId
    accepted := s.accepted ++
      [{ association := .started L sessionId genStreamId readBuf remotePort }]
    sessions := s.sessions.insert sessionId s.accepted.length }

/-- The handler of `async_accept`. -/
def onAccept (genStreamId : Nat → UInt32) (readBuf : Nat → UInt8) (remotePort : UInt16) :
    Except IoError Unit → Handler L
  | .error .operationAborted => pure ()
  | .error _ => do
      emit .acceptError
      doAccept
  | .ok _ => do
      acceptSession genStreamId readBuf remotePort
      doAccept

/-- `SocksServer::start`. An acceptor that is open cannot be opened; one that has been opened stays
so if it cannot be bound or cannot listen. -/
def start (opens listens : Bool) : Handler L := do
  let s ← get
  if s.isOpen || !opens then fail .exception
  else do
    modify fun s => { s with isOpen := true }
    if listens then do
      emit .listen
      doAccept
    else fail .exception

/-- The sessions in `sessions_`. -/
def held (s : ClientHost L) : List Nat := s.sessions.entries.map Sigma.snd

/-- `close` of the acceptor. -/
def closeAcceptor : Handler L := do
  let s ← get
  if s.isOpen then do
    emit .closeAcceptor
    modify fun s => { s with isOpen := false, accepts := s.accepts.map Operation.abort }
  else pure ()

/-- `SocksServer::stop`. -/
def stopServer : Handler L := do
  closeAcceptor
  let s ← get
  forEach s.held fun k => onSession k (NetworkRtcApp.onAssociation (.session .stop))

/-! ## The machine -/

/-- The handler of each event. A completion handler takes its operation off the list first. What
`start` throws is caught by the peer connection, whose callback it is called in. -/
def handle : ClientHostEvent → Handler L
  | .connected opens listens => swallow (· == .exception) (start opens listens)
  | .closed => do
      stopServer
      emit .closeCallback
  | .stop => do
      stopServer
      emit .disconnect
  | .finishAccept i result =>
      modify fun s => { s with accepts := s.accepts.set i (.completed result) }
  | .onAccept i genStreamId readBuf remotePort => do
      let s ← get
      modify fun s => { s with accepts := s.accepts.eraseIdx i }
      match Operation.resultAt s.accepts i with
      | some result => onAccept genStreamId readBuf remotePort result
      | none => pure ()
  | .session k event => onSession k (NetworkRtcApp.handle (.session event))
  | .relay k event => onSession k (NetworkRtcApp.handle (.relay event))
  | .message data relay => onMessage data relay
  | .destroyed k => onSession k (NetworkRtcApp.handle .destroyed)

/-- The callbacks of the browser's socket. -/
def fromBrowser : ClientEvent → Bool
  | .browserData _ | .browserClosed | .browserQueue _ => true
  | _ => false

/-- The ids that `gen_stream_id` returns to a handler of a session. -/
def drawn (a : Association L) (event : ClientEvent) : List UInt32 :=
  (((Association.handle (.session event)).run a).actions.filterMap
    Association.sessionAction).filterMap ClientAction.createdId

/-- What `gen_stream_id` can return, one id after the other: it draws from 1 to 0xFFFFFFFE, and
again as long as the id is registered. -/
def free (m : SessionManager) : List UInt32 → Bool
  | [] => true
  | i :: ids =>
      decide (1 ≤ i ∧ i ≤ 0xFFFFFFFE) && (m.findSession i).isNone && free (m.createSession i) ids

/-- A session calls back while it is there, and its destructor runs once its socket has closed and
`sessions_` does not hold it. -/
def enabled (s : ClientHost L) : ClientHostEvent → Bool
  | .finishAccept i _ => Operation.pendingAt s.accepts i
  | .onAccept i _ _ _ => (Operation.resultAt s.accepts i).isSome
  | .session k event =>
      fromBrowser event && s.accepted[k]?.any fun g =>
        !g.destroyed && g.association.enabled (.session event) &&
          free s.mux.sessionManager (drawn g.association event)
  | .relay k event =>
      event != .close && s.accepted[k]?.any fun g => g.association.enabled (.relay event)
  | .destroyed k =>
      !s.held.contains k && s.accepted[k]?.any fun g =>
        !g.destroyed && !g.association.session.tcpSocket
  | _ => true

/-- The client before the peer connection is there. -/
def started (L : Llhttp) (peerConnId : UInt32) : ClientHost L where
  mux := { peerConnId := peerConnId, sendFunc := true }

end ClientHost

/-- The client as a machine. -/
def clientHost (L : Llhttp) :
    Machine (Except ClientHostFault (ClientHost L)) ClientHostEvent ClientHostAction :=
  Effect.machine ClientHost.enabled ClientHost.handle

end RtcVpn
