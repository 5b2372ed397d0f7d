import RtcVpn.Library.Effect
import RtcVpn.Socket.Operation

/-!
# The UDP socket

`UdpSocket` of `udp_socket`, as a machine over its strand like `TcpSocket`. A
queued datagram is resolved first and then sent, so a send in progress is either
an outstanding resolve, which belongs to a resolver of its own and survives the
close of the socket, or an outstanding `async_send_to`.
-/

namespace RtcVpn

/-- Which callbacks of the socket are set. -/
structure UdpCallbacks where
  openResult : Bool := true
  data : Bool := true
  close : Bool := true
  deriving DecidableEq, Repr

/-- `PendingSend`: a datagram and where it goes. -/
structure PendingSend where
  targetHost : Bytes
  targetPort : UInt16
  data : Bytes
  deriving DecidableEq, Repr

/-- A received datagram and its sender. -/
structure Datagram where
  remoteHost : Bytes
  remotePort : UInt16
  data : Bytes
  deriving DecidableEq, Repr

/-- `UdpSocket`: its members, whether its descriptor is open and the operations it has
outstanding; `beganReads` counts the receives ever started. -/
structure UdpSocket where
  callbacks : UdpCallbacks := {}
  isOpen : Bool := false
  sendQueue : List PendingSend := []
  isSending : Bool := false
  isClosing : Bool := false
  isClosed : Bool := false
  isReading : Bool := true
  socketOpen : Bool := false
  resolves : List (Operation Unit) := []
  sends : List (Bytes × Operation Unit) := []
  reads : List (Operation Datagram) := []
  beganReads : Nat := 0

/-- Posted tasks, completions and completion handlers. The task of `start` carries what opening
and binding the descriptor return. -/
inductive UdpEvent where
  | start (opened bound : Bool)
  | send (item : PendingSend)
  | close
  | startReading
  | stopReading
  | finishResolve (i : Nat) (result : Except IoError Unit)
  | finishSend (i : Nat) (result : Except IoError Unit)
  | finishRead (i : Nat) (result : Except IoError Datagram)
  | onResolve (i : Nat)
  | onSend (i : Nat)
  | onRead (i : Nat)

/-- What the socket does. `accept` is the move of a datagram into the send queue, `sent` the
successful end of a send and `dropped` the loss of a datagram whose target does not resolve. -/
inductive UdpAction where
  | openSocket
  | bindSocket
  | asyncResolve (host : Bytes) (port : UInt16)
  | asyncSendTo (data : Bytes)
  | asyncReceive
  | closeSocket
  | accept (item : PendingSend)
  | sent (item : PendingSend)
  | dropped (item : PendingSend)
  | sendError
  | receiveError
  | openCallback (success : Bool)
  | dataCallback (datagram : Datagram)
  | closeCallback
  deriving DecidableEq, Repr

/-- A handler of the socket. -/
abbrev UdpHandler : Type := Effect UdpSocket UdpAction QueueFault Unit

namespace UdpSocket

open Effect

/-- Take an action if a callback is set. -/
def invoke (isSet : UdpCallbacks → Bool) (a : UdpAction) : UdpHandler := do
  let s ← get
  if isSet s.callbacks then emit a else pure ()

/-- `socket_.cancel()` and `socket_.close()`: the pending operations are aborted. -/
def descriptorClosed (s : UdpSocket) : UdpSocket :=
  { s with
    socketOpen := false
    sends := s.sends.map fun w => (w.1, w.2.abort)
    reads := s.reads.map .abort }

/-- `do_close`. -/
def doClose : UdpHandler := do
  let s ← get
  if s.isClosed then pure ()
  else
    modify fun s => { s with isClosed := true }
    if s.socketOpen then do
      emit .closeSocket
      modify descriptorClosed
    else pure ()
    invoke UdpCallbacks.close .closeCallback

/-- `do_read`. -/
def doRead : UdpHandler := do
  emit .asyncReceive
  modify fun s => { s with
    reads := s.reads ++ [.initiate s.socketOpen]
    beganReads := s.beganReads + 1 }

/-- `do_send_next`. -/
def doSendNext : UdpHandler := do
  let s ← get
  match s.sendQueue with
  | [] => fail .frontOfEmpty
  | item :: _ => do
      emit (.asyncResolve item.targetHost item.targetPort)
      modify fun s => { s with resolves := s.resolves ++ [.pending] }

/-- The task of `start`. -/
def startTask (opened bound : Bool) : UdpHandler := do
  emit .openSocket
  if !opened then invoke UdpCallbacks.openResult (.openCallback false)
  else
    modify fun s => { s with socketOpen := true }
    emit .bindSocket
    if !bound then invoke UdpCallbacks.openResult (.openCallback false)
    else
      modify fun s => { s with isOpen := true }
      invoke UdpCallbacks.openResult (.openCallback true)
      doRead

/-- The task of `send`. -/
def sendTask (item : PendingSend) : UdpHandler := do
  let s ← get
  if !s.isOpen || s.isClosing || s.isClosed then pure ()
  else
    emit (.accept item)
    modify fun s => { s with sendQueue := s.sendQueue ++ [item] }
    if !s.isSending then do
      modify fun s => { s with isSending := true }
      doSendNext
    else pure ()

/-- The task of `close`. -/
def closeTask : UdpHandler := do
  let s ← get
  if s.isClosing || s.isClosed then pure ()
  else
    modify fun s => { s with isClosing := true }
    if !s.isOpen then doClose
    else if !s.isSending && s.sendQueue.isEmpty then doClose
    else pure ()

/-- The task of `startReading`. -/
def startReadingTask : UdpHandler := do
  let s ← get
  if s.isReading || s.isClosing || s.isClosed then pure ()
  else
    modify fun s => { s with isReading := true }
    if s.isOpen then doRead else pure ()

/-- The task of `stopReading`. -/
def stopReadingTask : UdpHandler :=
  modify fun s => { s with isReading := false }

/-- The end of a send: the front leaves the queue, and the next one follows, or the socket closes
if asked to. `done` says what became of the front. -/
def sendNextOrFinish (done : PendingSend → UdpAction) : UdpHandler := do
  let s ← get
  match s.sendQueue with
  | [] => fail .popOfEmpty
  | item :: rest => do
      emit (done item)
      modify fun s => { s with sendQueue := rest }
      if !rest.isEmpty then doSendNext
      else
        modify fun s => { s with isSending := false }
        let s ← get
        if s.isClosing then doClose else pure ()

/-- The handler of `async_resolve` in `do_send_next`. -/
def onResolve : Except IoError Unit → UdpHandler
  | .error _ => sendNextOrFinish .dropped
  | .ok _ => do
      let s ← get
      match s.sendQueue with
      | [] => fail .frontOfEmpty
      | item :: _ => do
          emit (.asyncSendTo item.data)
          modify fun s => { s with sends := s.sends ++ [(item.data, .initiate s.socketOpen)] }

/-- The handler of `async_send_to`. -/
def onSend : Except IoError Unit → UdpHandler
  | .error _ => do
      emit .sendError
      modify fun s => { s with isClosing := true }
      doClose
  | .ok _ => sendNextOrFinish .sent

/-- The handler of `async_receive_from`. -/
def onRead : Except IoError Datagram → UdpHandler
  | .error _ => do
      emit .receiveError
      modify fun s => { s with isClosing := true }
      doClose
  | .ok datagram => do
      invoke UdpCallbacks.data (.dataCallback datagram)
      let s ← get
      if s.isReading then doRead else pure ()

/-- The handler of each event; a completion handler takes its operation off the list first. -/
def handle : UdpEvent → UdpHandler
  | .start opened bound => startTask opened bound
  | .send item => sendTask item
  | .close => closeTask
  | .startReading => startReadingTask
  | .stopReading => stopReadingTask
  | .finishResolve i r => modify fun s => { s with resolves := s.resolves.set i (.completed r) }
  | .finishSend i r => modify fun s => { s with
      sends := s.sends.modify i fun w => (w.1, .completed r) }
  | .finishRead i r => modify fun s => { s with reads := s.reads.set i (.completed r) }
  | .onResolve i => do
      let s ← get
      modify fun s => { s with resolves := s.resolves.eraseIdx i }
      match Operation.resultAt s.resolves i with
      | some r => onResolve r
      | none => pure ()
  | .onSend i => do
      let s ← get
      modify fun s => { s with sends := s.sends.eraseIdx i }
      match Operation.resultAt (s.sends.map Prod.snd) i with
      | some r => onSend r
      | none => pure ()
  | .onRead i => do
      let s ← get
      modify fun s => { s with reads := s.reads.eraseIdx i }
      match Operation.resultAt s.reads i with
      | some r => onRead r
      | none => pure ()

/-- A task is always enabled, except that a descriptor that is open cannot be opened; a completion
of a pending operation is, and so is the handler of a completed one. -/
def enabled (s : UdpSocket) : UdpEvent → Bool
  | .start opened _ => !(opened && s.socketOpen)
  | .finishResolve i _ => Operation.pendingAt s.resolves i
  | .finishSend i _ => Operation.pendingAt (s.sends.map Prod.snd) i
  | .finishRead i _ => Operation.pendingAt s.reads i
  | .onResolve i => (Operation.resultAt s.resolves i).isSome
  | .onSend i => (Operation.resultAt (s.sends.map Prod.snd) i).isSome
  | .onRead i => (Operation.resultAt s.reads i).isSome
  | _ => true

/-- A socket as constructed. -/
def fresh (callbacks : UdpCallbacks) : UdpSocket := { callbacks := callbacks }

end UdpSocket

/-- The socket as a machine. -/
def udpSocket : Machine (Except QueueFault UdpSocket) UdpEvent UdpAction :=
  Effect.machine UdpSocket.enabled UdpSocket.handle

end RtcVpn
