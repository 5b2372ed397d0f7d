import RtcVpn.Library.Effect
import RtcVpn.Socket.Operation

/-!
# The TCP socket

`TcpSocket` of `tcp_socket`. Everything the object does runs on its strand, one
handler at a time, so it is a machine whose events are the posted tasks
(`connect`, `start`, `send`, `close`, `startReading`, `stopReading`), the
completion of an operation by the operating system and the run of a completion
handler. Any event may come at any time at which it is enabled, which covers
every interleaving. A resolve is not tied to the socket and survives its close.
-/

namespace RtcVpn

/-- Which callbacks of the socket are set. -/
structure TcpCallbacks where
  connect : Bool := true
  data : Bool := true
  close : Bool := true
  writeQueue : Bool := true
  deriving DecidableEq, Repr

/-- `TcpSocket`: its members and the operations it has outstanding. A write carries the buffer it
was started on; `beganReads` counts the reads ever started. -/
structure TcpSocket where
  callbacks : TcpCallbacks := {}
  isConnected : Bool := false
  writeQueue : List Bytes := []
  isSending : Bool := false
  isClosing : Bool := false
  isClosed : Bool := false
  writeQueueStatus : WriteQueueStatus := .safety
  isReading : Bool := true
  isOpen : Bool := false
  resolves : List (Operation Unit) := []
  connects : List (Operation Unit) := []
  reads : List (Operation Bytes) := []
  writes : List (Bytes × Operation Unit) := []
  beganReads : Nat := 0

/-- Posted tasks, completions and completion handlers. -/
inductive TcpEvent where
  | connect
  | start
  | send (data : Bytes)
  | close
  | startReading
  | stopReading
  | finishResolve (i : Nat) (result : Except IoError Unit)
  | finishConnect (i : Nat) (result : Except IoError Unit)
  | finishRead (i : Nat) (result : Except IoError Bytes)
  | finishWrite (i : Nat) (result : Except IoError Unit)
  | onResolve (i : Nat)
  | onConnect (i : Nat)
  | onRead (i : Nat)
  | onWrite (i : Nat)

/-- What the socket does: operations it starts, callbacks it invokes, errors it logs. `accept` is
the move of a buffer into the write queue and `wrote` the successful end of a write. -/
inductive TcpAction where
  | asyncResolve
  | asyncConnect
  | asyncRead
  | asyncWrite (data : Bytes)
  | closeSocket
  | accept (data : Bytes)
  | wrote (data : Bytes)
  | readError
  | writeError
  | connectCallback (success : Bool)
  | dataCallback (data : Bytes)
  | closeCallback
  | writeQueueCallback (status : WriteQueueStatus)
  deriving DecidableEq, Repr

/-- A handler of the socket. -/
abbrev TcpHandler : Type := Effect TcpSocket TcpAction QueueFault Unit

namespace TcpSocket

open Effect

/-- Take an action if a callback is set. -/
def invoke (isSet : TcpCallbacks → Bool) (a : TcpAction) : TcpHandler := do
  let s ← get
  if isSet s.callbacks then emit a else pure ()

/-- `socket_.cancel()` and `socket_.close()`: the pending operations are aborted. -/
def descriptorClosed (s : TcpSocket) : TcpSocket :=
  { s with
    isOpen := false
    connects := s.connects.map .abort
    reads := s.reads.map .abort
    writes := s.writes.map fun w => (w.1, w.2.abort) }

/-- `do_close`. -/
def doClose : TcpHandler := do
  let s ← get
  if s.isClosed then pure ()
  else
    modify fun s => { s with isClosed := true }
    if s.isOpen then do
      emit .closeSocket
      modify descriptorClosed
    else pure ()
    invoke TcpCallbacks.close .closeCallback

/-- `do_read`. -/
def doRead : TcpHandler := do
  emit .asyncRead
  modify fun s => { s with
    reads := s.reads ++ [.initiate s.isOpen]
    beganReads := s.beganReads + 1 }

/-- `do_write`. -/
def doWrite : TcpHandler := do
  let s ← get
  match s.writeQueue with
  | [] => fail .frontOfEmpty
  | buf :: _ => do
      emit (.asyncWrite buf)
      modify fun s => { s with writes := s.writes ++ [(buf, .initiate s.isOpen)] }

/-- The task of `connect`. -/
def connectTask : TcpHandler := do
  emit .asyncResolve
  modify fun s => { s with resolves := s.resolves ++ [.pending] }

/-- The task of `start`. -/
def startTask : TcpHandler := do
  let s ← get
  if !s.isConnected then pure ()
  else if s.isClosing || s.isClosed then pure ()
  else doRead

/-- The task of `send`. -/
def sendTask (data : Bytes) : TcpHandler := do
  let s ← get
  if !s.isConnected || s.isClosing || s.isClosed then pure ()
  else
    emit (.accept data)
    modify fun s => { s with writeQueue := s.writeQueue ++ [data] }
    if !s.isSending then do
      modify fun s => { s with isSending := true }
      doWrite
    else pure ()

/-- The task of `close`. -/
def closeTask : TcpHandler := do
  let s ← get
  if s.isClosing || s.isClosed then pure ()
  else
    modify fun s => { s with isClosing := true }
    if !s.isConnected then doClose
    else if !s.isSending && s.writeQueue.isEmpty then doClose
    else pure ()

/-- The task of `startReading`. -/
def startReadingTask : TcpHandler := do
  let s ← get
  if s.isReading || s.isClosing || s.isClosed then pure ()
  else
    modify fun s => { s with isReading := true }
    if s.isConnected then doRead else pure ()

/-- The task of `stopReading`. -/
def stopReadingTask : TcpHandler :=
  modify fun s => { s with isReading := false }

/-- The handler of `async_resolve`. On success `async_connect` closes whatever descriptor there
is and opens one for the first endpoint. -/
def onResolve : Except IoError Unit → TcpHandler
  | .error _ => invoke TcpCallbacks.connect (.connectCallback false)
  | .ok _ => do
      emit .asyncConnect
      modify fun s => if s.isOpen then s.descriptorClosed else s
      modify fun s => { s with isOpen := true, connects := s.connects ++ [.pending] }

/-- The handler of `async_connect`. -/
def onConnect : Except IoError Unit → TcpHandler
  | .error _ => invoke TcpCallbacks.connect (.connectCallback false)
  | .ok _ => do
      modify fun s => { s with isConnected := true }
      invoke TcpCallbacks.connect (.connectCallback true)
      doRead

/-- The handler of `async_read_some`. -/
def onRead : Except IoError Bytes → TcpHandler
  | .error _ => do
      emit .readError
      modify fun s => { s with isClosing := true }
      doClose
  | .ok data => do
      invoke TcpCallbacks.data (.dataCallback data)
      let s ← get
      if !s.isReading then pure () else doRead

/-- The change of the write-queue status after a drained write. -/
def updateWriteQueueStatus : TcpHandler := do
  let s ← get
  if s.writeQueueStatus = .danger ∧ s.writeQueue.length < 2000 then do
    modify fun s => { s with writeQueueStatus := .safety }
    invoke TcpCallbacks.writeQueue (.writeQueueCallback .safety)
  else if s.writeQueueStatus = .safety ∧ s.writeQueue.length ≥ 4000 then do
    modify fun s => { s with writeQueueStatus := .danger }
    invoke TcpCallbacks.writeQueue (.writeQueueCallback .danger)
  else pure ()

/-- The handler of `async_write`. -/
def onWrite (data : Bytes) : Except IoError Unit → TcpHandler
  | .error _ => do
      emit .writeError
      modify fun s => { s with isClosing := true }
      doClose
  | .ok _ => do
      emit (.wrote data)
      let s ← get
      match s.writeQueue with
      | [] => fail .popOfEmpty
      | _ :: rest => do
          modify fun s => { s with writeQueue := rest }
          if !rest.isEmpty then doWrite
          else
            updateWriteQueueStatus
            modify fun s => { s with isSending := false }
            let s ← get
            if s.isClosing then doClose else pure ()

/-- The handler of each event; a completion handler takes its operation off the list first. -/
def handle : TcpEvent → TcpHandler
  | .connect => connectTask
  | .start => startTask
  | .send data => sendTask data
  | .close => closeTask
  | .startReading => startReadingTask
  | .stopReading => stopReadingTask
  | .finishResolve i r => modify fun s => { s with resolves := s.resolves.set i (.completed r) }
  | .finishConnect i r => modify fun s => { s with connects := s.connects.set i (.completed r) }
  | .finishRead i r => modify fun s => { s with reads := s.reads.set i (.completed r) }
  | .finishWrite i r => modify fun s => { s with
      writes := s.writes.modify i fun w => (w.1, .completed r) }
  | .onResolve i => do
      let s ← get
      modify fun s => { s with resolves := s.resolves.eraseIdx i }
      match Operation.resultAt s.resolves i with
      | some r => onResolve r
      | none => pure ()
  | .onConnect i => do
      let s ← get
      modify fun s => { s with connects := s.connects.eraseIdx i }
      match Operation.resultAt s.connects i with
      | some r => onConnect r
      | none => pure ()
  | .onRead i => do
      let s ← get
      modify fun s => { s with reads := s.reads.eraseIdx i }
      match Operation.resultAt s.reads i with
      | some r => onRead r
      | none => pure ()
  | .onWrite i => do
      let s ← get
      modify fun s => { s with writes := s.writes.eraseIdx i }
      match s.writes[i]? with
      | some (data, .completed r) => onWrite data r
      | _ => pure ()

/-- A task is always enabled, a completion of a pending operation is, and so is the handler of a
completed one. -/
def enabled (s : TcpSocket) : TcpEvent → Bool
  | .finishResolve i _ => Operation.pendingAt s.resolves i
  | .finishConnect i _ => Operation.pendingAt s.connects i
  | .finishRead i _ => Operation.pendingAt s.reads i
  | .finishWrite i _ => Operation.pendingAt (s.writes.map Prod.snd) i
  | .onResolve i => (Operation.resultAt s.resolves i).isSome
  | .onConnect i => (Operation.resultAt s.connects i).isSome
  | .onRead i => (Operation.resultAt s.reads i).isSome
  | .onWrite i => (Operation.resultAt (s.writes.map Prod.snd) i).isSome
  | _ => true

/-- A socket still to be connected. -/
def unconnected (callbacks : TcpCallbacks) : TcpSocket := { callbacks := callbacks }

/-- A socket made from an accepted connection. -/
def fromConnection (callbacks : TcpCallbacks) : TcpSocket :=
  { callbacks := callbacks, isConnected := true, isOpen := true }

/-- The two ways a socket is constructed. -/
def Initial (s : TcpSocket) : Prop :=
  ∃ callbacks, s = unconnected callbacks ∨ s = fromConnection callbacks

end TcpSocket

/-- The socket as a machine. -/
def tcpSocket : Machine (Except QueueFault TcpSocket) TcpEvent TcpAction :=
  Effect.machine TcpSocket.enabled TcpSocket.handle

end RtcVpn
