import Mathlib.Data.List.AList
import RtcVpn.Protocol.SessionProtocol

/-!
# The session multiplexer

`SessionManager` and `SessionMux` of `session_mux`. The multiplexer's callbacks
lead into other objects, so `onP2pData` returns the callback it invokes, an
`Upcall`, and the send functions return the frame they hand to `send_func_`.
A session is known to the multiplexer by its stream id and by which of its
callbacks are set.
-/

namespace RtcVpn

/-- `Session`: the stream it carries and which callbacks are set. -/
structure Session where
  streamId : UInt32
  onData : Bool := false
  onSynack : Bool := false
  onClose : Bool := false
  onDataCtrl : Bool := false
  deriving DecidableEq, Repr

/-- Every callback of the session is set. -/
def Session.AllSet (s : Session) : Prop :=
  s.onData = true ∧ s.onSynack = true ∧ s.onClose = true ∧ s.onDataCtrl = true

/-- A callback invoked by the multiplexer, with its arguments. -/
inductive Upcall where
  | onSyn (streamId : UInt32) (host : Bytes) (port : UInt16) (protocol : Protocol)
  | onSynack (session : Session) (ok : Bool) (protocol : Protocol)
  | onData (session : Session) (payload : Bytes) (protocol : Protocol)
  | onClose (session : Session) (protocol : Protocol)
  | onDataCtrl (session : Session) (ctrl : CtrlType) (protocol : Protocol)
  deriving DecidableEq, Repr

/-! ## Sessions -/

/-- `SessionManager`: the registered sessions, each under its own stream id. -/
structure SessionManager where
  sessions : AList (fun _ : UInt32 => Session)
  keyed : ∀ i s, sessions.lookup i = some s → s.streamId = i

namespace SessionManager

/-- The registry before any session is created. -/
def empty : SessionManager := ⟨∅, fun _ _ h => by simp at h⟩

/-- `find_session`. -/
def findSession (m : SessionManager) (streamId : UInt32) : Option Session :=
  m.sessions.lookup streamId

/-- `register_session`: replaces whatever is registered under the id. -/
def registerSession (m : SessionManager) (s : Session) : SessionManager where
  sessions := m.sessions.insert s.streamId s
  keyed := by
    intro i t h
    by_cases hi : i = s.streamId
    · subst hi
      rw [AList.lookup_insert] at h
      cases h
      rfl
    · rw [AList.lookup_insert_ne hi] at h
      exact m.keyed i t h

/-- `create_session(stream_id)`. -/
def createSession (m : SessionManager) (streamId : UInt32) : SessionManager :=
  m.registerSession { streamId := streamId }

/-- `remove_session`. -/
def removeSession (m : SessionManager) (streamId : UInt32) : SessionManager where
  sessions := m.sessions.erase streamId
  keyed := by
    intro i t h
    by_cases hi : i = streamId
    · subst hi
      rw [AList.lookup_erase] at h
      exact absurd h (by simp)
    · rw [AList.lookup_erase_ne hi] at h
      exact m.keyed i t h

/-- A found session carries the id it was looked up by. -/
theorem stream_id_of_find {m : SessionManager} {i : UInt32} {s : Session}
    (h : m.findSession i = some s) : s.streamId = i :=
  m.keyed i s h

@[simp] theorem find_empty (i : UInt32) : empty.findSession i = none := rfl

@[simp] theorem find_register_session (m : SessionManager) (s : Session) (j : UInt32) :
    (m.registerSession s).findSession j =
      if j = s.streamId then some s else m.findSession j := by
  by_cases h : j = s.streamId
  · subst h
    simp [findSession, registerSession]
  · simp [findSession, registerSession, AList.lookup_insert_ne h, h]

@[simp] theorem find_create_session (m : SessionManager) (i j : UInt32) :
    (m.createSession i).findSession j =
      if j = i then some { streamId := i } else m.findSession j :=
  find_register_session m _ j

@[simp] theorem find_remove_session (m : SessionManager) (i j : UInt32) :
    (m.removeSession i).findSession j = if j = i then none else m.findSession j := by
  by_cases h : j = i
  · subst h
    simp [findSession, removeSession]
  · simp [findSession, removeSession, AList.lookup_erase_ne h, h]

end SessionManager

/-! ## Receiving -/

/-- `SessionMux`: the registry and which of `send_func_` and `on_syn_` are set. -/
structure SessionMux where
  peerConnId : UInt32
  sessionManager : SessionManager := .empty
  sendFunc : Bool := false
  onSyn : Bool := false

namespace SessionMux

/-- `payload` as `on_p2p_data` sees it, with the length `plen`. -/
def payloadOf (data : Bytes) : Except AccessFault Bytes := do
  let plen ← sizeSub data.length FrameHeader.kSize
  slice data FrameHeader.kSize plen

/-- The `SYN` case of `on_p2p_data`. -/
def onSynFrame (mux : SessionMux) (h : FrameHeader) (payload : Bytes) :
    Except AccessFault (Option Upcall) := do
  match ← decodeSynPayload payload with
  | none => pure none
  | some (host, port) =>
      pure (if mux.onSyn then some (.onSyn h.streamId host port h.protocol) else none)

/-- The `SYNACK` case of `on_p2p_data`. -/
def onSynackFrame (mux : SessionMux) (h : FrameHeader) (payload : Bytes) :
    Except AccessFault (Option Upcall) :=
  match mux.sessionManager.findSession h.streamId with
  | some s => do
      let ok ← if payload.length ≥ 1 then do pure ((← byteAt payload 0) == 0) else pure false
      pure (if s.onSynack then some (.onSynack s ok h.protocol) else none)
  | none => pure none

/-- The `DATA` case of `on_p2p_data`. -/
def onDataFrame (mux : SessionMux) (h : FrameHeader) (payload : Bytes) :
    Except AccessFault (Option Upcall) :=
  match mux.sessionManager.findSession h.streamId with
  | some s => pure (if s.onData then some (.onData s payload h.protocol) else none)
  | none => pure none

/-- The `FIN` case of `on_p2p_data`. -/
def onFinFrame (mux : SessionMux) (h : FrameHeader) : Except AccessFault (Option Upcall) :=
  match mux.sessionManager.findSession h.streamId with
  | some s => pure (if s.onClose then some (.onClose s h.protocol) else none)
  | none => pure none

/-- The `DATA_CTRL` case of `on_p2p_data`. -/
def onDataCtrlFrame (mux : SessionMux) (h : FrameHeader) (payload : Bytes) :
    Except AccessFault (Option Upcall) :=
  match mux.sessionManager.findSession h.streamId with
  | some s =>
      if s.onDataCtrl then
        if payload.length ≥ 1 then do
          let ctrl ← byteAt payload 0
          pure (some (.onDataCtrl s (.ofByte ctrl) h.protocol))
        else pure none
      else pure none
  | none => pure none

/-- `on_p2p_data`: the callback a frame invokes, if it invokes one. -/
def onP2pData (mux : SessionMux) (data : Bytes) : Except AccessFault (Option Upcall) := do
  match ← FrameHeader.decode data with
  | none => pure none
  | some h =>
      let payload ← payloadOf data
      match h.type with
      | .syn => mux.onSynFrame h payload
      | .synack => mux.onSynackFrame h payload
      | .data => mux.onDataFrame h payload
      | .fin => mux.onFinFrame h
      | .dataCtrl => mux.onDataCtrlFrame h payload
      | .other _ _ => pure none

/-- What the application does with a data channel message: `unpackMessage`, then
`on_p2p_data`. -/
def onMessage (mux : SessionMux) (message : Bytes) : Except AccessFault (Option Upcall) := do
  match ← unpackMessage message with
  | none => pure none
  | some frame => mux.onP2pData frame

/-! ## Sending -/

/-- Hand a frame to `send_func_`, if it is set. -/
def sendFrame (mux : SessionMux) (frame : Bytes) : Option Bytes :=
  if mux.sendFunc then some frame else none

/-- `send_syn`. -/
def sendSyn (mux : SessionMux) (streamId : UInt32) (host : Bytes) (port : UInt16)
    (protocol : Protocol) : Option Bytes :=
  mux.sendFrame (makeFrame streamId .syn protocol (encodeSynPayload host port))

/-- `send_synack`. -/
def sendSynack (mux : SessionMux) (streamId : UInt32) (ok : Bool) (protocol : Protocol) :
    Option Bytes :=
  mux.sendFrame (makeFrame streamId .synack protocol [if ok then 0 else 1])

/-- `send_data`. -/
def sendData (mux : SessionMux) (streamId : UInt32) (data : Bytes) (protocol : Protocol) :
    Option Bytes :=
  mux.sendFrame (makeFrame streamId .data protocol data)

/-- `send_fin`. -/
def sendFin (mux : SessionMux) (streamId : UInt32) (protocol : Protocol) : Option Bytes :=
  mux.sendFrame (makeFrame streamId .fin protocol [])

/-- `send_data_ctrl`. -/
def sendDataCtrl (mux : SessionMux) (streamId : UInt32) (type : CtrlType) (protocol : Protocol) :
    Option Bytes :=
  mux.sendFrame (makeFrame streamId .dataCtrl protocol [if type = .receive then 0 else 1])

/-! ## Frames of each type -/

/-- The payload of a frame is what was framed. -/
theorem payload_of_make_frame (streamId : UInt32) (type : FrameType) (protocol : Protocol)
    (payload : Bytes) : payloadOf (makeFrame streamId type protocol payload) = .ok payload := by
  have hlen : (makeFrame streamId type protocol payload).length =
      FrameHeader.kSize + payload.length := by
    simp [makeFrame, FrameHeader.encode, store32, FrameHeader.kSize]; omega
  have hsub : sizeSub (makeFrame streamId type protocol payload).length FrameHeader.kSize =
      .ok payload.length := by
    rw [sizeSub_of_le (by omega), hlen, Nat.add_sub_cancel_left]
  rw [payloadOf, hsub]
  change slice _ _ _ = _
  rw [slice_of_le (by omega), drop_make_frame, List.take_length]

/-- A frame made for a type is dispatched to the case of that type. -/
theorem on_p2p_data_make_frame (mux : SessionMux) (streamId : UInt32) (type : FrameType)
    (protocol : Protocol) (payload : Bytes) :
    mux.onP2pData (makeFrame streamId type protocol payload) =
      match type with
      | .syn => mux.onSynFrame ⟨streamId, type, protocol⟩ payload
      | .synack => mux.onSynackFrame ⟨streamId, type, protocol⟩ payload
      | .data => mux.onDataFrame ⟨streamId, type, protocol⟩ payload
      | .fin => mux.onFinFrame ⟨streamId, type, protocol⟩
      | .dataCtrl => mux.onDataCtrlFrame ⟨streamId, type, protocol⟩ payload
      | .other _ _ => .ok none := by
  unfold onP2pData
  rw [decode_make_frame, except_ok_bind, payload_of_make_frame]
  cases type <;> rfl

end SessionMux

end RtcVpn
