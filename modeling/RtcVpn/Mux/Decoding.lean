import RtcVpn.Mux.SessionMux

/-!
# Any input can be decoded

Every decoder on the way of a data channel message reads within its input, so
the multiplexer answers any byte string without a fault. `frameOf` is the frame
a message carries, if it carries one.
-/

namespace RtcVpn

/-- A buffer shorter than a header has none, any other has one. -/
theorem header_decode_total (data : Bytes) :
    (data.length < FrameHeader.kSize ∧ FrameHeader.decode data = .ok none) ∨
      (FrameHeader.kSize ≤ data.length ∧ ∃ h, FrameHeader.decode data = .ok (some h)) := by
  by_cases hshort : data.length < FrameHeader.kSize
  · exact .inl ⟨hshort, by rw [FrameHeader.decode, if_pos hshort]; rfl⟩
  · refine .inr ⟨by omega, ?_⟩
    rcases data with _ | ⟨a, _ | ⟨b, _ | ⟨c, _ | ⟨d, _ | ⟨t, _ | ⟨p, rest⟩⟩⟩⟩⟩⟩
    case cons.cons.cons.cons.cons.cons =>
      exact ⟨_, FrameHeader.decode_cons a b c d t p rest⟩
    all_goals exact absurd (by simp [FrameHeader.kSize]) hshort

/-- Decoding a `SYN` payload never reads out of bounds. -/
theorem decode_syn_payload_total (data : Bytes) : ∃ r, decodeSynPayload data = .ok r := by
  unfold decodeSynPayload
  split
  · exact ⟨none, rfl⟩
  · next hnonempty =>
      rw [byteAt_of_lt (by omega), except_ok_bind]
      split
      · exact ⟨none, rfl⟩
      · next hlong =>
          rw [slice_of_le (by omega), except_ok_bind, byteAt_of_lt (by omega), except_ok_bind,
            byteAt_of_lt (by omega), except_ok_bind]
          exact ⟨_, rfl⟩

/-- Unpacking a message never reads out of bounds. -/
theorem unpack_message_total (data : Bytes) : ∃ r, unpackMessage data = .ok r := by
  match data with
  | a :: b :: c :: d :: rest =>
      rw [unpack_message_cons]
      split
      · exact ⟨none, rfl⟩
      · exact ⟨_, rfl⟩
  | [] => exact ⟨none, rfl⟩
  | [_] => exact ⟨none, rfl⟩
  | [_, _] => exact ⟨none, rfl⟩
  | [_, _, _] => exact ⟨none, rfl⟩

/-- The header and the payload of the frame that a message carries. -/
def frameOf (message : Bytes) : Option (FrameHeader × Bytes) :=
  match unpackMessage message with
  | .ok (some frame) =>
      match FrameHeader.decode frame with
      | .ok (some h) => some (h, frame.drop FrameHeader.kSize)
      | _ => none
  | _ => none

/-- The frame a message carries, if any, is of one of the streams. -/
def meantFor (mine : UInt32 → Bool) (message : Bytes) : Bool :=
  (frameOf message).all fun frame => mine frame.1.streamId

/-- A packed frame is the frame its message carries. -/
theorem frame_of_packed {streamId : UInt32} {type : FrameType} {protocol : Protocol}
    {payload message : Bytes}
    (hpack : packMessage (makeFrame streamId type protocol payload) = some message) :
    frameOf message = some (⟨streamId, type, protocol⟩, payload) := by
  simp only [frameOf, unpack_of_pack_message hpack, decode_make_frame, drop_make_frame]

namespace SessionMux

/-- The payload of a buffer with a header is what stands behind the header. -/
theorem payload_of_le {data : Bytes} (h : FrameHeader.kSize ≤ data.length) :
    payloadOf data = .ok (data.drop FrameHeader.kSize) := by
  rw [payloadOf, sizeSub_of_le h, except_ok_bind, slice_of_le (by omega),
    List.take_of_length_le (by simp)]

/-- What `on_p2p_data` does with the frame of a message. -/
theorem on_message_eq (mux : SessionMux) (message : Bytes) :
    mux.onMessage message =
      match frameOf message with
      | none => .ok none
      | some (h, payload) =>
          match h.type with
          | .syn => mux.onSynFrame h payload
          | .synack => mux.onSynackFrame h payload
          | .data => mux.onDataFrame h payload
          | .fin => mux.onFinFrame h
          | .dataCtrl => mux.onDataCtrlFrame h payload
          | .other _ _ => .ok none := by
  obtain ⟨r, hunpack⟩ := unpack_message_total message
  rw [onMessage, frameOf, hunpack, except_ok_bind]
  cases r with
  | none => rfl
  | some frame =>
      rcases header_decode_total frame with ⟨_, hnone⟩ | ⟨hlong, h, hsome⟩
      · simp only [onP2pData, hnone, except_ok_bind]
        rfl
      · simp only [onP2pData, hsome, except_ok_bind, payload_of_le hlong]
        rfl

/-- A frame that opens a stream is handed to `on_syn_`. -/
theorem on_message_syn {mux : SessionMux} {message payload host : Bytes} {h : FrameHeader}
    {port : UInt16} (hsyn : mux.onSyn = true) (hframe : frameOf message = some (h, payload))
    (htype : h.type = .syn) (hpayload : decodeSynPayload payload = .ok (some (host, port))) :
    mux.onMessage message = .ok (some (.onSyn h.streamId host port h.protocol)) := by
  rw [on_message_eq, hframe]
  simp only [htype, onSynFrame, hpayload, except_ok_bind, hsyn, if_true]
  rfl

/-- Any message is answered: with nothing, by opening a stream, or by a callback of the session
registered under the stream id of its frame. -/
theorem on_message_cases (mux : SessionMux) (message : Bytes) :
    mux.onMessage message = .ok none ∨
      ∃ h payload, frameOf message = some (h, payload) ∧
        ((∃ host port, h.type = .syn ∧ decodeSynPayload payload = .ok (some (host, port)) ∧
            mux.onMessage message = .ok (some (.onSyn h.streamId host port h.protocol))) ∨
          ∃ s, mux.sessionManager.findSession h.streamId = some s ∧
            ((∃ ok, s.onSynack = true ∧
                mux.onMessage message = .ok (some (.onSynack s ok h.protocol))) ∨
              mux.onMessage message = .ok (some (.onData s payload h.protocol)) ∨
              (h.type = .fin ∧ mux.onMessage message = .ok (some (.onClose s h.protocol))) ∨
              ∃ byte rest, h.type = .dataCtrl ∧ payload = byte :: rest ∧
                mux.onMessage message =
                  .ok (some (.onDataCtrl s (.ofByte byte) h.protocol)))) := by
  rw [on_message_eq]
  rcases hframe : frameOf message with _ | ⟨h, payload⟩
  · exact .inl rfl
  · obtain ⟨streamId, type, protocol⟩ := h
    cases type with
    | other byte hbyte => exact .inl rfl
    | syn =>
        obtain ⟨r, hr⟩ := decode_syn_payload_total payload
        simp only [onSynFrame, hr, except_ok_bind]
        rcases r with _ | ⟨host, port⟩
        · exact .inl rfl
        · cases hset : mux.onSyn with
          | false => exact .inl rfl
          | true => exact .inr ⟨_, payload, rfl, .inl ⟨host, port, rfl, hr, rfl⟩⟩
    | synack =>
        simp only [onSynackFrame]
        cases hfind : mux.sessionManager.findSession streamId with
        | none => exact .inl rfl
        | some s =>
            cases hset : s.onSynack with
            | false =>
                refine .inl ?_
                by_cases hlong : payload.length ≥ 1
                · simp [hlong, hset, byteAt_of_lt (i := 0) hlong, pure, Except.pure]
                · simp [hlong, hset, pure, Except.pure]
            | true =>
                refine .inr ⟨_, payload, rfl, .inr ⟨s, hfind, .inl ?_⟩⟩
                by_cases hlong : payload.length ≥ 1
                · refine ⟨payload.get ⟨0, hlong⟩ == 0, hset, ?_⟩
                  simp [hlong, hset, byteAt_of_lt (i := 0) hlong, pure, Except.pure]
                · exact ⟨false, hset, by simp [hlong, hset, pure, Except.pure]⟩
    | data =>
        simp only [onDataFrame]
        cases hfind : mux.sessionManager.findSession streamId with
        | none => exact .inl rfl
        | some s =>
            cases hset : s.onData with
            | false => exact .inl (by simp [hset, pure, Except.pure])
            | true =>
                exact .inr ⟨_, payload, rfl,
                  .inr ⟨s, hfind, .inr (.inl (by simp [hset, pure, Except.pure]))⟩⟩
    | fin =>
        simp only [onFinFrame]
        cases hfind : mux.sessionManager.findSession streamId with
        | none => exact .inl rfl
        | some s =>
            cases hset : s.onClose with
            | false => exact .inl (by simp [hset, pure, Except.pure])
            | true =>
                exact .inr ⟨_, payload, rfl, .inr ⟨s, hfind,
                  .inr (.inr (.inl ⟨rfl, by simp [hset, pure, Except.pure]⟩))⟩⟩
    | dataCtrl =>
        simp only [onDataCtrlFrame]
        cases hfind : mux.sessionManager.findSession streamId with
        | none => exact .inl rfl
        | some s =>
            cases payload with
            | nil => exact .inl (by simp [pure, Except.pure])
            | cons byte rest =>
                cases hset : s.onDataCtrl with
                | false => exact .inl (by simp [hset, pure, Except.pure])
                | true =>
                    exact .inr ⟨_, _, rfl, .inr ⟨s, hfind, .inr (.inr (.inr ⟨byte, rest, rfl, rfl,
                      by simp [hset, pure, Except.pure]⟩))⟩⟩

/-- What a multiplexer answers depends on the session of the frame's stream only. -/
theorem on_message_of_find {m m' : SessionMux} {data : Bytes} (hsyn : m.onSyn = m'.onSyn)
    (hfind : ∀ h payload, frameOf data = some (h, payload) →
      m.sessionManager.findSession h.streamId = m'.sessionManager.findSession h.streamId) :
    m.onMessage data = m'.onMessage data := by
  rw [on_message_eq, on_message_eq]
  rcases hframe : frameOf data with _ | ⟨⟨i, type, protocol⟩, payload⟩
  · rfl
  · have hsame := hfind _ _ hframe
    cases type <;>
      simp only [onSynFrame, onSynackFrame, onDataFrame, onFinFrame, onDataCtrlFrame, hsyn, hsame]

/-- A frame of a stream that is not registered invokes nothing, if `on_syn_` is not set. -/
theorem on_message_unknown {m : SessionMux} {data : Bytes} (hsyn : m.onSyn = false)
    (hfind : ∀ h payload, frameOf data = some (h, payload) →
      m.sessionManager.findSession h.streamId = none) : m.onMessage data = .ok none := by
  rw [on_message_eq]
  rcases hframe : frameOf data with _ | ⟨⟨i, type, protocol⟩, payload⟩
  · rfl
  · have hnone := hfind _ _ hframe
    cases type with
    | syn =>
        obtain ⟨r, hr⟩ := decode_syn_payload_total payload
        simp only [onSynFrame, hr, except_ok_bind, hsyn]
        cases r <;> rfl
    | _ => simp [onSynackFrame, onDataFrame, onFinFrame, onDataCtrlFrame, hnone, pure, Except.pure]

end SessionMux

end RtcVpn
