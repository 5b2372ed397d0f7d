import RtcVpn.Client.Streams

/-!
# The `FIN` frame of a session

A session sends its `FIN` frame when the browser's socket reports its close,
which it does once, and sends none if the peer's `FIN` frame has come before.
-/

namespace RtcVpn

/-- The stream of a `FIN` frame that is sent. -/
def ClientAction.finId : ClientAction → Option UInt32
  | .sendFin id _ => some id
  | _ => none

/-- The stream that is registered with the multiplexer. -/
def ClientAction.createdId : ClientAction → Option UInt32
  | .createSession id => some id
  | _ => none

namespace Socks5Session

open Effect

variable {L : Llhttp}

/-- From `s` to `t` the session sends no `FIN` frame, registers the streams it opens, does not lose
the browser's socket and does not forget the peer's close. -/
structure Calm (s : Socks5Session L) (out : List ClientAction) (t : Socks5Session L) : Prop where
  fins : out.filterMap ClientAction.finId = []
  created : out.filterMap ClientAction.createdId = out.filterMap ClientAction.synId
  socket : t.tcpSocket = s.tcpSocket
  yielded : s.isP2pClosed = true → t.isP2pClosed = true

theorem composes_calm : Composes (Calm (L := L)) where
  refl _ := ⟨rfl, rfl, rfl, id⟩
  trans h h' := by
    refine ⟨?_, ?_, h'.socket.trans h.socket, fun hs => h'.yielded (h.yielded hs)⟩
    · rw [List.filterMap_append, h.fins, h'.fins, List.nil_append]
    · rw [List.filterMap_append, List.filterMap_append, h.created, h'.created]

/-- A change of members that `core` does not show. -/
theorem calm_of_core {s t : Socks5Session L} (h : t.core = s.core) : Calm s [] t := by
  simp only [core, Prod.mk.injEq] at h
  exact ⟨rfl, rfl, h.2.2.2.2.1, fun hs => h.2.2.2.2.2.2.2.2.trans hs⟩

theorem calm_reads : AdmitsReads (Calm (L := L)) where
  composes := composes_calm
  send _ _ := ⟨rfl, rfl, rfl, id⟩
  close _ := ⟨rfl, rfl, rfl, id⟩
  forward _ _ _ _ := ⟨rfl, rfl, rfl, id⟩
  update := calm_of_core
  request _ := ⟨rfl, rfl, rfl, id⟩

theorem calm_frames : AdmitsFrames (Calm (L := L)) where
  composes := composes_calm
  send _ _ := ⟨rfl, rfl, rfl, id⟩
  close _ := ⟨rfl, rfl, rfl, id⟩
  forward _ _ _ _ := ⟨rfl, rfl, rfl, id⟩
  update h _ _ := calm_of_core h
  relay _ := ⟨rfl, rfl, rfl, id⟩
  datagram _ _ := ⟨rfl, rfl, rfl, id⟩

/-- Every event but the close of the browser's socket. -/
theorem calm_handle {e : ClientEvent} (he : e ≠ .browserClosed) :
    Relates Calm (handle e : Handler L Unit) := by
  cases e with
  | browserClosed => exact absurd rfl he
  | browserData data => exact calm_reads.browser_data data
  | synack ok protocol relay => exact calm_frames.synack ok protocol relay
  | data payload protocol => exact calm_frames.data payload protocol
  | browserQueue status =>
      intro s
      cases hsession : s.session with
      | none =>
          rw [run_browser_queue_none hsession]
          exact composes_calm.refl s
      | some id =>
          rw [run_browser_queue hsession]
          exact ⟨rfl, rfl, rfl, fun h => h⟩
  | fin protocol =>
      intro s
      rw [run_fin]
      refine ⟨?_, ?_, rfl, fun _ => rfl⟩ <;> split <;> rfl
  | stop =>
      intro s
      rw [run_stop]
      refine ⟨?_, ?_, rfl, fun h => h⟩ <;> split <;> rfl

/-- The close of the browser's socket: a `FIN` frame for the stream, if there is one and the peer
has not closed. -/
theorem fins_browser_closed (s : Socks5Session L) :
    ((handle .browserClosed).run s).state.tcpSocket = false ∧
      ((handle .browserClosed).run s).actions.filterMap ClientAction.finId =
        (if s.isP2pClosed then [] else s.session.toList) ∧
      ((handle .browserClosed).run s).actions.filterMap ClientAction.createdId = [] := by
  cases hsession : s.session <;> cases hp2p : s.isP2pClosed <;> cases hclosed : s.isClosed <;>
    cases honClose : s.onClose <;>
    simp [handle, closeSession, hsession, hp2p, hclosed, honClose, ClientAction.finId,
      ClientAction.createdId]

end Socks5Session

end RtcVpn
