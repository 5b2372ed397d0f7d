import RtcVpn.Library.Reader
import RtcVpn.Socket.TcpWrite
import RtcVpn.Socket.UdpSend

/-!
# Reads in flight

Both sockets are readers that `stopReading` pauses and `startReading` resumes.
`startReading` looks at the request flag only, so resuming while the read from
before the pause is still in flight begins a second one into the same buffer.
-/

namespace RtcVpn

namespace TcpSocket

/-- The socket as a reader. -/
def reader (s : TcpSocket) : Reader := ⟨s.reads.length, s.beganReads, s.isReading⟩

/-- What an event does to the reader. -/
def readMove (s : TcpSocket) : TcpEvent → ReadMove
  | .start => if !s.isConnected || s.isClosing || s.isClosed then .stay else .begin
  | .startReading =>
      if s.isReading || s.isClosing || s.isClosed then .stay
      else if s.isConnected then .resumeRead else .resume
  | .stopReading => .pause
  | .onConnect i =>
      match Operation.resultAt s.connects i with
      | some (.ok _) => .begin
      | _ => .stay
  | .onRead i =>
      match Operation.resultAt s.reads i with
      | some (.ok _) => .deliver
      | some (.error _) => .fail
      | none => .stay
  | _ => .stay

/-- The number of data callbacks among the actions taken. -/
def dataCallbacks (out : List TcpAction) : Nat :=
  out.countP fun
    | .dataCallback _ => true
    | _ => false

theorem data_callbacks_callback (isSet : Bool) (a : TcpAction) :
    dataCallbacks (callbackAction isSet a) ≤ dataCallbacks [a] := by
  cases isSet with
  | true => exact Nat.le_refl _
  | false => exact Nat.zero_le _

theorem data_callbacks_shutdown (s : TcpSocket) : dataCallbacks s.shutdownActions = 0 := by
  unfold shutdownActions
  rcases s.isClosed with _ | _ <;> rcases s.isOpen with _ | _ <;>
    rcases s.callbacks.close with _ | _ <;> rfl

theorem data_callbacks_drained (s : TcpSocket) : dataCallbacks s.drainedActions = 0 := by
  unfold drainedActions
  split
  · exact Nat.le_zero.mp (data_callbacks_callback _ _)
  · rfl

@[simp] theorem shutdown_reader (s : TcpSocket) : s.shutdown.reader = s.reader := by
  unfold shutdown
  split
  · rfl
  · split <;> simp [reader, descriptorClosed]

@[simp] theorem begin_connect_reader (s : TcpSocket) : s.beginConnect.reader = s.reader := by
  unfold beginConnect
  split <;> simp [reader, descriptorClosed]

/-- The end of a read takes it off the list. -/
theorem erase_read_length {s : TcpSocket} {i : Nat} {r : Except IoError Bytes}
    (h : Operation.resultAt s.reads i = some r) :
    0 < s.reads.length ∧ (s.reads.eraseIdx i).length = s.reads.length - 1 := by
  have hlength := Operation.length_erase_result h
  omega

/-- Every step of the socket is a move of the reader. -/
theorem read_step {s t : TcpSocket} {e : TcpEvent} {new : List TcpAction}
    (hstep : TcpStep s e (.ok t) new) :
    t.reader = s.reader.apply (s.readMove e) ∧ s.reader.Enabled (s.readMove e) ∧
      dataCallbacks new ≤ Reader.deliveries (s.readMove e) := by
  cases hstep with
  | startIgnored h =>
      have hmove : s.readMove .start = .stay := by simp [readMove, or_assoc, h]
      rw [hmove]
      exact ⟨rfl, trivial, Nat.le_refl _⟩
  | startRead hconnected hclosing hclosed =>
      have hmove : s.readMove .start = .begin := by simp [readMove, hconnected, hclosing, hclosed]
      rw [hmove]
      exact ⟨by simp [reader, beginRead, Reader.apply], trivial, Nat.le_refl _⟩
  | startReadingIgnored h =>
      have hmove : s.readMove .startReading = .stay := by simp [readMove, or_assoc, h]
      rw [hmove]
      exact ⟨rfl, trivial, Nat.le_refl _⟩
  | startReadingLater hreading hclosing hclosed hconnected =>
      have hmove : s.readMove .startReading = .resume := by
        simp [readMove, hreading, hclosing, hclosed, hconnected]
      rw [hmove]
      exact ⟨rfl, trivial, Nat.le_refl _⟩
  | startReadingNow hreading hclosing hclosed hconnected =>
      have hmove : s.readMove .startReading = .resumeRead := by
        simp [readMove, hreading, hclosing, hclosed, hconnected]
      rw [hmove]
      exact ⟨by simp [reader, beginRead, Reader.apply], trivial, Nat.le_refl _⟩
  | stopReading => exact ⟨rfl, trivial, Nat.le_refl _⟩
  | connectFailed i e h =>
      have hmove : s.readMove (.onConnect i) = .stay := by simp [readMove, h]
      rw [hmove]
      exact ⟨rfl, trivial, data_callbacks_callback _ _⟩
  | connected i h =>
      have hmove : s.readMove (.onConnect i) = .begin := by simp [readMove, h]
      rw [hmove]
      refine ⟨by simp [reader, beginRead, Reader.apply], trivial, ?_⟩
      exact (List.countP_append ..).trans_le (data_callbacks_callback _ _)
  | readFailed i e h =>
      have hmove : s.readMove (.onRead i) = .fail := by simp [readMove, h]
      obtain ⟨hpositive, hlength⟩ := erase_read_length h
      rw [hmove]
      refine ⟨?_, hpositive, ?_⟩
      · rw [shutdown_reader]
        simp [reader, Reader.apply, hlength]
      · exact (data_callbacks_shutdown s).le
  | readLast i data h hreading =>
      have hmove : s.readMove (.onRead i) = .deliver := by simp [readMove, h]
      obtain ⟨hpositive, hlength⟩ := erase_read_length h
      rw [hmove]
      exact ⟨by simp [reader, Reader.apply, hreading, hlength], hpositive,
        data_callbacks_callback _ _⟩
  | readAgain i data h hreading =>
      have hmove : s.readMove (.onRead i) = .deliver := by simp [readMove, h]
      obtain ⟨hpositive, hlength⟩ := erase_read_length h
      rw [hmove]
      refine ⟨?_, hpositive, (List.countP_append ..).trans_le (data_callbacks_callback _ _)⟩
      simp only [reader, beginRead, Reader.apply, hreading, List.length_append, hlength,
        List.length_singleton, if_true]
      congr 1
      omega
  | closeNow _ _ _ =>
      refine ⟨by rw [shutdown_reader]; rfl, trivial, (data_callbacks_shutdown s).le⟩
  | finishRead i r _ => exact ⟨by simp [reader, readMove, Reader.apply], trivial, Nat.le_refl _⟩
  | resolveFailed i e _ => exact ⟨rfl, trivial, data_callbacks_callback _ _⟩
  | resolved i _ => exact ⟨by rw [begin_connect_reader]; rfl, trivial, Nat.le_refl _⟩
  | writeFailed i data e _ =>
      exact ⟨by rw [shutdown_reader]; rfl, trivial, (data_callbacks_shutdown s).le⟩
  | writeLast i data popped _ _ _ => exact ⟨rfl, trivial, (data_callbacks_drained s).le⟩
  | writeLastClose i data popped _ _ _ =>
      refine ⟨by rw [shutdown_reader]; rfl, trivial, ?_⟩
      have hcount : dataCallbacks (s.drainedActions ++ s.shutdownActions) = 0 := by
        rw [dataCallbacks, List.countP_append]
        exact Nat.add_eq_zero_iff.mpr ⟨data_callbacks_drained s, data_callbacks_shutdown s⟩
      exact hcount.le
  | _ => exact ⟨rfl, trivial, Nat.le_refl _⟩

/-- The socket reads. -/
theorem tcp_reads :
    Reads tcpSocket reader readMove dataCallbacks (· = .stopReading) (· = .startReading) where
  step h := by
    obtain ⟨s, hs, htcp⟩ := tcp_socket_step h
    cases hs
    exact read_step htcp
  pause h := by rw [h]; rfl
  resume {s e} h := by
    cases e with
    | startReading => rfl
    | start => simp only [readMove] at h; split at h <;> simp at h
    | onConnect i => simp only [readMove] at h; split at h <;> simp at h
    | onRead i => simp only [readMove] at h; split at h <;> simp at h
    | _ => simp [readMove] at h
  alive h := by
    obtain ⟨s, hs, _⟩ := tcp_socket_step h
    exact ⟨s, hs⟩
  append out new := List.countP_append ..
  nil := rfl

theorem reader_initial {s : TcpSocket} (h : Initial s) : s.reader = ⟨0, 0, true⟩ := by
  obtain ⟨callbacks, rfl | rfl⟩ := h <;> rfl

end TcpSocket

namespace UdpSocket

/-- The socket as a reader. -/
def reader (s : UdpSocket) : Reader := ⟨s.reads.length, s.beganReads, s.isReading⟩

/-- What an event does to the reader. -/
def readMove (s : UdpSocket) : UdpEvent → ReadMove
  | .start opened bound => if opened && bound then .begin else .stay
  | .startReading =>
      if s.isReading || s.isClosing || s.isClosed then .stay
      else if s.isOpen then .resumeRead else .resume
  | .stopReading => .pause
  | .onRead i =>
      match Operation.resultAt s.reads i with
      | some (.ok _) => .deliver
      | some (.error _) => .fail
      | none => .stay
  | _ => .stay

/-- The number of data callbacks among the actions taken. -/
def dataCallbacks (out : List UdpAction) : Nat :=
  out.countP fun
    | .dataCallback _ => true
    | _ => false

theorem data_callbacks_append (out new : List UdpAction) :
    dataCallbacks (out ++ new) = dataCallbacks out + dataCallbacks new := List.countP_append ..

theorem data_callbacks_callback (isSet : Bool) (a : UdpAction) :
    dataCallbacks (callbackAction isSet a) ≤ dataCallbacks [a] := by
  cases isSet with
  | true => exact Nat.le_refl _
  | false => exact Nat.zero_le _

theorem data_callbacks_shutdown (s : UdpSocket) : dataCallbacks s.shutdownActions = 0 := by
  unfold shutdownActions
  rcases s.isClosed with _ | _ <;> rcases s.socketOpen with _ | _ <;>
    rcases s.callbacks.close with _ | _ <;> rfl

@[simp] theorem shutdown_reader (s : UdpSocket) : s.shutdown.reader = s.reader := by
  unfold shutdown
  split
  · rfl
  · split <;> simp [reader, descriptorClosed]

/-- The end of a send is no concern of the reader. -/
theorem end_of_send_reader {s t : UdpSocket} {done : PendingSend → UdpAction}
    {out : List UdpAction} (hdone : ∀ item, dataCallbacks [done item] = 0)
    (h : EndOfSend s done (.ok t) out) : t.reader = s.reader ∧ dataCallbacks out = 0 := by
  cases h with
  | next item following rest _ =>
      refine ⟨rfl, ?_⟩
      rw [← List.singleton_append, data_callbacks_append, hdone]
      rfl
  | last item _ _ => exact ⟨rfl, hdone item⟩
  | lastClose item _ _ =>
      refine ⟨by rw [shutdown_reader]; rfl, ?_⟩
      rw [← List.singleton_append, data_callbacks_append, hdone, data_callbacks_shutdown]

/-- Every step of the socket is a move of the reader. -/
theorem read_step {s t : UdpSocket} {e : UdpEvent} {new : List UdpAction}
    (hstep : UdpStep s e (.ok t) new) :
    t.reader = s.reader.apply (s.readMove e) ∧ s.reader.Enabled (s.readMove e) ∧
      dataCallbacks new ≤ Reader.deliveries (s.readMove e) := by
  cases hstep with
  | openFailed bound => exact ⟨rfl, trivial, data_callbacks_callback _ _⟩
  | bindFailed => exact ⟨rfl, trivial, data_callbacks_callback _ _⟩
  | started =>
      refine ⟨by simp [reader, readMove, beginRead, Reader.apply], trivial, ?_⟩
      exact (data_callbacks_append _ [.asyncReceive]).trans_le (data_callbacks_callback _ _)
  | startReadingIgnored h =>
      have hmove : s.readMove .startReading = .stay := by simp [readMove, or_assoc, h]
      rw [hmove]
      exact ⟨rfl, trivial, Nat.le_refl _⟩
  | startReadingLater hreading hclosing hclosed hopen =>
      have hmove : s.readMove .startReading = .resume := by
        simp [readMove, hreading, hclosing, hclosed, hopen]
      rw [hmove]
      exact ⟨rfl, trivial, Nat.le_refl _⟩
  | startReadingNow hreading hclosing hclosed hopen =>
      have hmove : s.readMove .startReading = .resumeRead := by
        simp [readMove, hreading, hclosing, hclosed, hopen]
      rw [hmove]
      exact ⟨by simp [reader, beginRead, Reader.apply], trivial, Nat.le_refl _⟩
  | stopReading => exact ⟨rfl, trivial, Nat.le_refl _⟩
  | closeNow _ _ _ => exact ⟨by rw [shutdown_reader]; rfl, trivial, (data_callbacks_shutdown s).le⟩
  | finishRead i r => exact ⟨by simp [reader, readMove, Reader.apply], trivial, Nat.le_refl _⟩
  | resolveFailed i e r out h hend =>
      obtain ⟨hreader, hout⟩ := end_of_send_reader (fun _ => rfl) hend
      exact ⟨hreader, trivial, hout.le⟩
  | sendFailed i e h =>
      exact ⟨by rw [shutdown_reader]; rfl, trivial, (data_callbacks_shutdown s).le⟩
  | sent i r out h hend =>
      obtain ⟨hreader, hout⟩ := end_of_send_reader (fun _ => rfl) hend
      exact ⟨hreader, trivial, hout.le⟩
  | readFailed i e h =>
      have hmove : s.readMove (.onRead i) = .fail := by simp [readMove, h]
      have hlength := Operation.length_erase_result h
      rw [hmove]
      refine ⟨?_, ?_, (data_callbacks_shutdown s).le⟩
      · rw [shutdown_reader]
        simp only [reader, Reader.apply]
        congr 1
        omega
      · show 0 < s.reads.length
        omega
  | readLast i datagram h hreading =>
      have hmove : s.readMove (.onRead i) = .deliver := by simp [readMove, h]
      have hlength := Operation.length_erase_result h
      rw [hmove]
      refine ⟨?_, ?_, data_callbacks_callback _ _⟩
      · simp only [reader, Reader.apply, hreading, Bool.false_eq_true, if_false]
        congr 1
        omega
      · show 0 < s.reads.length
        omega
  | readAgain i datagram h hreading =>
      have hmove : s.readMove (.onRead i) = .deliver := by simp [readMove, h]
      have hlength := Operation.length_erase_result h
      rw [hmove]
      refine ⟨?_, ?_, (data_callbacks_append _ [.asyncReceive]).trans_le
        (data_callbacks_callback _ _)⟩
      · simp only [reader, beginRead, Reader.apply, hreading, List.length_append,
          List.length_singleton, if_true]
        congr 1
      · show 0 < s.reads.length
        omega
  | _ => exact ⟨rfl, trivial, Nat.le_refl _⟩

/-- The socket reads. -/
theorem udp_reads :
    Reads udpSocket reader readMove dataCallbacks (· = .stopReading) (· = .startReading) where
  step h := by
    obtain ⟨s, hs, hudp⟩ := udp_socket_step h
    cases hs
    exact read_step hudp
  pause h := by rw [h]; rfl
  resume {s e} h := by
    cases e with
    | startReading => rfl
    | start opened bound => simp only [readMove] at h; split at h <;> simp at h
    | onRead i => simp only [readMove] at h; split at h <;> simp at h
    | _ => simp [readMove] at h
  alive h := by
    obtain ⟨s, hs, _⟩ := udp_socket_step h
    exact ⟨s, hs⟩
  append := data_callbacks_append
  nil := rfl

end UdpSocket

/-! ## Single reads -/

/-- In every run of either socket at most one read is in flight if and only if every read that
`start`, a connect or `startReading` begins is begun with none in flight. If moreover `start` and
a connect do not begin another read during a pause, a pause is followed by one data callback at
most. -/
theorem sockets_single_read {s₀ : TcpSocket} {es : List TcpEvent}
    {r : Except QueueFault TcpSocket} {out : List TcpAction} (hinit : TcpSocket.Initial s₀)
    (hrun : tcpSocket.run (.ok s₀) es = some (r, out)) {callbacks : UdpCallbacks}
    {es' : List UdpEvent} {r' : Except QueueFault UdpSocket} {out' : List UdpAction}
    (hrun' : udpSocket.run (.ok (UdpSocket.fresh callbacks)) es' = some (r', out')) :
    ((Reads.Single tcpSocket TcpSocket.reader s₀ es ↔
        tcpSocket.Meets
          (Effect.WhenAlive fun s e => s.reader.BeginsAlone (s.readMove e)) (.ok s₀) es) ∧
      (tcpSocket.Meets
          (Effect.WhenAlive fun s e => s.reader.BeginsOnce (s.readMove e)) (.ok s₀) es →
        Reads.OncePaused tcpSocket TcpSocket.dataCallbacks (· = .stopReading)
          (· = .startReading) s₀ es)) ∧
    ((Reads.Single udpSocket UdpSocket.reader (UdpSocket.fresh callbacks) es' ↔
        udpSocket.Meets (Effect.WhenAlive fun s e => s.reader.BeginsAlone (s.readMove e))
          (.ok (UdpSocket.fresh callbacks)) es') ∧
      (udpSocket.Meets (Effect.WhenAlive fun s e => s.reader.BeginsOnce (s.readMove e))
          (.ok (UdpSocket.fresh callbacks)) es' →
        Reads.OncePaused udpSocket UdpSocket.dataCallbacks (· = .stopReading)
          (· = .startReading) (UdpSocket.fresh callbacks) es')) := by
  constructor
  · obtain ⟨s, rfl, _⟩ := TcpSocket.write_invariant_run hinit hrun
    have hreader := TcpSocket.reader_initial hinit
    exact ⟨TcpSocket.tcp_reads.single_iff (by simp [hreader]) hrun,
      TcpSocket.tcp_reads.once_paused (by simp [hreader]) (by simp [hreader])⟩
  · obtain ⟨s, rfl, _⟩ := UdpSocket.send_side_run hrun'
    exact ⟨UdpSocket.udp_reads.single_iff (Nat.zero_le _) hrun',
      UdpSocket.udp_reads.once_paused (Nat.zero_le _) (Nat.le_refl _)⟩

/-- Reading is stopped while a read is in flight, and started again once it has been delivered. -/
def pausedRead : List TcpEvent :=
  [.start, .stopReading, .finishRead 0 (.ok [1]), .onRead 0, .startReading,
    .finishRead 0 (.ok [2]), .onRead 0]

/-- The same for datagrams. -/
def pausedReceive (d : Datagram) : List UdpEvent :=
  [.start true true, .stopReading, .finishRead 0 (.ok d), .onRead 0, .startReading,
    .finishRead 0 (.ok d), .onRead 0]

theorem sockets_single_read_pause :
    (Reads.Single tcpSocket TcpSocket.reader (TcpSocket.fromConnection {}) pausedRead ∧
      Reads.OncePaused tcpSocket TcpSocket.dataCallbacks (· = .stopReading) (· = .startReading)
        (TcpSocket.fromConnection {}) pausedRead) ∧
    Reads.Single udpSocket UdpSocket.reader (UdpSocket.fresh {}) (pausedReceive ⟨[], 53, [1]⟩) ∧
      Reads.OncePaused udpSocket UdpSocket.dataCallbacks (· = .stopReading) (· = .startReading)
        (UdpSocket.fresh {}) (pausedReceive ⟨[], 53, [1]⟩) := by
  have htcp : tcpSocket.Meets (Effect.WhenAlive fun s e => s.reader.BeginsOnce (s.readMove e))
      (.ok (TcpSocket.fromConnection {})) pausedRead :=
    Effect.meets_when_alive_cons rfl ⟨rfl, .inl rfl⟩ <|
    Effect.meets_when_alive_cons rfl trivial <| Effect.meets_when_alive_cons rfl trivial <|
    Effect.meets_when_alive_cons rfl trivial <| Effect.meets_when_alive_cons rfl rfl <|
    Effect.meets_when_alive_cons rfl trivial <| Effect.meets_when_alive_cons rfl trivial <|
    Machine.meets_nil _
  have hudp : udpSocket.Meets (Effect.WhenAlive fun s e => s.reader.BeginsOnce (s.readMove e))
      (.ok (UdpSocket.fresh {})) (pausedReceive ⟨[], 53, [1]⟩) :=
    Effect.meets_when_alive_cons rfl ⟨rfl, .inl rfl⟩ <|
    Effect.meets_when_alive_cons rfl trivial <| Effect.meets_when_alive_cons rfl trivial <|
    Effect.meets_when_alive_cons rfl trivial <| Effect.meets_when_alive_cons rfl rfl <|
    Effect.meets_when_alive_cons rfl trivial <| Effect.meets_when_alive_cons rfl trivial <|
    Machine.meets_nil _
  obtain ⟨r, out, hrun⟩ : ∃ r out, tcpSocket.run (.ok (TcpSocket.fromConnection {})) pausedRead =
      some (r, out) := ⟨_, _, rfl⟩
  obtain ⟨r', out', hrun'⟩ : ∃ r out, udpSocket.run (.ok (UdpSocket.fresh {}))
      (pausedReceive ⟨[], 53, [1]⟩) = some (r, out) := ⟨_, _, rfl⟩
  have hreads := sockets_single_read ⟨{}, .inr rfl⟩ hrun hrun'
  exact ⟨⟨hreads.1.1.mpr fun _ _ _ _ _ hsplit hbefore s hs =>
      (htcp _ _ _ _ _ hsplit hbefore s hs).alone, hreads.1.2 htcp⟩,
    hreads.2.1.mpr fun _ _ _ _ _ hsplit hbefore s hs =>
      (hudp _ _ _ _ _ hsplit hbefore s hs).alone, hreads.2.2 hudp⟩

/-- Reading is stopped and started again while a read is in flight: a second one begins, and after
the next stop both deliver. -/
theorem resume_doubles_read :
    (¬ Reads.Single tcpSocket TcpSocket.reader (TcpSocket.fromConnection {})
        [.start, .stopReading, .startReading, .stopReading, .finishRead 0 (.ok [1]), .onRead 0,
          .finishRead 0 (.ok [2]), .onRead 0] ∧
      ¬ Reads.OncePaused tcpSocket TcpSocket.dataCallbacks (· = .stopReading)
        (· = .startReading) (TcpSocket.fromConnection {})
        [.start, .stopReading, .startReading, .stopReading, .finishRead 0 (.ok [1]), .onRead 0,
          .finishRead 0 (.ok [2]), .onRead 0]) ∧
    ¬ Reads.Single udpSocket UdpSocket.reader (UdpSocket.fresh {})
        [.start true true, .stopReading, .startReading] := by
  refine ⟨⟨fun h => ?_, fun h => ?_⟩, fun h => ?_⟩
  · exact absurd (h [.start, .stopReading, .startReading] _ _ _ rfl rfl) (by decide)
  · have hcount := h [.start, .stopReading, .startReading] .stopReading
      [.finishRead 0 (.ok [1]), .onRead 0, .finishRead 0 (.ok [2]), .onRead 0] [] _ _ _ _ rfl rfl
      (by simp) rfl rfl
    exact absurd hcount (by decide)
  · exact absurd (h [.start true true, .stopReading, .startReading] [] _ _ rfl rfl) (by decide)

end RtcVpn
