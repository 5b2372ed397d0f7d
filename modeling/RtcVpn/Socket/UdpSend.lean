import RtcVpn.Socket.UdpStep

/-!
# The send side of the UDP socket

A datagram being sent is first resolved and then transmitted, one datagram at a
time. `SendSide` lists the shapes this gives the members, and a socket in shape
never takes from an empty queue, so no run ends in a fault.
-/

namespace RtcVpn

namespace UdpSocket

/-- How the send queue, the sending flag and the outstanding resolves and sends hang together. -/
inductive SendSide (s : UdpSocket) : Prop
  | idle (hresolves : s.resolves = []) (hsends : s.sends = []) (hqueue : s.sendQueue = [])
      (hsending : s.isSending = false)
  | resolving (hresolves : s.resolves.length = 1) (hsends : s.sends = [])
      (hqueue : s.sendQueue ≠ []) (hsending : s.isSending = true)
  | transmitting (hresolves : s.resolves = []) (hsends : s.sends.length = 1)
      (hqueue : s.sendQueue ≠ []) (hsending : s.isSending = true)
  | abandoned (hresolves : s.resolves = []) (hsends : s.sends = []) (hclosed : s.isClosed = true)

@[simp] theorem shutdown_is_closed (s : UdpSocket) : s.shutdown.isClosed = true := by
  unfold shutdown
  split
  · assumption
  · split <;> rfl

@[simp] theorem shutdown_resolves (s : UdpSocket) : s.shutdown.resolves = s.resolves := by
  unfold shutdown
  split
  · rfl
  · split <;> rfl

@[simp] theorem shutdown_sends_length (s : UdpSocket) :
    s.shutdown.sends.length = s.sends.length := by
  unfold shutdown
  split
  · rfl
  · split <;> simp [descriptorClosed]

@[simp] theorem shutdown_send_queue (s : UdpSocket) : s.shutdown.sendQueue = s.sendQueue := by
  unfold shutdown
  split
  · rfl
  · split <;> rfl

@[simp] theorem shutdown_is_sending (s : UdpSocket) : s.shutdown.isSending = s.isSending := by
  unfold shutdown
  split
  · rfl
  · split <;> rfl

/-- A step that keeps the number of operations and the queue, or closes the socket, keeps the
shape. -/
theorem SendSide.congr {s t : UdpSocket} (h : SendSide s)
    (hresolves : t.resolves.length = s.resolves.length)
    (hsends : t.sends.length = s.sends.length) (hqueue : t.sendQueue = s.sendQueue)
    (hsending : t.isSending = s.isSending) (hclosed : s.isClosed = true → t.isClosed = true) :
    SendSide t := by
  have hnil : ∀ {α : Type} {xs ys : List α}, xs.length = ys.length → ys = [] → xs = [] := by
    intro α xs ys hlength hys
    rw [hys] at hlength
    exact List.length_eq_zero_iff.mp hlength
  cases h with
  | idle hr hs hq hb =>
      exact .idle (hnil hresolves hr) (hnil hsends hs) (hqueue.trans hq) (hsending.trans hb)
  | resolving hr hs hq hb =>
      exact .resolving (hresolves.trans hr) (hnil hsends hs) (hqueue ▸ hq) (hsending.trans hb)
  | transmitting hr hs hq hb =>
      exact .transmitting (hnil hresolves hr) (hsends.trans hs) (hqueue ▸ hq) (hsending.trans hb)
  | abandoned hr hs hc => exact .abandoned (hnil hresolves hr) (hnil hsends hs) (hclosed hc)

/-- The completion handler of a resolve runs for the only operation there is. -/
theorem SendSide.resolving_of_result {s : UdpSocket} {i : Nat} {r : Except IoError Unit}
    (h : SendSide s) (hresult : Operation.resultAt s.resolves i = some r) :
    s.resolves.eraseIdx i = [] ∧ s.sends = [] ∧ s.sendQueue ≠ [] ∧ s.isSending = true := by
  have hlength := Operation.length_erase_result hresult
  cases h with
  | idle hr _ _ _ => simp [hr, Operation.resultAt] at hresult
  | transmitting hr _ _ _ => simp [hr, Operation.resultAt] at hresult
  | abandoned hr _ _ => simp [hr, Operation.resultAt] at hresult
  | resolving hr hs hq hb =>
      exact ⟨List.length_eq_zero_iff.mp (by omega), hs, hq, hb⟩

/-- The completion handler of a send runs for the only operation there is. -/
theorem SendSide.transmitting_of_result {s : UdpSocket} {i : Nat} {r : Except IoError Unit}
    (h : SendSide s) (hresult : Operation.resultAt (s.sends.map Prod.snd) i = some r) :
    s.resolves = [] ∧ s.sends.eraseIdx i = [] ∧ s.sendQueue ≠ [] ∧ s.isSending = true := by
  have hlength := Operation.length_erase_result hresult
  have hlt := Operation.lt_of_result_at hresult
  rw [List.length_map] at hlt
  cases h with
  | idle _ hs _ _ => simp [hs] at hlt
  | resolving _ hs _ _ => simp [hs] at hlt
  | abandoned _ hs _ => simp [hs] at hlt
  | transmitting hr hs hq hb =>
      refine ⟨hr, List.length_eq_zero_iff.mp ?_, hq, hb⟩
      rw [List.length_eraseIdx_of_lt hlt]
      omega

/-- With its operation off the list, a send ends in shape. -/
theorem SendSide.end_of_send {s : UdpSocket} {done : PendingSend → UdpAction}
    {r : Except QueueFault UdpSocket} {out : List UdpAction} (hresolves : s.resolves = [])
    (hsends : s.sends = []) (hqueue : s.sendQueue ≠ []) (hsending : s.isSending = true)
    (h : EndOfSend s done r out) : ∃ t, r = .ok t ∧ SendSide t := by
  cases h with
  | underflow hempty => exact absurd hempty hqueue
  | next item following rest _ =>
      exact ⟨_, rfl, .resolving (by simp [beginResolve, hresolves]) hsends
        (List.cons_ne_nil _ _) hsending⟩
  | last item _ _ => exact ⟨_, rfl, .idle hresolves hsends rfl rfl⟩
  | lastClose item _ _ =>
      refine ⟨_, rfl, .idle (by simpa using hresolves) ?_ (by simp) (by simp)⟩
      rw [← List.length_eq_zero_iff, shutdown_sends_length]
      exact List.length_eq_zero_iff.mpr hsends

/-- Every step leaves the socket alive and in shape. -/
theorem SendSide.step {s : UdpSocket} {e : UdpEvent} {r : Except QueueFault UdpSocket}
    {out : List UdpAction} (h : SendSide s) (hstep : UdpStep s e r out) :
    ∃ t, r = .ok t ∧ SendSide t := by
  cases hstep with
  | sendQueued item hclosing hclosed hsending =>
      refine ⟨_, rfl, ?_⟩
      cases h with
      | idle _ _ _ hb => exact absurd (hsending.symm.trans hb) (by simp)
      | resolving hr hs hq hb => exact .resolving hr hs (by simp) hb
      | transmitting hr hs hq hb => exact .transmitting hr hs (by simp) hb
      | abandoned _ _ hc => exact absurd (hclosed.symm.trans hc) (by simp)
  | sendFirst item front rest hclosing hclosed hsending hfront =>
      refine ⟨_, rfl, ?_⟩
      cases h with
      | idle hr hs _ _ =>
          exact .resolving (by simp [beginResolve, hr]) hs (by simp [beginResolve]) rfl
      | resolving _ _ _ hb => exact absurd (hsending.symm.trans hb) (by simp)
      | transmitting _ _ _ hb => exact absurd (hsending.symm.trans hb) (by simp)
      | abandoned _ _ hc => exact absurd (hclosed.symm.trans hc) (by simp)
  | closeNow _ _ _ => exact ⟨_, rfl, h.congr (by simp) (by simp) (by simp) (by simp) (by simp)⟩
  | readFailed i e _ => exact ⟨_, rfl, h.congr (by simp) (by simp) (by simp) (by simp) (by simp)⟩
  | resolveFailed i e r out hresult hend =>
      obtain ⟨hr, hs, hq, hb⟩ := h.resolving_of_result hresult
      exact SendSide.end_of_send (s := { s with resolves := s.resolves.eraseIdx i })
        hr hs hq hb hend
  | resolvedUnderflow i hresult hempty =>
      exact absurd hempty (h.resolving_of_result hresult).2.2.1
  | resolved i item rest hresult hfront =>
      obtain ⟨hr, hs, hq, hb⟩ := h.resolving_of_result hresult
      exact ⟨_, rfl, .transmitting hr (by simp [beginSend, hs]) hq hb⟩
  | sendFailed i e hresult =>
      obtain ⟨hr, hs, _, _⟩ := h.transmitting_of_result hresult
      refine ⟨_, rfl, .abandoned (by simpa using hr) ?_ (by simp)⟩
      rw [← List.length_eq_zero_iff, shutdown_sends_length]
      exact List.length_eq_zero_iff.mpr hs
  | sent i r out hresult hend =>
      obtain ⟨hr, hs, hq, hb⟩ := h.transmitting_of_result hresult
      exact SendSide.end_of_send (s := { s with sends := s.sends.eraseIdx i }) hr hs hq hb hend
  | finishResolve i r => exact ⟨_, rfl, h.congr (by simp) rfl rfl rfl id⟩
  | finishSend i r => exact ⟨_, rfl, h.congr rfl (by simp) rfl rfl id⟩
  | _ => exact ⟨_, rfl, h.congr rfl rfl rfl rfl id⟩

/-- A run from a new socket leaves it alive and in shape. -/
theorem send_side_run {callbacks : UdpCallbacks} {es : List UdpEvent}
    {r : Except QueueFault UdpSocket} {out : List UdpAction}
    (hrun : udpSocket.run (.ok (fresh callbacks)) es = some (r, out)) :
    ∃ s, r = .ok s ∧ SendSide s := by
  refine Machine.run_invariant (I := fun r => ∃ s, r = .ok s ∧ SendSide s) ?_
    ⟨_, rfl, .idle rfl rfl rfl rfl⟩ hrun
  intro x e y new hx hstep
  obtain ⟨s, rfl, hs⟩ := hx
  obtain ⟨s', hs', hudp⟩ := udp_socket_step hstep
  cases hs'
  exact hs.step hudp

end UdpSocket

end RtcVpn
