import RtcVpn.Socket.UdpSend

/-!
# The datagrams a UDP socket hands to the network

Each accepted datagram is resolved in its turn and, if that succeeds, handed to
`async_send_to`. `Ledger` relates the accepted datagrams, the results of the
resolutions and the datagrams handed over, as long as no send and no receive has
failed. The close callback comes once, and if nothing has failed only when every
accepted datagram has been settled.
-/

namespace RtcVpn

/-! ## What is observed -/

namespace UdpAction

/-- The datagram that has been put into the send queue. -/
def acceptedItem : UdpAction → Option PendingSend
  | .accept item => some item
  | _ => none

/-- The datagram that has been sent, or dropped because its target does not resolve. -/
def settledItem : UdpAction → Option PendingSend
  | .sent item | .dropped item => some item
  | _ => none

/-- The datagram that has been handed to `async_send_to`. -/
def handedData : UdpAction → Option Bytes
  | .asyncSendTo data => some data
  | _ => none

/-- The host and the port whose resolution is begun. -/
def askedTarget : UdpAction → Option (Bytes × UInt16)
  | .asyncResolve host port => some (host, port)
  | _ => none

/-- A send or a receive has failed. -/
def isFailure : UdpAction → Bool
  | .sendError | .receiveError => true
  | _ => false

end UdpAction

/-- Where a datagram goes. -/
def PendingSend.target (item : PendingSend) : Bytes × UInt16 := (item.targetHost, item.targetPort)

/-- The resolution that completes, and whether it succeeds. -/
def UdpEvent.resolution : UdpEvent → Option Bool
  | .finishResolve _ (.ok _) => some true
  | .finishResolve _ (.error _) => some false
  | _ => none

/-- The handler of a resolution runs. -/
def UdpEvent.isOnResolve : UdpEvent → Bool
  | .onResolve _ => true
  | _ => false

/-- The results of the resolutions whose handlers have run. -/
def resolutions (es : List UdpEvent) : List Bool :=
  (es.filterMap UdpEvent.resolution).take (es.countP UdpEvent.isOnResolve)

/-- The datagrams whose own resolution has succeeded, in order. -/
def survivors : List PendingSend → List Bool → List Bytes
  | item :: items, ok :: results => (if ok then [item.data] else []) ++ survivors items results
  | _, _ => []

/-- More datagrams behind those that have been resolved make no difference. -/
theorem survivors_append {results : List Bool} {items : List PendingSend}
    (h : results.length ≤ items.length) (more : List PendingSend) :
    survivors (items ++ more) results = survivors items results := by
  induction items generalizing results with
  | nil =>
      obtain rfl : results = [] := List.length_eq_zero_iff.mp (Nat.le_zero.mp h)
      cases more <;> rfl
  | cons item items ih =>
      cases results with
      | nil => rfl
      | cons ok results =>
          simp only [List.length_cons, Nat.add_le_add_iff_right] at h
          show _ ++ survivors (items ++ more) results = _
          rw [ih h]
          rfl

/-- One more resolution decides on the first datagram behind those resolved. -/
theorem survivors_snoc {results : List Bool} {done : List PendingSend}
    (h : done.length = results.length) (item : PendingSend) (rest : List PendingSend) (ok : Bool) :
    survivors (done ++ item :: rest) (results ++ [ok]) =
      survivors (done ++ item :: rest) results ++ if ok then [item.data] else [] := by
  induction done generalizing results with
  | nil =>
      obtain rfl : results = [] := List.length_eq_zero_iff.mp h.symm
      simp [survivors]
  | cons first done ih =>
      cases results with
      | nil => cases h
      | cons ok' results =>
          simp only [List.length_cons, Nat.add_right_cancel_iff] at h
          show _ ++ survivors (done ++ item :: rest) (results ++ [ok]) = _
          rw [ih h, ← List.append_assoc]
          rfl

namespace UdpSocket

/-! ## The ledger -/

/-- Whether the operation has succeeded, if it has completed. -/
def resultOf : Operation Unit → Option Bool
  | .completed (.ok _) => some true
  | .completed (.error _) => some false
  | .pending => none

/-- The datagrams settled and the resolutions handled so far, and how they account for the
events, the actions and the members. A datagram being sent is resolved and not settled. -/
structure Ledger (done : List PendingSend) (results : List Bool) (es : List UdpEvent)
    (out : List UdpAction) (s : UdpSocket) : Prop where
  accepted : out.filterMap UdpAction.acceptedItem = done ++ s.sendQueue
  settled : out.filterMap UdpAction.settledItem = done
  finished : es.filterMap UdpEvent.resolution = results ++ s.resolves.filterMap resultOf
  handled : es.countP UdpEvent.isOnResolve = results.length
  handed : out.filterMap UdpAction.handedData = survivors (done ++ s.sendQueue) results
  asked : out.filterMap UdpAction.askedTarget =
    ((done ++ s.sendQueue).take (results.length + s.resolves.length)).map PendingSend.target
  length : results.length = done.length + s.sends.length

/-- The action neither accepts, nor asks for a target, nor hands over, nor settles. -/
def IdleAction (a : UdpAction) : Prop :=
  a.acceptedItem = none ∧ a.settledItem = none ∧ a.handedData = none ∧ a.askedTarget = none

/-- No action accepts, asks, hands over or settles. -/
def Idle (as : List UdpAction) : Prop := ∀ a ∈ as, IdleAction a

theorem Idle.accepted {as : List UdpAction} (h : Idle as) :
    as.filterMap UdpAction.acceptedItem = [] :=
  List.filterMap_eq_nil_iff.mpr fun a ha => (h a ha).1

theorem Idle.settled {as : List UdpAction} (h : Idle as) :
    as.filterMap UdpAction.settledItem = [] :=
  List.filterMap_eq_nil_iff.mpr fun a ha => (h a ha).2.1

theorem Idle.handed {as : List UdpAction} (h : Idle as) :
    as.filterMap UdpAction.handedData = [] :=
  List.filterMap_eq_nil_iff.mpr fun a ha => (h a ha).2.2.1

theorem Idle.asked {as : List UdpAction} (h : Idle as) :
    as.filterMap UdpAction.askedTarget = [] :=
  List.filterMap_eq_nil_iff.mpr fun a ha => (h a ha).2.2.2

theorem mem_shutdown_actions {s : UdpSocket} {a : UdpAction} (h : a ∈ s.shutdownActions) :
    a = .closeSocket ∨ a = .closeCallback := by
  unfold shutdownActions callbackAction at h
  split at h
  · cases h
  · rcases List.mem_append.mp h with h | h
    · split at h
      · exact .inl (List.mem_singleton.mp h)
      · cases h
    · split at h
      · exact .inr (List.mem_singleton.mp h)
      · cases h

theorem idle_shutdown_actions (s : UdpSocket) : Idle s.shutdownActions := by
  intro a ha
  rcases mem_shutdown_actions ha with rfl | rfl <;> exact ⟨rfl, rfl, rfl, rfl⟩

theorem idle_nil : Idle [] := fun _ ha => by cases ha

theorem Idle.cons {a : UdpAction} {as : List UdpAction} (ha : IdleAction a) (h : Idle as) :
    Idle (a :: as) := by
  intro b hb
  rcases List.mem_cons.mp hb with rfl | hb
  · exact ha
  · exact h b hb

theorem idle_callback_action {isSet : Bool} {a : UdpAction} (ha : IdleAction a) :
    Idle (callbackAction isSet a) := by
  cases isSet with
  | true => exact .cons ha idle_nil
  | false => exact idle_nil

theorem Idle.append {as bs : List UdpAction} (ha : Idle as) (hb : Idle bs) : Idle (as ++ bs) := by
  intro a h
  rcases List.mem_append.mp h with h | h
  · exact ha a h
  · exact hb a h

variable {done : List PendingSend} {results : List Bool} {es : List UdpEvent}
  {out new : List UdpAction} {s t : UdpSocket} {e : UdpEvent}

/-- A step that leaves the queue and the resolutions alone keeps the ledger. -/
theorem Ledger.congr (h : Ledger done results es out s) (hqueue : t.sendQueue = s.sendQueue)
    (hresolves : t.resolves = s.resolves) (hsends : t.sends.length = s.sends.length)
    (hnew : Idle new) (hresolution : e.resolution = none)
    (hresolve : e.isOnResolve = false) : Ledger done results (es ++ [e]) (out ++ new) t where
  accepted := by rw [List.filterMap_append, hnew.accepted, List.append_nil, hqueue, h.accepted]
  settled := by rw [List.filterMap_append, hnew.settled, List.append_nil, h.settled]
  finished := by
    rw [List.filterMap_append, hresolves, ← h.finished]
    simp [hresolution]
  handled := by
    rw [List.countP_append, h.handled]
    simp [hresolve]
  handed := by rw [List.filterMap_append, hnew.handed, List.append_nil, hqueue, h.handed]
  asked := by rw [List.filterMap_append, hnew.asked, List.append_nil, hqueue, hresolves, h.asked]
  length := by rw [hsends, h.length]

/-- The end of a send or of a failed resolution settles the front of the queue, with its operation
off the list. -/
theorem Ledger.end_of_send {settle : PendingSend → UdpAction} {r : Except QueueFault UdpSocket}
    (haccepted : out.filterMap UdpAction.acceptedItem = done ++ s.sendQueue)
    (hsettled : out.filterMap UdpAction.settledItem = done)
    (hfinished : es.filterMap UdpEvent.resolution = results)
    (hhandled : es.countP UdpEvent.isOnResolve = results.length)
    (hhanded : out.filterMap UdpAction.handedData = survivors (done ++ s.sendQueue) results)
    (hasked : out.filterMap UdpAction.askedTarget =
      ((done ++ s.sendQueue).take results.length).map PendingSend.target)
    (hlength : results.length = done.length + 1) (hresolves : s.resolves = [])
    (hsends : s.sends = []) (hsettle : ∀ item, (settle item).settledItem = some item ∧
      (settle item).acceptedItem = none ∧ (settle item).handedData = none ∧
      (settle item).askedTarget = none)
    (hend : EndOfSend s settle r new) :
    ∀ t, r = .ok t → ∃ done, Ledger done results es (out ++ new) t := by
  have hstep : ∀ {t item rest as}, s.sendQueue = item :: rest → t.sendQueue = rest →
      t.resolves.filterMap resultOf = [] → t.sends = [] →
      as.filterMap UdpAction.acceptedItem = [] → as.filterMap UdpAction.settledItem = [] →
      as.filterMap UdpAction.handedData = [] →
      as.filterMap UdpAction.askedTarget = (rest.take t.resolves.length).map PendingSend.target →
      Ledger (done ++ [item]) results es (out ++ settle item :: as) t := by
    intro t item rest as hqueue hrest hr hs hno hnone hnothing hnext
    obtain ⟨hsettle, haccept, hhand, hask⟩ := hsettle item
    have hsplit : done ++ s.sendQueue = (done ++ [item]) ++ t.sendQueue := by
      rw [hqueue, hrest, List.append_assoc]
      rfl
    refine ⟨?_, ?_, ?_, hhandled, ?_, ?_, ?_⟩
    · rw [List.filterMap_append, haccepted, List.filterMap_cons_none haccept, hno,
        List.append_nil, hsplit]
    · rw [List.filterMap_append, hsettled, List.filterMap_cons_some hsettle, hnone]
    · rw [hr, List.append_nil, hfinished]
    · rw [List.filterMap_append, hhanded, List.filterMap_cons_none hhand, hnothing,
        List.append_nil, hsplit]
    · have hdone : (done ++ [item]).length = results.length := by simp [hlength]
      rw [List.filterMap_append, hasked, List.filterMap_cons_none hask, hnext, hsplit, hrest,
        ← hdone, List.take_left, List.take_length_add_append, ← List.map_append]
    · rw [hs, hlength, List.length_append]
      rfl
  cases hend with
  | underflow hempty => exact fun t ht => by cases ht
  | next item following rest hqueue =>
      intro t ht
      cases ht
      exact ⟨_, hstep hqueue rfl (by simp [beginResolve, hresolves, resultOf]) hsends
        rfl rfl rfl (by simp [beginResolve, hresolves]; rfl)⟩
  | last item hqueue hclosing =>
      intro t ht
      cases ht
      exact ⟨_, hstep hqueue rfl (by simp [hresolves]) hsends rfl rfl rfl (by simp [hresolves])⟩
  | lastClose item hqueue hclosing =>
      intro t ht
      cases ht
      have hidle := idle_shutdown_actions s
      refine ⟨_, hstep hqueue (by simp) (by simp [hresolves]) ?_ hidle.accepted hidle.settled
        hidle.handed (by simpa [hresolves] using hidle.asked)⟩
      rw [← List.length_eq_zero_iff, shutdown_sends_length]
      exact List.length_eq_zero_iff.mpr hsends

/-- The only resolution there is has completed. -/
theorem SendSide.resolves_eq (h : SendSide s) {i : Nat} {r : Except IoError Unit}
    (hresult : Operation.resultAt s.resolves i = some r) :
    s.resolves = [.completed r] ∧ s.resolves.eraseIdx i = [] := by
  obtain ⟨hnone, -⟩ := h.resolving_of_result hresult
  have hlength := Operation.length_erase_result hresult
  rw [hnone] at hlength
  obtain ⟨op, hop⟩ := List.length_eq_one_iff.mp hlength.symm
  have hmem := Operation.mem_of_result_at hresult
  rw [hop, List.mem_singleton] at hmem
  exact ⟨by rw [hop, hmem], hnone⟩

/-- A pending resolution is the only one there is. -/
theorem SendSide.pending_eq (h : SendSide s) {i : Nat}
    (hpending : Operation.pendingAt s.resolves i = true) : s.resolves = [.pending] ∧ i = 0 := by
  have hget : s.resolves[i]? = some .pending := by
    unfold Operation.pendingAt at hpending
    split at hpending
    · assumption
    · cases hpending
  have hone : s.resolves.length = 1 := by
    cases h with
    | resolving hresolves _ _ _ => exact hresolves
    | idle hresolves _ _ _ => simp [hresolves] at hget
    | transmitting hresolves _ _ _ => simp [hresolves] at hget
    | abandoned hresolves _ _ => simp [hresolves] at hget
  obtain ⟨op, hop⟩ := List.length_eq_one_iff.mp hone
  rw [hop] at hget ⊢
  cases i with
  | zero =>
      cases hget
      exact ⟨rfl, rfl⟩
  | succ i => simp at hget

/-- What is being sent is at the front of the queue. -/
theorem Ledger.results_length (h : Ledger done results es out s) (hside : SendSide s) :
    s.isClosed = true ∨ results.length ≤ (done ++ s.sendQueue).length := by
  have hlength := h.length
  rw [List.length_append]
  cases hside with
  | idle _ hsends _ _ => simp [hlength, hsends]
  | resolving _ hsends _ _ => simp [hlength, hsends]
  | transmitting _ hsends hqueue _ =>
      have hfront := List.length_pos_iff.mpr hqueue
      omega
  | abandoned _ _ hclosed => exact .inl hclosed

/-- While a datagram is being sent, the one asked for is in the queue. -/
theorem Ledger.asked_length (h : Ledger done results es out s) (hside : SendSide s)
    (hsending : s.isSending = true) (hclosed : s.isClosed = false) :
    results.length + s.resolves.length ≤ (done ++ s.sendQueue).length := by
  have hlength := h.length
  rw [List.length_append]
  cases hside with
  | idle _ _ _ h => exact absurd (hsending.symm.trans h) (by simp)
  | resolving hresolves hsends hqueue _ =>
      have hfront := List.length_pos_iff.mpr hqueue
      rw [hsends] at hlength
      simp only [List.length_nil] at hlength
      omega
  | transmitting hresolves hsends hqueue _ =>
      have hfront := List.length_pos_iff.mpr hqueue
      simp only [hresolves, List.length_nil]
      omega
  | abandoned _ _ h => exact absurd (hclosed.symm.trans h) (by simp)

/-- Accepting a datagram keeps the ledger. -/
theorem Ledger.accept {as : List UdpAction} {item : PendingSend}
    (h : Ledger done results es out s) (hside : SendSide s) (hclosed : s.isClosed = false)
    (hqueue : t.sendQueue = s.sendQueue ++ [item])
    (hresolves : t.resolves.filterMap resultOf = s.resolves.filterMap resultOf)
    (hsends : t.sends = s.sends) (haccepted : as.filterMap UdpAction.acceptedItem = [])
    (hsettled : as.filterMap UdpAction.settledItem = [])
    (hhanded : as.filterMap UdpAction.handedData = [])
    (hasked : out.filterMap UdpAction.askedTarget ++ as.filterMap UdpAction.askedTarget =
      ((done ++ t.sendQueue).take (results.length + t.resolves.length)).map PendingSend.target) :
    Ledger done results (es ++ [.send item]) (out ++ .accept item :: as) t where
  accepted := by
    rw [List.filterMap_append, h.accepted, hqueue, List.append_assoc]
    simp [UdpAction.acceptedItem, haccepted]
  settled := by
    rw [List.filterMap_append, h.settled]
    rw [List.filterMap_cons_none rfl, hsettled, List.append_nil]
  finished := by
    rw [List.filterMap_append, hresolves, ← h.finished]
    simp [UdpEvent.resolution]
  handled := by
    rw [List.countP_append, h.handled]
    simp [UdpEvent.isOnResolve]
  handed := by
    have hshort := (h.results_length hside).resolve_left (by simp [hclosed])
    rw [List.filterMap_append, h.handed, hqueue, ← List.append_assoc, survivors_append hshort]
    rw [List.filterMap_cons_none rfl, hhanded, List.append_nil]
  asked := by rw [List.filterMap_append, List.filterMap_cons_none rfl, hasked]
  length := by rw [hsends, h.length]

/-- The first datagram of an idle socket is asked for at once. -/
theorem Ledger.send_first {item front : PendingSend} {rest : List PendingSend}
    (h : Ledger done results es out s) (hside : SendSide s) (hclosed : s.isClosed = false)
    (hsending : s.isSending = false) (hfront : s.sendQueue ++ [item] = front :: rest) :
    Ledger done results (es ++ [.send item])
      (out ++ [.accept item, .asyncResolve front.targetHost front.targetPort])
      (beginResolve { s with sendQueue := front :: rest, isSending := true }) := by
  cases hside with
  | idle hresolves hsends hqueue _ =>
      rw [hqueue, List.nil_append, List.cons.injEq] at hfront
      obtain ⟨rfl, rfl⟩ := hfront
      have hlength := h.length
      have hasked := h.asked
      rw [hsends] at hlength
      rw [hresolves, hqueue] at hasked
      refine h.accept (.idle hresolves hsends hqueue hsending) hclosed ?_
        (by simp [beginResolve, resultOf]) rfl rfl rfl rfl ?_
      · rw [hqueue]
        rfl
      · rw [hasked]
        simp [beginResolve, hresolves, hlength, UdpAction.askedTarget, PendingSend.target]
  | resolving _ _ _ h => exact absurd (hsending.symm.trans h) (by simp)
  | transmitting _ _ _ h => exact absurd (hsending.symm.trans h) (by simp)
  | abandoned _ _ h => exact absurd (hclosed.symm.trans h) (by simp)

/-- The handler of a resolution that has failed drops the front of the queue. -/
theorem Ledger.resolve_failed {i : Nat} {error : IoError} (h : Ledger done results es out s)
    (hside : SendSide s) (hresult : Operation.resultAt s.resolves i = some (.error error))
    (hend : EndOfSend { s with resolves := s.resolves.eraseIdx i } .dropped (.ok t) new) :
    ∃ done results, Ledger done results (es ++ [.onResolve i]) (out ++ new) t := by
  obtain ⟨hresolves, hnone⟩ := hside.resolves_eq hresult
  obtain ⟨-, hsends, -, -⟩ := hside.resolving_of_result hresult
  have hlength := h.length
  rw [hsends] at hlength
  have hfinished :
      (es ++ [UdpEvent.onResolve i]).filterMap UdpEvent.resolution = results ++ [false] := by
    rw [List.filterMap_append, h.finished, hresolves]
    exact List.append_nil _
  have hhandled : (es ++ [UdpEvent.onResolve i]).countP UdpEvent.isOnResolve =
      (results ++ [false]).length := by
    rw [List.countP_append, h.handled, List.length_append]
    rfl
  have hhanded : out.filterMap UdpAction.handedData =
      survivors (done ++ s.sendQueue) (results ++ [false]) := by
    cases hqueue : s.sendQueue with
    | nil => exact absurd hqueue (hside.resolving_of_result hresult).2.2.1
    | cons item rest =>
        rw [survivors_snoc (by simpa using hlength.symm), ← hqueue, h.handed]
        simp
  have hasked : out.filterMap UdpAction.askedTarget =
      ((done ++ s.sendQueue).take (results ++ [false]).length).map PendingSend.target := by
    rw [h.asked, hresolves, List.length_append]
    rfl
  obtain ⟨done', hledger⟩ := Ledger.end_of_send
    (s := { s with resolves := s.resolves.eraseIdx i }) h.accepted h.settled hfinished hhandled
    hhanded hasked (by simpa using hlength) hnone hsends
    (fun _ => by exact ⟨rfl, rfl, rfl, rfl⟩) hend _ rfl
  exact ⟨_, _, hledger⟩

/-- The handler of a resolution that has succeeded hands the front of the queue over. -/
theorem Ledger.resolved {i : Nat} {item : PendingSend} {rest : List PendingSend}
    (h : Ledger done results es out s) (hside : SendSide s)
    (hresult : Operation.resultAt s.resolves i = some (.ok ()))
    (hqueue : s.sendQueue = item :: rest) :
    Ledger done (results ++ [true]) (es ++ [.onResolve i]) (out ++ [.asyncSendTo item.data])
      (beginSend { s with resolves := s.resolves.eraseIdx i } item) := by
  obtain ⟨hresolves, hnone⟩ := hside.resolves_eq hresult
  obtain ⟨-, hsends, -, -⟩ := hside.resolving_of_result hresult
  have hlength := h.length
  rw [hsends] at hlength
  refine ⟨?_, ?_, ?_, ?_, ?_, ?_, ?_⟩
  · rw [List.filterMap_append, h.accepted]
    exact List.append_nil _
  · rw [List.filterMap_append, h.settled]
    exact List.append_nil _
  · show _ = results ++ [true] ++ (s.resolves.eraseIdx i).filterMap resultOf
    rw [List.filterMap_append, h.finished, hnone, hresolves]
    rfl
  · rw [List.countP_append, h.handled, List.length_append]
    rfl
  · rw [List.filterMap_append, h.handed]
    show _ = survivors (done ++ s.sendQueue) (results ++ [true])
    rw [hqueue, survivors_snoc (by simpa using hlength.symm)]
    rfl
  · show _ = ((done ++ s.sendQueue).take ((results ++ [true]).length +
      (s.resolves.eraseIdx i).length)).map PendingSend.target
    rw [List.filterMap_append, h.asked, hnone, hresolves, List.length_append]
    exact List.append_nil _
  · simp [beginSend, hsends, hlength]

/-- The handler of a send that has succeeded takes the front off the queue. -/
theorem Ledger.sent {i : Nat} (h : Ledger done results es out s) (hside : SendSide s)
    (hresult : Operation.resultAt (s.sends.map Prod.snd) i = some (.ok ()))
    (hend : EndOfSend { s with sends := s.sends.eraseIdx i } .sent (.ok t) new) :
    ∃ done, Ledger done results (es ++ [.onSend i]) (out ++ new) t := by
  obtain ⟨hresolves, hnone, -, -⟩ := hside.transmitting_of_result hresult
  have hone : s.sends.length = 1 := by
    have hlt := Operation.lt_of_result_at hresult
    rw [List.length_map] at hlt
    have herase := congrArg List.length hnone
    rw [List.length_eraseIdx_of_lt hlt] at herase
    simp only [List.length_nil] at herase
    omega
  have hfinished : (es ++ [UdpEvent.onSend i]).filterMap UdpEvent.resolution = results := by
    rw [List.filterMap_append, h.finished, hresolves]
    simp [UdpEvent.resolution]
  have hhandled : (es ++ [UdpEvent.onSend i]).countP UdpEvent.isOnResolve = results.length := by
    rw [List.countP_append, h.handled]
    rfl
  have hasked : out.filterMap UdpAction.askedTarget =
      ((done ++ s.sendQueue).take results.length).map PendingSend.target := by
    rw [h.asked, hresolves]
    rfl
  obtain ⟨done', hledger⟩ := Ledger.end_of_send
    (s := { s with sends := s.sends.eraseIdx i }) h.accepted h.settled hfinished hhandled
    h.handed hasked (by rw [h.length, hone]) hresolves hnone
    (fun _ => by exact ⟨rfl, rfl, rfl, rfl⟩) hend _ rfl
  exact ⟨_, hledger⟩

/-- As long as nothing fails, every step keeps the ledger. -/
theorem Ledger.step (h : Ledger done results es out s) (hside : SendSide s)
    (henabled : s.enabled e = true) (hstep : UdpStep s e (.ok t) new)
    (hfine : ∀ a ∈ new, a.isFailure = false) :
    ∃ done results, Ledger done results (es ++ [e]) (out ++ new) t := by
  have hidle : ∀ {a : UdpAction}, IdleAction a → Idle [a] := fun ha => .cons ha idle_nil
  cases hstep with
  | openFailed =>
      exact ⟨_, _, h.congr rfl rfl rfl (.cons ⟨rfl, rfl, rfl, rfl⟩
        (idle_callback_action ⟨rfl, rfl, rfl, rfl⟩)) rfl rfl⟩
  | bindFailed =>
      exact ⟨_, _, h.congr rfl rfl rfl (.cons ⟨rfl, rfl, rfl, rfl⟩ (.cons ⟨rfl, rfl, rfl, rfl⟩
        (idle_callback_action ⟨rfl, rfl, rfl, rfl⟩))) rfl rfl⟩
  | started =>
      exact ⟨_, _, h.congr rfl rfl rfl (.cons ⟨rfl, rfl, rfl, rfl⟩ (.cons ⟨rfl, rfl, rfl, rfl⟩
        ((idle_callback_action ⟨rfl, rfl, rfl, rfl⟩).append (hidle ⟨rfl, rfl, rfl, rfl⟩)))) rfl rfl⟩
  | sendQueued item hclosing hclosed hsending =>
      have hshort := h.asked_length hside hsending hclosed
      refine ⟨_, _, h.accept hside hclosed rfl rfl rfl rfl rfl rfl ?_⟩
      rw [List.filterMap_nil, List.append_nil, h.asked]
      show _ = ((done ++ (s.sendQueue ++ [item])).take _).map _
      rw [← List.append_assoc, List.take_append_of_le_length hshort]
  | sendFirst item front rest hclosing hclosed hsending hfront =>
      exact ⟨_, _, h.send_first hside hclosed hsending hfront⟩
  | closeNow =>
      exact ⟨_, _, h.congr (by simp) (by simp) (by simp) (idle_shutdown_actions s) rfl rfl⟩
  | startReadingNow => exact ⟨_, _, h.congr rfl rfl rfl (hidle ⟨rfl, rfl, rfl, rfl⟩) rfl rfl⟩
  | finishResolve i r =>
      obtain ⟨hresolves, rfl⟩ := hside.pending_eq henabled
      refine ⟨_, _, ?_, ?_, ?_, ?_, ?_, ?_, h.length⟩
      · rw [List.append_nil, h.accepted]
      · rw [List.append_nil, h.settled]
      · rw [List.filterMap_append, h.finished, hresolves]
        cases r <;> simp [UdpEvent.resolution, resultOf]
      · rw [List.countP_append, h.handled]
        rfl
      · rw [List.append_nil, h.handed]
      · rw [List.append_nil, h.asked, List.length_set]
  | finishSend i r =>
      refine ⟨_, _, h.congr rfl rfl (by simp) idle_nil rfl rfl⟩
  | resolveFailed i error _ _ hresult hend =>
      exact h.resolve_failed hside hresult hend
  | resolved i item rest hresult hqueue =>
      exact ⟨_, _, h.resolved hside hresult hqueue⟩
  | sendFailed => exact absurd (hfine .sendError (.head _)) (by simp [UdpAction.isFailure])
  | readFailed => exact absurd (hfine .receiveError (.head _)) (by simp [UdpAction.isFailure])
  | sent i _ _ hresult hend =>
      obtain ⟨_, hledger⟩ := h.sent hside hresult hend
      exact ⟨_, _, hledger⟩
  | readLast =>
      exact ⟨_, _, h.congr rfl rfl rfl (idle_callback_action ⟨rfl, rfl, rfl, rfl⟩) rfl rfl⟩
  | readAgain =>
      exact ⟨_, _, h.congr rfl rfl rfl ((idle_callback_action ⟨rfl, rfl, rfl, rfl⟩).append
        (hidle ⟨rfl, rfl, rfl, rfl⟩)) rfl rfl⟩
  | _ => exact ⟨_, _, h.congr rfl rfl rfl idle_nil rfl rfl⟩

/-! ## The close -/

@[simp] theorem shutdown_is_open (s : UdpSocket) : s.shutdown.isOpen = s.isOpen := by
  unfold shutdown
  split
  · rfl
  · split <;> rfl

/-- The end of a send leaves the socket as open as it was, with no more in the queue. -/
theorem EndOfSend.unopened {settle : PendingSend → UdpAction}
    (h : EndOfSend s settle (.ok t) new) :
    t.isOpen = s.isOpen ∧ (s.sendQueue = [] → t.sendQueue = []) := by
  cases h with
  | next item following rest hqueue => exact ⟨rfl, fun hempty => by simp [hqueue] at hempty⟩
  | last => exact ⟨rfl, fun _ => rfl⟩
  | lastClose => exact ⟨by simp, fun _ => by simp⟩

/-- Before the socket has been opened nothing is queued. -/
theorem unopened_step (hrun : udpSocket.step (.ok s) e = some (.ok t, new))
    (hs : s.isOpen = false → s.sendQueue = []) : t.isOpen = false → t.sendQueue = [] := by
  obtain ⟨_, hsame, hstep⟩ := udp_socket_step hrun
  cases hsame
  have hsend : ∀ {item}, e = .send item → t.isOpen = false → s.isOpen = t.isOpen →
      t.sendQueue = [] := by
    rintro item rfl ht hopen
    obtain ⟨_, hsame, -, hresult, -⟩ := Effect.machine_step_eq_some hrun
    cases hsame
    rw [ht] at hopen
    have hkept : (handle (.send item)).run s = ⟨s, [], .ok ()⟩ := by simp [handle, sendTask, hopen]
    rw [hkept] at hresult
    cases hresult
    exact hs hopen
  cases hstep with
  | started => exact fun ht => by cases ht
  | sendQueued | sendFirst => exact fun ht => hsend rfl ht rfl
  | closeNow | readFailed | sendFailed => simpa using hs
  | resolveFailed _ _ _ _ _ hend | sent _ _ _ _ hend =>
      obtain ⟨hopen, hqueue⟩ := hend.unopened
      exact fun ht => hqueue (hs (hopen.symm.trans ht))
  | _ => exact hs

theorem count_shutdown_actions (s : UdpSocket) :
    s.shutdownActions.count .closeCallback ≤ if s.isClosed then 0 else 1 := by
  unfold shutdownActions callbackAction
  cases s.isClosed <;> cases s.socketOpen <;> cases s.callbacks.close <;> decide

/-- A callback of another kind is no close callback. -/
theorem close_not_mem_callback_action {isSet : Bool} {a : UdpAction} (ha : a ≠ .closeCallback) :
    .closeCallback ∉ callbackAction isSet a := by
  cases isSet <;> simp [callbackAction, ha.symm]

/-- A step calls the close callback only if it closes the socket, and then once. -/
theorem UdpStep.close_callback {r : Except QueueFault UdpSocket} (h : UdpStep s e r new) :
    .closeCallback ∉ new ∨ (new.count .closeCallback ≤ (if s.isClosed then 0 else 1) ∧
      ∀ t, r = .ok t → t.isClosed = true ∧ ((s.isOpen = false → s.sendQueue = []) →
        t.sendQueue = [] ∨ ∃ a ∈ new, a.isFailure = true)) := by
  have hcount := count_shutdown_actions s
  have hend : ∀ {s' : UdpSocket} {settle : PendingSend → UdpAction}, EndOfSend s' settle r new →
      s'.isClosed = s.isClosed → s'.shutdownActions = s.shutdownActions →
      (∀ item, settle item ≠ .closeCallback) → .closeCallback ∉ new ∨
      (new.count .closeCallback ≤ (if s.isClosed then 0 else 1) ∧
        ∀ t, r = .ok t → t.isClosed = true ∧ ((s.isOpen = false → s.sendQueue = []) →
          t.sendQueue = [] ∨ ∃ a ∈ new, a.isFailure = true)) := by
    intro s' settle hend hclosed hactions hsettle
    cases hend with
    | underflow => exact .inl (by simp)
    | next item | last item => exact .inl (by simp [(hsettle item).symm])
    | lastClose item =>
        right
        rw [List.count_cons_of_ne (hsettle item), hactions]
        refine ⟨hcount, fun t ht => ?_⟩
        cases ht
        exact ⟨by simp, fun _ => .inl (by simp)⟩
  cases h with
  | openFailed | bindFailed =>
      exact .inl (by simpa using close_not_mem_callback_action (by simp))
  | started => exact .inl (by simpa using close_not_mem_callback_action (by simp))
  | closeNow hclosing hclosed hidle =>
      refine .inr ⟨hcount, fun t ht => ?_⟩
      cases ht
      refine ⟨by simp, fun hs => .inl ?_⟩
      rcases hidle with hopen | ⟨-, hqueue⟩
      · simpa using hs hopen
      · simpa using hqueue
  | resolveFailed i error _ _ _ h => exact hend h rfl rfl (by simp)
  | sendFailed =>
      refine .inr ⟨by rw [List.count_cons_of_ne (by simp)]; exact hcount, fun t ht => ?_⟩
      cases ht
      exact ⟨by simp, fun _ => .inr ⟨_, .head _, rfl⟩⟩
  | readFailed =>
      refine .inr ⟨by rw [List.count_cons_of_ne (by simp)]; exact hcount, fun t ht => ?_⟩
      cases ht
      exact ⟨by simp, fun _ => .inr ⟨_, .head _, rfl⟩⟩
  | sent i _ _ _ h => exact hend h rfl rfl (by simp)
  | readLast => exact .inl (close_not_mem_callback_action (by simp))
  | readAgain => exact .inl (by simpa using close_not_mem_callback_action (by simp))
  | _ => exact .inl (by simp)

/-- A closed socket stays closed. -/
theorem UdpStep.stays_closed (h : UdpStep s e (.ok t) new) (hs : s.isClosed = true) :
    t.isClosed = true := by
  have hend : ∀ {s' : UdpSocket} {settle : PendingSend → UdpAction},
      EndOfSend s' settle (.ok t) new → s'.isClosed = true → t.isClosed = true := by
    intro s' settle hend hs'
    cases hend with
    | next | last => exact hs'
    | lastClose => simp
  cases h with
  | closeNow | readFailed | sendFailed => simp
  | resolveFailed i error _ _ _ h => exact hend h hs
  | sent i _ _ _ h => exact hend h hs
  | _ => exact hs

end UdpSocket

open UdpSocket

/-- As long as no send and no receive has failed. -/
def NoFailure (as : List UdpAction) : Prop := ∀ a ∈ as, a.isFailure = false

/-- A handler that calls the close callback, with nothing failed so far, leaves every accepted
datagram settled. -/
def ClosesSettled (callbacks : UdpCallbacks) (es : List UdpEvent) : Prop :=
  ∀ before e after x y taken new, es = before ++ e :: after →
    udpSocket.run (.ok (fresh callbacks)) before = some (x, taken) →
    udpSocket.step x e = some (y, new) → .closeCallback ∈ new → NoFailure (taken ++ new) →
    (taken ++ new).filterMap UdpAction.settledItem =
      (taken ++ new).filterMap UdpAction.acceptedItem

/-- What the send side of a socket does in a run: it stays alive, so that no empty queue is read
or popped, with one resolution or send in progress at most; until something fails it hands over
the accepted datagrams that have been resolved; and it closes once, with everything settled
unless something has failed. -/
structure SendSideCorrect (callbacks : UdpCallbacks) (es : List UdpEvent)
    (r : Except QueueFault UdpSocket) (out : List UdpAction) : Prop where
  single : ∃ s, r = .ok s ∧ s.resolves.length + s.sends.length ≤ 1
  handed : ∀ before after x taken, es = before ++ after →
    udpSocket.run (.ok (fresh callbacks)) before = some (x, taken) → NoFailure taken →
    taken.filterMap UdpAction.askedTarget <+:
        (taken.filterMap UdpAction.acceptedItem).map PendingSend.target ∧
      taken.filterMap UdpAction.handedData =
        survivors (taken.filterMap UdpAction.acceptedItem) (resolutions before)
  once : out.count .closeCallback ≤ 1
  settled : ClosesSettled callbacks es

/-- What holds at every point of a run. -/
structure Upkeep (es : List UdpEvent) (out : List UdpAction) (s : UdpSocket) : Prop where
  side : SendSide s
  unopened : s.isOpen = false → s.sendQueue = []
  ledger : NoFailure out → ∃ done results, Ledger done results es out s
  unclosed : s.isClosed = false → .closeCallback ∉ out
  once : out.count .closeCallback ≤ 1

theorem upkeep_run {callbacks : UdpCallbacks} {es : List UdpEvent}
    {r : Except QueueFault UdpSocket} {out : List UdpAction}
    (hrun : udpSocket.run (.ok (fresh callbacks)) es = some (r, out)) :
    ∃ s, r = .ok s ∧ Upkeep es out s := by
  refine Machine.run_induction (P := fun es out r => ∃ s, r = .ok s ∧ Upkeep es out s)
    ?_ ?_ hrun
  · exact ⟨_, rfl, .idle rfl rfl rfl rfl, fun _ => rfl, fun _ => ⟨[], [], rfl, rfl, rfl, rfl, rfl,
      rfl, rfl⟩, fun _ => by simp, by simp⟩
  · rintro es out _ e y new - ⟨s, rfl, h⟩ hstep
    obtain ⟨_, hs, hudp⟩ := udp_socket_step hstep
    cases hs
    obtain ⟨t, rfl, hside⟩ := h.side.step hudp
    obtain ⟨_, hs, henabled, -, -⟩ := Effect.machine_step_eq_some hstep
    cases hs
    refine ⟨t, rfl, hside, unopened_step hstep h.unopened, fun hfine => ?_, fun ht => ?_, ?_⟩
    · obtain ⟨done, results, hledger⟩ :=
        h.ledger fun a ha => hfine a (List.mem_append_left _ ha)
      exact hledger.step h.side henabled hudp fun a ha => hfine a (List.mem_append_right _ ha)
    · have hopen : s.isClosed = false := by
        by_contra hclosed
        rw [hudp.stays_closed (by simpa using hclosed)] at ht
        cases ht
      rw [List.mem_append, not_or]
      refine ⟨h.unclosed hopen, ?_⟩
      rcases hudp.close_callback with hnone | ⟨-, hclosed⟩
      · exact hnone
      · rw [(hclosed t rfl).1] at ht
        cases ht
    · rw [List.count_append]
      rcases hudp.close_callback with hnone | ⟨hcount, -⟩
      · rw [List.count_eq_zero_of_not_mem hnone]
        exact h.once
      · cases hclosed : s.isClosed with
        | true =>
            rw [hclosed] at hcount
            exact (Nat.add_le_add h.once hcount).trans (by simp)
        | false =>
            rw [List.count_eq_zero_of_not_mem (h.unclosed hclosed), Nat.zero_add]
            exact hcount.trans (by split <;> omega)

/-- In every run of a socket, whatever completes when and with what result, its send side does
what it should. -/
theorem udp_send_side_correct {callbacks : UdpCallbacks} {es : List UdpEvent}
    {r : Except QueueFault UdpSocket} {out : List UdpAction}
    (hrun : udpSocket.run (.ok (fresh callbacks)) es = some (r, out)) :
    SendSideCorrect callbacks es r out := by
  obtain ⟨s, rfl, h⟩ := upkeep_run hrun
  refine ⟨⟨s, rfl, ?_⟩, ?_, h.once, ?_⟩
  · cases h.side with
    | idle hresolves hsends _ _ => simp [hresolves, hsends]
    | resolving hresolves hsends _ _ => simp [hresolves, hsends]
    | transmitting hresolves hsends _ _ => simp [hresolves, hsends]
    | abandoned hresolves hsends _ => simp [hresolves, hsends]
  · intro before after x taken _ hbefore hfine
    obtain ⟨s, rfl, h⟩ := upkeep_run hbefore
    obtain ⟨done, results, hledger⟩ := h.ledger hfine
    have hresults : resolutions before = results := by
      rw [resolutions, hledger.finished, hledger.handled, List.take_left]
    rw [hledger.asked, hledger.accepted, hledger.handed, hresults]
    exact ⟨(List.take_prefix _ _).map _, rfl⟩
  · intro before e after x y taken new _ hbefore hstep hclose hfine
    have hafter := Machine.run_snoc.mpr ⟨_, _, _, hbefore, hstep, rfl⟩
    obtain ⟨s, rfl, h⟩ := upkeep_run hbefore
    obtain ⟨t, rfl, h'⟩ := upkeep_run hafter
    obtain ⟨done, results, hledger⟩ := h'.ledger hfine
    obtain ⟨_, hs, hudp⟩ := udp_socket_step hstep
    cases hs
    have hempty : t.sendQueue = [] := by
      obtain ⟨-, hclosed⟩ := hudp.close_callback.resolve_left (by simpa using hclose)
      rcases (hclosed t rfl).2 h.unopened with hqueue | ⟨a, ha, hfailure⟩
      · exact hqueue
      · rw [hfine a (List.mem_append_right _ ha)] at hfailure
        cases hfailure
    rw [hledger.settled, hledger.accepted, hempty, List.append_nil]

/-- Two datagrams are accepted, the target of the first does not resolve, and the socket is closed
once the second has been sent. -/
theorem udp_send_side_two_datagrams :
    ∃ r out, udpSocket.run (.ok (fresh {})) [.start true true, .send ⟨[0x61], 53, [1]⟩,
        .send ⟨[0x62], 53, [2]⟩, .close, .finishResolve 0 (.error (.other 1)), .onResolve 0,
        .finishResolve 0 (.ok ()), .onResolve 0, .finishSend 0 (.ok ()), .onSend 0] =
          some (r, out) ∧
      .closeCallback ∈ out ∧ out.filterMap UdpAction.handedData = [[2]] ∧
      SendSideCorrect {} [.start true true, .send ⟨[0x61], 53, [1]⟩,
        .send ⟨[0x62], 53, [2]⟩, .close, .finishResolve 0 (.error (.other 1)), .onResolve 0,
        .finishResolve 0 (.ok ()), .onResolve 0, .finishSend 0 (.ok ()), .onSend 0] r out :=
  ⟨_, _, rfl, by decide, by decide, udp_send_side_correct rfl⟩

end RtcVpn
