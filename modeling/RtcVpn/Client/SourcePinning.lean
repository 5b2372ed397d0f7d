import RtcVpn.Client.UdpSession

/-!
# The source of a relay's datagrams

The data callback records the address of the first datagram and compares the
later ones with it, but a datagram it rejects replaces the record. The recorded
address is therefore that of the latest datagram, whoever sent it. `Trail` sums
up the datagrams of a history: the first address, the latest one, and the port
that replies go to.
-/

namespace RtcVpn

/-! ## What the datagrams so far amount to -/

/-- The address of the first datagram and that of the latest one, and the port of the latest
accepted one. A datagram is accepted if it is the first or comes from the recorded address. -/
structure Trail where
  first : Bytes
  latest : Bytes
  port : UInt16
  deriving DecidableEq, Repr

/-- One more event. -/
def Trail.next (trail : Option Trail) : RelayEvent → Option Trail
  | .datagram host port _ =>
      match trail with
      | none => some ⟨host, host, port⟩
      | some t => some ⟨t.first, host, if host = t.latest then port else t.port⟩
  | _ => trail

/-- The trail of a history; there is none before the first datagram. -/
def trailOf (es : List RelayEvent) : Option Trail := es.foldl Trail.next none

@[simp] theorem trail_of_snoc (es : List RelayEvent) (e : RelayEvent) :
    trailOf (es ++ [e]) = Trail.next (trailOf es) e := by
  simp [trailOf]

/-- The source address of a datagram. -/
def RelayEvent.source : RelayEvent → Option Bytes
  | .datagram host _ _ => some host
  | _ => none

namespace UdpSession

open Effect

/-! ## The handlers -/

/-- The payload that `n` bytes in the receive buffer are relayed as, if they are. -/
def relayed (recvBuf : Nat → UInt8) (n : Nat) : Option Bytes :=
  match sendP2pData ⟨recvBufSize, recvBuf⟩ n with
  | .ok payload => payload
  | .error _ => none

/-- The reply a datagram from the tunnel is sent to the browser as, if it is. -/
def replyOf (payload : Bytes) : Option Bytes :=
  match decodeUdpPayload payload with
  | .ok (true, ⟨host, some port, data⟩) =>
      (makeAddressV4 host).map fun address => replyHeader address port ++ data
  | _ => none

/-- Sending a datagram into the tunnel changes nothing and emits what it is relayed as. -/
theorem run_send_datagram (s : UdpSession) (n : Nat) :
    ((sendDatagram n).run s).state = s ∧
      ((sendDatagram n).run s).actions =
        (relayed s.recvBuf n).toList.map fun payload => .sendData s.sessionId payload protocol := by
  simp only [sendDatagram, relayed, run_bind, run_get, andThen_ok, List.nil_append]
  rcases sendP2pData ⟨recvBufSize, s.recvBuf⟩ n with (_ | _) | (_ | payload) <;>
    exact ⟨rfl, rfl⟩

/-- The data callback rejects a datagram that does not come from the recorded address, but records
its address; any other it records and sends on. -/
theorem run_on_datagram (s : UdpSession) (host : Bytes) (port : UInt16) (n : Nat) :
    (onDatagram host port n).run s =
      if s.clientKnown = true ∧ host ≠ s.remoteIp then ⟨{ s with remoteIp := host }, [], .ok ()⟩
      else (sendDatagram n).run
        { s with remoteIp := host, remotePort := port, clientKnown := true } := by
  obtain ⟨sessionId, recvBuf, socket, isOpen, reading, clientKnown, remoteIp, remotePort⟩ := s
  cases clientKnown with
  | false => simp [onDatagram]
  | true =>
      by_cases hhost : host = remoteIp
      · subst hhost
        by_cases hport : port = remotePort
        · subst hport
          simp [onDatagram]
        · simp [onDatagram, hport]
      · simp [onDatagram, hhost]

/-- A datagram from the tunnel changes nothing and emits its reply, if the socket is there. -/
theorem run_rev_p2p_data (s : UdpSession) (payload : Bytes) :
    ((revP2pData payload).run s).state = s ∧
      ((revP2pData payload).run s).actions =
        if s.socket then (replyOf payload).toList.map fun reply =>
          .send reply s.remoteIp s.remotePort
        else [] := by
  unfold revP2pData replyOf
  rcases decodeUdpPayload payload with fault | ⟨ok, host, port, data⟩
  · simp
  · rcases ok with _ | _ <;> rcases port with _ | port <;> try simp
    cases makeAddressV4 host with
    | none => simp
    | some address => cases hsocket : s.socket <;> simp [hsocket]

/-! ## One step -/

/-- The members that a datagram may change. -/
def pin (s : UdpSession) : Bool × Bytes × UInt16 := (s.clientKnown, s.remoteIp, s.remotePort)

/-- What a relay holds and emits once it has handled a datagram. -/
theorem run_datagram (s : UdpSession) (host : Bytes) (port : UInt16) (data : Bytes) :
    pin ((handle (.datagram host port data)).run s).state =
        (true, host, if s.clientKnown = true ∧ host ≠ s.remoteIp then s.remotePort else port) ∧
      ((handle (.datagram host port data)).run s).actions =
        if s.clientKnown = true ∧ host ≠ s.remoteIp then []
        else (relayed (overlay data s.recvBuf) data.length).toList.map
          fun payload => .sendData s.sessionId payload protocol := by
  obtain ⟨r, hr⟩ : ∃ r : UdpSession,
      r = { s with recvBuf := overlay data s.recvBuf, reading := false } := ⟨_, rfl⟩
  -- what follows the callback only sets `reading`
  have hrun : pin ((handle (.datagram host port data)).run s).state =
        pin ((onDatagram host port data.length).run r).state ∧
      ((handle (.datagram host port data)).run s).actions =
        ((onDatagram host port data.length).run r).actions := by
    simp only [handle, run_bind, run_modify, andThen_ok, List.nil_append, swallow_state,
      swallow_actions, ← hr]
    rcases (onDatagram host port data.length).run r with ⟨t, out, _ | _⟩ <;> simp [pin]
  rw [hrun.1, hrun.2, run_on_datagram]
  subst hr
  by_cases hreject : s.clientKnown = true ∧ host ≠ s.remoteIp
  · rw [if_pos hreject, if_pos hreject, if_pos hreject]
    exact ⟨by rw [pin, hreject.1], rfl⟩
  · simp only [if_neg hreject]
    obtain ⟨hstate, hactions⟩ := run_send_datagram { s with
      recvBuf := overlay data s.recvBuf, reading := false, remoteIp := host, remotePort := port
      clientKnown := true } data.length
    rw [hstate, hactions]
    exact ⟨rfl, rfl⟩

/-- Any other event leaves those members alone; only a datagram from the tunnel makes the relay
send one, and none goes into the tunnel. -/
theorem run_other (s : UdpSession) {e : RelayEvent} (he : e.source = none) :
    pin ((handle e).run s).state = pin s ∧
      (∀ id payload p, .sendData id payload p ∉ ((handle e).run s).actions) ∧
      ∀ reply host port, .send reply host port ∈ ((handle e).run s).actions →
        host = s.remoteIp ∧ port = s.remotePort ∧
          ∃ payload, e = .revP2pData payload ∧ s.socket = true ∧ replyOf payload = some reply := by
  cases e with
  | datagram host port data => cases he
  | opened success => simp [handle, onOpen, pin]
  | queue status => simp [handle, onQueue, pin]
  | socketClosed => simp [handle, pin]
  | close => cases hsocket : s.socket <;> simp [handle, close, hsocket, pin]
  | revP2pData payload =>
      obtain ⟨hstate, hactions⟩ := run_rev_p2p_data s payload
      simp only [handle, swallow_state, swallow_actions, hstate, hactions]
      cases hsocket : s.socket with
      | false => simp
      | true =>
          cases hreply : replyOf payload with
          | none => simp [hreply]
          | some reply =>
              refine ⟨trivial, by simp, fun reply' host port hsent => ?_⟩
              cases List.mem_singleton.mp hsent
              exact ⟨rfl, rfl, payload, rfl, rfl, hreply⟩

/-- The members follow the trail of the events so far. -/
def Follows (s : UdpSession) (trail : Option Trail) : Prop :=
  s.clientKnown = trail.isSome ∧ ∀ t ∈ trail, s.remoteIp = t.latest ∧ s.remotePort = t.port

theorem Follows.next {s t : UdpSession} {trail : Option Trail} {e : RelayEvent}
    (h : Follows s trail) (ht : pin t = pin ((handle e).run s).state) :
    Follows t (Trail.next trail e) := by
  obtain ⟨hknown, hpinned⟩ := h
  cases hsource : e.source with
  | none =>
      have hsame : Trail.next trail e = trail := by cases e <;> first | rfl | cases hsource
      obtain ⟨hclient, hip, hport⟩ : t.clientKnown = s.clientKnown ∧ t.remoteIp = s.remoteIp ∧
          t.remotePort = s.remotePort := by
        rw [(run_other s hsource).1] at ht
        simpa [pin] using ht
      rw [hsame]
      exact ⟨hclient.trans hknown, fun u hu => by rw [hip, hport]; exact hpinned u hu⟩
  | some host =>
      cases e with
      | datagram host port data =>
          rw [(run_datagram s host port data).1] at ht
          obtain ⟨hclient, hip, hport⟩ : t.clientKnown = true ∧ t.remoteIp = host ∧
              t.remotePort = if s.clientKnown = true ∧ host ≠ s.remoteIp then s.remotePort
                else port := by
            simpa [pin] using ht
          cases trail with
          | none =>
              have hnew : ¬ s.clientKnown = true := by simp [hknown]
              refine ⟨hclient, fun u hu => ?_⟩
              cases hu
              exact ⟨hip, by rw [hport, if_neg fun h => hnew h.1]⟩
          | some u =>
              obtain ⟨hlatest, hlast⟩ := hpinned u rfl
              refine ⟨hclient, fun v hv => ?_⟩
              cases hv
              refine ⟨hip, hport.trans ?_⟩
              have hknown' : s.clientKnown = true := hknown
              by_cases hsame : host = u.latest
              · simp [hlatest, hsame]
              · simp [hlatest, hsame, hknown', hlast]
      | _ => cases hsource

theorem follows_run {sessionId : UInt32} {remotePort : UInt16} {es : List RelayEvent}
    {s : UdpSession} {out : List RelayAction}
    (hrun : udpSession.run (.ok (fresh sessionId remotePort)) es = some (.ok s, out)) :
    Follows s (trailOf es) := by
  refine Machine.run_induction (m := udpSession)
    (P := fun es _ x => ∀ s, x = .ok s → Follows s (trailOf es)) ?_ ?_ hrun s rfl
  · intro s hs
    cases hs
    exact ⟨rfl, fun t ht => by cases ht⟩
  · intro es out x e y new _ ih hstep t ht
    subst ht
    obtain ⟨s, rfl, _, hhandle⟩ := machine_step_alive hstep
    rw [trail_of_snoc]
    exact (ih s rfl).next (by rw [hhandle])

/-! ## The pin over a run -/

/-- Once there has been a datagram, one goes into the tunnel only if it comes from the address of
the first, and replies go only to that address, at the port of the latest accepted datagram. -/
def Pinned (before : List RelayEvent) (_ : Except RelayFault UdpSession) (e : RelayEvent)
    (_ : Except RelayFault UdpSession) (new : List RelayAction) : Prop :=
  ∀ trail ∈ trailOf before,
    (∀ id payload p, .sendData id payload p ∈ new → e.source = some trail.first) ∧
      ∀ reply host port, .send reply host port ∈ new → host = trail.first ∧ port = trail.port

/-- While the latest datagram is not from the address of the first, no datagram that would be
relayed comes from the address of the latest, and none from the tunnel that would be answered. -/
def PinSurvives (before : List RelayEvent) (_ : List RelayAction)
    (x : Except RelayFault UdpSession) (e : RelayEvent) : Prop :=
  ∀ s, x = .ok s → ∀ trail ∈ trailOf before, trail.latest ≠ trail.first →
    (∀ port data, e = .datagram trail.latest port data →
      relayed (overlay data s.recvBuf) data.length = none) ∧
    ∀ payload, e = .revP2pData payload → s.socket = true → replyOf payload = none

/-- A datagram is handled as the pin asks, exactly when it is accepted from the first address, is
rejected, or is not relayed. -/
theorem pinned_datagram_iff {s : UdpSession} {trail : Trail} (h : Follows s (some trail))
    (host : Bytes) (port : UInt16) (data : Bytes) :
    (∀ id payload p, .sendData id payload p ∈ ((handle (.datagram host port data)).run s).actions →
        host = trail.first) ↔
      (trail.latest ≠ trail.first → host = trail.latest →
        relayed (overlay data s.recvBuf) data.length = none) := by
  obtain ⟨hknown, hpinned⟩ := h
  have hlatest : s.remoteIp = trail.latest := (hpinned trail rfl).1
  have hclient : s.clientKnown = true := hknown
  rw [(run_datagram s host port data).2, hlatest, hclient]
  by_cases hsame : host = trail.latest
  · subst hsame
    cases relayed (overlay data s.recvBuf) data.length with
    | none => simp
    | some payload =>
        simp only [ne_eq, not_true_eq_false, and_false, ↓reduceIte, Option.toList, List.map_cons,
          List.map_nil, List.mem_singleton, reduceCtorEq]
        constructor
        · exact fun hfirst hne _ => hne (hfirst _ _ _ rfl)
        · exact fun hsurvives _ _ _ _ => by_contra fun hne => hsurvives hne trivial
  · simp [hsame]

/-- Another event is handled as the pin asks, exactly when it is no datagram that is answered while
the latest address is not the first. -/
theorem pinned_other_iff {s : UdpSession} {trail : Trail} (h : Follows s (some trail))
    {e : RelayEvent} (he : e.source = none) :
    (∀ reply host port, .send reply host port ∈ ((handle e).run s).actions →
        host = trail.first ∧ port = trail.port) ↔
      (trail.latest ≠ trail.first →
        ∀ payload, e = .revP2pData payload → s.socket = true → replyOf payload = none) := by
  obtain ⟨-, hpinned⟩ := h
  obtain ⟨hlatest, hport⟩ := hpinned trail rfl
  constructor
  · rintro hpin hne payload rfl hsocket
    cases hreply : replyOf payload with
    | none => rfl
    | some reply =>
        -- a reply goes to the recorded address
        have hsent : RelayAction.send reply s.remoteIp s.remotePort ∈
            ((handle (.revP2pData payload)).run s).actions := by
          simp [handle, (run_rev_p2p_data s payload).2, hsocket, hreply]
        exact absurd (hlatest.symm.trans (hpin _ _ _ hsent).1) hne
  · intro hsurvives reply host port hsent
    obtain ⟨-, -, honly⟩ := run_other s he
    obtain ⟨rfl, rfl, payload, rfl, hsocket, hreply⟩ := honly _ _ _ hsent
    refine ⟨?_, hport⟩
    by_contra hne
    have hnone := hsurvives (fun hsame => hne (hlatest.trans hsame)) payload rfl hsocket
    rw [hreply] at hnone
    cases hnone

/-- One step keeps the pin exactly when it meets the condition. -/
theorem pinned_iff {s : UdpSession} {before : List RelayEvent} {mid : List RelayAction}
    (h : Follows s (trailOf before)) {e : RelayEvent} {y : Except RelayFault UdpSession} :
    Pinned before (.ok s) e y ((handle e).run s).actions ↔ PinSurvives before mid (.ok s) e := by
  cases htrail : trailOf before with
  | none => simp [Pinned, PinSurvives, htrail]
  | some trail =>
      rw [htrail] at h
      simp only [Pinned, PinSurvives, htrail, Option.mem_def, Option.some.injEq, forall_eq',
        Except.ok.injEq]
      cases hsource : e.source with
      | none =>
          have hother := pinned_other_iff h hsource
          have hnodata := (run_other s hsource).2.1
          have hnot : ∀ port data, e ≠ .datagram trail.latest port data := by
            rintro port data rfl
            cases hsource
          constructor
          · intro hpin hne
            exact ⟨fun port data he => absurd he (hnot port data), hother.mp hpin.2 hne⟩
          · intro hsurvives
            exact ⟨fun id payload p hsent => absurd hsent (hnodata id payload p),
              hother.mpr fun hne => (hsurvives hne).2⟩
      | some host =>
          cases e with
          | datagram host port data =>
              cases hsource
              have hdatagram := pinned_datagram_iff h host port data
              have hnoreply : ∀ reply host' port', RelayAction.send reply host' port' ∉
                  ((handle (.datagram host port data)).run s).actions := by
                rw [(run_datagram s host port data).2]
                split <;> simp
              constructor
              · intro hpin hne
                refine ⟨?_, fun payload he => by cases he⟩
                rintro _ _ ⟨⟩
                refine hdatagram.mp (fun id payload p hsent => ?_) hne rfl
                exact Option.some.inj (hpin.1 id payload p hsent)
              · intro hsurvives
                refine ⟨fun id payload p hsent => ?_,
                  fun _ _ _ hsent => absurd hsent (hnoreply _ _ _)⟩
                refine congrArg some (hdatagram.mpr (fun hne hlatest => ?_) id payload p hsent)
                subst hlatest
                exact (hsurvives hne).1 port data rfl
          | _ => cases hsource

end UdpSession

open UdpSession

/-- In every run of a relay the pin holds at every step, if and only if it survives every datagram
that is rejected. -/
theorem source_pinned_iff {sessionId : UInt32} {remotePort : UInt16} {es : List RelayEvent}
    {r : Except RelayFault UdpSession} {out : List RelayAction}
    (hrun : udpSession.run (.ok (fresh sessionId remotePort)) es = some (r, out)) :
    udpSession.AllStepsAfter Pinned (.ok (fresh sessionId remotePort)) es ↔
      udpSession.Meets PinSurvives (.ok (fresh sessionId remotePort)) es := by
  refine Machine.all_steps_after_iff_meets hrun fun before mid x e y new hbefore hstep => ?_
  obtain ⟨s, rfl, _, _, rfl⟩ := Effect.machine_step_eq_some hstep
  exact pinned_iff (follows_run hbefore)

/-- A datagram of a request for 10.0.0.1:53 with one byte of data. -/
def queryDatagram : Bytes := [0x00, 0x00, 0x00, 0x01, 10, 0, 0, 1, 0, 53, 0x2A]

theorem source_pinned_one_browser :
    udpSession.AllStepsAfter Pinned (.ok (fresh 1 0))
      [.opened true, .datagram (text "10.0.0.2") 4000 queryDatagram,
        .revP2pData (encodeUdpPayload (text "10.0.0.1") 53 [0x2B])] := by
  obtain ⟨s, t, hopened, hrun, hall⟩ : ∃ s t,
      udpSession.run (.ok (fresh 1 0)) [.opened true] =
        some (.ok s, [.sendSynack 1 true .udpAssociate]) ∧
      udpSession.run (.ok (fresh 1 0))
        [.opened true, .datagram (text "10.0.0.2") 4000 queryDatagram] =
        some (.ok t, [.sendSynack 1 true .udpAssociate,
          .sendData 1 (encodeUdpPayload (text "10.0.0.1") 53 [0x2A]) .udpAssociate]) ∧
      ∃ u, udpSession.run (.ok (fresh 1 0))
        [.opened true, .datagram (text "10.0.0.2") 4000 queryDatagram,
          .revP2pData (encodeUdpPayload (text "10.0.0.1") 53 [0x2B])] =
        some (u, [.sendSynack 1 true .udpAssociate,
          .sendData 1 (encodeUdpPayload (text "10.0.0.1") 53 [0x2A]) .udpAssociate,
          .send [0x00, 0x00, 0x00, 0x01, 10, 0, 0, 1, 0, 53, 0x2B] (text "10.0.0.2") 4000]) :=
    ⟨_, _, rfl, rfl, _, rfl⟩
  obtain ⟨u, hall⟩ := hall
  refine (source_pinned_iff hall).mpr ?_
  have hfirst : udpSession.Meets PinSurvives (.ok (fresh 1 0)) [.opened true] := by
    refine (Machine.meets_nil _).snoc rfl fun _ _ trail htrail => ?_
    cases htrail
  have hsecond : udpSession.Meets PinSurvives (.ok (fresh 1 0))
      [.opened true, .datagram (text "10.0.0.2") 4000 queryDatagram] := by
    refine hfirst.snoc hopened fun _ _ trail htrail => ?_
    cases htrail
  refine hsecond.snoc hrun fun _ _ trail htrail hne => ?_
  cases htrail
  exact absurd rfl hne

/-- The second datagram of another host is relayed, and the reply to it goes there. -/
theorem second_foreign_datagram_is_relayed :
    ¬ udpSession.AllStepsAfter Pinned (.ok (fresh 1 0))
      [.opened true, .datagram (text "10.0.0.2") 4000 queryDatagram,
        .datagram (text "10.0.0.3") 5000 queryDatagram,
        .datagram (text "10.0.0.3") 5000 queryDatagram] := by
  intro h
  obtain ⟨s, out, u, hrun, hstep⟩ : ∃ s out u,
      udpSession.run (.ok (fresh 1 0))
        [.opened true, .datagram (text "10.0.0.2") 4000 queryDatagram,
          .datagram (text "10.0.0.3") 5000 queryDatagram] = some (s, out) ∧
      udpSession.step s (.datagram (text "10.0.0.3") 5000 queryDatagram) =
        some (u, [.sendData 1 (encodeUdpPayload (text "10.0.0.1") 53 [0x2A]) .udpAssociate]) :=
    ⟨_, _, _, rfl, rfl⟩
  have hpin := h [.opened true, .datagram (text "10.0.0.2") 4000 queryDatagram,
    .datagram (text "10.0.0.3") 5000 queryDatagram] _ [] _ _ _ _ rfl hrun hstep
  have hsource := (hpin ⟨text "10.0.0.2", text "10.0.0.3", 4000⟩ rfl).1 _ _ _ List.mem_cons_self
  exact absurd (Option.some.inj hsource) (by decide)

end RtcVpn
