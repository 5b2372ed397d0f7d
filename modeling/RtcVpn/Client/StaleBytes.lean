import RtcVpn.Client.Phases
import RtcVpn.Client.SourcePinning

/-!
# Bytes left over in the receive buffer

The handlers of the SOCKS5 handshake look at fixed offsets of the receive buffer
and at one that they find there, and none of them looks at how much has been
read. Where a read ends before such an offset, a byte of an earlier read is
taken for one of the request. The relay for datagrams compares the offsets with
the length of the datagram first.
-/

namespace RtcVpn

/-- A reply to the browser or a frame. -/
def ClientAction.isSeen : ClientAction → Bool
  | .tcpSend _ | .sendSyn _ _ _ _ | .sendData _ _ _ | .sendFin _ _ | .sendDataCtrl _ _ _ => true
  | _ => false

/-! ## What a read has to hold -/

/-- What `handle_socks_ipv4` looks at is in the read, if it runs. -/
def Ipv4Covered (data : Bytes) (consumed : Nat) : Prop :=
  consumed < data.length → 10 ≤ data.length

/-- What `handle_socks_domain` looks at is in the read, if it runs. -/
def DomainCovered (data : Bytes) (consumed : Nat) : Prop :=
  consumed < data.length → ∃ n, data[4]? = some n ∧ n.toNat + 7 ≤ data.length

/-- So it is with `handle_socks_tcp_udp` and the handler behind it. -/
def AddressCovered (data : Bytes) (consumed : Nat) : Prop :=
  consumed < data.length → ∃ atyp, data[3]? = some atyp ∧
    (atyp = 0x01 → Ipv4Covered data (consumed + 2)) ∧
    (atyp = 0x03 → DomainCovered data (consumed + 2))

/-- So it is with `handle_socks_methods` and the handlers behind it. -/
def MethodsCovered (data : Bytes) (consumed : Nat) : Prop :=
  consumed < data.length → ∃ cmd, data[1]? = some cmd ∧
    (cmd = 0x01 ∨ cmd = 0x03 → AddressCovered data (consumed + 2))

/-- A byte of a read stands in the buffer. -/
theorem overlay_of_get {data : Bytes} {i : Nat} {c : UInt8} (h : data[i]? = some c)
    (buf : Nat → UInt8) : overlay data buf i = c := by
  simp [overlay, h]

/-- Behind the read the buffer holds what it held. -/
theorem overlay_of_le {data : Bytes} {i : Nat} (h : data.length ≤ i) (buf : Nat → UInt8) :
    overlay data buf i = buf i := by
  simp [overlay, List.getElem?_eq_none h]

/-- In the read the buffer holds the read. -/
theorem overlay_eq_of_lt {data : Bytes} {i : Nat} (h : i < data.length) (buf buf' : Nat → UInt8) :
    overlay data buf i = overlay data buf' i := by
  rw [overlay_of_get (List.getElem?_eq_getElem h), overlay_of_get (List.getElem?_eq_getElem h)]

namespace Socks5Session

open Effect

variable {L : Llhttp} {β : Type}

/-- The session with other bytes in its receive buffer. -/
def holding (buf : Nat → UInt8) (s : Socks5Session L) : Socks5Session L :=
  { s with readBuf := buf }

/-- The next phase, the replies and the frames. -/
def seen (o : Outcome (Socks5Session L) ClientAction ClientFault β) : Phase × List ClientAction :=
  (o.state.phase, o.actions.filter ClientAction.isSeen)

/-- The bytes that a read has left in the buffer make no difference to what is seen. -/
def Unseen (x : Handler L β) (s : Socks5Session L) (data : Bytes) : Prop :=
  ∀ buf buf', seen (x.run (s.holding (overlay data buf))) =
    seen (x.run (s.holding (overlay data buf')))

/-- What the handlers that a read runs look at is in the read. -/
def Covered (s : Socks5Session L) (data : Bytes) : Prop :=
  match s.phase with
  | .waitGreetingVersion => data[0]? = some 0x05 → s.tcpSocket = true → MethodsCovered data 2
  | .waitSocksMethods => MethodsCovered data 0
  | .waitSocksTCP | .waitSocksUDP => AddressCovered data 0
  | .waitSocksIpv4 => Ipv4Covered data 0
  | .waitSocksDomain => DomainCovered data 0
  | _ => True

variable {s t : Socks5Session L} {data : Bytes} {k consumed : Nat}

/-! ## Handlers that do not look at the buffer -/

/-- Nothing is seen of the bytes in the buffer. -/
abbrev Blind (x : Handler L β) : Prop := ∀ buf, Ignores (holding buf) x

theorem Blind.unseen {x : Handler L β} (h : Blind x) (s : Socks5Session L) (data : Bytes) :
    Unseen x s data := by
  intro buf buf'
  rw [h, h]
  rfl

theorem blind_tcp_close : Blind (tcpClose : Handler L Unit) := by
  intro buf
  refine .get_bind (fun _ => rfl) fun s => .ite (.emit _) (.fail _)

theorem blind_request_remote_connect : Blind (requestRemoteConnect : Handler L Unit) :=
  fun _ _ => rfl

theorem blind_request_target (msg : Message) : Blind (requestTarget msg : Handler L Unit) := by
  intro buf
  refine .get_bind (fun _ => rfl) fun s => .ite (blind_tcp_close buf) ?_
  exact .bind (.modify fun _ => rfl) fun _ => blind_request_remote_connect buf

theorem blind_on_request_headers (msg : Message) :
    Blind (onRequestHeaders msg : Handler L Unit) := by
  intro buf
  refine .bind (.modify fun _ => rfl) fun _ => ?_
  split
  · split
    · exact .bind (.modify fun _ => rfl) fun _ => blind_request_target msg buf
    · exact .fail _
  · exact .bind (.modify fun _ => rfl) fun _ => blind_request_target msg buf

theorem blind_feed_request (data : Bytes) : Blind (feedRequest data : Handler L Unit) := by
  intro buf
  have hfeed : Ignores (holding buf) (requestSlot.feed requestCallbacks data : Handler L Bool) := by
    refine HttpSlot.ignores_feed (f := holding buf) _ _ (fun _ => rfl)
      (fun _ _ => rfl) ?_ ?_ ?_ ?_ ?_ data
    · rintro f msg ⟨⟩
      exact blind_on_request_headers msg buf
    · rintro f span ⟨⟩
    · rintro f ⟨⟩
    · rintro f code reason ⟨⟩
      exact blind_tcp_close buf
    · rintro f data ⟨⟩
  refine .get_bind (fun _ => rfl) fun s => .ite ?_ (.pure _)
  exact .bind hfeed fun _ => .modify fun _ => rfl

/-! ## The rest of a read -/

/-- What is left of `consume_pending` in the middle of its loop. -/
def consumeRest (data : Bytes) (turns consumed : Nat) : Handler L Unit := do
  consumeLoop data.length turns consumed
  feedRequest data

theorem run_feed_request_other (h : s.phase ≠ .waitHttpRequestHeaders) (data : Bytes) :
    (feedRequest data).run s = ⟨s, [], .ok ()⟩ := by
  simp [feedRequest, h]

/-- Where no handler is left, only the request parser may be. -/
theorem run_consume_rest_none (h : (handlerOf s.phase : Option (Handler L Nat)) = none) :
    (consumeRest data k consumed).run s = (feedRequest data).run s := by
  simp [consumeRest, run_consume_loop_none h]

/-- A read that has been consumed is done with. -/
theorem run_consume_rest_done (hphase : s.phase ≠ .waitHttpRequestHeaders)
    (h : data.length ≤ consumed) :
    (consumeRest data k consumed).run s = ⟨s, [], .ok ()⟩ := by
  have hloop : (consumeLoop data.length k consumed).run s = ⟨s, [], .ok ()⟩ := by
    cases k with
    | zero => rfl
    | succ k =>
        cases hp : (handlerOf s.phase : Option (Handler L Nat)) with
        | none => exact run_consume_loop_none hp _ _ _
        | some handler => simp [consumeLoop, hp, h]
  simp [consumeRest, hloop, run_feed_request_other hphase]

/-- A turn of the loop that does not end it. -/
theorem run_consume_rest_turn {handler : Handler L Nat} (hp : handlerOf s.phase = some handler)
    (h : consumed < data.length) {out : List ClientAction} {n : Nat}
    (hrun : handler.run s = ⟨t, out, .ok n⟩) (hphase : t.phase ≠ .closed) :
    (consumeRest data (k + 1) consumed).run s =
      andThen ⟨t, out, .ok ()⟩ fun _ => consumeRest data k (consumed + n) := by
  have hloop : (consumeLoop data.length (k + 1) consumed).run s =
      andThen ⟨t, out, .ok ()⟩ fun _ => consumeLoop data.length k (consumed + n) := by
    simp [consumeLoop, hp, Nat.not_le.mpr h, hrun, hphase]
  rw [consumeRest, run_bind, hloop]
  rcases hrest : (consumeLoop data.length k (consumed + n)).run t with ⟨u, more, _ | _⟩ <;>
    simp [consumeRest, hrest]

/-- A turn that refuses what the browser asks for. -/
theorem run_consume_rest_refuse {handler : Handler L Nat} (hp : handlerOf s.phase = some handler)
    (h : consumed < data.length) {out : List ClientAction} {n : Nat}
    (hrun : handler.run s = ⟨t, out, .ok n⟩) (hphase : t.phase = .closed) :
    (consumeRest data (k + 1) consumed).run s =
      andThen ⟨t, out, .ok ()⟩ fun _ => tcpClose := by
  have hloop : (consumeLoop data.length (k + 1) consumed).run s =
      andThen ⟨t, out, .ok ()⟩ fun _ => tcpClose := by
    simp [consumeLoop, hp, Nat.not_le.mpr h, hrun, hphase]
  rw [consumeRest, run_bind, hloop]
  cases htcp : t.tcpSocket <;> simp [tcpClose, htcp, run_feed_request_other, hphase]

/-- A turn that stops at a fault. -/
theorem run_consume_rest_fault {handler : Handler L Nat} (hp : handlerOf s.phase = some handler)
    (h : consumed < data.length) {out : List ClientAction} {e : ClientFault}
    (hrun : handler.run s = ⟨t, out, .error e⟩) :
    (consumeRest data (k + 1) consumed).run s = ⟨t, out, .error e⟩ := by
  simp [consumeRest, consumeLoop, hp, Nat.not_le.mpr h, hrun]

/-! ## What is seen of each phase -/

/-- The address and the port are taken from where they stand in the buffer. -/
theorem seen_ipv4 (hphase : s.phase = .waitSocksIpv4) (h : consumed < data.length) :
    seen ((consumeRest data (k + 1) consumed).run s) =
      (.connecting, [.sendSyn (s.genStreamId s.created)
        (AddressV4.dottedQuad ⟨s.readBuf 4, s.readBuf 5, s.readBuf 6, s.readBuf 7⟩)
        (join16 (s.readBuf 8) (s.readBuf 9)) s.protocol]) := by
  obtain ⟨t, out, hrun, hthere, hout⟩ : ∃ t out,
      (handleSocksIpv4 : Handler L Nat).run s = ⟨t, out, .ok 6⟩ ∧ t.phase = .connecting ∧
      out = [.createSession (s.genStreamId s.created), .sendSyn (s.genStreamId s.created)
        (AddressV4.dottedQuad ⟨s.readBuf 4, s.readBuf 5, s.readBuf 6, s.readBuf 7⟩)
        (join16 (s.readBuf 8) (s.readBuf 9)) s.protocol] := ⟨_, _, rfl, rfl, rfl⟩
  have hnone : (consumeRest data k (consumed + 6)).run t = ⟨t, [], .ok ()⟩ := by
    rw [run_consume_rest_none (by rw [hthere]; rfl), run_feed_request_other (by simp [hthere])]
  rw [run_consume_rest_turn (by rw [hphase]; rfl) h hrun (by simp [hthere]), andThen_ok, hnone]
  simp [seen, hthere, hout, ClientAction.isSeen]

/-- So is a domain, with its length. -/
theorem seen_domain (hphase : s.phase = .waitSocksDomain) (h : consumed < data.length) :
    seen ((consumeRest data (k + 1) consumed).run s) =
      (.connecting, [.sendSyn (s.genStreamId s.created)
        ((List.range (s.readBuf 4).toNat).map fun i => s.readBuf (5 + i))
        (join16 (s.readBuf ((s.readBuf 4).toNat + 5)) (s.readBuf ((s.readBuf 4).toNat + 6)))
        s.protocol]) := by
  obtain ⟨t, out, hrun, hthere, hout⟩ : ∃ t out,
      (handleSocksDomain : Handler L Nat).run s = ⟨t, out, .ok (3 + (s.readBuf 4).toNat)⟩ ∧
      t.phase = .connecting ∧
      out = [.createSession (s.genStreamId s.created), .sendSyn (s.genStreamId s.created)
        ((List.range (s.readBuf 4).toNat).map fun i => s.readBuf (5 + i))
        (join16 (s.readBuf ((s.readBuf 4).toNat + 5)) (s.readBuf ((s.readBuf 4).toNat + 6)))
        s.protocol] := ⟨_, _, rfl, rfl, rfl⟩
  have hnone : (consumeRest data k (consumed + (3 + (s.readBuf 4).toNat))).run t =
      ⟨t, [], .ok ()⟩ := by
    rw [run_consume_rest_none (by rw [hthere]; rfl), run_feed_request_other (by simp [hthere])]
  rw [run_consume_rest_turn (by rw [hphase]; rfl) h hrun (by simp [hthere]), andThen_ok, hnone]
  simp [seen, hthere, hout, ClientAction.isSeen]

/-! ## When nothing is seen of the bytes left over -/

/-- Handlers that are seen alike, from states that may differ. -/
theorem unseen_congr {x y : Handler L Unit}
    (h : ∀ buf, seen (x.run (s.holding (overlay data buf))) =
      seen (y.run (t.holding (overlay data buf)))) : Unseen x s data ↔ Unseen y t data := by
  simp only [Unseen, h]

/-- Nothing is seen of the buffer by a read that has been consumed. -/
theorem unseen_done (hphase : s.phase ≠ .waitHttpRequestHeaders) (h : data.length ≤ consumed) :
    Unseen (consumeRest data k consumed) s data := by
  intro buf buf'
  rw [run_consume_rest_done (show (s.holding (overlay data buf)).phase ≠ _ from hphase) h,
    run_consume_rest_done (show (s.holding (overlay data buf')).phase ≠ _ from hphase) h]
  rfl

/-- Nothing is seen of it where no handler is left. -/
theorem unseen_none (h : (handlerOf s.phase : Option (Handler L Nat)) = none) :
    Unseen (consumeRest data k consumed) s data := by
  refine (unseen_congr fun buf => ?_).mpr ((blind_feed_request data).unseen s data)
  exact congrArg seen (run_consume_rest_none (s := s.holding (overlay data buf)) h)

theorem turns_of_lt (hturns : data.length ≤ k + consumed) (h : consumed < data.length) :
    ∃ n, k = n + 1 ∧ data.length ≤ n + (consumed + 2) :=
  ⟨k - 1, by omega, by omega⟩

/-- The last byte of the port is behind a read that is too short. -/
theorem unseen_ipv4 (hphase : s.phase = .waitSocksIpv4)
    (hturns : data.length ≤ k + consumed) :
    Unseen (consumeRest data k consumed) s data ↔ Ipv4Covered data consumed := by
  by_cases h : consumed < data.length
  · obtain ⟨n, rfl, -⟩ := turns_of_lt hturns h
    have hseen : ∀ buf, _ = _ := fun buf =>
      seen_ipv4 (L := L) (s := s.holding (overlay data buf)) (k := n) hphase h
    constructor
    · intro hunseen _
      by_contra hshort
      have hsame := hunseen (fun _ => 0) (fun _ => 1)
      rw [hseen, hseen] at hsame
      have hport := congrArg lowByte (ClientAction.sendSyn.inj
        (List.cons.inj (congrArg Prod.snd hsame)).1).2.2.1
      rw [lowByte_join16, lowByte_join16] at hport
      simp only [holding, overlay_of_le (by omega : data.length ≤ 9)] at hport
      exact absurd hport (by decide)
    · intro hcovered buf buf'
      have hlong := hcovered h
      have hbyte : ∀ i < 10, overlay data buf i = overlay data buf' i :=
        fun i hi => overlay_eq_of_lt (by omega) buf buf'
      rw [hseen, hseen]
      simp only [holding, hbyte _ (by decide : 4 < 10), hbyte _ (by decide : 5 < 10),
        hbyte _ (by decide : 6 < 10), hbyte _ (by decide : 7 < 10), hbyte _ (by decide : 8 < 10),
        hbyte _ (by decide : 9 < 10)]
  · exact iff_of_true (unseen_done (by simp [hphase]) (by omega)) fun hlt => absurd hlt h

/-- The length of a domain or the last byte of the port is behind a read that is too short. -/
theorem unseen_domain (hphase : s.phase = .waitSocksDomain)
    (hturns : data.length ≤ k + consumed) :
    Unseen (consumeRest data k consumed) s data ↔ DomainCovered data consumed := by
  by_cases h : consumed < data.length
  · obtain ⟨m, rfl, -⟩ := turns_of_lt hturns h
    have hseen : ∀ buf, _ = _ := fun buf =>
      seen_domain (L := L) (s := s.holding (overlay data buf)) (k := m) hphase h
    constructor
    · intro hunseen _
      have hsame := hunseen (fun _ => 0) (fun _ => 1)
      rw [hseen, hseen] at hsame
      obtain ⟨-, hhost, hport, -⟩ := ClientAction.sendSyn.inj
        (List.cons.inj (congrArg Prod.snd hsame)).1
      simp only [holding] at hhost hport
      by_cases hlength : 4 < data.length
      · obtain ⟨n, hn⟩ : ∃ n, data[4]? = some n := ⟨_, List.getElem?_eq_getElem hlength⟩
        refine ⟨n, hn, ?_⟩
        by_contra hshort
        have hlow := congrArg lowByte hport
        rw [lowByte_join16, lowByte_join16] at hlow
        simp only [overlay_of_get hn, overlay_of_le (by omega : data.length ≤ n.toNat + 6)] at hlow
        exact absurd hlow (by decide)
      · have hcount := congrArg List.length hhost
        simp only [List.length_map, List.length_range,
          overlay_of_le (by omega : data.length ≤ 4)] at hcount
        exact absurd hcount (by decide)
    · intro hcovered buf buf'
      obtain ⟨n, hn, hlong⟩ := hcovered h
      have hbyte : ∀ i < n.toNat + 7, overlay data buf i = overlay data buf' i :=
        fun i hi => overlay_eq_of_lt (by omega) buf buf'
      have hhost : (List.range n.toNat).map (fun i => overlay data buf (5 + i)) =
          (List.range n.toNat).map fun i => overlay data buf' (5 + i) := by
        refine List.map_congr_left fun i hi => hbyte _ ?_
        have := List.mem_range.mp hi
        omega
      rw [hseen, hseen]
      simp only [holding, overlay_of_get hn, hhost, hbyte (n.toNat + 5) (by omega),
        hbyte (n.toNat + 6) (by omega)]
  · exact iff_of_true (unseen_done (by simp [hphase]) (by omega)) fun hlt => absurd hlt h

/-- An address type that is known leads to the handler of its addresses. -/
theorem run_address_known (hphase : s.phase = .waitSocksTCP ∨ s.phase = .waitSocksUDP)
    (h : consumed < data.length) {p : Phase}
    (hknown : s.readBuf 3 = 0x01 ∧ p = .waitSocksIpv4 ∨
      s.readBuf 3 = 0x03 ∧ p = .waitSocksDomain) :
    (consumeRest data (k + 1) consumed).run s =
      (consumeRest data k (consumed + 2)).run { s with phase := p } := by
  have hp : handlerOf s.phase = some (handleSocksTcpUdp : Handler L Nat) := by
    rcases hphase with hphase | hphase <;> rw [hphase] <;> rfl
  have hrun : (handleSocksTcpUdp : Handler L Nat).run s = ⟨{ s with phase := p }, [], .ok 2⟩ := by
    rcases hknown with ⟨hatyp, rfl⟩ | ⟨hatyp, rfl⟩ <;> simp [handleSocksTcpUdp, hatyp]
  have hopen : p ≠ .closed := by
    rcases hknown with ⟨-, rfl⟩ | ⟨-, rfl⟩ <;> decide
  rw [run_consume_rest_turn hp h hrun hopen]
  simp

/-- Any other is refused. -/
theorem seen_address_refused (hphase : s.phase = .waitSocksTCP ∨ s.phase = .waitSocksUDP)
    (h : consumed < data.length) (hipv4 : s.readBuf 3 ≠ 0x01) (hdomain : s.readBuf 3 ≠ 0x03) :
    seen ((consumeRest data (k + 1) consumed).run s) =
      if s.tcpSocket then (.closed, [.tcpSend [0x05, 0x08, 0x00, 0x01, 0, 0, 0, 0, 0, 0]])
      else (s.phase, []) := by
  have hp : handlerOf s.phase = some (handleSocksTcpUdp : Handler L Nat) := by
    rcases hphase with hphase | hphase <;> rw [hphase] <;> rfl
  cases htcp : s.tcpSocket with
  | true =>
      have hrun : (handleSocksTcpUdp : Handler L Nat).run s = ⟨{ s with phase := .closed },
          [.tcpSend [0x05, 0x08, 0x00, 0x01, 0, 0, 0, 0, 0, 0]], .ok 2⟩ := by
        simp [handleSocksTcpUdp, hipv4, hdomain, sendSocksReply, tcpSend, htcp]
      rw [run_consume_rest_refuse hp h hrun rfl]
      simp [tcpClose, htcp, seen]
      rfl
  | false =>
      have hrun : (handleSocksTcpUdp : Handler L Nat).run s = ⟨s, [], .error .nullTcpSocket⟩ := by
        simp [handleSocksTcpUdp, hipv4, hdomain, sendSocksReply, tcpSend, htcp]
      rw [run_consume_rest_fault hp h hrun]
      rfl

/-- The address type is behind a read that is too short, or what the handler of the addresses
looks at is. -/
theorem unseen_address (hphase : s.phase = .waitSocksTCP ∨ s.phase = .waitSocksUDP)
    (hturns : data.length ≤ k + consumed) :
    Unseen (consumeRest data k consumed) s data ↔ AddressCovered data consumed := by
  have hsocks : s.phase ≠ .waitHttpRequestHeaders ∧ s.phase ≠ .waitSocksIpv4 ∧
      s.phase ≠ .connecting := by
    rcases hphase with hphase | hphase <;> simp [hphase]
  by_cases h : consumed < data.length
  · obtain ⟨n, rfl, hrest⟩ := turns_of_lt hturns h
    cases hget : data[3]? with
    | some atyp =>
        have hbyte := overlay_of_get hget
        have hcovered : AddressCovered data consumed ↔
            (atyp = 0x01 → Ipv4Covered data (consumed + 2)) ∧
              (atyp = 0x03 → DomainCovered data (consumed + 2)) := by
          simp [AddressCovered, h, hget]
        rw [hcovered]
        by_cases hipv4 : atyp = 0x01
        · subst hipv4
          rw [unseen_congr (t := { s with phase := .waitSocksIpv4 }) fun buf =>
            congrArg seen (run_address_known (s := s.holding (overlay data buf)) hphase h
              (.inl ⟨hbyte buf, rfl⟩)),
            unseen_ipv4 rfl hrest]
          simp
        · by_cases hdomain : atyp = 0x03
          · subst hdomain
            rw [unseen_congr (t := { s with phase := .waitSocksDomain }) fun buf =>
              congrArg seen (run_address_known (s := s.holding (overlay data buf)) hphase h
              (.inr ⟨hbyte buf, rfl⟩)),
              unseen_domain rfl hrest]
            simp
          · refine iff_of_true (fun buf buf' => ?_) ⟨(absurd · hipv4), (absurd · hdomain)⟩
            have hrefused : ∀ buf, _ = _ := fun buf =>
              seen_address_refused (L := L) (s := s.holding (overlay data buf)) (k := n)
                hphase h (by rwa [← hbyte buf] at hipv4) (by rwa [← hbyte buf] at hdomain)
            rw [hrefused, hrefused]
            rfl
    | none =>
        have hshort : data.length ≤ 3 := List.getElem?_eq_none_iff.mp hget
        refine iff_of_false (fun hunseen => ?_) fun hcovered => ?_
        · -- a byte left over is taken for an address type, known or not
          have hknown := run_address_known (L := L) (s := s.holding (overlay data fun _ => 1))
            (k := n) hphase h (.inl ⟨overlay_of_le hshort fun _ => 1, rfl⟩)
          have hrefused := seen_address_refused (L := L)
            (s := s.holding (overlay data fun _ => 0)) (k := n) hphase h
            (by simp [holding, overlay_of_le hshort]) (by simp [holding, overlay_of_le hshort])
          have hsame := congrArg Prod.fst (hunseen (fun _ => 1) fun _ => 0)
          rw [hknown, hrefused] at hsame
          by_cases hmore : consumed + 2 < data.length
          · obtain ⟨m, rfl, -⟩ := turns_of_lt hrest hmore
            rw [seen_ipv4 rfl hmore] at hsame
            split at hsame
            · cases hsame
            · exact hsocks.2.2 hsame.symm
          · rw [run_consume_rest_done (show Phase.waitSocksIpv4 ≠ _ by decide) (by omega)] at hsame
            split at hsame
            · cases hsame
            · exact hsocks.2.1 hsame.symm
        · obtain ⟨atyp, hatyp, -⟩ := hcovered h
          rw [hget] at hatyp
          cases hatyp
  · exact iff_of_true (unseen_done hsocks.1 (by omega)) fun hlt => absurd hlt h

/-- A command that is known leads to the handler of the address types. -/
theorem run_methods_known (hphase : s.phase = .waitSocksMethods) (h : consumed < data.length)
    {p : Phase} {protocol : Protocol}
    (hknown : s.readBuf 1 = 0x01 ∧ p = .waitSocksTCP ∧ protocol = .socks5Connect ∨
      s.readBuf 1 = 0x03 ∧ p = .waitSocksUDP ∧ protocol = .udpAssociate) :
    (consumeRest data (k + 1) consumed).run s =
      (consumeRest data k (consumed + 2)).run
        { s with phase := p, protocol := protocol } := by
  have hp : handlerOf s.phase = some (handleSocksMethods : Handler L Nat) := by
    rw [hphase]
    rfl
  have hrun : (handleSocksMethods : Handler L Nat).run s =
      ⟨{ s with phase := p, protocol := protocol }, [], .ok 2⟩ := by
    rcases hknown with ⟨hcmd, rfl, rfl⟩ | ⟨hcmd, rfl, rfl⟩ <;> simp [handleSocksMethods, hcmd]
  have hopen : p ≠ .closed := by
    rcases hknown with ⟨-, rfl, -⟩ | ⟨-, rfl, -⟩ <;> decide
  rw [run_consume_rest_turn hp h hrun hopen]
  simp

/-- Any other is refused. -/
theorem seen_methods_refused (hphase : s.phase = .waitSocksMethods) (h : consumed < data.length)
    (hconnect : s.readBuf 1 ≠ 0x01) (hudp : s.readBuf 1 ≠ 0x03) :
    seen ((consumeRest data (k + 1) consumed).run s) =
      (.closed, if s.tcpSocket then [.tcpSend [0x05, 0x07, 0x00, 0x01, 0, 0, 0, 0, 0, 0]]
        else []) := by
  have hp : handlerOf s.phase = some (handleSocksMethods : Handler L Nat) := by
    rw [hphase]
    rfl
  cases htcp : s.tcpSocket with
  | true =>
      have hrun : (handleSocksMethods : Handler L Nat).run s = ⟨{ s with phase := .closed },
          [.tcpSend [0x05, 0x07, 0x00, 0x01, 0, 0, 0, 0, 0, 0]], .ok 1⟩ := by
        simp [handleSocksMethods, hconnect, hudp, sendSocksReply, tcpSend, htcp]
      rw [run_consume_rest_refuse hp h hrun rfl]
      simp [tcpClose, htcp, seen]
      rfl
  | false =>
      have hrun : (handleSocksMethods : Handler L Nat).run s =
          ⟨{ s with phase := .closed }, [], .error .nullTcpSocket⟩ := by
        simp [handleSocksMethods, hconnect, hudp, sendSocksReply, tcpSend, htcp]
      rw [run_consume_rest_fault hp h hrun]
      rfl

/-- The command is behind a read that is too short, or what the handlers behind it look at is. -/
theorem unseen_methods (hphase : s.phase = .waitSocksMethods)
    (hturns : data.length ≤ k + consumed) :
    Unseen (consumeRest data k consumed) s data ↔ MethodsCovered data consumed := by
  by_cases h : consumed < data.length
  · obtain ⟨n, rfl, hrest⟩ := turns_of_lt hturns h
    cases hget : data[1]? with
    | some cmd =>
        have hbyte := overlay_of_get hget
        have hcovered : MethodsCovered data consumed ↔
            (cmd = 0x01 ∨ cmd = 0x03 → AddressCovered data (consumed + 2)) := by
          simp [MethodsCovered, h, hget]
        rw [hcovered]
        by_cases hconnect : cmd = 0x01
        · subst hconnect
          rw [unseen_congr (t := { s with phase := .waitSocksTCP, protocol := .socks5Connect })
            fun buf => congrArg seen (run_methods_known (s := s.holding (overlay data buf)) hphase h
              (.inl ⟨hbyte buf, rfl, rfl⟩)),
            unseen_address (.inl rfl) hrest]
          simp
        · by_cases hudp : cmd = 0x03
          · subst hudp
            rw [unseen_congr (t := { s with phase := .waitSocksUDP, protocol := .udpAssociate })
              fun buf => congrArg seen (run_methods_known (s := s.holding (overlay data buf))
                hphase h (.inr ⟨hbyte buf, rfl, rfl⟩)),
              unseen_address (.inr rfl) hrest]
            simp
          · refine iff_of_true (fun buf buf' => ?_) fun hcmd => absurd hcmd (by tauto)
            have hrefused : ∀ buf, _ = _ := fun buf =>
              seen_methods_refused (L := L) (s := s.holding (overlay data buf)) (k := n)
                hphase h (by rwa [← hbyte buf] at hconnect) (by rwa [← hbyte buf] at hudp)
            rw [hrefused, hrefused]
            rfl
    | none =>
        have hshort : data.length ≤ 1 := List.getElem?_eq_none_iff.mp hget
        refine iff_of_false (fun hunseen => ?_) fun hcovered => ?_
        · -- a byte left over is taken for one command or the other
          have hconnect := run_methods_known (L := L) (s := s.holding (overlay data fun _ => 1))
            (k := n) hphase h (.inl ⟨overlay_of_le hshort fun _ => 1, rfl, rfl⟩)
          have hudp := run_methods_known (L := L) (s := s.holding (overlay data fun _ => 3))
            (k := n) hphase h (.inr ⟨overlay_of_le hshort fun _ => 3, rfl, rfl⟩)
          have hsame := congrArg Prod.fst (hunseen (fun _ => 1) fun _ => 3)
          rw [hconnect, hudp,
            run_consume_rest_done (show Phase.waitSocksTCP ≠ _ by decide) (by omega),
            run_consume_rest_done (show Phase.waitSocksUDP ≠ _ by decide) (by omega)] at hsame
          cases hsame
        · obtain ⟨cmd, hcmd, -⟩ := hcovered h
          rw [hget] at hcmd
          cases hcmd
  · exact iff_of_true (unseen_done (by simp [hphase]) (by omega)) fun hlt => absurd hlt h

/-- Behind what is seen alike, it is the rest that decides. -/
theorem unseen_behind {x : Handler L Unit} {out : List ClientAction}
    (h : ∀ buf, (consumeRest data k consumed).run (s.holding (overlay data buf)) =
      andThen ⟨t.holding (overlay data buf), out, .ok ()⟩ fun _ => x) :
    Unseen (consumeRest data k consumed) s data ↔ Unseen x t data := by
  have hseen : ∀ buf, seen ((consumeRest data k consumed).run (s.holding (overlay data buf))) =
      ((seen (x.run (t.holding (overlay data buf)))).1, out.filter ClientAction.isSeen ++
        (seen (x.run (t.holding (overlay data buf)))).2) := by
    intro buf
    rw [h buf, andThen_ok]
    simp [seen]
  simp only [Unseen, hseen, Prod.mk.injEq, List.append_cancel_left_eq, ← Prod.ext_iff]

/-- A greeting goes on with its commands; anything else goes to the request parser. -/
theorem unseen_greeting (hphase : s.phase = .waitGreetingVersion)
    (hturns : data.length ≤ k) :
    Unseen (consumeRest data k 0) s data ↔
      (data[0]? = some 0x05 → s.tcpSocket = true → MethodsCovered data 2) := by
  have hp : handlerOf s.phase = some (handleGreetingVersion : Handler L Nat) := by
    rw [hphase]
    rfl
  by_cases h : 0 < data.length
  · obtain ⟨n, rfl, hrest⟩ := turns_of_lt (by omega : data.length ≤ k + 0) h
    obtain ⟨version, hget⟩ : ∃ version, data[0]? = some version := ⟨_, List.getElem?_eq_getElem h⟩
    have hbyte := overlay_of_get hget
    by_cases hsocks : version = 0x05
    · subst hsocks
      cases htcp : s.tcpSocket with
      | true =>
          have hrun : ∀ buf, (handleGreetingVersion : Handler L Nat).run
              (s.holding (overlay data buf)) =
              ⟨({ s with phase := .waitSocksMethods } : Socks5Session L).holding
                (overlay data buf), [.tcpSend [0x05, 0x00]], .ok 2⟩ := by
            intro buf
            simp [handleGreetingVersion, holding, hbyte, tcpSend, htcp]
          rw [unseen_behind fun buf => run_consume_rest_turn (s := s.holding (overlay data buf))
              hp h (hrun buf) (show Phase.waitSocksMethods ≠ .closed by decide),
            unseen_methods rfl hrest]
          simp [hget]
      | false =>
          refine iff_of_true (fun buf buf' => ?_) fun _ htrue => by cases htrue
          have hrun : ∀ buf, (handleGreetingVersion : Handler L Nat).run
              (s.holding (overlay data buf)) =
              ⟨({ s with phase := .waitSocksMethods } : Socks5Session L).holding
                (overlay data buf), [], .error .nullTcpSocket⟩ := by
            intro buf
            simp [handleGreetingVersion, holding, hbyte, tcpSend, htcp]
          rw [run_consume_rest_fault (s := s.holding (overlay data buf)) hp h (hrun buf),
            run_consume_rest_fault (s := s.holding (overlay data buf')) hp h (hrun buf')]
          rfl
    · refine iff_of_true ?_ fun hfive => absurd (Option.some.inj (hget.symm.trans hfive)) hsocks
      have hrun : ∀ buf, (handleGreetingVersion : Handler L Nat).run
          (s.holding (overlay data buf)) =
          ⟨({ s with phase := .waitHttpRequestHeaders } : Socks5Session L).holding
            (overlay data buf), [], .ok 2⟩ := by
        intro buf
        simp [handleGreetingVersion, holding, hbyte, hsocks]
      rw [unseen_behind fun buf => run_consume_rest_turn (s := s.holding (overlay data buf)) hp h
        (hrun buf) (show Phase.waitHttpRequestHeaders ≠ .closed by decide)]
      exact unseen_none rfl
  · refine iff_of_true (unseen_done (by simp [hphase]) (by omega)) fun hget => ?_
    have hnone : data[0]? = none := List.getElem?_eq_none (by omega)
    rw [hnone] at hget
    cases hget

/-! ## Whole reads -/

/-- A read shows nothing of the bytes it has left in the buffer just if it holds what the handlers
it runs look at. -/
theorem unseen_process_data (s : Socks5Session L) (data : Bytes) :
    Unseen (processData data) s data ↔ s.Covered data := by
  have hconsume : s.phase ≠ .connected → s.phase ≠ .closed →
      (Unseen (processData data) s data ↔
        Unseen (consumeRest data data.length 0) s data) := fun hconnected hclosed =>
    unseen_congr fun buf => congrArg seen
      (run_process_data (s := s.holding (overlay data buf)) hconnected hclosed data)
  unfold Covered
  cases hphase : s.phase with
  | waitGreetingVersion =>
      rw [hconsume (by simp [hphase]) (by simp [hphase]), unseen_greeting hphase (Nat.le_refl _)]
  | waitSocksMethods =>
      rw [hconsume (by simp [hphase]) (by simp [hphase]), unseen_methods hphase (by omega)]
  | waitSocksTCP =>
      rw [hconsume (by simp [hphase]) (by simp [hphase]), unseen_address (.inl hphase) (by omega)]
  | waitSocksUDP =>
      rw [hconsume (by simp [hphase]) (by simp [hphase]), unseen_address (.inr hphase) (by omega)]
  | waitSocksIpv4 =>
      rw [hconsume (by simp [hphase]) (by simp [hphase]), unseen_ipv4 hphase (by omega)]
  | waitSocksDomain =>
      rw [hconsume (by simp [hphase]) (by simp [hphase]), unseen_domain hphase (by omega)]
  | closed =>
      refine iff_of_true (fun buf buf' => ?_) trivial
      rw [run_process_data_closed (s := s.holding (overlay data buf)) hphase,
        run_process_data_closed (s := s.holding (overlay data buf')) hphase]
      rfl
  | connected =>
      refine iff_of_true (fun buf buf' => ?_) trivial
      cases hprotocol : s.protocol <;> cases hsession : s.session <;>
        simp [processData, holding, hphase, hprotocol, muxSendData, streamId, hsession, seen]
  | _ =>
      refine iff_of_true ?_ trivial
      rw [hconsume (by simp [hphase]) (by simp [hphase])]
      exact unseen_none (by rw [hphase]; rfl)

/-- What is seen of the data callback is what is seen of its handler. -/
theorem seen_browser_data (s : Socks5Session L) (data : Bytes) (buf : Nat → UInt8) :
    seen ((handle (.browserData data)).run (s.holding buf)) =
      seen ((processData data).run
        (({ s with reading := false } : Socks5Session L).holding (overlay data buf))) := by
  obtain ⟨r, hr⟩ : ∃ r : Socks5Session L,
      r = ({ s with reading := false } : Socks5Session L).holding (overlay data buf) := ⟨_, rfl⟩
  have hrun : (handle (.browserData data)).run (s.holding buf) =
      (swallow (· == .exception) (processData data >>= fun _ =>
        modify fun s => { s with reading := true })).run r := by rw [hr]; rfl
  rw [hrun, ← hr, seen, seen, swallow_state, swallow_actions, run_bind]
  rcases (processData data).run r with ⟨t, out, _ | _⟩ <;> simp

end Socks5Session

/-! ## Datagrams -/

namespace UdpSession

open Effect

variable {v w : Nat → UInt8} {n : Nat}

/-- Views that agree below an index agree on the byte there. -/
theorem byte_at_congr {i : Nat} (h : v i = w i) (size : Nat) :
    View.byteAt ⟨size, v⟩ i = View.byteAt ⟨size, w⟩ i := by
  simp [View.byteAt, h]

theorem slice_congr {i m : Nat} (h : ∀ j < m, v (i + j) = w (i + j)) (size : Nat) :
    View.slice ⟨size, v⟩ i m = View.slice ⟨size, w⟩ i m := by
  have hbytes : (List.range m).map (fun j => v (i + j)) = (List.range m).map fun j => w (i + j) :=
    List.map_congr_left fun j hj => h j (List.mem_range.mp hj)
  simp only [View.slice, hbytes]

/-- A datagram to an IPv4 address is taken from its own bytes. -/
theorem send_ipv4_congr (h : ∀ i < n, v i = w i) (size : Nat) :
    sendIpv4 ⟨size, v⟩ n = sendIpv4 ⟨size, w⟩ n := by
  unfold sendIpv4
  by_cases hshort : n < 10
  · rw [if_pos hshort, if_pos hshort]
  · have hdata : View.slice ⟨size, v⟩ 10 (n - 10) = View.slice ⟨size, w⟩ 10 (n - 10) :=
      slice_congr (fun j hj => h (10 + j) (by omega)) size
    rw [if_neg hshort, if_neg hshort, byte_at_congr (h 4 (by omega)),
      byte_at_congr (h 5 (by omega)), byte_at_congr (h 6 (by omega)),
      byte_at_congr (h 7 (by omega)), byte_at_congr (h 8 (by omega)),
      byte_at_congr (h 9 (by omega)), sizeSub_of_le (by omega)]
    simp only [except_ok_bind, hdata]

/-- What comes of a payload: nothing if the handler has thrown. -/
def sentOf (r : Except AccessFault (Option Bytes)) : Option Bytes :=
  match r with
  | .ok payload => payload
  | .error _ => none

/-- A datagram that ends with its port throws, since the length of its data has wrapped. -/
theorem send_domain_wraps {len : UInt8} (hlen : v 4 = len) {size : Nat} (hsize : 8 ≤ size) :
    sentOf (sendDomain ⟨size, v⟩ (7 + len.toNat)) = none := by
  rcases hrun : sendDomain ⟨size, v⟩ (7 + len.toNat) with fault | payload
  · rfl
  · exfalso
    rw [sendDomain, if_neg (by omega), View.byteAt_of_lt (by show 4 < size; omega), except_ok_bind,
      show (View.bytes ⟨size, v⟩ 4).toNat = len.toNat by rw [← hlen], if_neg (by omega)] at hrun
    simp only [except_bind_eq_ok] at hrun
    obtain ⟨-, -, -, -, -, -, rest, hrest, dataLen, hdata, -⟩ := hrun
    by_cases hempty : 8 ≤ 7 + len.toNat
    · rw [sizeSub_of_le hempty] at hrest
      cases hrest
      rw [sizeSub_of_lt (by omega)] at hdata
      cases hdata
    · rw [sizeSub_of_lt (by omega)] at hrest
      cases hrest

/-- A datagram to a domain is taken from its own bytes, or not sent. -/
theorem send_domain_congr (h : ∀ i < n, v i = w i) {size : Nat} (hsize : 8 ≤ size) :
    sentOf (sendDomain ⟨size, v⟩ n) = sentOf (sendDomain ⟨size, w⟩ n) := by
  by_cases hshort : n < 5
  · rw [sendDomain, sendDomain, if_pos hshort, if_pos hshort]
  · have hlen := h 4 (by omega)
    by_cases hend : n = 7 + (v 4).toNat
    · -- the one byte that is read behind the datagram comes to nothing
      have hv := send_domain_wraps (v := v) rfl hsize
      have hw := send_domain_wraps (v := w) rfl hsize
      rw [← hend] at hv
      rw [← hlen, ← hend] at hw
      rw [hv, hw]
    · unfold sendDomain
      rw [if_neg hshort, if_neg hshort, View.byteAt_of_lt (by show 4 < size; omega),
        View.byteAt_of_lt (by show 4 < size; omega), except_ok_bind, except_ok_bind]
      simp only [← hlen]
      by_cases hlong : 5 + (v 4).toNat + 2 > n
      · rw [if_pos hlong, if_pos hlong]
      · have hdata : View.slice ⟨size, v⟩ (8 + (v 4).toNat) (n - 8 - (v 4).toNat) =
            View.slice ⟨size, w⟩ (8 + (v 4).toNat) (n - 8 - (v 4).toNat) :=
          slice_congr (fun j hj => h _ (by omega)) size
        rw [if_neg hlong, if_neg hlong,
          slice_congr (fun j hj => h (5 + j) (by omega : 5 + j < n)),
          byte_at_congr (h _ (by omega : 6 + (v 4).toNat < n)),
          byte_at_congr (h _ (by omega : 7 + (v 4).toNat < n)),
          sizeSub_of_le (by omega : 8 ≤ n)]
        simp only [except_ok_bind, sizeSub_of_le (by omega : (v 4).toNat ≤ n - 8), hdata]

/-- What a datagram is relayed as depends on its own bytes. -/
theorem relayed_congr (h : ∀ i < n, v i = w i) : relayed v n = relayed w n := by
  have hsize : 8 ≤ recvBufSize := by decide
  have hsent : ∀ v, relayed v n = sentOf (if v 3 = 0x01 then sendIpv4 ⟨recvBufSize, v⟩ n
      else if v 3 = 0x03 then sendDomain ⟨recvBufSize, v⟩ n else .ok none) := by
    intro v
    rw [relayed, sendP2pData, View.byteAt_of_lt (by show 3 < recvBufSize; omega)]
    rfl
  rw [hsent, hsent]
  by_cases hshort : n ≤ 3
  · -- too short for any handler, whatever its type is taken for
    have hipv4 : ∀ v, sendIpv4 ⟨recvBufSize, v⟩ n = .ok none := fun v => if_pos (by omega)
    have hdomain : ∀ v, sendDomain ⟨recvBufSize, v⟩ n = .ok none := fun v => if_pos (by omega)
    simp only [hipv4, hdomain, ite_self]
  · rw [← h 3 (by omega)]
    split
    · rw [send_ipv4_congr h]
    · split
      · exact send_domain_congr h hsize
      · rfl

end UdpSession

/-! ## Both sessions -/

open Socks5Session in
/-- What a read of a session's handshake leads to shows nothing of the bytes it has left in the
buffer just if it holds what the handlers it runs look at; a datagram never shows any. -/
theorem stale_bytes_unseen_iff {L : Llhttp} (s : Socks5Session L) (data : Bytes) :
    ((∀ buf buf', seen ((handle (.browserData data)).run (s.holding buf)) =
      seen ((handle (.browserData data)).run (s.holding buf'))) ↔ s.Covered data) ∧
    ∀ (r : UdpSession) (host : Bytes) (port : UInt16) (datagram : Bytes) (buf buf' : Nat → UInt8),
      UdpSession.pin
          ((UdpSession.handle (.datagram host port datagram)).run { r with recvBuf := buf }).state =
        UdpSession.pin
          ((UdpSession.handle (.datagram host port datagram)).run
            { r with recvBuf := buf' }).state ∧
      ((UdpSession.handle (.datagram host port datagram)).run { r with recvBuf := buf }).actions =
        ((UdpSession.handle (.datagram host port datagram)).run
          { r with recvBuf := buf' }).actions := by
  constructor
  · simp only [seen_browser_data]
    exact unseen_process_data _ data
  · intro r host port datagram buf buf'
    have hrelayed : UdpSession.relayed (overlay datagram buf) datagram.length =
        UdpSession.relayed (overlay datagram buf') datagram.length :=
      UdpSession.relayed_congr fun i hi => overlay_eq_of_lt hi buf buf'
    obtain ⟨hpin, hactions⟩ := UdpSession.run_datagram { r with recvBuf := buf } host port datagram
    obtain ⟨hpin', hactions'⟩ :=
      UdpSession.run_datagram { r with recvBuf := buf' } host port datagram
    rw [hpin, hpin', hactions, hactions', hrelayed]
    exact ⟨rfl, rfl⟩

/-- A request of which the last byte has not come yet. -/
def shortRequest : Bytes := [0x05, 0x01, 0x00, 0x01, 10, 0, 0, 1, 0]

open Socks5Session in
/-- The port of a request that lacks its last byte is completed with a byte of an earlier read. -/
theorem short_request_completed :
    ∃ (s : Socks5Session .idle) (out : List ClientAction),
      (socks5Session .idle).run (.ok (started .idle 1 (fun _ => 7) fun _ => 0))
        [.browserData [0x05, 0x01, 0x00]] = some (.ok s, out) ∧ s.phase = .waitSocksTCP ∧
      seen ((handle (.browserData shortRequest)).run (s.holding fun _ => 80)) =
        (.connecting, [.sendSyn 7 (text "10.0.0.1") 80 .socks5Connect]) ∧
      seen ((handle (.browserData shortRequest)).run (s.holding fun _ => 22)) =
        (.connecting, [.sendSyn 7 (text "10.0.0.1") 22 .socks5Connect]) ∧
      ¬ ∀ buf buf', seen ((handle (.browserData shortRequest)).run (s.holding buf)) =
        seen ((handle (.browserData shortRequest)).run (s.holding buf')) := by
  refine ⟨_, _, rfl, rfl, rfl, rfl, fun h => ?_⟩
  exact absurd (h (fun _ => 80) fun _ => 22) (by decide)

end RtcVpn
