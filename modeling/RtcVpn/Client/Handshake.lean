import RtcVpn.Client.Phases

/-!
# The SOCKS5 handshake of the client

The handlers of the handshake read fixed offsets of the receive buffer, while a
count of consumed bytes decides in which read each of them runs. All but the
last one count two bytes, so a read of n bytes runs ⌈n/2⌉ of them: `views` lists
what each handler sees, and `answers` is what the handshake makes of it. The
handshake is accepted exactly when the second view shows the command at offset
1, the third an address type at offset 3, and the fourth the address behind it.
-/

namespace RtcVpn

/-! ## What a browser sends -/

/-- A well-formed greeting that offers to do without authentication. -/
structure Greeting where
  methods : Bytes
  bounded : 1 ≤ methods.length ∧ methods.length ≤ 255
  noAuthentication : (0x00 : UInt8) ∈ methods

/-- `05 NMETHODS METHODS`. -/
def Greeting.bytes (g : Greeting) : Bytes := 0x05 :: UInt8.ofNat g.methods.length :: g.methods

/-- A command of a request. -/
inductive Command where
  | connect
  | udpAssociate
  deriving DecidableEq, Repr

/-- `CMD`. -/
def Command.toByte : Command → UInt8
  | .connect => 0x01
  | .udpAssociate => 0x03

/-- The protocol a command asks for. -/
def Command.protocol : Command → Protocol
  | .connect => .socks5Connect
  | .udpAssociate => .udpAssociate

/-- A destination: an IPv4 address or a domain of 1 to 255 bytes. -/
inductive Destination where
  | ipv4 (address : AddressV4)
  | domain (name : Bytes) (bounded : 1 ≤ name.length ∧ name.length ≤ 255)

/-- `ATYP DST.ADDR`. -/
def Destination.bytes : Destination → Bytes
  | .ipv4 address => 0x01 :: address.toBytes
  | .domain name _ => 0x03 :: UInt8.ofNat name.length :: name

/-- The host a destination names. -/
def Destination.host : Destination → Bytes
  | .ipv4 address => address.dottedQuad
  | .domain name _ => name

/-- A well-formed request. -/
structure SocksRequest where
  command : Command
  destination : Destination
  port : UInt16

/-- `05 CMD 00 ATYP DST.ADDR DST.PORT`. -/
def SocksRequest.bytes (q : SocksRequest) : Bytes :=
  0x05 :: q.command.toByte :: 0x00 :: (q.destination.bytes ++ [highByte q.port, lowByte q.port])

/-- The reads cut the bytes into pieces that are not empty. -/
def Cuts (reads : List Bytes) (bytes : Bytes) : Prop :=
  reads.flatten = bytes ∧ ∀ read ∈ reads, read ≠ []

/-! ## What a session answers -/

/-- What a session sends to the browser, and its `SYN` frames. -/
inductive Answer where
  | reply (data : Bytes)
  | syn (host : Bytes) (port : UInt16) (protocol : Protocol)
  deriving DecidableEq, Repr

/-- The answers among the actions of a session. -/
def answersOf (out : List ClientAction) : List Answer :=
  out.filterMap fun a => match a with
    | .tcpSend data => some (.reply data)
    | .sendSyn _ host port protocol => some (.syn host port protocol)
    | _ => none

/-- One method reply and no other, and one `SYN`, with what has been requested. -/
def Accepted (q : SocksRequest) (out : List ClientAction) : Prop :=
  answersOf out =
    [.reply [0x05, 0x00], .syn q.destination.host q.port q.command.protocol]

instance (q : SocksRequest) (out : List ClientAction) : Decidable (Accepted q out) :=
  inferInstanceAs (Decidable (_ = _))

/-- How many handlers a read runs, if none of them ends the handshake. -/
def turnsOf (read : Bytes) : Nat := (read.length + 1) / 2

/-- What each handler sees in the receive buffer. -/
def views (buf : Nat → UInt8) : List Bytes → List (Nat → UInt8)
  | [] => []
  | read :: reads =>
      List.replicate (turnsOf read) (overlay read buf) ++ views (overlay read buf) reads

/-- The host and port at offset 4, by the address type. -/
def targetAt (atyp : UInt8) (v : Nat → UInt8) : Option (Bytes × UInt16) :=
  if atyp = 0x01 then
    some (AddressV4.dottedQuad ⟨v 4, v 5, v 6, v 7⟩, join16 (v 8) (v 9))
  else if atyp = 0x03 then
    some ((List.range (v 4).toNat).map fun i => v (5 + i),
      join16 (v ((v 4).toNat + 5)) (v ((v 4).toNat + 6)))
  else none

/-- What the handlers find at their offsets is what has been requested. -/
def Readable (buf : Nat → UInt8) (q : SocksRequest) (reads : List Bytes) : Prop :=
  ∃ v₁ v₂ v₃ v₄ rest, views buf reads = v₁ :: v₂ :: v₃ :: v₄ :: rest ∧
    v₂ 1 = q.command.toByte ∧ targetAt (v₃ 3) v₄ = some (q.destination.host, q.port)

/-- `REP` with no address. -/
def refusal (repCode : UInt8) : Bytes := [0x05, repCode, 0x00, 0x01, 0, 0, 0, 0, 0, 0]

/-- The answers of a handshake, from the phase, the protocol and what the handlers see. -/
def answers : List (Nat → UInt8) → Phase → Protocol → List Answer
  | [], _, _ => []
  | v :: vs, .waitSocksMethods, _ =>
      if v 1 = 0x01 then answers vs .waitSocksTCP .socks5Connect
      else if v 1 = 0x03 then answers vs .waitSocksUDP .udpAssociate
      else [.reply (refusal 0x07)]
  | v :: vs, .waitSocksTCP, p | v :: vs, .waitSocksUDP, p =>
      if v 3 = 0x01 then answers vs .waitSocksIpv4 p
      else if v 3 = 0x03 then answers vs .waitSocksDomain p
      else [.reply (refusal 0x08)]
  | v :: _, .waitSocksIpv4, p =>
      (targetAt 0x01 v).toList.map fun target => .syn target.1 target.2 p
  | v :: _, .waitSocksDomain, p =>
      (targetAt 0x03 v).toList.map fun target => .syn target.1 target.2 p
  | _ :: _, _, _ => []

namespace Socks5Session

open Effect

variable {L : Llhttp}

/-- A session whose handshake is under way behind the greeting, or over without a tunnel. -/
structure Socks (s : Socks5Session L) : Prop where
  tcpSocket : s.tcpSocket = true
  phase : s.phase = .waitSocksMethods ∨ s.phase = .waitSocksTCP ∨ s.phase = .waitSocksUDP ∨
    s.phase = .waitSocksIpv4 ∨ s.phase = .waitSocksDomain ∨ s.phase = .connecting ∨
    s.phase = .closed

@[simp] theorem answers_of_append (out new : List ClientAction) :
    answersOf (out ++ new) = answersOf out ++ answersOf new := by
  simp [answersOf]

/-- Once the handshake is over there are no more answers. -/
theorem answers_over {p : Phase} (hp : p = .connecting ∨ p = .closed)
    (vs : List (Nat → UInt8)) (protocol : Protocol) : answers vs p protocol = [] := by
  cases vs with
  | nil => rfl
  | cons v vs => rcases hp with rfl | rfl <;> rfl

/-- The state and the answers of a handler, for whatever the handlers behind it see. -/
def Answers (s : Socks5Session L) (seen : List (Nat → UInt8)) (t : Socks5Session L)
    (out : List ClientAction) : Prop :=
  Socks t ∧ t.readBuf = s.readBuf ∧ t.reading = s.reading ∧
    ∀ later, answers (seen ++ later) s.phase s.protocol =
      answersOf out ++ answers later t.phase t.protocol

/-- A handler answers what it sees, and counts two bytes unless it ends the handshake. -/
def Turn (s : Socks5Session L) (handler : Handler L Nat) : Prop :=
  ∃ t out n, handler.run s = ⟨t, out, .ok n⟩ ∧ Answers s [s.readBuf] t out ∧
    (t.phase = .connecting ∨ t.phase = .closed ∨ n = 2)

theorem turn_methods {s : Socks5Session L} (htcp : s.tcpSocket = true)
    (hphase : s.phase = .waitSocksMethods) : Turn s handleSocksMethods := by
  by_cases hconnect : s.readBuf 1 = 0x01
  · refine ⟨{ s with phase := .waitSocksTCP, protocol := .socks5Connect }, [], 2, ?_,
      ⟨⟨htcp, by simp⟩, rfl, rfl, fun later => ?_⟩, .inr (.inr rfl)⟩
    · simp [handleSocksMethods, hconnect]
    · simp [answers, hphase, hconnect, answersOf]
  · by_cases hudp : s.readBuf 1 = 0x03
    · refine ⟨{ s with phase := .waitSocksUDP, protocol := .udpAssociate }, [], 2, ?_,
        ⟨⟨htcp, by simp⟩, rfl, rfl, fun later => ?_⟩, .inr (.inr rfl)⟩
      · simp [handleSocksMethods, hudp]
      · simp [answers, hphase, hudp, answersOf]
    · refine ⟨{ s with phase := .closed }, [.tcpSend (refusal 0x07)], 1, ?_,
        ⟨⟨htcp, by simp⟩, rfl, rfl, fun later => ?_⟩, .inr (.inl rfl)⟩
      · simp [handleSocksMethods, hconnect, hudp, sendSocksReply, tcpSend, htcp, refusal]
      · simp [answers, hphase, hconnect, hudp, answersOf, answers_over (.inr rfl)]

theorem turn_tcp_udp {s : Socks5Session L} (htcp : s.tcpSocket = true)
    (hphase : s.phase = .waitSocksTCP ∨ s.phase = .waitSocksUDP) : Turn s handleSocksTcpUdp := by
  have hanswers : ∀ later, answers (s.readBuf :: later) s.phase s.protocol =
      if s.readBuf 3 = 0x01 then answers later .waitSocksIpv4 s.protocol
      else if s.readBuf 3 = 0x03 then answers later .waitSocksDomain s.protocol
      else [.reply (refusal 0x08)] := by
    intro later
    rcases hphase with hphase | hphase <;> rw [hphase] <;> rfl
  by_cases hipv4 : s.readBuf 3 = 0x01
  · refine ⟨{ s with phase := .waitSocksIpv4 }, [], 2, ?_,
      ⟨⟨htcp, by simp⟩, rfl, rfl, fun later => ?_⟩, .inr (.inr rfl)⟩
    · simp [handleSocksTcpUdp, hipv4]
    · simp [hanswers, hipv4, answersOf]
  · by_cases hdomain : s.readBuf 3 = 0x03
    · refine ⟨{ s with phase := .waitSocksDomain }, [], 2, ?_,
        ⟨⟨htcp, by simp⟩, rfl, rfl, fun later => ?_⟩, .inr (.inr rfl)⟩
      · simp [handleSocksTcpUdp, hdomain]
      · simp [hanswers, hdomain, answersOf]
    · refine ⟨{ s with phase := .closed }, [.tcpSend (refusal 0x08)], 2, ?_,
        ⟨⟨htcp, by simp⟩, rfl, rfl, fun later => ?_⟩, .inr (.inl rfl)⟩
      · simp [handleSocksTcpUdp, hipv4, hdomain, sendSocksReply, tcpSend, htcp, refusal]
      · simp [hanswers, hipv4, hdomain, answersOf, answers_over (.inr rfl)]

theorem turn_ipv4 {s : Socks5Session L} (htcp : s.tcpSocket = true)
    (hphase : s.phase = .waitSocksIpv4) : Turn s handleSocksIpv4 := by
  obtain ⟨t, out, hrun, ht, hread, hreading, hthere, hout⟩ : ∃ t out,
      (handleSocksIpv4 : Handler L Nat).run s = ⟨t, out, .ok 6⟩ ∧ t.tcpSocket = true ∧
      t.readBuf = s.readBuf ∧ t.reading = s.reading ∧ t.phase = .connecting ∧
      answersOf out = [.syn (AddressV4.dottedQuad ⟨s.readBuf 4, s.readBuf 5, s.readBuf 6,
        s.readBuf 7⟩) (join16 (s.readBuf 8) (s.readBuf 9)) s.protocol] :=
    ⟨_, _, rfl, htcp, rfl, rfl, rfl, rfl⟩
  refine ⟨t, out, 6, hrun, ⟨⟨ht, by simp [hthere]⟩, hread, hreading, fun later => ?_⟩, .inl hthere⟩
  rw [hout, hthere, answers_over (.inl rfl), hphase]
  simp [answers, targetAt]

theorem turn_domain {s : Socks5Session L} (htcp : s.tcpSocket = true)
    (hphase : s.phase = .waitSocksDomain) : Turn s handleSocksDomain := by
  obtain ⟨t, out, hrun, ht, hread, hreading, hthere, hout⟩ : ∃ t out,
      (handleSocksDomain : Handler L Nat).run s = ⟨t, out, .ok (3 + (s.readBuf 4).toNat)⟩ ∧
      t.tcpSocket = true ∧ t.readBuf = s.readBuf ∧ t.reading = s.reading ∧
      t.phase = .connecting ∧
      answersOf out = [.syn ((List.range (s.readBuf 4).toNat).map fun i => s.readBuf (5 + i))
        (join16 (s.readBuf ((s.readBuf 4).toNat + 5)) (s.readBuf ((s.readBuf 4).toNat + 6)))
        s.protocol] :=
    ⟨_, _, rfl, htcp, rfl, rfl, rfl, rfl⟩
  refine ⟨t, out, _, hrun, ⟨⟨ht, by simp [hthere]⟩, hread, hreading, fun later => ?_⟩, .inl hthere⟩
  rw [hout, hthere, answers_over (.inl rfl), hphase]
  simp [answers, targetAt]

theorem turn_handler {s : Socks5Session L} {handler : Handler L Nat} (h : Socks s)
    (hp : handlerOf s.phase = some handler) : Turn s handler := by
  rcases h.phase with hphase | hphase | hphase | hphase | hphase | hphase | hphase <;>
    rw [hphase] at hp <;> cases hp
  · exact turn_methods h.tcpSocket hphase
  · exact turn_tcp_udp h.tcpSocket (.inl hphase)
  · exact turn_tcp_udp h.tcpSocket (.inr hphase)
  · exact turn_ipv4 h.tcpSocket hphase
  · exact turn_domain h.tcpSocket hphase

/-- A handshake that is not over has a handler. -/
theorem Socks.over {s : Socks5Session L} (h : Socks s)
    (hp : (handlerOf s.phase : Option (Handler L Nat)) = none) :
    s.phase = .connecting ∨ s.phase = .closed := by
  rcases h.phase with hphase | hphase | hphase | hphase | hphase | hphase | hphase <;>
    simp [hphase, handlerOf] at hp ⊢

theorem Answers.nil {s : Socks5Session L} (h : Socks s) : Answers s [] s [] :=
  ⟨h, rfl, rfl, fun _ => rfl⟩

theorem Answers.trans {s t u : Socks5Session L} {seen seen' : List (Nat → UInt8)}
    {out out' : List ClientAction} (h : Answers s seen t out) (h' : Answers t seen' u out') :
    Answers s (seen ++ seen') u (out ++ out') := by
  obtain ⟨_, hbuf, hreading, hanswers⟩ := h
  obtain ⟨hu, hbuf', hreading', hanswers'⟩ := h'
  refine ⟨hu, hbuf'.trans hbuf, hreading'.trans hreading, fun later => ?_⟩
  rw [List.append_assoc, hanswers, hanswers', answers_of_append, List.append_assoc]

/-- Once the handshake is over it does not matter what would be seen. -/
theorem Answers.over {s t : Socks5Session L} {seen : List (Nat → UInt8)}
    {out : List ClientAction} (h : Answers s seen t out)
    (hover : t.phase = .connecting ∨ t.phase = .closed) (more : List (Nat → UInt8)) :
    Answers s (seen ++ more) t out := by
  obtain ⟨ht, hbuf, hreading, hanswers⟩ := h
  refine ⟨ht, hbuf, hreading, fun later => ?_⟩
  rw [List.append_assoc, hanswers, answers_over hover, answers_over hover]

/-- The loop answers what the rest of the read's handlers see. -/
theorem answers_consume_loop {s : Socks5Session L} (h : Socks s) {len turns j : Nat}
    (hturns : (len + 1) / 2 ≤ turns + j) :
    ∃ t out, (consumeLoop len turns (2 * j)).run s = ⟨t, out, .ok ()⟩ ∧
      Answers s (List.replicate ((len + 1) / 2 - j) s.readBuf) t out := by
  induction turns generalizing s j with
  | zero =>
      rw [show (len + 1) / 2 - j = 0 by omega]
      exact ⟨s, [], rfl, .nil h⟩
  | succ turns ih =>
      cases hp : (handlerOf s.phase : Option (Handler L Nat)) with
      | none =>
          exact ⟨s, [], run_consume_loop_none hp _ _ _, (Answers.nil h).over (h.over hp) _⟩
      | some handler =>
          by_cases hlen : 2 * j ≥ len
          · rw [show (len + 1) / 2 - j = 0 by omega]
            exact ⟨s, [], by simp [consumeLoop, hp, hlen], .nil h⟩
          · -- one more handler sees the buffer, and then what is left of the read's handlers
            obtain ⟨t, out, n, hrun, hanswers, hcount⟩ := turn_handler h hp
            have hview : List.replicate ((len + 1) / 2 - j) s.readBuf =
                [s.readBuf] ++ List.replicate ((len + 1) / 2 - (j + 1)) t.readBuf := by
              rw [show (len + 1) / 2 - j = (len + 1) / 2 - (j + 1) + 1 by omega, hanswers.2.1]
              rfl
            have hloop : (consumeLoop len (turns + 1) (2 * j)).run s =
                andThen ⟨t, out, .ok n⟩ fun n => get >>= fun s =>
                  if s.phase = .closed then tcpClose else consumeLoop len turns (2 * j + n) := by
              simp [consumeLoop, hp, hlen, hrun]
            rw [hloop, hview]
            by_cases hclosed : t.phase = .closed
            · have hclose : Answers t [] t [.tcpClose] := ⟨hanswers.1, rfl, rfl, fun _ => rfl⟩
              refine ⟨t, out ++ [.tcpClose], ?_, ?_⟩
              · simp [hclosed, tcpClose, hanswers.1.tcpSocket]
              · exact (hanswers.trans hclose).over (.inr hclosed) _
            · rcases hcount with hconnecting | hnot | rfl
              · refine ⟨t, out, ?_, hanswers.over (.inl hconnecting) _⟩
                have hnone := run_consume_loop_none (L := L) (s := t) (by rw [hconnecting]; rfl)
                  len turns (2 * j + n)
                simp [hclosed, hnone]
              · exact absurd hnot hclosed
              · obtain ⟨u, out', hrest, hanswers'⟩ := ih hanswers.1 (j := j + 1) (by omega)
                refine ⟨u, out ++ out', ?_, hanswers.trans hanswers'⟩
                rw [Nat.mul_add] at hrest
                simp [hclosed, hrest]

/-- Processing a read answers what its handlers see. -/
theorem answers_process_data {s : Socks5Session L} (h : Socks s) (data : Bytes) :
    ∃ t out, (processData data).run s = ⟨t, out, .ok ()⟩ ∧
      Answers s (List.replicate (turnsOf data) s.readBuf) t out := by
  by_cases hclosed : s.phase = .closed
  · have hrun := run_process_data_closed hclosed data
    rw [if_pos h.tcpSocket] at hrun
    have hclose : Answers s [] s [.tcpClose] := ⟨h, rfl, rfl, fun _ => rfl⟩
    exact ⟨s, [.tcpClose], hrun, hclose.over (.inr hclosed) _⟩
  · have hconnected : s.phase ≠ .connected := by
      rcases h.phase with hp | hp | hp | hp | hp | hp | hp <;> simp [hp]
    obtain ⟨t, out, hloop, hanswers⟩ :=
      answers_consume_loop h (j := 0) (show (data.length + 1) / 2 ≤ data.length + 0 by omega)
    refine ⟨t, out, ?_, hanswers⟩
    have hphase : t.phase ≠ .waitHttpRequestHeaders := by
      rcases hanswers.1.phase with hp | hp | hp | hp | hp | hp | hp <;> simp [hp]
    rw [run_process_data hconnected hclosed, consume_pending_eq, run_bind,
      show (consumeLoop data.length data.length 0).run s = _ from hloop]
    simp [feedRequest, hphase]

/-- A read of the handshake is a step, and is answered as its handlers see it. -/
theorem answers_read {s : Socks5Session L} (h : Socks s) (hreading : s.reading = true)
    {data : Bytes} (hdata : data ≠ []) (hlen : data.length ≤ 8192) :
    ∃ t out, (socks5Session L).step (.ok s) (.browserData data) = some (.ok t, out) ∧
      Socks t ∧ t.reading = true ∧ t.readBuf = overlay data s.readBuf ∧
      ∀ later, answers (List.replicate (turnsOf data) (overlay data s.readBuf) ++ later) s.phase
        s.protocol = answersOf out ++ answers later t.phase t.protocol := by
  have hreceived : Socks (received data s) := ⟨h.tcpSocket, h.phase⟩
  obtain ⟨u, out, hprocess, hu, hbuf, _, hanswers⟩ := answers_process_data hreceived data
  have henabled : enabled s (.browserData data) = true := by
    simp [enabled, hreading, hdata, hlen]
  refine ⟨{ u with reading := true }, out, ?_, ⟨hu.tcpSocket, hu.phase⟩, rfl, hbuf, hanswers⟩
  rw [socks5Session, machine_step_ok henabled, run_browser_data_ok hprocess]
  rfl

/-- The reads behind the greeting are answered as the handlers see them. -/
theorem answers_reads {s : Socks5Session L} (h : Socks s) (hreading : s.reading = true)
    {reads : List Bytes} (hreads : ∀ data ∈ reads, data ≠ [] ∧ data.length ≤ 8192) :
    ∃ t out, (socks5Session L).run (.ok s) (reads.map .browserData) = some (.ok t, out) ∧
      answersOf out = answers (views s.readBuf reads) s.phase s.protocol := by
  induction reads generalizing s with
  | nil => exact ⟨s, [], rfl, rfl⟩
  | cons data reads ih =>
      obtain ⟨hdata, hlen⟩ := hreads data (by simp)
      obtain ⟨t, first, hstep, ht, htreading, hbuf, hanswers⟩ :=
        answers_read h hreading hdata hlen
      obtain ⟨u, rest, hrun, hrest⟩ := ih ht htreading fun d hd => hreads d (by simp [hd])
      refine ⟨u, first ++ rest, ?_, ?_⟩
      · exact Machine.run_cons.mpr ⟨_, first, rest, hstep, hrun, rfl⟩
      · rw [answers_of_append, hrest, hbuf]
        exact (hanswers _).symm

/-- The first read of a browser that greets is answered with the method, and then as the handlers
behind the first one see it. -/
theorem answers_greeting {s : Socks5Session L} (hphase : s.phase = .waitGreetingVersion)
    (htcp : s.tcpSocket = true) (hreading : s.reading = true) {data : Bytes}
    (hdata : data.head? = some 0x05) (hlen : data.length ≤ 8192) :
    ∃ t out, (socks5Session L).step (.ok s) (.browserData data) = some (.ok t, out) ∧
      Socks t ∧ t.reading = true ∧ t.readBuf = overlay data s.readBuf ∧
      ∀ later, .reply [0x05, 0x00] ::
        answers (List.replicate (turnsOf data - 1) (overlay data s.readBuf) ++ later)
          .waitSocksMethods s.protocol = answersOf out ++ answers later t.phase t.protocol := by
  obtain ⟨rest, rfl⟩ : ∃ rest, data = 0x05 :: rest := by
    cases data with
    | nil => cases hdata
    | cons b rest =>
        cases hdata
        exact ⟨rest, rfl⟩
  have henabled : enabled s (.browserData (0x05 :: rest)) = true := by
    simpa [enabled, hreading] using hlen
  -- the first handler, and then the rest of the read
  obtain ⟨u, hu⟩ : ∃ u, u = { received (0x05 :: rest) s with phase := .waitSocksMethods } :=
    ⟨_, rfl⟩
  have hgreeted : Socks u := by
    subst hu
    exact ⟨htcp, .inl rfl⟩
  have hphase' : (received (0x05 :: rest) s).phase = .waitGreetingVersion := hphase
  have hgreet : handleGreetingVersion.run (received (0x05 :: rest) s) =
      ⟨u, [.tcpSend [0x05, 0x00]], .ok 2⟩ := by
    have hbyte : (received (0x05 :: rest) s).readBuf 0 = 0x05 := rfl
    have htcp' : (received (0x05 :: rest) s).tcpSocket = true := htcp
    simp [handleGreetingVersion, hbyte, tcpSend, htcp', hu]
  obtain ⟨t, out, hloop, ht, hbuf, _, hanswers⟩ :=
    answers_consume_loop hgreeted (j := 1)
      (show (rest.length + 1 + 1) / 2 ≤ rest.length + 1 by omega)
  have hfirst : (consumeLoop (rest.length + 1) (rest.length + 1) 0).run
      (received (0x05 :: rest) s) = ⟨t, [.tcpSend [0x05, 0x00]] ++ out, .ok ()⟩ := by
    have hopen : u.phase ≠ .closed := by simp [hu]
    rw [Nat.mul_one] at hloop
    simp [consumeLoop, handlerOf, hphase', hgreet, hopen, hloop]
  have hover : t.phase ≠ .waitHttpRequestHeaders := by
    rcases ht.phase with hp | hp | hp | hp | hp | hp | hp <;> simp [hp]
  have hprocess : (processData (0x05 :: rest)).run (received (0x05 :: rest) s) =
      ⟨t, [.tcpSend [0x05, 0x00]] ++ out, .ok ()⟩ := by
    rw [run_process_data (by simp [hphase']) (by simp [hphase']), consume_pending_eq, run_bind,
      show (consumeLoop (0x05 :: rest).length (0x05 :: rest).length 0).run _ = _ from hfirst]
    simp [feedRequest, hover]
  refine ⟨{ t with reading := true }, [.tcpSend [0x05, 0x00]] ++ out, ?_,
    ⟨ht.tcpSocket, ht.phase⟩, rfl, ?_, fun later => ?_⟩
  · rw [socks5Session, machine_step_ok henabled, run_browser_data_ok hprocess]
    rfl
  · subst hu
    exact hbuf
  · rw [answers_of_append, List.append_assoc, ← hanswers later]
    subst hu
    rfl

end Socks5Session

/-! ## The handshake as a whole -/

/-- Half of the bytes is the least number of handlers that see them. -/
theorem length_views (buf : Nat → UInt8) (reads : List Bytes) :
    reads.flatten.length ≤ 2 * (views buf reads).length := by
  induction reads generalizing buf with
  | nil => simp
  | cons read reads ih =>
      have hrest := ih (overlay read buf)
      simp only [List.flatten_cons, List.length_append, views, List.length_replicate, turnsOf]
      omega

/-- A `SYN` for what has been found is the one requested exactly when both parts agree. -/
theorem syn_of_target (target : Option (Bytes × UInt16)) (host : Bytes) (port : UInt16)
    (p protocol : Protocol) :
    target.toList.map (fun t => Answer.syn t.1 t.2 p) = [.syn host port protocol] ↔
      p = protocol ∧ target = some (host, port) := by
  cases target with
  | none => simp
  | some t =>
      obtain ⟨h, k⟩ := t
      simp only [Option.toList, List.map_cons, List.map_nil, List.cons.injEq, Answer.syn.injEq,
        Option.some.injEq, Prod.mk.injEq, and_true]
      tauto

/-- What is answered behind the greeting is accepted exactly when it has been read right. -/
theorem answers_accepted_iff (q : SocksRequest) (v₂ v₃ v₄ : Nat → UInt8)
    (rest : List (Nat → UInt8)) (p : Protocol) :
    answers (v₂ :: v₃ :: v₄ :: rest) .waitSocksMethods p =
        [.syn q.destination.host q.port q.command.protocol] ↔
      v₂ 1 = q.command.toByte ∧
        targetAt (v₃ 3) v₄ = some (q.destination.host, q.port) := by
  have hrequest : ∀ (phase : Phase) (protocol : Protocol),
      (phase = .waitSocksTCP ∨ phase = .waitSocksUDP) →
      (answers (v₃ :: v₄ :: rest) phase protocol =
          [.syn q.destination.host q.port q.command.protocol] ↔
        protocol = q.command.protocol ∧
          targetAt (v₃ 3) v₄ = some (q.destination.host, q.port)) := by
    intro phase protocol hphase
    have hanswers : answers (v₃ :: v₄ :: rest) phase protocol =
        if v₃ 3 = 0x01 then answers (v₄ :: rest) .waitSocksIpv4 protocol
        else if v₃ 3 = 0x03 then answers (v₄ :: rest) .waitSocksDomain protocol
        else [.reply (refusal 0x08)] := by
      rcases hphase with rfl | rfl <;> rfl
    rw [hanswers]
    by_cases hipv4 : v₃ 3 = 0x01
    · rw [if_pos hipv4, hipv4]
      exact syn_of_target _ _ _ _ _
    · by_cases hdomain : v₃ 3 = 0x03
      · rw [if_neg hipv4, if_pos hdomain, hdomain]
        exact syn_of_target _ _ _ _ _
      · simp [hipv4, hdomain, targetAt]
  by_cases hconnect : v₂ 1 = 0x01
  · have hanswers : answers (v₂ :: v₃ :: v₄ :: rest) .waitSocksMethods p =
        answers (v₃ :: v₄ :: rest) .waitSocksTCP .socks5Connect := by
      simp [answers, hconnect]
    rw [hanswers, hrequest _ _ (.inl rfl), hconnect]
    cases q.command <;> simp [Command.protocol, Command.toByte]
  · by_cases hudp : v₂ 1 = 0x03
    · have hanswers : answers (v₂ :: v₃ :: v₄ :: rest) .waitSocksMethods p =
          answers (v₃ :: v₄ :: rest) .waitSocksUDP .udpAssociate := by
        simp [answers, hudp]
      rw [hanswers, hrequest _ _ (.inr rfl), hudp]
      cases q.command <;> simp [Command.protocol, Command.toByte]
    · have hanswers : answers (v₂ :: v₃ :: v₄ :: rest) .waitSocksMethods p =
          [.reply (refusal 0x07)] := by
        simp [answers, hconnect, hudp]
      rw [hanswers]
      cases hcommand : q.command <;> simp [Command.toByte, hconnect, hudp]

/-- A piece of a cut is no longer than the whole. -/
theorem Cuts.length_le {reads : List Bytes} {bytes : Bytes} (h : Cuts reads bytes)
    {read : Bytes} (hread : read ∈ reads) : read.length ≤ bytes.length := by
  rw [← h.1]
  exact (List.sublist_flatten_of_mem hread).length_le

open Socks5Session

variable {L : Llhttp}

/-- For every well-formed greeting and request and every way of cutting first the one and then the
other into reads, a client session answers with one method reply, no other, and one `SYN` for the
requested host, port and protocol, if and only if its handlers find the command, an address type
and the requested address at the offsets they look at. -/
theorem socks_handshake_iff (sessionId : UInt32) (genStreamId : Nat → UInt32)
    (readBuf : Nat → UInt8) (g : Greeting) (q : SocksRequest) {greeting request : List Bytes}
    (hgreeting : Cuts greeting g.bytes) (hrequest : Cuts request q.bytes) :
    ∃ t out, (socks5Session L).run (.ok (started L sessionId genStreamId readBuf))
        ((greeting ++ request).map .browserData) = some (.ok t, out) ∧
      (Accepted q out ↔ Readable readBuf q (greeting ++ request)) := by
  have hreads : ∀ data ∈ greeting ++ request, data ≠ [] ∧ data.length ≤ 8192 := by
    intro data hdata
    rcases List.mem_append.mp hdata with hmem | hmem
    · have hlen := hgreeting.length_le hmem
      have hbound := g.bounded.2
      simp only [Greeting.bytes, List.length_cons] at hlen
      exact ⟨hgreeting.2 data hmem, by omega⟩
    · have hlen := hrequest.length_le hmem
      have hbound : q.destination.bytes.length ≤ 257 := by
        cases q.destination with
        | ipv4 address => simp [Destination.bytes, AddressV4.toBytes]
        | domain name hname => simp [Destination.bytes]; omega
      simp only [SocksRequest.bytes, List.length_cons, List.length_append, List.length_nil] at hlen
      exact ⟨hrequest.2 data hmem, by omega⟩
  -- the first read begins with the version of the greeting
  obtain ⟨first, later, hsplit⟩ : ∃ first later, greeting = first :: later := by
    cases greeting with
    | nil => exact absurd hgreeting.1 (by simp [Greeting.bytes])
    | cons first later => exact ⟨first, later, rfl⟩
  have hversion : first.head? = some 0x05 := by
    have hflat := hgreeting.1
    have hne := hgreeting.2 first (by simp [hsplit])
    rw [hsplit] at hflat
    cases first with
    | nil => exact absurd rfl hne
    | cons b rest =>
        simp only [Greeting.bytes, List.flatten_cons, List.cons_append] at hflat
        injection hflat with hb
        rw [hb]
        rfl
  obtain ⟨t, out, hstep, ht, hreading, hbuf, hanswers⟩ :=
    answers_greeting (s := started L sessionId genStreamId readBuf) rfl rfl rfl hversion
      (hreads first (by simp [hsplit])).2
  have hlater : ∀ data ∈ later ++ request, data ≠ [] ∧ data.length ≤ 8192 := by
    intro data hdata
    refine hreads data ?_
    rw [hsplit, List.cons_append]
    exact List.mem_cons_of_mem _ hdata
  obtain ⟨u, rest, hrun, hrest⟩ := answers_reads ht hreading hlater
  refine ⟨u, out ++ rest, ?_, ?_⟩
  · rw [hsplit, List.cons_append, List.map_cons]
    exact Machine.run_cons.mpr ⟨_, out, rest, hstep, hrun, rfl⟩
  -- the views of all reads are at least four, and the first one is the greeting's
  have hall : answersOf (out ++ rest) = .reply [0x05, 0x00] ::
      answers ((views readBuf (greeting ++ request)).tail) .waitSocksMethods .unknown := by
    rw [answers_of_append, hrest, hbuf, ← hanswers, hsplit, List.cons_append, views]
    obtain ⟨n, hn⟩ : ∃ n, turnsOf first = n + 1 := by
      cases first with
      | nil => cases hversion
      | cons b tail => exact ⟨tail.length / 2, by simp [turnsOf]; omega⟩
    rw [hn, List.replicate_succ]
    rfl
  obtain ⟨v₁, v₂, v₃, v₄, more, hviews⟩ : ∃ v₁ v₂ v₃ v₄ more,
      views readBuf (greeting ++ request) = v₁ :: v₂ :: v₃ :: v₄ :: more := by
    have hcount := length_views readBuf (greeting ++ request)
    have hbytes : 7 ≤ (greeting ++ request).flatten.length := by
      rw [List.flatten_append, hgreeting.1, hrequest.1]
      have hmethods := g.bounded.1
      simp only [Greeting.bytes, SocksRequest.bytes, List.length_append, List.length_cons,
        List.length_nil]
      omega
    match hlist : views readBuf (greeting ++ request) with
    | v₁ :: v₂ :: v₃ :: v₄ :: more => exact ⟨v₁, v₂, v₃, v₄, more, rfl⟩
    | [] | [_] | [_, _] | [_, _, _] =>
        rw [hlist] at hcount
        simp only [List.length_cons, List.length_nil] at hcount
        omega
  rw [Accepted, hall, hviews, List.tail_cons, List.cons.injEq, and_iff_right rfl,
    answers_accepted_iff]
  constructor
  · intro hread
    exact ⟨v₁, v₂, v₃, v₄, more, hviews, hread⟩
  · intro ⟨w₁, w₂, w₃, w₄, others, hsame, hread⟩
    rw [hviews] at hsame
    cases hsame
    exact hread

theorem socks_handshake_connect :
    ∃ (t : Socks5Session .idle) (out : List ClientAction),
      (socks5Session .idle).run (.ok (started .idle 1 (fun _ => 7) fun _ => 0)) socksConnect =
        some (.ok t, out) ∧
      Accepted ⟨.connect, .ipv4 ⟨10, 0, 0, 1⟩, 80⟩ out := by
  have hgreeting : Cuts [[0x05, 0x01, 0x00]] (Greeting.bytes ⟨[0x00], by decide, by decide⟩) :=
    ⟨rfl, by decide⟩
  have hrequest : Cuts [[0x05, 0x01, 0x00, 0x01, 10, 0, 0, 1, 0, 80]]
      (SocksRequest.bytes ⟨.connect, .ipv4 ⟨10, 0, 0, 1⟩, 80⟩) := ⟨rfl, by decide⟩
  obtain ⟨t, out, hrun, haccepted⟩ :=
    @socks_handshake_iff .idle 1 (fun _ => 7) (fun _ => 0) _ _ _ _ hgreeting hrequest
  exact ⟨t, out, hrun, haccepted.mpr ⟨_, _, _, _, _, rfl, rfl, rfl⟩⟩

/-- A browser that offers one method and asks for a UDP association gets a TCP tunnel: what is
taken for the command is the number of methods. -/
theorem udp_associate_is_taken_for_connect :
    ∃ (t : Socks5Session .idle) (out : List ClientAction),
      Cuts [[0x05, 0x01, 0x00]] (Greeting.bytes ⟨[0x00], by decide, by decide⟩) ∧
      Cuts [[0x05, 0x03, 0x00, 0x01, 10, 0, 0, 1, 0, 80]]
        (SocksRequest.bytes ⟨.udpAssociate, .ipv4 ⟨10, 0, 0, 1⟩, 80⟩) ∧
      (socks5Session .idle).run (.ok (started .idle 1 (fun _ => 7) fun _ => 0))
        [.browserData [0x05, 0x01, 0x00],
          .browserData [0x05, 0x03, 0x00, 0x01, 10, 0, 0, 1, 0, 80]] = some (.ok t, out) ∧
      answersOf out = [.reply [0x05, 0x00], .syn (text "10.0.0.1") 80 .socks5Connect] ∧
      ¬ Accepted ⟨.udpAssociate, .ipv4 ⟨10, 0, 0, 1⟩, 80⟩ out := by
  obtain ⟨t, out, hrun, hout⟩ : ∃ (t : Socks5Session .idle) (out : List ClientAction),
      (socks5Session .idle).run (.ok (started .idle 1 (fun _ => 7) fun _ => 0))
        [.browserData [0x05, 0x01, 0x00],
          .browserData [0x05, 0x03, 0x00, 0x01, 10, 0, 0, 1, 0, 80]] = some (.ok t, out) ∧
      answersOf out = [.reply [0x05, 0x00], .syn (text "10.0.0.1") 80 .socks5Connect] :=
    ⟨_, _, rfl, rfl⟩
  refine ⟨t, out, ⟨rfl, by decide⟩, ⟨rfl, by decide⟩, hrun, hout, ?_⟩
  rw [Accepted, hout]
  decide

end RtcVpn
