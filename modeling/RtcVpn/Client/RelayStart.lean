import RtcVpn.Client.Requests
import RtcVpn.Socket.UdpStep

/-!
# The start of a UDP relay

`udp_connected` starts the relay, which posts the task that opens and binds its
socket to the strand of that socket, and goes on to ask for the local address and
the socket for its local port. The two run on threads of their own. `relayStart`
interleaves them: what the reply to the browser tells depends on how far the task
has come when the port is asked for, and there is none without an address.
-/

namespace RtcVpn

/-- The descriptor of the relay's socket. -/
inductive Descriptor where
  | closed
  | opened
  | bound (port : UInt16)
  deriving DecidableEq, Repr

/-- `getLocalPort`. `local_endpoint` throws without a descriptor and has port 0 before it is
bound. -/
def Descriptor.getLocalPort : Descriptor → Option UInt16
  | .closed => none
  | .opened => some 0
  | .bound port => some port

/-- What opening the descriptor and binding it return, with the port it is bound to. -/
structure Opening where
  opened : Bool
  boundTo : Option UInt16
  deriving DecidableEq, Repr

/-- The task of `UdpSocket::start` leaves its socket open. -/
def Opening.Succeeds (opening : Opening) : Prop :=
  ((UdpSocket.startTask opening.opened opening.boundTo.isSome).run (.fresh {})).state.isOpen = true

theorem Opening.succeeds_iff {opening : Opening} :
    opening.Succeeds ↔ opening.opened = true ∧ ∃ port, opening.boundTo = some port := by
  obtain ⟨opened, boundTo⟩ := opening
  cases opened <;> cases boundTo <;>
    simp [Opening.Succeeds, UdpSocket.startTask, UdpSocket.run_invoke, UdpSocket.run_do_read,
      UdpSocket.fresh, UdpSocket.beginRead]

/-- What `get_local_ip` returns, if it does not throw as it does without a route, and whether it is
evaluated before the port is asked for: it is an argument of the same call. -/
structure LocalIp where
  address : Option AddressV4
  first : Bool
  deriving DecidableEq, Repr

/-- Where the task of `UdpSocket::start` is. -/
inductive StartTask where
  | beforeOpen
  | beforeBind
  | returned
  deriving DecidableEq, Repr

/-- The thread of the strand, and the one that handles the `SYNACK`. -/
inductive RelayThread where
  | strand
  | synack
  deriving DecidableEq, Repr

/-- The relay's socket once `start` has posted its task: the descriptor, where the task is, how
often the port is still to be asked for, and what asking has returned. -/
structure RelayStart where
  descriptor : Descriptor := .closed
  task : StartTask := .beforeOpen
  toAsk : Nat
  port : Option UInt16 := none
  thrown : Bool := false
  deriving DecidableEq, Repr

namespace RelayStart

/-- The task posted by `UdpSocket::start`, from one call on the descriptor to the next. -/
def runTask (opening : Opening) (r : RelayStart) : Option RelayStart :=
  match r.task with
  | .beforeOpen =>
      if opening.opened then some { r with descriptor := .opened, task := .beforeBind }
      else some { r with task := .returned }
  | .beforeBind =>
      match opening.boundTo with
      | some port => some { r with descriptor := .bound port, task := .returned }
      | none => some { r with task := .returned }
  | .returned => none

/-- The handler of the `SYNACK`, from one call of `getLocalPort` to the next, with the descriptor
that is asked. `get_local_ip` has nothing to do with the descriptor. -/
def runHandler (ip : LocalIp) (r : RelayStart) : Option (RelayStart × List Descriptor) :=
  if r.thrown || r.toAsk == 0 then none
  else if ip.address.isNone && ip.first && r.toAsk == 1 then some ({ r with thrown := true }, [])
  else
    match r.descriptor.getLocalPort with
    | some port => some ({ r with toAsk := r.toAsk - 1, port := some port }, [r.descriptor])
    | none => some ({ r with thrown := true }, [r.descriptor])

/-- The relay as the handler has it: `UdpSession::start` asks for the port in a message of the
debug log, `udp_connected` for the reply. -/
def begun (debug : Bool) : RelayStart where
  toAsk := if debug then 2 else 1

/-- The handler has what it asked for, or has thrown. -/
def Answered (r : RelayStart) : Prop := r.thrown = true ∨ r.toAsk = 0

/-- What the handler replies with: the local address and the port, or the exception. -/
def relay (ip : LocalIp) (r : RelayStart) : Option (AddressV4 × UInt16) :=
  if r.thrown then none
  else
    match ip.address, r.port with
    | some address, some port => some (address, port)
    | _, _ => none

theorem relay_none {ip : LocalIp} (h : ip.address = none) (r : RelayStart) : r.relay ip = none := by
  simp [relay, h]

end RelayStart

/-- The two threads. The action is the descriptor that is asked for its port. -/
def relayStart (opening : Opening) (ip : LocalIp) :
    Machine RelayStart RelayThread Descriptor where
  step r
    | .strand => (r.runTask opening).map fun r => (r, [])
    | .synack => r.runHandler ip

namespace RelayStart

variable {opening : Opening} {address : AddressV4} {first : Bool} {t : RelayStart}
  {schedule : List RelayThread} {asked : List Descriptor}

/-- Once the descriptor is bound and the task has returned, its port is what is asked for. -/
theorem asks_bound {port : UInt16} {toAsk : Nat} {last : Option UInt16}
    (hrun : (relayStart opening ⟨some address, first⟩).run
      ⟨.bound port, .returned, toAsk, last, false⟩ schedule = some (t, asked)) :
    t.thrown = false ∧ (t.toAsk = toAsk ∧ t.port = last ∨ t.port = some port) ∧
      ∀ d ∈ asked, d = .bound port := by
  induction schedule generalizing toAsk last asked with
  | nil =>
      cases hrun
      exact ⟨rfl, .inl ⟨rfl, rfl⟩, fun d hd => by cases hd⟩
  | cons thread schedule ih =>
      obtain ⟨u, now, rest, hstep, hrest, rfl⟩ := Machine.run_cons.mp hrun
      cases thread with
      | strand => cases hstep
      | synack =>
          cases toAsk with
          | zero => cases hstep
          | succ n =>
              cases hstep
              obtain ⟨ht, hport, hall⟩ := ih hrest
              refine ⟨ht, .inr (hport.elim And.right id), fun d hd => ?_⟩
              rcases List.mem_append.mp hd with hd | hd
              · exact List.mem_singleton.mp hd
              · exact hall d hd

/-- If the handler has what it asked for and has only asked a bound descriptor, the task has opened
and bound it first. -/
theorem bound_first {debug : Bool}
    (hrun : (relayStart opening ⟨some address, first⟩).run (begun debug) schedule =
      some (t, asked))
    (hanswered : t.Answered) (hasked : ∀ d ∈ asked, ∃ port, d = .bound port) :
    opening.Succeeds ∧ [.strand, .strand] <+: schedule := by
  rw [Opening.succeeds_iff]
  have hwaiting : ∀ {descriptor : Descriptor} {task : StartTask},
      ¬ Answered ⟨descriptor, task, if debug then 2 else 1, none, false⟩ := by
    cases debug <;> simp [Answered]
  -- asking before the descriptor is bound is seen
  have hearly : ∀ {descriptor task rest as}, (∀ port, descriptor ≠ .bound port) →
      (relayStart opening ⟨some address, first⟩).run
        ⟨descriptor, task, if debug then 2 else 1, none, false⟩ (.synack :: rest) =
          some (t, as) → ¬ ∀ d ∈ as, ∃ port, d = .bound port := by
    intro descriptor task rest as hunbound hrun h
    obtain ⟨u, now, last, hstep, -, rfl⟩ := Machine.run_cons.mp hrun
    have hnow : now = [descriptor] := by
      cases debug <;> cases descriptor <;> cases hstep <;> rfl
    obtain ⟨port, hport⟩ := h descriptor (by simp [hnow])
    exact hunbound port hport
  obtain ⟨opened, boundTo⟩ := opening
  rcases schedule with _ | ⟨_ | _, schedule⟩
  · cases hrun
    exact absurd hanswered hwaiting
  · obtain ⟨u, now, rest, hstep, hrest, rfl⟩ := Machine.run_cons.mp hrun
    cases opened with
    | false =>
        cases hstep
        rcases schedule with _ | ⟨_ | _, schedule⟩
        · cases hrest
          exact absurd hanswered hwaiting
        · obtain ⟨_, _, _, hstep, -⟩ := Machine.run_cons.mp hrest
          cases hstep
        · exact absurd hasked (hearly (by simp [begun]) hrest)
    | true =>
        cases hstep
        rcases schedule with _ | ⟨_ | _, schedule⟩
        · cases hrest
          exact absurd hanswered hwaiting
        · cases boundTo with
          | some port => exact ⟨⟨rfl, port, rfl⟩, schedule, rfl⟩
          | none =>
              obtain ⟨u, now, rest, hstep, hlast, rfl⟩ := Machine.run_cons.mp hrest
              cases hstep
              rcases schedule with _ | ⟨_ | _, schedule⟩
              · cases hlast
                exact absurd hanswered hwaiting
              · obtain ⟨_, _, _, hstep, -⟩ := Machine.run_cons.mp hlast
                cases hstep
              · exact absurd hasked (hearly (by simp) hlast)
        · exact absurd hasked (hearly (by simp) hrest)
  · exact absurd hasked (hearly (by simp) hrun)

/-- If the task opens and binds the descriptor first, the handler gets its port. -/
theorem port_of_bound_first {debug : Bool} {port : UInt16} (hopened : opening.opened = true)
    (hbound : opening.boundTo = some port) (hfirst : [.strand, .strand] <+: schedule)
    (hrun : (relayStart opening ⟨some address, first⟩).run (begun debug) schedule =
      some (t, asked)) (hanswered : t.Answered) :
    t.thrown = false ∧ t.port = some port ∧ ∀ d ∈ asked, d = .bound port := by
  obtain ⟨rest, rfl⟩ := hfirst
  obtain ⟨opened, boundTo⟩ := opening
  cases hopened
  cases hbound
  obtain ⟨_, _, _, hopen, hrest, rfl⟩ := Machine.run_cons.mp hrun
  cases hopen
  obtain ⟨_, _, _, hbind, hlast, rfl⟩ := Machine.run_cons.mp hrest
  cases hbind
  obtain ⟨hthrown, hport, hall⟩ := asks_bound hlast
  refine ⟨hthrown, hport.resolve_left fun h => ?_, by simpa using hall⟩
  rw [Answered, hthrown, h.1] at hanswered
  cases debug <;> simp [begun] at hanswered

end RelayStart

/-! ## The reply -/

open RelayStart

/-- What the browser is sent is the bound port, once, if the socket has been opened and bound, and a
failure if not; and the port is asked for only when the descriptor is bound. -/
structure PortReported (opening : Opening) (asked : List Descriptor) (sent : List Bytes) :
    Prop where
  asked : ∀ d ∈ asked, ∃ port, d = .bound port
  success : ∀ port, opening.Succeeds → opening.boundTo = some port → ∃ address : AddressV4,
    sent = [[0x05, 0x00, 0x00, 0x01] ++ address.toBytes ++ [highByte port, lowByte port]]
  failure : ¬ opening.Succeeds → ∃ rep rest, sent = [0x05 :: rep :: rest] ∧ rep ≠ 0x00

/-- There is a reply in either case. -/
theorem PortReported.sent_ne_nil {opening : Opening} {asked : List Descriptor} {sent : List Bytes}
    (h : PortReported opening asked sent) : sent ≠ [] := by
  by_cases hsucceeds : opening.Succeeds
  · obtain ⟨-, port, hport⟩ := Opening.succeeds_iff.mp hsucceeds
    obtain ⟨address, hsent⟩ := h.success port hsucceeds hport
    rw [hsent]
    exact List.cons_ne_nil _ _
  · obtain ⟨rep, rest, hsent, -⟩ := h.failure hsucceeds
    rw [hsent]
    exact List.cons_ne_nil _ _

namespace Socks5Session

open Effect

variable {L : Llhttp} {s : Socks5Session L}

/-- A relay that gives its address and port is reported to the browser. -/
theorem sent_relay (hsocket : s.tcpSocket = true) (hrelay : s.udpSession = false) (ip : AddressV4)
    (port : UInt16) :
    ((handle (.synack true .udpAssociate (some (ip, port)))).run s).actions.filterMap
        ClientAction.sent =
      [[0x05, 0x00, 0x00, 0x01] ++ ip.toBytes ++ [highByte port, lowByte port]] := by
  simp [handle, p2pSynack, replyToBrowser, udpConnected, startRelay, hrelay, sendUdpReply, tcpSend,
    hsocket]
  rfl

/-- An exception leaves the browser without a reply. -/
theorem sent_relay_none (hrelay : s.udpSession = false) :
    ((handle (.synack true .udpAssociate none)).run s).actions.filterMap
        ClientAction.sent = [] := by
  simp [handle, p2pSynack, replyToBrowser, udpConnected, startRelay, hrelay]
  rfl

end Socks5Session

/-- Whatever the order of the two threads, the port of the reply is the one the relay's socket is
bound to if and only if there is a local address, the socket can be opened and bound, and the task
that does so is the first to run. -/
theorem port_reported_iff {L : Llhttp} {s : Socks5Session L} (hsocket : s.tcpSocket = true)
    (hrelay : s.udpSession = false) {debug : Bool} {opening : Opening} {ip : LocalIp}
    {schedule : List RelayThread} {r : RelayStart} {asked : List Descriptor}
    (hrun : (relayStart opening ip).run (begun debug) schedule = some (r, asked))
    (hanswered : r.Answered) :
    PortReported opening asked
        (((Socks5Session.handle (.synack true .udpAssociate (r.relay ip))).run s).actions.filterMap
          ClientAction.sent) ↔
      ip.address.isSome ∧ opening.Succeeds ∧ [.strand, .strand] <+: schedule := by
  obtain ⟨_ | address, first⟩ := ip
  · -- no address, and so no reply
    refine ⟨fun h => absurd ?_ h.sent_ne_nil, fun h => absurd h.1 (by simp)⟩
    rw [relay_none rfl, Socks5Session.sent_relay_none hrelay]
  · constructor
    · exact fun h => ⟨rfl, bound_first hrun hanswered h.asked⟩
    · rintro ⟨-, hsucceeds, hfirst⟩
      obtain ⟨hopened, port, hport⟩ := Opening.succeeds_iff.mp hsucceeds
      obtain ⟨hthrown, hlast, hall⟩ := port_of_bound_first hopened hport hfirst hrun hanswered
      have hgiven : r.relay ⟨some address, first⟩ = some (address, port) := by
        simp [relay, hthrown, hlast]
      rw [hgiven, Socks5Session.sent_relay hsocket hrelay]
      refine ⟨fun d hd => ⟨port, hall d hd⟩, ?_, fun h => absurd hsucceeds h⟩
      intro port' _ hport'
      rw [hport] at hport'
      cases hport'
      exact ⟨address, rfl⟩

/-- The task opens and binds the descriptor, and then the handler asks for its port: the browser is
told port 4000. -/
theorem port_reported_in_order :
    ∃ r asked sent, (relayStart ⟨true, some 4000⟩ ⟨some ⟨10, 0, 0, 1⟩, true⟩).run (begun true)
        [.strand, .strand, .synack, .synack] = some (r, asked) ∧
      ((Socks5Session.handle (.synack true .udpAssociate
        (r.relay ⟨some ⟨10, 0, 0, 1⟩, true⟩))).run
          (.started .idle 1 (fun _ => 5) fun _ => 0)).actions.filterMap ClientAction.sent = sent ∧
      PortReported ⟨true, some 4000⟩ asked sent ∧
      sent = [[0x05, 0x00, 0x00, 0x01, 10, 0, 0, 1, 0x0F, 0xA0]] := by
  have hrun : (relayStart ⟨true, some 4000⟩ ⟨some ⟨10, 0, 0, 1⟩, true⟩).run (begun true)
      [.strand, .strand, .synack, .synack] =
        some (⟨.bound 4000, .returned, 0, some 4000, false⟩, [.bound 4000, .bound 4000]) := rfl
  have hsucceeds : (⟨true, some 4000⟩ : Opening).Succeeds :=
    Opening.succeeds_iff.mpr ⟨rfl, 4000, rfl⟩
  exact ⟨_, _, _, hrun, rfl,
    (port_reported_iff rfl rfl hrun (.inr rfl)).mpr ⟨rfl, hsucceeds, [.synack, .synack], rfl⟩, rfl⟩

/-- The handler asks before the task has opened the descriptor, throws, and nothing is replied; and
so it is in the right order if there is no local address. -/
theorem port_asked_early :
    (∃ r asked, (relayStart ⟨true, some 4000⟩ ⟨some ⟨10, 0, 0, 1⟩, true⟩).run (begun false)
        [.synack, .strand, .strand] = some (r, asked) ∧
      ¬ PortReported ⟨true, some 4000⟩ asked
        (((Socks5Session.handle (.synack true .udpAssociate
          (r.relay ⟨some ⟨10, 0, 0, 1⟩, true⟩))).run
            (.started .idle 1 (fun _ => 5) fun _ => 0)).actions.filterMap ClientAction.sent)) ∧
    ∃ r asked, (relayStart ⟨true, some 4000⟩ ⟨none, true⟩).run (begun false)
        [.strand, .strand, .synack] = some (r, asked) ∧
      ¬ PortReported ⟨true, some 4000⟩ asked
        (((Socks5Session.handle (.synack true .udpAssociate (r.relay ⟨none, true⟩))).run
          (.started .idle 1 (fun _ => 5) fun _ => 0)).actions.filterMap ClientAction.sent) :=
  ⟨⟨_, _, rfl, fun h => h.sent_ne_nil rfl⟩, _, _, rfl, fun h => h.sent_ne_nil rfl⟩

end RtcVpn
