import RtcVpn.Library.Fifo
import RtcVpn.Library.Machine
import RtcVpn.Mux.SessionMux

/-!
# Transparency of the multiplexer

Two multiplexers joined by a lossless FIFO channel of packed messages. The
machine `transport` interleaves send calls on one side with deliveries on the
other. `transport_delivers` relates the callbacks of a run to the calls whose
messages have been delivered, a prefix of all calls; `mux_transparent` reads
off the projection to each session and to `on_syn_`.
-/

namespace RtcVpn

/-! ## Calls and what they should cause -/

/-- A call of one of the send functions. -/
inductive Call where
  | sendSyn (streamId : UInt32) (host : Bytes) (port : UInt16) (protocol : Protocol)
  | sendSynack (streamId : UInt32) (ok : Bool) (protocol : Protocol)
  | sendData (streamId : UInt32) (data : Bytes) (protocol : Protocol)
  | sendFin (streamId : UInt32) (protocol : Protocol)
  | sendDataCtrl (streamId : UInt32) (type : CtrlType) (protocol : Protocol)
  deriving DecidableEq, Repr

namespace Call

/-- The stream a call is about. -/
def streamId : Call → UInt32
  | sendSyn i _ _ _ | sendSynack i _ _ | sendData i _ _ | sendFin i _ | sendDataCtrl i _ _ => i

/-- The frame a call hands to `send_func_`. -/
def frame (mux : SessionMux) : Call → Option Bytes
  | sendSyn i host port protocol => mux.sendSyn i host port protocol
  | sendSynack i ok protocol => mux.sendSynack i ok protocol
  | sendData i data protocol => mux.sendData i data protocol
  | sendFin i protocol => mux.sendFin i protocol
  | sendDataCtrl i type protocol => mux.sendDataCtrl i type protocol

/-- A host of at most 255 bytes, a frame below 2^32 bytes, a named control value. -/
def WellFormed : Call → Prop
  | sendSyn _ host _ _ => host.length ≤ 255
  | sendData _ data _ => FrameHeader.kSize + data.length < 2 ^ 32
  | sendDataCtrl _ type _ => type = .receive ∨ type = .pause
  | sendSynack _ _ _ | sendFin _ _ => True

/-- The callback of a session that a call for its stream is meant to invoke. -/
def upcallOn (s : Session) (c : Call) : Option Upcall :=
  if c.streamId = s.streamId then
    match c with
    | sendSyn _ _ _ _ => none
    | sendSynack _ ok protocol => some (.onSynack s ok protocol)
    | sendData _ data protocol => some (.onData s data protocol)
    | sendFin _ protocol => some (.onClose s protocol)
    | sendDataCtrl _ type protocol => some (.onDataCtrl s type protocol)
  else none

/-- The invocation of `on_syn_` that a call is meant to cause. -/
def synUpcall : Call → Option Upcall
  | sendSyn i host port protocol => some (.onSyn i host port protocol)
  | _ => none

/-- The callback a call causes at a multiplexer with the given registry. -/
def upcallAt (m : SessionManager) (c : Call) : Option Upcall :=
  match c.synUpcall with
  | some u => some u
  | none => (m.findSession c.streamId).bind fun s => c.upcallOn s

end Call

/-- The session whose callback an upcall is; `on_syn_` belongs to none. -/
def Upcall.session : Upcall → Option Session
  | onSyn _ _ _ _ => none
  | onSynack s _ _ | onData s _ _ | onClose s _ | onDataCtrl s _ _ => some s

/-! ## One call -/

/-- Every registered session has all its callbacks set, and so has the multiplexer. -/
def SessionMux.AllSet (mux : SessionMux) : Prop :=
  mux.onSyn = true ∧ ∀ i s, mux.sessionManager.findSession i = some s → s.AllSet

/-- The frame of a well-formed call invokes the callback the call is meant to cause. -/
theorem on_p2p_data_call {a b : SessionMux} (ha : a.sendFunc = true) (hb : b.AllSet) {c : Call}
    (hc : c.WellFormed) :
    ∃ frame, c.frame a = some frame ∧ frame.length < 2 ^ 32 ∧
      b.onP2pData frame = .ok (c.upcallAt b.sessionManager) := by
  obtain ⟨hsyn, hset⟩ := hb
  cases c with
  | sendSyn i host port protocol =>
      have hhost : host.length ≤ 255 := hc
      refine ⟨_, if_pos ha, ?_, ?_⟩
      · simp [makeFrame, FrameHeader.encode, encodeSynPayload]
        omega
      · rw [SessionMux.on_p2p_data_make_frame]
        simp [SessionMux.onSynFrame, decode_encode_syn_payload port hhost, hsyn, Call.upcallAt,
          Call.synUpcall, pure, Except.pure]
  | sendSynack i ok protocol =>
      refine ⟨_, if_pos ha, by simp [makeFrame, FrameHeader.encode], ?_⟩
      rw [SessionMux.on_p2p_data_make_frame]
      cases hfind : b.sessionManager.findSession i with
      | none => simp [SessionMux.onSynackFrame, hfind, Call.upcallAt, Call.synUpcall,
          Call.streamId, pure, Except.pure]
      | some s =>
          have hid := SessionManager.stream_id_of_find hfind
          cases ok <;> simp [SessionMux.onSynackFrame, hfind, (hset i s hfind).2.1, Call.upcallAt,
            Call.synUpcall, Call.streamId, Call.upcallOn, hid, pure, Except.pure]
  | sendData i data protocol =>
      have hdata : FrameHeader.kSize + data.length < 2 ^ 32 := hc
      refine ⟨_, if_pos ha, ?_, ?_⟩
      · simp [makeFrame, FrameHeader.encode, FrameHeader.kSize] at hdata ⊢
        omega
      · rw [SessionMux.on_p2p_data_make_frame]
        cases hfind : b.sessionManager.findSession i with
        | none => simp [SessionMux.onDataFrame, hfind, Call.upcallAt, Call.synUpcall,
            Call.streamId, pure, Except.pure]
        | some s =>
            have hid := SessionManager.stream_id_of_find hfind
            simp [SessionMux.onDataFrame, hfind, (hset i s hfind).1, Call.upcallAt,
              Call.synUpcall, Call.streamId, Call.upcallOn, hid, pure, Except.pure]
  | sendFin i protocol =>
      refine ⟨_, if_pos ha, by simp [makeFrame, FrameHeader.encode], ?_⟩
      rw [SessionMux.on_p2p_data_make_frame]
      cases hfind : b.sessionManager.findSession i with
      | none => simp [SessionMux.onFinFrame, hfind, Call.upcallAt, Call.synUpcall,
          Call.streamId, pure, Except.pure]
      | some s =>
          have hid := SessionManager.stream_id_of_find hfind
          simp [SessionMux.onFinFrame, hfind, (hset i s hfind).2.2.1, Call.upcallAt,
            Call.synUpcall, Call.streamId, Call.upcallOn, hid, pure, Except.pure]
  | sendDataCtrl i type protocol =>
      have htype : type = .receive ∨ type = .pause := hc
      refine ⟨_, if_pos ha, by simp [makeFrame, FrameHeader.encode], ?_⟩
      rw [SessionMux.on_p2p_data_make_frame]
      cases hfind : b.sessionManager.findSession i with
      | none => simp [SessionMux.onDataCtrlFrame, hfind, Call.upcallAt, Call.synUpcall,
          Call.streamId, pure, Except.pure]
      | some s =>
          have hid := SessionManager.stream_id_of_find hfind
          rcases htype with rfl | rfl <;>
            simp [SessionMux.onDataCtrlFrame, hfind, (hset i s hfind).2.2.2, Call.upcallAt,
              Call.synUpcall, Call.streamId, Call.upcallOn, hid, CtrlType.ofByte, pure,
              Except.pure]

/-! ## The transport -/

/-- Two multiplexers and the messages between them. -/
structure Transport where
  sender : SessionMux
  receiver : SessionMux
  channel : Fifo Bytes

/-- A send call on one side, or a delivery on the other. -/
inductive TransportEvent where
  | call (c : Call)
  | deliver

/-- The calls among the events. -/
def TransportEvent.calls (es : List TransportEvent) : List Call :=
  es.filterMap fun e => match e with
    | call c => some c
    | deliver => none

/-- `send_func_` packs each frame into the channel and drops it on `std::length_error`; a
delivered message goes through `unpackMessage` and `on_p2p_data`. -/
def transport : Machine Transport TransportEvent Upcall where
  step
    | t, .call c =>
        match (c.frame t.sender).bind packMessage with
        | none => some (t, [])
        | some message => some ({ t with channel := t.channel.push message }, [])
    | t, .deliver =>
        match t.channel.pop with
        | none => none
        | some (message, rest) =>
            match t.receiver.onMessage message with
            | .ok upcall => some ({ t with channel := rest }, upcall.toList)
            | .error _ => none

/-- Nothing sent yet. -/
def Transport.start (a b : SessionMux) : Transport := ⟨a, b, .empty⟩

/-- `ds` are the calls delivered so far and `ws` those in flight: the waiting messages are those
of `ws` and the callbacks invoked are those of `ds`. -/
structure Transport.Carries (a b : SessionMux) (calls : List Call) (out : List Upcall)
    (t : Transport) (ds ws : List Call) : Prop where
  sender : t.sender = a
  receiver : t.receiver = b
  split : calls = ds ++ ws
  inFlight : List.Forall₂ (fun c m => b.onMessage m = .ok (c.upcallAt b.sessionManager)) ws
    t.channel.waiting
  upcalls : out = ds.filterMap (Call.upcallAt b.sessionManager)

variable {a b : SessionMux}

/-- A well-formed call puts one message into the channel, whose delivery invokes the callback the
call is meant to cause. -/
theorem message_of_call (ha : a.sendFunc = true) (hb : b.AllSet) {c : Call} (hc : c.WellFormed) :
    ∃ message, (c.frame a).bind packMessage = some message ∧
      b.onMessage message = .ok (c.upcallAt b.sessionManager) := by
  obtain ⟨frame, hframe, hlen, hdata⟩ := on_p2p_data_call ha hb hc
  obtain ⟨message, hpack, hunpack⟩ := unpack_pack_message hlen
  refine ⟨message, by simp [hframe, hpack], ?_⟩
  rw [SessionMux.onMessage, hunpack, except_ok_bind]
  exact hdata

/-- The callbacks of a run are those of the delivered calls. -/
theorem transport_carries (ha : a.sendFunc = true) (hb : b.AllSet) {es : List TransportEvent}
    {t : Transport} {out : List Upcall} (hwf : ∀ c ∈ TransportEvent.calls es, c.WellFormed)
    (hrun : transport.run (Transport.start a b) es = some (t, out)) :
    ∃ ds ws, t.Carries a b (TransportEvent.calls es) out ds ws := by
  refine Machine.run_induction (P := fun es out t =>
    (∀ c ∈ TransportEvent.calls es, c.WellFormed) →
      ∃ ds ws, t.Carries a b (TransportEvent.calls es) out ds ws) ?_ ?_ hrun hwf
  · exact fun _ => ⟨[], [], rfl, rfl, rfl, .nil, rfl⟩
  intro es out t e u new _ ih hstep hwf
  have hcalls : TransportEvent.calls (es ++ [e]) =
      TransportEvent.calls es ++ TransportEvent.calls [e] := List.filterMap_append
  rw [hcalls] at hwf ⊢
  obtain ⟨ds, ws, hinv⟩ := ih fun c hc => hwf c (List.mem_append_left _ hc)
  cases e with
  | call c =>
      obtain ⟨message, hmessage, hdelivery⟩ :=
        message_of_call ha hb (hwf c (List.mem_append_right _ List.mem_cons_self))
      rw [← hinv.sender] at hmessage
      simp only [transport, hmessage, Option.some.injEq, Prod.mk.injEq] at hstep
      obtain ⟨rfl, rfl⟩ := hstep
      refine ⟨ds, ws ++ [c], hinv.sender, hinv.receiver, ?_, ?_, ?_⟩
      · rw [hinv.split, List.append_assoc]
        rfl
      · exact List.rel_append hinv.inFlight (.cons hdelivery .nil)
      · simpa using hinv.upcalls
  | deliver =>
      simp only [transport] at hstep
      split at hstep
      · exact absurd hstep (by simp)
      · next message rest hpop =>
          obtain ⟨hwaiting, _, _⟩ := Fifo.pop_eq_some hpop
          have hflight := hinv.inFlight
          rw [hwaiting] at hflight
          cases hflight with
          | @cons c _ ws' _ hdelivery hrest =>
              rw [hinv.receiver, hdelivery] at hstep
              simp only [Option.some.injEq, Prod.mk.injEq] at hstep
              obtain ⟨rfl, rfl⟩ := hstep
              refine ⟨ds ++ [c], ws', hinv.sender, rfl, ?_, hrest, ?_⟩
              · rw [hinv.split]
                simp [TransportEvent.calls]
              · rw [hinv.upcalls, List.filterMap_append]
                cases h : c.upcallAt b.sessionManager <;> simp [h]

/-- While a message waits, its delivery is possible: no message makes the receiver fault. -/
theorem deliver_enabled {t : Transport} {calls : List Call} {out : List Upcall}
    {ds ws : List Call} (hinv : t.Carries a b calls out ds ws) (hwaiting : t.channel.waiting ≠ []) :
    (transport.step t .deliver).isSome := by
  obtain ⟨message, rest, hsplit⟩ := List.exists_cons_of_ne_nil hwaiting
  obtain ⟨q, hpop, _⟩ := Fifo.pop_of_waiting hsplit
  have hflight := hinv.inFlight
  rw [hsplit] at hflight
  cases hflight with
  | cons hdelivery _ => simp [transport, hpop, hinv.receiver, hdelivery]

/-! ## Projections -/

/-- A call is either a SYN, for `on_syn_` and no session, or for the session of its stream. -/
theorem Call.syn_or_session (c : Call) :
    (∃ u, c.synUpcall = some u ∧ u.session = none ∧ ∀ s, c.upcallOn s = none) ∨
      (c.synUpcall = none ∧
        ∀ s u, c.upcallOn s = some u → u.session = some s ∧ c.streamId = s.streamId) := by
  cases c with
  | sendSyn i host port protocol => exact .inl ⟨_, rfl, rfl, fun s => ite_self none⟩
  | sendSynack | sendData | sendFin | sendDataCtrl =>
      refine .inr ⟨rfl, fun s u h => ?_⟩
      unfold upcallOn at h
      split at h
      · next hid =>
          cases h
          exact ⟨rfl, hid⟩
      · exact absurd h (by simp)

/-- A call for the stream of a registered session causes the callback of that session and of no
other. -/
theorem Call.upcall_at_filter {m : SessionManager} {i : UInt32} {s : Session}
    (hs : m.findSession i = some s) (c : Call) :
    (c.upcallAt m).filter (fun u => u.session = some s) = c.upcallOn s := by
  rcases c.syn_or_session with ⟨u, hsyn, hu, hnone⟩ | ⟨hsyn, hon⟩
  · simp [upcallAt, hsyn, hnone, Option.filter, hu]
  have hfind_s : c.streamId = s.streamId → m.findSession c.streamId = some s := by
    intro hid
    rw [hid, SessionManager.stream_id_of_find hs, hs]
  cases hfind : m.findSession c.streamId with
  | none =>
      have hnone : c.upcallOn s = none := by
        cases h : c.upcallOn s with
        | none => rfl
        | some u => exact absurd (hfind_s (hon s u h).2) (by simp [hfind])
      simp [upcallAt, hsyn, hfind, hnone]
  | some r =>
      have hat : c.upcallAt m = c.upcallOn r := by simp [upcallAt, hsyn, hfind]
      rw [hat]
      by_cases hr : r = s
      · subst hr
        cases h : c.upcallOn r with
        | none => rfl
        | some u => simp [Option.filter, (hon r u h).1]
      · have hnone : c.upcallOn s = none := by
          cases h : c.upcallOn s with
          | none => rfl
          | some u =>
              exact absurd (Option.some.inj (hfind.symm.trans (hfind_s (hon s u h).2))) hr
        cases h : c.upcallOn r with
        | none => rw [hnone]; rfl
        | some u => simp [Option.filter, (hon r u h).1, hr, hnone]

/-- Of the callbacks the calls cause, those of one registered session are the projection of the
calls to its stream. -/
theorem filter_session_upcalls {m : SessionManager} {i : UInt32} {s : Session}
    (hs : m.findSession i = some s) (cs : List Call) :
    (cs.filterMap (Call.upcallAt m)).filter (fun u => u.session = some s) =
      cs.filterMap (Call.upcallOn s) := by
  rw [List.filter_filterMap]
  exact List.filterMap_congr fun c _ => Call.upcall_at_filter hs c

/-- Of the callbacks the calls cause, the invocations of `on_syn_` are those of the SYN calls. -/
theorem filter_syn_upcalls (m : SessionManager) (cs : List Call) :
    (cs.filterMap (Call.upcallAt m)).filter (fun u => u.session = none) =
      cs.filterMap Call.synUpcall := by
  rw [List.filter_filterMap]
  refine List.filterMap_congr fun c _ => ?_
  rcases c.syn_or_session with ⟨u, hsyn, hu, -⟩ | ⟨hsyn, hon⟩
  · simp [Call.upcallAt, hsyn, Option.filter, hu]
  · cases hfind : m.findSession c.streamId with
    | none => simp [Call.upcallAt, hsyn, hfind]
    | some r =>
        cases h : c.upcallOn r with
        | none => simp [Call.upcallAt, hsyn, hfind, h]
        | some u => simp [Call.upcallAt, hsyn, hfind, h, Option.filter, (hon r u h).1]

/-- A call invokes a callback of no session but the one registered under its stream. -/
theorem session_of_upcall {m : SessionManager} {cs : List Call} {u : Upcall} {s : Session}
    (hu : u ∈ cs.filterMap (Call.upcallAt m)) (hs : u.session = some s) :
    ∃ c ∈ cs, m.findSession c.streamId = some s ∧ c.upcallOn s = some u := by
  obtain ⟨c, hc, hat⟩ := List.mem_filterMap.mp hu
  refine ⟨c, hc, ?_⟩
  rcases c.syn_or_session with ⟨v, hsyn, hv, -⟩ | ⟨hsyn, hon⟩
  · simp only [Call.upcallAt, hsyn, Option.some.injEq] at hat
    rw [← hat, hv] at hs
    exact absurd hs (by simp)
  · simp only [Call.upcallAt, hsyn, Option.bind_eq_some_iff] at hat
    obtain ⟨r, hfind, hat⟩ := hat
    obtain rfl : r = s := Option.some.inj ((hon r u hat).1.symm.trans hs)
    exact ⟨hfind, hat⟩

/-- The callbacks invoked at the receiver are exactly the projections of the delivered calls: per
registered session those of its stream, in order and unchanged, for `on_syn_` the SYN calls, and
no session gets a callback of another stream. The delivered calls are a prefix of all calls, and
all of them once the channel is empty. -/
theorem mux_transparent (ha : a.sendFunc = true) (hb : b.AllSet) {es : List TransportEvent}
    {t : Transport} {out : List Upcall} (hwf : ∀ c ∈ TransportEvent.calls es, c.WellFormed)
    (hrun : transport.run (Transport.start a b) es = some (t, out)) :
    ∃ ds, ds <+: TransportEvent.calls es ∧
      (t.channel.waiting = [] → ds = TransportEvent.calls es) ∧
      (t.channel.waiting ≠ [] → (transport.step t .deliver).isSome) ∧
      (∀ i s, b.sessionManager.findSession i = some s →
        out.filter (fun u => u.session = some s) = ds.filterMap (Call.upcallOn s)) ∧
      out.filter (fun u => u.session = none) = ds.filterMap Call.synUpcall ∧
      ∀ u ∈ out, ∀ s, u.session = some s →
        ∃ c ∈ ds, b.sessionManager.findSession c.streamId = some s ∧ c.upcallOn s = some u := by
  obtain ⟨ds, ws, hinv⟩ := transport_carries ha hb hwf hrun
  refine ⟨ds, ⟨ws, hinv.split.symm⟩, ?_, deliver_enabled hinv, ?_, ?_, ?_⟩
  · intro hempty
    have hws := hinv.inFlight
    rw [hempty] at hws
    cases hws
    simpa using hinv.split.symm
  · intro i s hs
    rw [hinv.upcalls]
    exact filter_session_upcalls hs ds
  · rw [hinv.upcalls]
    exact filter_syn_upcalls _ ds
  · intro u hu s hs
    rw [hinv.upcalls] at hu
    exact session_of_upcall hu hs

/-- A SYN and a data call through a receiver with one registered session. -/
theorem mux_transparent_syn_then_data :
    ∃ t out, transport.run
        (Transport.start ⟨1, .empty, true, false⟩
          ⟨1, SessionManager.empty.registerSession ⟨7, true, true, true, true⟩, false, true⟩)
        [.call (.sendSyn 7 [97] 80 .httpPlain), .call (.sendData 7 [1, 2] .httpPlain), .deliver,
          .deliver] = some (t, out) ∧
      ∃ ds, ds <+: [Call.sendSyn 7 [97] 80 .httpPlain, .sendData 7 [1, 2] .httpPlain] ∧
        out.filter (fun u => u.session = none) = ds.filterMap Call.synUpcall := by
  have hset : SessionMux.AllSet
      ⟨1, SessionManager.empty.registerSession ⟨7, true, true, true, true⟩, false, true⟩ := by
    refine ⟨rfl, fun i s h => ?_⟩
    simp only [SessionManager.find_register_session, SessionManager.find_empty] at h
    split at h
    · cases h
      exact ⟨rfl, rfl, rfl, rfl⟩
    · exact absurd h (by simp)
  have hwf : ∀ c ∈ TransportEvent.calls [.call (.sendSyn 7 [97] 80 .httpPlain),
      .call (.sendData 7 [1, 2] .httpPlain), .deliver, .deliver], c.WellFormed := by
    simp [TransportEvent.calls, Call.WellFormed, FrameHeader.kSize]
  obtain ⟨t, out, hrun⟩ : ∃ t out, transport.run
      (Transport.start ⟨1, .empty, true, false⟩
        ⟨1, SessionManager.empty.registerSession ⟨7, true, true, true, true⟩, false, true⟩)
      [.call (.sendSyn 7 [97] 80 .httpPlain), .call (.sendData 7 [1, 2] .httpPlain), .deliver,
        .deliver] = some (t, out) := ⟨_, _, rfl⟩
  obtain ⟨ds, hfront, -, -, -, hsyn, -⟩ := mux_transparent rfl hset hwf hrun
  exact ⟨t, out, hrun, ds, hfront, hsyn⟩

end RtcVpn
