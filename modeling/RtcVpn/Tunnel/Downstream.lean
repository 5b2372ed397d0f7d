import RtcVpn.Tunnel.Arrivals
import RtcVpn.Tunnel.TargetSockets

/-!
# From the target to the browser

Behind the `SYN` frame of a tunnel its browser is handed the answer of the
server and then what has been read from the target, up to a point. The proof
follows the replies on the stream: those that the session has taken are the ones
that have reached the app, as long as the stream is registered.
-/

namespace RtcVpn

open Effect

/-- What the browser is handed at a reply. -/
def Call.handed : Call → List Bytes
  | .sendSynack _ ok protocol => [answer protocol ok]
  | .sendData _ data _ => [data]
  | _ => []

/-- The target has not been reached. -/
def Call.Refuses (c : Call) : Prop := ∃ i protocol, c = .sendSynack i false protocol

namespace NetworkRtcApp

variable {L : Llhttp} {c : NetworkRtcApp L} {i : UInt32} {e : AppEvent}
  {x : Except AppFault (NetworkRtcApp L)} {new : List AppAction}

/-- The frames of a stream get to the session. -/
def Attends (c : NetworkRtcApp L) (i : UInt32) : Prop :=
  c.destroyed = false ∧ (c.mux.sessionManager.findSession i).isSome

/-- The callback that a message leads to. -/
theorem session_event_message (hknown : ∀ i session,
      c.mux.sessionManager.findSession i = some session → session = sessionCallbacks i)
    (data : Bytes) (relay : Option (AddressV4 × UInt16)) :
    sessionEvent c (.message data relay) =
      match frameOf data with
      | none => none
      | some (h, payload) =>
          if c.destroyed = false ∧ (c.mux.sessionManager.findSession h.streamId).isSome then
            match h.type with
            | .synack => some (.synack (payload.head? == some 0) h.protocol relay)
            | .data => some (.data payload h.protocol)
            | .fin => some (.fin h.protocol)
            | _ => none
          else none := by
  rw [sessionEvent, SessionMux.on_message_eq]
  cases hdestroyed : c.destroyed with
  | true => rcases hframe : frameOf data with _ | ⟨h, payload⟩ <;> simp
  | false =>
      rcases hframe : frameOf data with _ | ⟨⟨j, type, protocol⟩, payload⟩
      · rfl
      · -- a `SYN` frame gets to no callback of the session
        have hsyn : c.mux.onSynFrame ⟨j, .syn, protocol⟩ payload = .ok none ∨
            ∃ host port, c.mux.onSynFrame ⟨j, .syn, protocol⟩ payload =
              .ok (some (.onSyn j host port protocol)) := by
          obtain ⟨r, hr⟩ := decode_syn_payload_total payload
          simp only [SessionMux.onSynFrame, hr, except_ok_bind]
          rcases r with _ | ⟨host, port⟩
          · exact .inl rfl
          · cases c.mux.onSyn with
            | false => exact .inl rfl
            | true => exact .inr ⟨host, port, rfl⟩
        cases hfind : c.mux.sessionManager.findSession j with
        | none =>
            cases type with
            | syn => rcases hsyn with hsyn | ⟨host, port, hsyn⟩ <;> simp [hsyn]
            | _ =>
                simp [SessionMux.onSynackFrame, SessionMux.onDataFrame, SessionMux.onFinFrame,
                  SessionMux.onDataCtrlFrame, hfind, pure, Except.pure]
        | some session =>
            obtain rfl := hknown j session hfind
            cases type with
            | syn => rcases hsyn with hsyn | ⟨host, port, hsyn⟩ <;> simp [hsyn]
            | synack =>
                cases payload <;>
                  simp [SessionMux.onSynackFrame, hfind, sessionCallbacks, pure, Except.pure, bind,
                    Except.bind]
            | _ =>
                simp [SessionMux.onDataFrame, SessionMux.onFinFrame, SessionMux.onDataCtrlFrame,
                  hfind, sessionCallbacks, pure, Except.pure]

/-- The frame that a reply is read from. -/
theorem frame_of_reply {data : Bytes} {r : Call} (h : replyOf i data = some r) :
    ∃ protocol payload,
      (frameOf data = some (⟨i, .synack, protocol⟩, payload) ∧
        r = .sendSynack i (payload.head? == some 0) protocol) ∨
      (frameOf data = some (⟨i, .data, protocol⟩, payload) ∧ r = .sendData i payload protocol) := by
  unfold replyOf at h
  rcases hframe : frameOf data with _ | ⟨⟨j, type, protocol⟩, payload⟩
  · rw [hframe] at h
    cases h
  · rw [hframe] at h
    dsimp only at h
    split at h
    · next hj =>
        subst hj
        cases type with
        | synack =>
            cases h
            exact ⟨protocol, payload, .inl ⟨rfl, rfl⟩⟩
        | data =>
            cases h
            exact ⟨protocol, payload, .inr ⟨rfl, rfl⟩⟩
        | _ => cases h
    · cases h

/-- A reply gets to the session as long as its stream is registered. -/
theorem session_event_of_reply (hknown : ∀ i session,
      c.mux.sessionManager.findSession i = some session → session = sessionCallbacks i)
    {r : Call} (hr : e.replyOn i = some r) :
    (¬ c.Attends i → sessionEvent c e = none) ∧
      (c.Attends i →
        (∃ ok protocol relay, r = .sendSynack i ok protocol ∧
          sessionEvent c e = some (.synack ok protocol relay)) ∨
        ∃ payload protocol, r = .sendData i payload protocol ∧
          sessionEvent c e = some (.data payload protocol)) := by
  cases e with
  | message data relay =>
      have hr' : replyOf i data = some r := hr
      rw [session_event_message hknown]
      obtain ⟨protocol, payload, ⟨hframe, rfl⟩ | ⟨hframe, rfl⟩⟩ := frame_of_reply hr'
      · rw [hframe]
        exact ⟨fun hnot => if_neg hnot, fun hattends =>
          .inl ⟨_, protocol, relay, rfl, if_pos hattends⟩⟩
      · rw [hframe]
        exact ⟨fun hnot => if_neg hnot, fun hattends =>
          .inr ⟨payload, protocol, rfl, if_pos hattends⟩⟩
  | session e => cases hr
  | relay e => cases hr
  | destroyed => cases hr

/-- A `SYNACK` or `DATA` frame that gets to the session is a reply on a stream that is
registered. -/
theorem reply_of_session_event (hknown : ∀ i session,
      c.mux.sessionManager.findSession i = some session → session = sessionCallbacks i)
    (henabled : enabled c e = true) {e' : ClientEvent} (he : sessionEvent c e = some e')
    (hframe : (∃ ok protocol relay, e' = .synack ok protocol relay) ∨
      ∃ payload protocol, e' = .data payload protocol) :
    ∃ j r, e.replyOn j = some r ∧ c.Attends j := by
  cases e with
  | session e =>
      cases he
      rcases hframe with ⟨ok, protocol, relay, rfl⟩ | ⟨payload, protocol, rfl⟩ <;>
        simp [enabled, isLocal] at henabled
  | message data relay =>
      rw [session_event_message hknown] at he
      rcases hdata : frameOf data with _ | ⟨⟨j, type, protocol⟩, payload⟩
      · rw [hdata] at he
        cases he
      · rw [hdata] at he
        dsimp only at he
        split at he
        · next hattends =>
            have hreply : ∃ r, replyOf j data = some r := by
              rw [replyOf, hdata]
              cases type with
              | synack | data => exact ⟨_, if_pos rfl⟩
              | fin =>
                  cases he
                  rcases hframe with ⟨_, _, _, hframe⟩ | ⟨_, _, hframe⟩ <;> cases hframe
              | _ => cases he
            obtain ⟨r, hr⟩ := hreply
            exact ⟨j, r, hr, hattends⟩
        · cases he
  | relay e => cases he
  | destroyed => cases he

/-- What a step of the app hands the browser, and that a stream is not registered again. -/
structure HandedStep (c : NetworkRtcApp L) (i : UInt32) (e : AppEvent)
    (x : Except AppFault (NetworkRtcApp L)) (new : List ClientAction) : Prop where
  taken : ∀ r, e.replyOn i = some r → c.Attends i →
    (new.filterMap ClientAction.sent = r.handed ∧ (r.Refuses → .tcpClose ∈ new)) ∨
      new.filterMap ClientAction.sent = [] ∧ ∀ d, x ≠ .ok d
  silent : e.replyOn i = none ∨ ¬ c.Attends i → new.filterMap ClientAction.sent = []
  attends : ∀ d, x = .ok d → d.Attends i → c.Attends i

/-- A callback of the session at a reply on a tunnel. -/
theorem handed_reply {e' : ClientEvent} (hsession : SessionStep c e' x new) {r : Call}
    (hr : (∃ ok protocol relay, r = .sendSynack i ok protocol ∧ e' = .synack ok protocol relay) ∨
      ∃ payload protocol, r = .sendData i payload protocol ∧ e' = .data payload protocol)
    (hverbatim : Verbatim r.protocol) :
    ((new.filterMap sessionAction).filterMap ClientAction.sent = r.handed ∧
        (r.Refuses → .tcpClose ∈ new.filterMap sessionAction)) ∨
      (new.filterMap sessionAction).filterMap ClientAction.sent = [] ∧ ∀ d, x ≠ .ok d := by
  -- a handler that ends in a fault takes the app with it
  have hdead : ∀ fault, ((Socks5Session.handle e').run c.association.session).result =
      .error fault → ∀ d, x ≠ .ok d := by
    intro fault hresult d hd
    rw [(hsession.alive d hd).1] at hresult
    cases hresult
  rcases hr with ⟨ok, protocol, relay, rfl, rfl⟩ | ⟨payload, protocol, rfl, rfl⟩
  · obtain ⟨hopen, hgone⟩ := Socks5Session.run_answer (s := c.association.session)
      (p := protocol) hverbatim ok relay
    cases hsocket : c.association.session.tcpSocket with
    | true =>
        have hactions := hopen hsocket
        have hwhole := hsession.whole (by rw [hactions]; cases ok <;> simp)
        rw [hwhole, hactions]
        refine .inl ⟨by cases ok <;> rfl, ?_⟩
        rintro ⟨_, _, hrefuses⟩
        cases hrefuses
        simp
    | false =>
        obtain ⟨hactions, hresult⟩ := hgone hsocket
        have hnone := hsession.actions
        rw [hactions, List.prefix_nil] at hnone
        rw [hnone]
        exact .inr ⟨rfl, hdead _ hresult⟩
  · obtain ⟨hopen, hgone⟩ := Socks5Session.run_payload (s := c.association.session)
      (p := protocol) hverbatim payload
    cases hsocket : c.association.session.tcpSocket with
    | true =>
        have hactions := hopen hsocket
        have hwhole := hsession.whole (by rw [hactions]; simp)
        rw [hwhole, hactions]
        refine .inl ⟨rfl, ?_⟩
        rintro ⟨_, _, hrefuses⟩
        cases hrefuses
    | false =>
        obtain ⟨hactions, hresult⟩ := hgone hsocket
        have hnone := hsession.actions
        rw [hactions, List.prefix_nil] at hnone
        rw [hnone]
        exact .inr ⟨rfl, hdead _ hresult⟩

/-- A step behind the `SYN` frame of a tunnel that is alone. -/
theorem handed_step (hover : c.association.session.Over) (hknown : ∀ i session,
      c.mux.sessionManager.findSession i = some session → session = sessionCallbacks i)
    (honly : ∀ j, (c.mux.sessionManager.findSession j).isSome → j = i)
    (hverbatim : ∀ r, e.replyOn i = some r → Verbatim r.protocol)
    (hstep : (networkRtcApp L).step (.ok c) e = some (x, new)) :
    HandedStep c i e x (new.filterMap sessionAction) := by
  obtain ⟨_, hc, henabled, -, -⟩ := machine_step_eq_some hstep
  cases hc
  obtain ⟨hsession, hother⟩ := app_step hstep
  refine ⟨fun r hr hattends => ?_, fun hsilent => ?_, fun d hd hattends => ?_⟩
  · have hevent := (session_event_of_reply hknown hr).2 hattends
    rcases hevent with ⟨ok, protocol, relay, rfl, he⟩ | ⟨payload, protocol, rfl, he⟩
    · exact handed_reply (hsession _ he) (.inl ⟨ok, protocol, relay, rfl, rfl⟩) (hverbatim _ hr)
    · exact handed_reply (hsession _ he) (.inr ⟨payload, protocol, rfl, rfl⟩) (hverbatim _ hr)
  · cases he : sessionEvent c e with
    | none => rw [(hother he).actions]; rfl
    | some e' =>
        have hnot : ¬ ((∃ ok protocol relay, e' = .synack ok protocol relay) ∨
            ∃ payload protocol, e' = .data payload protocol) := by
          intro hframe
          obtain ⟨j, r, hr, hattends⟩ := reply_of_session_event hknown henabled he hframe
          obtain rfl := honly j hattends.2
          rcases hsilent with hnone | hnot
          · rw [hr] at hnone
            cases hnone
          · exact hnot hattends
        have hsent := Socks5Session.sent_other hover
          (fun ok protocol relay h => hnot (.inl ⟨ok, protocol, relay, h⟩))
          (fun payload protocol h => hnot (.inr ⟨payload, protocol, h⟩))
        have hprefix := (hsession e' he).actions.filterMap ClientAction.sent
        rw [hsent, List.prefix_nil] at hprefix
        exact hprefix
  · cases he : sessionEvent c e with
    | none =>
        obtain ⟨-, ⟨hmux, hdestroyed⟩ | ⟨-, hdestroyed, -⟩⟩ := (hother he).alive d hd
        · rwa [Attends, hmux, hdestroyed] at hattends
        · rw [Attends, hdestroyed] at hattends
          cases hattends.1
    | some e' =>
        obtain ⟨hrun, hmux, hdestroyed⟩ := (hsession e' he).alive d hd
        have hcreated := created_ids_handle e' c.association.session
        rw [hrun] at hcreated
        dsimp only at hcreated
        -- the handshake is over, so no stream is opened
        have hnone : (new.filterMap sessionAction).filterMap ClientAction.synId = [] := by
          by_contra hsome
          have hsyns : Socks5Session.synProtocols (new.filterMap sessionAction) ≠ [] := by
            intro hzero
            have hlength := Socks5Session.syn_protocols_length (new.filterMap sessionAction)
            rw [hzero] at hlength
            exact hsome (List.length_eq_zero_iff.mp hlength.symm)
          obtain ⟨-, -, hnot, -⟩ := syn_step hstep hsyns
          exact hnot hover
        rw [hcreated, hnone] at hmux
        rw [Attends, hmux, hdestroyed] at hattends
        exact hattends

end NetworkRtcApp

/-- Where an element stands in two lists, one after the other. -/
theorem append_eq_append_cons {α : Type} {xs ys before after : List α} {a : α}
    (h : xs ++ ys = before ++ a :: after) :
    (∃ mid, xs = before ++ a :: mid ∧ after = mid ++ ys) ∨
      ∃ front, ys = front ++ a :: after := by
  rcases List.append_eq_append_iff.mp h with ⟨front, -, hys⟩ | ⟨mid, hxs, hafter⟩
  · exact .inr ⟨front, hys⟩
  · cases mid with
    | nil => exact .inr ⟨[], hafter.symm⟩
    | cons b mid =>
        obtain ⟨rfl, rfl⟩ := List.cons.inj hafter
        exact .inl ⟨mid, hxs, rfl⟩

namespace Link

open NetworkRtcApp

variable {L : Llhttp} {peerConnId number sessionId : UInt32} {genStreamId : Nat → UInt32}
  {readBuf : Nat → UInt8} {remotePort : UInt16} {d : Link L}
  {es : List (AppEvent ⊕ HostEvent)} {out : List (AppAction ⊕ HostAction)}

/-- Behind a `SYN` frame the browser has been handed what the replies bring that the session has
taken, and these are all that have reached an app that attends to the stream. -/
def Handed (i : UInt32) (es : List (AppEvent ⊕ HostEvent)) (after : List ClientAction)
    (x : Except AppFault (NetworkRtcApp L)) : Prop :=
  ∃ rs, rs <+: repliesOn i es ∧ after.filterMap ClientAction.sent = rs.flatMap Call.handed ∧
    (∀ r ∈ rs, r.Refuses → .tcpClose ∈ after) ∧
    ∀ c, x = .ok c → c.Attends i → rs = repliesOn i es

/-- A step behind the `SYN` frame. -/
theorem Handed.step {i : UInt32} {after : List ClientAction} {c : NetworkRtcApp L}
    {x : Except AppFault (NetworkRtcApp L)} {e : AppEvent} {new : List ClientAction}
    (h : Handed i es after (.ok c)) (hstep : HandedStep c i e x new) :
    Handed i (es ++ [.inl e]) (after ++ new) x := by
  obtain ⟨rs, hprefix, hsent, hrefuses, hall⟩ := h
  have hreplies : repliesOn i (es ++ [.inl e]) = repliesOn i es ++ (e.replyOn i).toList := by
    rw [repliesOn, lefts_append, List.filterMap_append]
    cases hr : e.replyOn i <;> simp [repliesOn, lefts, hr]
  have hkeep : new.filterMap ClientAction.sent = [] →
      (∀ d, x = .ok d → d.Attends i → rs = repliesOn i (es ++ [.inl e])) →
      Handed i (es ++ [.inl e]) (after ++ new) x := by
    intro hnone hsame
    refine ⟨rs, ?_, ?_, fun r hr hr' => List.mem_append_left _ (hrefuses r hr hr'), hsame⟩
    · rw [hreplies]
      exact hprefix.trans (List.prefix_append _ _)
    · rw [List.filterMap_append, hnone, List.append_nil, hsent]
  cases hr : e.replyOn i with
  | none =>
      refine hkeep (hstep.silent (.inl hr)) fun d hd hattends => ?_
      rw [hreplies, hr, Option.toList_none, List.append_nil]
      exact hall c rfl (hstep.attends d hd hattends)
  | some r =>
      by_cases hattends : c.Attends i
      · rcases hstep.taken r hr hattends with ⟨hhanded, hclose⟩ | ⟨hnone, hdead⟩
        · obtain rfl := hall c rfl hattends
          refine ⟨repliesOn i es ++ [r], ?_, ?_, fun r' hr' hrefuses' => ?_, fun _ _ _ => ?_⟩
          · rw [hreplies, hr, Option.toList_some]
          · rw [List.filterMap_append, hsent, hhanded, List.flatMap_append, List.flatMap_singleton]
          · rcases List.mem_append.mp hr' with hr' | hr'
            · exact List.mem_append_left _ (hrefuses r' hr' hrefuses')
            · rw [List.mem_singleton.mp hr'] at hrefuses'
              exact List.mem_append_right _ (hclose hrefuses')
          · rw [hreplies, hr, Option.toList_some]
        · exact hkeep hnone fun d hd => absurd hd (hdead d)
      · exact hkeep (hstep.silent (.inr hattends)) fun d hd hd' =>
          absurd (hstep.attends d hd hd') hattends

/-- The step that opens the stream: nothing has been replied on it, and nothing is handed over. -/
theorem handed_open (hrun : (link L).run (started peerConnId
      (.started L number genStreamId readBuf remotePort) sessionId) es = some (d, out))
    {e : AppEvent} {y : Except AppFault (NetworkRtcApp L)} {acts : List AppAction}
    (hstep : (networkRtcApp L).step d.left e = some (y, acts))
    {front after : List ClientAction} {i : UInt32} {host : Bytes} {port : UInt16} {p : Protocol}
    (hfront : acts.filterMap sessionAction = front ++ .sendSyn i host port p :: after) :
    Handed i (es ++ [.inl e]) after y := by
  obtain ⟨c, hc, -, -, -⟩ := machine_step_eq_some hstep
  have hleft := (joined_of_run hrun).left
  rw [hc] at hstep hleft
  have hsyns : Socks5Session.synProtocols (acts.filterMap sessionAction) ≠ [] := by
    rw [hfront]
    exact List.ne_nil_of_mem (List.mem_filterMap.mpr ⟨.sendSyn i host port p, by simp, rfl⟩)
  obtain ⟨data, rfl, hover, hquiet, -⟩ := syn_step hstep hsyns
  have hnone : Socks5Session.synProtocols (sessionActions out) = [] := by
    by_contra hne
    exact hover ((opened_run hleft).over (NetworkRtcApp.upkeep_run hleft) rfl hne)
  have hreplies : repliesOn i (es ++ [.inl (.session (.browserData data))]) = [] := by
    have hsame : repliesOn i (es ++ [.inl (.session (.browserData data))]) = repliesOn i es := by
      simp [repliesOn, lefts, AppEvent.replyOn, appPort]
    rw [hsame, no_replies hrun hnone]
  refine ⟨[], List.nil_prefix, hquiet front _ after hfront rfl, by simp, fun _ _ _ => ?_⟩
  rw [hreplies]

/-- What the browser is handed behind the `SYN` frame of a tunnel that is alone. -/
theorem handed_run (hrun : (link L).run (started peerConnId
      (.started L number genStreamId readBuf remotePort) sessionId) es = some (d, out))
    (halone : Alone (Socks5Session.synProtocols (sessionActions out)))
    {before after : List ClientAction} {i : UInt32} {host : Bytes} {port : UInt16} {p : Protocol}
    (hsplit : sessionActions out = before ++ .sendSyn i host port p :: after)
    (hp : Verbatim p) : Handed i es after d.left := by
  refine Machine.run_induction (m := link L) (P := fun es out d =>
    Alone (Socks5Session.synProtocols (sessionActions out)) → ∀ before after,
      sessionActions out = before ++ .sendSyn i host port p :: after → Handed i es after d.left)
    ?_ ?_ hrun halone before after hsplit
  · intro _ before after hsplit
    simp [sessionActions, lefts] at hsplit
  intro es out d e d' new hbefore ih hstep halone before after hsplit
  have hafter := Machine.run_snoc.mpr ⟨_, _, _, hbefore, hstep, rfl⟩
  cases e with
  | inr e =>
      obtain ⟨_, y, acts, -, -, rfl, rfl⟩ := duplex_step_inr.mp hstep
      have hsame : sessionActions (out ++ acts.map .inr) = sessionActions out := by
        rw [sessionActions, lefts_append, lefts_map_inr, List.append_nil]
        rfl
      have hreplies : repliesOn i (es ++ [.inr e]) = repliesOn i es := by
        simp [repliesOn, lefts]
      rw [hsame] at halone hsplit
      have h := ih halone before after hsplit
      rw [Handed, hreplies]
      exact h
  | inl e =>
      obtain ⟨_, y, acts, -, happ, rfl, rfl⟩ := duplex_step_inl.mp hstep
      obtain ⟨c, hc, -, -, -⟩ := machine_step_eq_some happ
      have hleft := (joined_of_run hbefore).left
      rw [hc] at happ hleft
      have hopened := opened_run hleft
      have hupkeep := NetworkRtcApp.upkeep_run hleft
      have hgrown : sessionActions (out ++ acts.map .inl) =
          sessionActions out ++ acts.filterMap sessionAction := by
        rw [sessionActions, lefts_append, lefts_map_inl, List.filterMap_append]
        rfl
      -- the `SYN` frame is the only one
      have hmem : .sendSyn i host port p ∈ sessionActions (out ++ acts.map .inl) := by
        rw [hsplit]
        simp
      have hone : Socks5Session.synProtocols (sessionActions (out ++ acts.map .inl)) = [p] :=
        halone p (List.mem_filterMap.mpr ⟨_, hmem, rfl⟩) hp
      rw [hgrown] at hsplit
      rcases append_eq_append_cons hsplit with ⟨mid, hmid, rfl⟩ | ⟨front, hfront⟩
      · have hfirst : Alone (Socks5Session.synProtocols (sessionActions out)) := by
          refine halone.front ?_
          rw [hgrown, Socks5Session.syn_protocols_append]
          exact List.prefix_append _ _
        have hmem' : .sendSyn i host port p ∈ sessionActions out := by
          rw [hmid]
          simp
        have hone' : Socks5Session.synProtocols (sessionActions out) = [p] :=
          hfirst p (List.mem_filterMap.mpr ⟨_, hmem', rfl⟩) hp
        have h := ih hfirst before mid hmid
        rw [hc] at h
        refine h.step (handed_step (hopened.over hupkeep rfl ?_) hupkeep.known (fun j hj => ?_)
          (fun r hr => ?_) happ)
        · rw [show (lefts out).filterMap sessionAction = sessionActions out from rfl, hone']
          exact List.cons_ne_nil _ _
        · have hids := hopened.opened j hj
          rw [syn_ids_eq, show (lefts out).filterMap sessionAction = sessionActions out from rfl,
            syn_ids_of_alone hmem' hone'] at hids
          exact List.mem_singleton.mp hids
        · have hreply : r ∈ repliesOn i (es ++ [.inl e]) := by
            simp [repliesOn, lefts, hr]
          rw [protocol_of_reply hafter hmem hone hreply]
          exact hp
      · rw [← hc] at happ
        exact handed_open hbefore happ hfront

end Link

/-- What is handed over of the replies of a target, of which none is a refusal. -/
theorem handed_replies {rs : List Call} {i : UInt32} {p : Protocol} {ok : Bool} {bs : List Bytes}
    (h : rs <+: .sendSynack i ok p :: bs.map (.sendData i · p)) (hno : ∀ r ∈ rs, ¬ r.Refuses) :
    (rs.flatMap Call.handed).flatten <+: answer p true ++ bs.flatten := by
  cases rs with
  | nil => exact List.nil_prefix
  | cons r rs =>
      obtain ⟨rfl, hrest⟩ := List.cons_prefix_cons.mp h
      have hok : ok = true := by
        by_contra hnot
        exact hno _ List.mem_cons_self ⟨i, p, by rw [Bool.eq_false_of_not_eq_true hnot]⟩
      obtain ⟨cs, hcs, rfl⟩ := List.prefix_map_iff.mp hrest
      have hdata : (cs.map (Call.sendData i · p)).flatMap Call.handed = cs := by
        rw [List.flatMap_map]
        exact List.flatMap_singleton' cs
      rw [List.flatMap_cons, hdata, hok]
      exact (List.prefix_append_right_inj _).mpr hcs.flatten

/-- The tunnel of a stream, by the order in which the `SYN` frames have reached the server. -/
def tunnelOn (i : UInt32) (es : List HostEvent) : Nat := (es.filterMap HostEvent.synId).idxOf i

/-- Until the client begins to close, the browser has been handed behind the `SYN` frame of a tunnel
the success reply and then what has been read from the target, up to a point. -/
def Downstream (es : List (AppEvent ⊕ HostEvent)) (out : List (AppAction ⊕ HostAction)) : Prop :=
  ∀ before i host port p after tasks,
    sessionActions out = before ++ .sendSyn i host port p :: after → Verbatim p →
    SocketTasks (tunnelOn i (rights es)) tasks (rights es) (rights out) → .tcpClose ∉ after →
    (after.filterMap ClientAction.sent).flatten <+:
      answer p true ++ (tasks.filterMap TcpEvent.read).flatten

open Link in
/-- In a run in which no `DATA_CTRL` frame reaches the server and no read asks for a tunnel of an
HTTP client beside other requests, the bytes of the targets reach the browser intact. -/
theorem downstream_intact {L : Llhttp} {peerConnId number sessionId : UInt32}
    {genStreamId : Nat → UInt32} {readBuf : Nat → UInt8} {remotePort : UInt16} {d : Link L}
    {es : List (AppEvent ⊕ HostEvent)} {out : List (AppAction ⊕ HostAction)}
    (hrun : (link L).run (started peerConnId
      (.started L number genStreamId readBuf remotePort) sessionId) es = some (d, out))
    (hquiet : ∀ data, .message data ∈ rights es → ∀ i ctrl, ¬ DataCtrlFrame data i ctrl)
    (hreads : (networkRtcApp L).Meets (WhenAlive NetworkRtcApp.ReadsConnectAlone)
      (.ok (.started peerConnId (.started L number genStreamId readBuf remotePort))) (lefts es)) :
    Downstream es out := by
  intro before i host port p after tasks hsplit hp hsocket hclose
  have hjoined := joined_of_run hrun
  have halone : Alone (Socks5Session.synProtocols (sessionActions out)) :=
    NetworkRtcApp.alone_run hjoined.left hreads
  have hmem : .sendSyn i host port p ∈ sessionActions out := by
    rw [hsplit]
    simp
  have hone : Socks5Session.synProtocols (sessionActions out) = [p] :=
    halone p (List.mem_filterMap.mpr ⟨_, hmem, rfl⟩) hp
  obtain ⟨rs, hrs, hsent, hrefuses, -⟩ := handed_run hrun halone hsplit hp
  have hprefix := hrs.trans <| replies_prefix hrun i
  have hno : ∀ r ∈ rs, ¬ r.Refuses := fun r hr h => hclose (hrefuses r hr h)
  have hnothing : rs = [] → (rs.flatMap Call.handed).flatten <+:
      answer p true ++ (tasks.filterMap TcpEvent.read).flatten := by
    rintro rfl
    exact List.nil_prefix
  rw [hsent]
  rcases replies_of_target hrun hmem hone with hnone | ⟨hids, g, htarget, hcalls⟩
  · rw [hnone, List.prefix_nil] at hprefix
    exact hnothing hprefix
  · have htunnel : tunnelOn i (rights es) = 0 := by simp [tunnelOn, hids]
    rw [htunnel] at hsocket
    rw [hcalls] at hprefix
    rcases Target.run_calls htarget i p with ⟨-, hnone, -⟩ | ⟨ok, -, hreplies, -⟩
    · rw [hnone, List.prefix_nil] at hprefix
      exact hnothing hprefix
    · rw [hreplies] at hprefix
      have hread := hsocket.bytes_read hjoined.right hquiet
      refine (handed_replies hprefix hno).trans ?_
      exact (List.prefix_append_right_inj _).mpr hread.flatten

/-- A target that sends two bytes. -/
def answeringTarget : List TcpEvent :=
  [.connect, .finishResolve 0 (.ok ()), .onResolve 0, .finishConnect 0 (.ok ()), .onConnect 0,
    .finishRead 0 (.ok [1, 2]), .onRead 0]

/-- They reach the browser of a SOCKS5 tunnel. -/
def answeredTunnel : List (AppEvent ⊕ HostEvent) :=
  socksTunnel ++ [.inr (.target 0 (.data [1, 2])),
    .inl (.message (Call.sendData 5 [1, 2] .socks5Connect).packed none)]

theorem downstream_intact_socks :
    ∃ d out, (link .idle).run (.started 1 (.started .idle 1 (fun _ => 5) (fun _ => 0) 0) 1)
        answeredTunnel = some (d, out) ∧
      sessionActions out = [.tcpSend [5, 0], .createSession 5] ++
        .sendSyn 5 (text "10.0.0.1") 80 .socks5Connect ::
          [.tcpSend [5, 0, 0, 1, 0, 0, 0, 0, 0, 0], .tcpSend [1, 2]] ∧
      SocketTasks 0 answeringTarget (rights answeredTunnel) (rights out) ∧
      Downstream answeredTunnel out := by
  obtain ⟨d, out, hrun, hactions, hstarted⟩ : ∃ d out, (link .idle).run
      (.started 1 (.started .idle 1 (fun _ => 5) (fun _ => 0) 0) 1) answeredTunnel =
        some (d, out) ∧
      sessionActions out = [.tcpSend [5, 0], .createSession 5] ++
        .sendSyn 5 (text "10.0.0.1") 80 .socks5Connect ::
          [.tcpSend [5, 0, 0, 1, 0, 0, 0, 0, 0, 0], .tcpSend [1, 2]] ∧
      ((rights out).filterMap HostAction.startedTunnel).count 0 = 1 := ⟨_, _, rfl, rfl, rfl⟩
  have hresumes : ∀ e ∈ answeringTarget, ¬ e.resumes = true := by decide
  have hsocket : SocketTasks 0 answeringTarget (rights answeredTunnel) (rights out) := by
    refine ⟨⟨_, _, rfl, by decide⟩, ?_, ?_⟩
    · rw [hstarted]
      decide
    · rintro ⟨e, he, hresumed⟩
      exact absurd hresumed (hresumes e he)
  have hquiet : ∀ data, .message data ∈ rights answeredTunnel →
      ∀ i ctrl, ¬ DataCtrlFrame data i ctrl := by
    intro data hdata i ctrl hframe
    have hsyn : (Call.sendSyn 5 (text "10.0.0.1") 80 .socks5Connect).message = some data := by
      obtain rfl : data = (Call.sendSyn 5 (text "10.0.0.1") 80 .socks5Connect).packed := by
        simpa [answeredTunnel, socksTunnel, rights, Socks5Session.socksConnect] using hdata
      rfl
    exact absurd (hframe.type_of_message hsyn) (by decide)
  have hreads : (networkRtcApp .idle).Meets (WhenAlive NetworkRtcApp.ReadsConnectAlone)
      (.ok (.started 1 (.started .idle 1 (fun _ => 5) (fun _ => 0) 0))) (lefts answeredTunnel) := by
    rintro before e after t mid - - c -
    cases e with
    | session e =>
        cases e with
        | browserData data =>
            -- the parser reports nothing
            intro _ hconnect
            rw [Socks5Session.protocolsOf] at hconnect
            split at hconnect <;> cases hconnect
        | _ => trivial
    | _ => trivial
  exact ⟨d, out, hrun, hactions, hsocket, downstream_intact hrun hquiet hreads⟩

/-- A `CONNECT` request behind a request of another kind, and the response to the first. -/
def oneConnect : Bytes := text "CONNECT b:443 HTTP/1.1\r\nHost: b:443\r\n\r\n"

def oneConnectEvents : List LlhttpEvent :=
  [.messageBegin, .url (text "b:443"), .headerField (text "Host"), .headerValue (text "b:443"),
    .headersComplete ⟨1, 1, text "CONNECT", 0, false, true, false, false, true, none⟩,
    .messageComplete]

def oneResponse : Bytes := text "HTTP/1.1 200 OK\r\nContent-Length: 0\r\n\r\n"

def oneResponseEvents : List LlhttpEvent :=
  [.messageBegin, .status (text "OK"), .headerField (text "Content-Length"),
    .headerValue (text "0"),
    .headersComplete ⟨1, 1, [], 200, false, false, false, false, true, some 0⟩, .messageComplete]

/-- Llhttp on both requests in one read, and on the response. -/
def mixedParser : Llhttp :=
  .scripted [(NetworkRtcApp.oneGet ++ oneConnect, NetworkRtcApp.oneGetEvents ++ oneConnectEvents,
      .pausedUpgrade (some (NetworkRtcApp.oneGet ++ oneConnect).length)),
    (oneResponse, oneResponseEvents, .ok)]

/-- The target of the first request answers. -/
def mixedRead : List (AppEvent ⊕ HostEvent) :=
  [.inl (.session (.browserData (NetworkRtcApp.oneGet ++ oneConnect))),
    .inr (.message (Call.sendSyn 5 (text "a") 80 .httpPlain).packed),
    .inr (.target 0 (.connected true)),
    .inl (.message (Call.sendSynack 5 true .httpPlain).packed none),
    .inr (.target 0 (.data oneResponse)),
    .inl (.message (Call.sendData 5 oneResponse .httpPlain).packed none)]

/-- The browser is handed the response behind the `SYN` frame of the tunnel, whose target has not
even been asked for. -/
theorem response_reaches_the_tunnel :
    ∃ d out, (link mixedParser).run
        (.started 1 (.started mixedParser 1 (fun n => if n = 0 then 5 else 6) (fun _ => 0) 0) 1)
          mixedRead = some (d, out) ∧
      (∀ data, .message data ∈ rights mixedRead → ∀ i ctrl, ¬ DataCtrlFrame data i ctrl) ∧
      ¬ Downstream mixedRead out := by
  obtain ⟨d, out, before, after, hrun, hsplit, hclose, hsent⟩ : ∃ d out before after,
      (link mixedParser).run
        (.started 1 (.started mixedParser 1 (fun n => if n = 0 then 5 else 6) (fun _ => 0) 0) 1)
          mixedRead = some (d, out) ∧
      sessionActions out = before ++ .sendSyn 6 (text "b") 443 .httpsConnect :: after ∧
      .tcpClose ∉ after ∧ after.filterMap ClientAction.sent = [oneResponse] :=
    ⟨_, _, [_, _, _], [_, _], rfl, rfl, by decide, rfl⟩
  refine ⟨d, out, hrun, fun data hdata i ctrl hframe => ?_, fun h => ?_⟩
  · have hsyn : (Call.sendSyn 5 (text "a") 80 .httpPlain).message = some data := by
      obtain rfl : data = (Call.sendSyn 5 (text "a") 80 .httpPlain).packed := by
        simpa [mixedRead, rights] using hdata
      rfl
    exact absurd (hframe.type_of_message hsyn) (by decide)
  · have hsocket : SocketTasks (tunnelOn 6 (rights mixedRead)) [] (rights mixedRead)
        (rights out) := by
      refine ⟨⟨_, _, rfl, by decide⟩, Nat.zero_le _, ?_⟩
      rintro ⟨e, he, -⟩
      cases he
    have hprefix := h before 6 _ 443 .httpsConnect after [] hsplit (.inr rfl) hsocket hclose
    rw [hsent] at hprefix
    exact absurd hprefix (by decide)

end RtcVpn
