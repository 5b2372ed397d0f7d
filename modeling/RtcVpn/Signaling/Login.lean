import RtcVpn.Signaling.PasswordGate
import RtcVpn.Signaling.SignalingPeer

/-!
# The login

The client asks for a login when its WebSocket opens, the server answers, and
both create their peer connection if the passwords agree. The descriptions and
candidates of a peer connection follow on the same WebSocket, so none of them
arrives before the peer connection it is for has been created.
-/

namespace RtcVpn

/-- What one peer connection tells the other. -/
inductive Signal where
  | description (sdp : String)
  | candidate (candidate mid : String)
  deriving DecidableEq, Repr

namespace Signal

/-- The message that carries it. -/
def fields : Signal → SignalMessage
  | description sdp => [("description", sdp), ("type", "description")]
  | candidate line mid => [("candidate", line), ("mid", mid), ("type", "candidate")]

/-- What a message carries. -/
def ofFields (fields : SignalMessage) : Option Signal :=
  if fields.lookup "type" = some "description" then
    (fields.lookup "description").map description
  else if fields.lookup "type" = some "candidate" then
    match fields.lookup "candidate", fields.lookup "mid" with
    | some line, some mid => some (candidate line mid)
    | _, _ => none
  else none

/-- What the peer connection is given of it. -/
def action : Signal → SignalAction
  | description sdp => .setRemoteDescription sdp
  | candidate line mid => .addRemoteCandidate line mid

/-- The callback it is sent from. -/
def event : Signal → PeerEvent
  | description sdp => .localDescription sdp
  | candidate line mid => .localCandidate line mid

@[simp] theorem of_fields_fields (signal : Signal) : ofFields signal.fields = some signal := by
  cases signal <;> simp [ofFields, fields, List.lookup_cons]

end Signal

namespace SignalingPeer

open Effect

/-- The answer to a login. -/
def verifyAck (ok : Bool) : SignalMessage :=
  [("result", if ok then "success" else "failed"), ("type", "verifyACK")]

@[simp] theorem of_fields_verify (password : String) :
    Signal.ofFields (verify password) = none := by
  simp [Signal.ofFields, verify, List.lookup_cons]

@[simp] theorem of_fields_verify_ack (ok : Bool) : Signal.ofFields (verifyAck ok) = none := by
  simp [Signal.ofFields, verifyAck, List.lookup_cons]

/-! ## Handlers -/

/-- What a peer connection has been given of the other one. -/
def remoteSignal : PeerAction → Option Signal
  | .controller (.setRemoteDescription sdp) => some (.description sdp)
  | .controller (.addRemoteCandidate line mid) => some (.candidate line mid)
  | _ => none

/-- What has been sent of the peer connection. -/
def localSignal (a : PeerAction) : Option Signal := (port.sends a).bind Signal.ofFields

/-- How many peer connections have been created and logins reported, and what has been sent and
given to the peer connection. -/
structure Sums (out : List PeerAction) (creates logins : Nat) (sends : List SignalMessage)
    (given : List Signal) : Prop where
  creates : out.count (.controller .createPeerConnection) = creates
  logins : out.count (.controller .loginSuccess) = logins
  sends : out.filterMap port.sends = sends
  given : out.filterMap remoteSignal = given

theorem Sums.append {out new : List PeerAction} {creates creates' logins logins' : Nat}
    {sends sends' : List SignalMessage} {given given' : List Signal}
    (h : Sums out creates logins sends given) (h' : Sums new creates' logins' sends' given') :
    Sums (out ++ new) (creates + creates') (logins + logins') (sends ++ sends')
      (given ++ given') where
  creates := by rw [List.count_append, h.creates, h'.creates]
  logins := by rw [List.count_append, h.logins, h'.logins]
  sends := by rw [List.filterMap_append, h.sends, h'.sends]
  given := by rw [List.filterMap_append, h.given, h'.given]

/-- An action that does not count. -/
def Uncounted (a : PeerAction) : Prop := Sums [a] 0 0 [] []

theorem sums_uncounted {out : List PeerAction} (h : ∀ a ∈ out, Uncounted a) :
    Sums out 0 0 [] [] := by
  induction out with
  | nil => exact ⟨rfl, rfl, rfl, rfl⟩
  | cons a out ih =>
      have hrest := ih fun b hb => h b (List.mem_cons_of_mem a hb)
      exact (h a List.mem_cons_self).append hrest

theorem run_opened (s : SignalingPeer) :
    ∃ out, (handle .opened).run s = ⟨{ s with webSocket := .open }, out, .ok ()⟩ ∧
      Sums out 0 0 (if s.openCallback then [verify s.controller.password] else []) [] := by
  cases hcallback : s.openCallback with
  | true =>
      exact ⟨[.send (verify s.controller.password)], by simp [handle, onOpen, send, hcallback],
        rfl, rfl, rfl, rfl⟩
  | false => exact ⟨[], by simp [handle, onOpen, hcallback], rfl, rfl, rfl, rfl⟩

/-- What a peer connection is told is sent as long as the WebSocket is open. -/
theorem run_local (signal : Signal) (s : SignalingPeer) :
    ∃ out, (handle signal.event).run s = ⟨s, out, .ok ()⟩ ∧
      Sums out 0 0 (if s.webSocket = .open then [signal.fields] else []) [] := by
  have hsend : handle signal.event = send signal.fields := by cases signal <;> rfl
  by_cases hopen : s.webSocket = .open
  · exact ⟨[.send signal.fields], by simp [hsend, send, hopen], rfl, rfl, by simp [port, hopen],
      rfl⟩
  · exact ⟨[.controller (.logError "send: WebSocket is not open")], by simp [hsend, send, hopen],
      rfl, rfl, by simp [port, hopen], rfl⟩

/-- What a peer connection is told of the other one. -/
theorem run_signal (signal : Signal) (peerConnection dataChannel : Construction)
    (s : SignalingPeer) :
    ∃ out, (handle (.message signal.fields peerConnection dataChannel)).run s =
        ⟨s, out, .ok ()⟩ ∧
      Sums out 0 0 [] (if s.controller.pc then [signal] else []) := by
  refine ⟨if s.controller.pc then [.controller signal.action] else [], ?_, ?_⟩
  · cases signal <;> cases hpc : s.controller.pc <;>
      simp [Signal.fields, Signal.action, handle, onController, run_performing,
        SessionController.handle, SessionController.onMessage, Json.value, Json.asString,
        SessionController.orThrow, SessionController.handleSignalMessage, hpc, carryOut,
        List.lookup_cons] <;> rfl
  · cases signal <;> cases s.controller.pc <;> exact ⟨rfl, rfl, rfl, rfl⟩

/-- What becomes of an action of the controller other than `disconnect`. -/
def carried (state : WebSocketState) : SignalAction → PeerAction
  | .send fields =>
      if state = .open then .send fields
      else .controller (.logError "send: WebSocket is not open")
  | action => .controller action

theorem run_carry_out_all {as : List SignalAction} (has : .disconnect ∉ as) (s : SignalingPeer) :
    (forEach as carryOut).run s = ⟨s, as.map (carried s.webSocket), .ok ()⟩ := by
  induction as with
  | nil => rfl
  | cons a as ih =>
      have hone : (carryOut a).run s = ⟨s, [carried s.webSocket a], .ok ()⟩ := by
        cases a with
        | disconnect => exact absurd List.mem_cons_self has
        | send fields =>
            by_cases hopen : s.webSocket = .open <;> simp [carryOut, send, carried, hopen]
        | _ => rfl
      rw [forEach_cons, run_bind, hone, andThen_ok, ih (fun h => has (List.mem_cons_of_mem a h))]
      rfl

/-- A handler of the controller that does not close the WebSocket. -/
theorem run_on_controller {e : SignalEvent} {s : SignalingPeer} {c : SessionController}
    {as : List SignalAction} {result : Except SignalFault Unit}
    (hrun : (SessionController.handle e).run s.controller = ⟨c, as, result⟩)
    (has : .disconnect ∉ as) :
    (onController e).run s =
      ⟨{ s with controller := c }, as.map (carried s.webSocket), result⟩ := by
  rw [onController, run_performing, hrun, run_carry_out_all has]
  cases result <;> rfl

/-- What `createPeerConnection` does. -/
def creation (outcome : Construction) : List SignalAction :=
  .createPeerConnection ::
    if outcome = .succeeds then [] else [.logError "P2PClient: createPeerConnection: "]

theorem run_create_peer_connection (outcome : Construction) (c : SessionController) :
    (SessionController.createPeerConnection outcome).run c =
      ⟨{ c with pc := c.pc || outcome != .throws }, creation outcome, .ok ()⟩ := by
  cases outcome <;> simp [SessionController.createPeerConnection, creation]

/-- A message that has a type is dispatched on it. -/
theorem run_typed {json : Json} {type : String} (htype : json.find "type" = some (.string type))
    {peerConnection dataChannel : Construction} {c d : SessionController} {as : List SignalAction}
    {result : Except SignalFault Unit} (hresult : result ≠ .error .typeError)
    (hrun : Effect.run
      (if type = "verifyACK" then SessionController.onVerifyAck json peerConnection dataChannel
        else if type = "verify" then SessionController.onVerify json peerConnection
        else SessionController.handleSignalMessage json) c = ⟨d, as, result⟩) :
    (SessionController.handle (.message json peerConnection dataChannel)).run c =
      ⟨d, as, result⟩ := by
  have hvalue : json.value "type" = some type := by
    simp [Json.value, htype, Json.asString]
  rw [← SessionController.run_on_message hvalue] at hrun
  simp only [SessionController.handle, htype]
  cases result with
  | ok _ => exact run_swallow_ok hrun
  | error fault =>
      cases fault with
      | typeError => exact absurd rfl hresult
      | nullPeerConnection => exact run_swallow_passed hrun rfl

/-- What is counted of the actions of the controller. -/
theorem sums_carried (state : WebSocketState) (outcome : Construction) :
    Sums ((creation outcome).map (carried state)) 1 0 [] [] := by
  cases outcome <;> exact ⟨rfl, rfl, rfl, rfl⟩

/-- A message that is sent as long as the WebSocket is open. -/
theorem sums_send (state : WebSocketState) (fields : SignalMessage) :
    Sums [carried state (.send fields)] 0 0 (if state = .open then [fields] else []) [] := by
  by_cases hopen : state = .open <;> simp only [carried, hopen, if_true, if_false] <;>
    exact ⟨rfl, rfl, rfl, rfl⟩

/-- A login with the right password. -/
theorem run_verify {s : SignalingPeer} {password : String} (h : password = s.controller.password)
    (peerConnection dataChannel : Construction) :
    ∃ out, (handle (.message (verify password) peerConnection dataChannel)).run s =
        ⟨{ s with controller :=
            { s.controller with pc := s.controller.pc || peerConnection != .throws } },
          out, .ok ()⟩ ∧
      Sums out 1 (if s.controller.loginSuccessCallback then 1 else 0)
        (if s.webSocket = .open then [verifyAck true] else []) [] := by
  have hrun : (SessionController.onVerify (.ofFields (verify password)) peerConnection).run
      s.controller =
        ⟨{ s.controller with pc := s.controller.pc || peerConnection != .throws },
          creation peerConnection ++
            ((if s.controller.loginSuccessCallback then [.loginSuccess] else []) ++
              [.send (verifyAck true)]), .ok ()⟩ := by
    cases hcallback : s.controller.loginSuccessCallback <;>
      simp [verify, Json.asString, SessionController.orThrow, SessionController.onVerify,
        h, run_create_peer_connection, hcallback, verifyAck]
  have htype : Json.find "type" (.ofFields (verify password)) = some (.string "verify") := rfl
  have hlogin : Sums
      ((if s.controller.loginSuccessCallback then [SignalAction.loginSuccess] else []).map
        (carried s.webSocket)) 0 (if s.controller.loginSuccessCallback then 1 else 0) [] [] := by
    cases s.controller.loginSuccessCallback <;> exact ⟨rfl, rfl, rfl, rfl⟩
  refine ⟨_, run_on_controller (run_typed htype (by simp) hrun) ?_, ?_⟩
  · cases peerConnection <;> cases s.controller.loginSuccessCallback <;> simp [creation]
  · rw [List.map_append, List.map_append]
    have hall := (sums_carried s.webSocket peerConnection).append
      (hlogin.append (sums_send s.webSocket (verifyAck true)))
    simpa using hall

/-- A login with the wrong password. -/
theorem run_verify_wrong {s : SignalingPeer} {password : String}
    (h : password ≠ s.controller.password) (peerConnection dataChannel : Construction) :
    ∃ out, (handle (.message (verify password) peerConnection dataChannel)).run s =
        ⟨s, out, .ok ()⟩ ∧
      Sums out 0 0 (if s.webSocket = .open then [verifyAck false] else []) [] := by
  have hrun : (SessionController.onVerify (.ofFields (verify password)) peerConnection).run
      s.controller =
        ⟨s.controller, [.logError "Password is incorrect", .send (verifyAck false)], .ok ()⟩ := by
    simp [verify, Json.asString, SessionController.orThrow, SessionController.onVerify,
      h, verifyAck]
  have htype : Json.find "type" (.ofFields (verify password)) = some (.string "verify") := rfl
  refine ⟨_, run_on_controller (run_typed htype (by simp) hrun) (by simp), ?_⟩
  have hlog : Sums [carried s.webSocket (.logError "Password is incorrect")] 0 0 [] [] :=
    ⟨rfl, rfl, rfl, rfl⟩
  simpa using hlog.append (sums_send s.webSocket (verifyAck false))

/-- The answer to a login that has succeeded. The data channel is created on the peer connection,
which is not there if its constructor has thrown. -/
theorem run_verify_ack (s : SignalingPeer) (peerConnection dataChannel : Construction) :
    ∃ c out result, (handle (.message (verifyAck true) peerConnection dataChannel)).run s =
        ⟨{ s with controller := c }, out, result⟩ ∧
      c.password = s.controller.password ∧ (result = .ok () → c.pc = true) ∧
      Sums out 1 0 [] [] := by
  obtain ⟨c, as, result, hrun, hpassword, hpc, hresult, has⟩ : ∃ c as result,
      (SessionController.onVerifyAck (.ofFields (verifyAck true)) peerConnection dataChannel).run
        s.controller = ⟨c, creation peerConnection ++ as, result⟩ ∧
      c.password = s.controller.password ∧ (result = .ok () → c.pc = true) ∧
      result ≠ .error .typeError ∧
      ∀ a ∈ as, (∃ label, a = .createDataChannel label) ∨ ∃ text, a = .logError text := by
    cases peerConnection <;> cases dataChannel <;> cases hpc : s.controller.pc <;>
      simp [SessionController.onVerifyAck, verifyAck, Json.fieldEquals,
        run_create_peer_connection, SessionController.createDataChannel, hpc]
  have htype : Json.find "type" (.ofFields (verifyAck true)) = some (.string "verifyACK") := rfl
  refine ⟨c, _, result, run_on_controller (run_typed htype hresult hrun) ?_, hpassword, hpc, ?_⟩
  · intro hmem
    rcases List.mem_append.mp hmem with hmem | hmem
    · cases peerConnection <;> simp [creation] at hmem
    · rcases has _ hmem with ⟨label, h⟩ | ⟨text, h⟩ <;> cases h
  · rw [List.map_append]
    have hrest : Sums (as.map (carried s.webSocket)) 0 0 [] [] := by
      refine sums_uncounted fun b hb => ?_
      obtain ⟨a, ha, rfl⟩ := List.mem_map.mp hb
      rcases has a ha with ⟨label, rfl⟩ | ⟨text, rfl⟩ <;> exact ⟨rfl, rfl, rfl, rfl⟩
    exact (sums_carried s.webSocket peerConnection).append hrest

/-- The answer to a login that has failed. -/
theorem run_verify_ack_failed (s : SignalingPeer) (peerConnection dataChannel : Construction) :
    (handle (.message (verifyAck false) peerConnection dataChannel)).run s =
      ⟨{ s with webSocket := if s.webSocket = .closed then .closed else .closing },
        [.controller (.logError "verify failed!"), .closeWebSocket], .ok ()⟩ := by
  have hrun : (SessionController.onVerifyAck (.ofFields (verifyAck false)) peerConnection
      dataChannel).run s.controller =
        ⟨s.controller, [.logError "verify failed!", .disconnect], .ok ()⟩ := by
    simp [SessionController.onVerifyAck, verifyAck, Json.fieldEquals]
  have htype : Json.find "type" (.ofFields (verifyAck false)) = some (.string "verifyACK") := rfl
  rw [handle, onController, run_performing, run_typed htype (by simp) hrun]
  rfl

/-- What a handler leaves as it is: nothing but `open` opens the WebSocket, and a peer connection
that has been created stays. -/
structure Kept (s t : SignalingPeer) : Prop where
  openCallback : t.openCallback = s.openCallback
  password : t.controller.password = s.controller.password
  loginSuccessCallback :
    t.controller.loginSuccessCallback = s.controller.loginSuccessCallback
  pc : t.controller.pc = s.controller.pc
  webSocket : t.webSocket = s.webSocket ∨ t.webSocket = .closing ∨ t.webSocket = .closed

theorem kept_refl (s : SignalingPeer) : Kept s s := ⟨rfl, rfl, rfl, rfl, .inl rfl⟩

/-- The state of a WebSocket that is told to close. -/
theorem kept_closing (s : SignalingPeer) :
    Kept s { s with webSocket := if s.webSocket = .closed then .closed else .closing } := by
  refine ⟨rfl, rfl, rfl, rfl, ?_⟩
  dsimp only
  split
  · exact .inr (.inr rfl)
  · exact .inr (.inl rfl)

/-- A report to the owner. -/
theorem run_report (state : SessionState) (s : SignalingPeer) :
    ∃ out, (report state).run s = ⟨s, out, .ok ()⟩ ∧ ∀ a ∈ out, Uncounted a := by
  refine ⟨if s.stateChangeCallback then [.stateChange state] else [], ?_, fun a ha => ?_⟩
  · cases hcallback : s.stateChangeCallback <;> simp [report, hcallback]
  · split at ha
    · rw [List.mem_singleton] at ha
      exact ha ▸ ⟨rfl, rfl, rfl, rfl⟩
    · cases ha

/-- The events that have no part in the login. -/
def quiet : PeerEvent → Bool
  | .closed | .remoteDataChannel | .stateChange _ | .disconnect => true
  | _ => false

theorem run_quiet {e : PeerEvent} (he : quiet e = true) (s : SignalingPeer) :
    ∃ t out, (handle e).run s = ⟨t, out, .ok ()⟩ ∧ Kept s t ∧ Sums out 0 0 [] [] := by
  have hended : ∀ e, handle e = (do
      report .closed
      modify fun s => { s with p2pConnected := false }
      disconnect) → ∃ t out, (handle e).run s = ⟨t, out, .ok ()⟩ ∧ Kept s t ∧
        Sums out 0 0 [] [] := by
    intro e he
    obtain ⟨out, hrun, hout⟩ := run_report .closed s
    have hclose : Sums [PeerAction.closeWebSocket] 0 0 [] [] := ⟨rfl, rfl, rfl, rfl⟩
    exact ⟨{ s with
        p2pConnected := false
        webSocket := if s.webSocket = .closed then .closed else .closing },
      out ++ [.closeWebSocket], by simp [he, hrun, disconnect],
      ⟨rfl, rfl, rfl, rfl, (kept_closing s).webSocket⟩, (sums_uncounted hout).append hclose⟩
  cases e with
  | closed =>
      obtain ⟨out, hrun, hout⟩ := run_report .closed { s with webSocket := .closed }
      cases hconnected : s.p2pConnected with
      | true =>
          exact ⟨{ s with webSocket := .closed }, [.closeP2p],
            by simp [handle, onClosed, hconnected], ⟨rfl, rfl, rfl, rfl, .inr (.inr rfl)⟩,
            rfl, rfl, rfl, rfl⟩
      | false =>
          have hclose : Sums [PeerAction.closeP2p] 0 0 [] [] := ⟨rfl, rfl, rfl, rfl⟩
          rw [hconnected] at hrun
          exact ⟨{ s with webSocket := .closed }, .closeP2p :: out,
            by simp [handle, onClosed, hconnected, hrun], ⟨rfl, rfl, rfl, rfl, .inr (.inr rfl)⟩,
            hclose.append (sums_uncounted hout)⟩
  | remoteDataChannel =>
      exact ⟨_, [], rfl, ⟨rfl, rfl, rfl, rfl, .inl rfl⟩, rfl, rfl, rfl, rfl⟩
  | stateChange state =>
      cases state with
      | connected =>
          obtain ⟨out, hrun, hout⟩ := run_report .connected s
          exact ⟨{ s with p2pConnected := true }, out, by simp [handle, onStateChange, hrun],
            ⟨rfl, rfl, rfl, rfl, .inl rfl⟩, sums_uncounted hout⟩
      | closed => exact hended _ rfl
      | failed => exact hended _ rfl
      | _ => exact ⟨s, [], rfl, kept_refl s, rfl, rfl, rfl, rfl⟩
  | disconnect => exact ⟨_, _, rfl, kept_closing s, rfl, rfl, rfl, rfl⟩
  | _ => cases he

/-! ## What is said -/

/-- Nothing has been said, or the first message, and after it signals if they are allowed. -/
def Talk (first : SignalMessage) (allowed : Prop) (ms : List SignalMessage) : Prop :=
  ms = [] ∨ ∃ signals : List Signal, ms = first :: signals.map Signal.fields ∧
    (signals ≠ [] → allowed)

section

variable {first m : SignalMessage} {allowed : Prop} {ms got : List SignalMessage}

/-- What is heard first is what is said first, and the rest is signals. -/
theorem Talk.next (h : Talk first allowed ms) (hgot : got ++ [m] <+: ms) :
    (got = [] ∧ m = first) ∨ (got ≠ [] ∧ allowed ∧ ∃ signal : Signal, m = signal.fields) := by
  rcases h with rfl | ⟨signals, rfl, hallowed⟩
  · simp at hgot
  · cases got with
    | nil =>
        rw [List.nil_append, List.cons_prefix_cons] at hgot
        exact .inl ⟨rfl, hgot.1⟩
    | cons g got =>
        rw [List.cons_append, List.cons_prefix_cons] at hgot
        have hmem : m ∈ signals.map Signal.fields :=
          hgot.2.subset (List.mem_append_right _ (List.mem_singleton_self m))
        obtain ⟨signal, hsignal, rfl⟩ := List.mem_map.mp hmem
        exact .inr ⟨List.cons_ne_nil _ _, hallowed (List.ne_nil_of_mem hsignal), signal, rfl⟩

/-- A signal can be said after the first message. -/
theorem Talk.signal (h : Talk first allowed ms) (hms : ms ≠ []) (hallowed : allowed)
    (signal : Signal) : Talk first allowed (ms ++ [signal.fields]) := by
  rcases h with rfl | ⟨signals, rfl, -⟩
  · exact absurd rfl hms
  · exact .inr ⟨signals ++ [signal], by simp, fun _ => hallowed⟩

/-- The first message. -/
theorem talk_first (first : SignalMessage) (allowed : Prop) : Talk first allowed [first] :=
  .inr ⟨[], rfl, fun h => absurd rfl h⟩

end

/-! ## The client -/

/-- The client while it is alive, after it has done `out` and received `got`. -/
structure Asking (p q : String) (out : List PeerAction) (got : List SignalMessage)
    (s : SignalingPeer) : Prop where
  openCallback : s.openCallback = true
  password : s.controller.password = p
  pc : s.controller.pc = true ↔ got ≠ [] ∧ p = q
  silent : out.filterMap port.sends = [] → s.webSocket ≠ .open
  connecting : s.webSocket = .connecting → out.filterMap port.sends = []
  signals : out.filterMap remoteSignal = got.filterMap Signal.ofFields

/-- What the client with password `p` does at a server with password `q`. -/
structure ClientSide (p q : String) (out : List PeerAction) (got : List SignalMessage)
    (x : Except SignalFault SignalingPeer) : Prop where
  talk : Talk (verify p) (p = q) (out.filterMap port.sends)
  creates : out.count (.controller .createPeerConnection) = if got ≠ [] ∧ p = q then 1 else 0
  alive : ∀ s, x = .ok s → Asking p q out got s

theorem client_side_start (p q : String) : ClientSide p q [] [] (.ok (client p)) where
  talk := .inl rfl
  creates := by simp
  alive s hs := by
    cases hs
    exact ⟨rfl, rfl, by simp [client, SessionController.attached], fun _ h => (by cases h),
      fun _ => rfl, rfl⟩

variable {p q : String} {out new : List PeerAction} {got : List SignalMessage} {s t : SignalingPeer}
  {e : PeerEvent} {x : Except SignalFault SignalingPeer}

/-- A handler that returns. -/
theorem step_of_run (hstep : signalingPeer.step (.ok s) e = some (x, new))
    (hrun : (handle e).run s = ⟨t, out, .ok ()⟩) : x = .ok t ∧ new = out := by
  obtain ⟨_, hs, -, hx, hnew⟩ := machine_step_eq_some hstep
  cases hs
  rw [hrun] at hx hnew
  exact ⟨hx, hnew⟩

/-- An event that has no part in the login. -/
theorem ClientSide.kept (h : ClientSide p q out got (.ok s)) (hkept : Kept s t)
    (hsums : Sums new 0 0 [] []) : ClientSide p q (out ++ new) got (.ok t) := by
  have halive := h.alive s rfl
  have hsends : (out ++ new).filterMap port.sends = out.filterMap port.sends := by
    rw [List.filterMap_append, hsums.sends, List.append_nil]
  refine ⟨hsends ▸ h.talk, by rw [List.count_append, h.creates, hsums.creates, Nat.add_zero],
    fun u hu => ?_⟩
  cases hu
  refine ⟨hkept.openCallback.trans halive.openCallback, hkept.password.trans halive.password,
    hkept.pc ▸ halive.pc, fun hnone hopen => ?_, fun hconnecting => ?_, ?_⟩
  · rw [hsends] at hnone
    rcases hkept.webSocket with hsame | hsame | hsame <;> rw [hsame] at hopen
    · exact halive.silent hnone hopen
    · cases hopen
    · cases hopen
  · rw [hsends]
    rcases hkept.webSocket with hsame | hsame | hsame <;> rw [hsame] at hconnecting
    · exact halive.connecting hconnecting
    · cases hconnecting
    · cases hconnecting
  · rw [List.filterMap_append, hsums.given, List.append_nil, halive.signals]

/-- The client asks for a login once its WebSocket opens. -/
theorem ClientSide.opened (h : ClientSide p q out got (.ok s))
    (hconnecting : s.webSocket = .connecting)
    (hsums : Sums new 0 0 (if s.openCallback then [verify s.controller.password] else []) []) :
    ClientSide p q (out ++ new) got (.ok { s with webSocket := .open }) := by
  have halive := h.alive s rfl
  have hsends : (out ++ new).filterMap port.sends = [verify p] := by
    rw [List.filterMap_append, halive.connecting hconnecting, hsums.sends, halive.openCallback,
      halive.password]
    rfl
  refine ⟨by rw [hsends]; exact talk_first _ _,
    by rw [List.count_append, h.creates, hsums.creates, Nat.add_zero], fun u hu => ?_⟩
  cases hu
  refine ⟨halive.openCallback, halive.password, halive.pc, fun hnone => ?_,
    fun h => (by cases h), ?_⟩
  · rw [hsends] at hnone
    cases hnone
  · rw [List.filterMap_append, hsums.given, List.append_nil, halive.signals]

/-- What the client's peer connection is told is sent after the client has asked for a login. -/
theorem ClientSide.tells (h : ClientSide p q out got (.ok s)) {signal : Signal}
    (hpc : s.controller.pc = true)
    (hsums : Sums new 0 0 (if s.webSocket = .open then [signal.fields] else []) []) :
    ClientSide p q (out ++ new) got (.ok s) := by
  by_cases hopen : s.webSocket = .open
  · rw [if_pos hopen] at hsums
    have halive := h.alive s rfl
    have hsaid : out.filterMap port.sends ≠ [] := fun hnone => halive.silent hnone hopen
    have hsends : (out ++ new).filterMap port.sends =
        out.filterMap port.sends ++ [signal.fields] := by
      rw [List.filterMap_append, hsums.sends]
    refine ⟨hsends ▸ h.talk.signal hsaid (halive.pc.mp hpc).2 signal,
      by rw [List.count_append, h.creates, hsums.creates, Nat.add_zero], fun u hu => ?_⟩
    cases hu
    refine ⟨halive.openCallback, halive.password, halive.pc, fun hnone => ?_,
      fun hconnecting => ?_, ?_⟩
    · rw [hsends] at hnone
      simp at hnone
    · rw [hopen] at hconnecting
      cases hconnecting
    · rw [List.filterMap_append, hsums.given, List.append_nil, halive.signals]
  · rw [if_neg hopen] at hsums
    exact h.kept (kept_refl s) hsums

/-- What the client does with the answer to its login. -/
theorem ClientSide.answered (h : ClientSide p q out [] (.ok s))
    {peerConnection dataChannel : Construction}
    (hstep : signalingPeer.step (.ok s)
      (.message (verifyAck (p = q)) peerConnection dataChannel) = some (x, new)) :
    ClientSide p q (out ++ new) [verifyAck (p = q)] x := by
  have halive := h.alive s rfl
  by_cases hsame : p = q
  · obtain ⟨c, acts, result, hrun, hpassword, hpc, hsums⟩ :=
      run_verify_ack s peerConnection dataChannel
    obtain ⟨_, hs, -, hx, rfl⟩ := machine_step_eq_some hstep
    cases hs
    rw [decide_eq_true hsame, hrun] at hx ⊢
    have hsends : (out ++ acts).filterMap port.sends = out.filterMap port.sends := by
      rw [List.filterMap_append, hsums.sends, List.append_nil]
    refine ⟨hsends ▸ h.talk, ?_, fun u hu => ?_⟩
    · rw [List.count_append, h.creates, hsums.creates]
      simp [hsame]
    · cases result with
      | error fault =>
          rw [hx] at hu
          cases hu
      | ok _ =>
          rw [hx] at hu
          cases hu
          refine ⟨halive.openCallback, hpassword.trans halive.password, ?_, ?_, ?_, ?_⟩
          · exact ⟨fun _ => ⟨List.cons_ne_nil _ _, hsame⟩, fun _ => hpc rfl⟩
          · rw [hsends]
            exact halive.silent
          · rw [hsends]
            exact halive.connecting
          · rw [List.filterMap_append, hsums.given, List.append_nil, halive.signals]
            simp
  · rw [decide_eq_false hsame] at hstep ⊢
    obtain ⟨rfl, rfl⟩ := step_of_run hstep (run_verify_ack_failed s peerConnection dataChannel)
    have hlog : Sums [PeerAction.controller (.logError "verify failed!"), .closeWebSocket] 0 0 []
        [] := ⟨rfl, rfl, rfl, rfl⟩
    have hquiet := h.kept (kept_closing s) hlog
    have halive' := hquiet.alive _ rfl
    refine ⟨hquiet.talk, ?_, fun u hu => ?_⟩
    · rw [hquiet.creates]
      simp [hsame]
    · cases hu
      refine ⟨halive'.openCallback, halive'.password, ?_, halive'.silent, halive'.connecting, ?_⟩
      · rw [halive'.pc]
        simp [hsame]
      · rw [halive'.signals]
        simp

/-- What the client does with a signal. -/
theorem ClientSide.told (h : ClientSide p q out got (.ok s)) {signal : Signal} (hgot : got ≠ [])
    (hsame : p = q) (hsums : Sums new 0 0 [] (if s.controller.pc then [signal] else [])) :
    ClientSide p q (out ++ new) (got ++ [signal.fields]) (.ok s) := by
  have halive := h.alive s rfl
  have hpc := halive.pc.mpr ⟨hgot, hsame⟩
  rw [if_pos hpc] at hsums
  have hsends : (out ++ new).filterMap port.sends = out.filterMap port.sends := by
    rw [List.filterMap_append, hsums.sends, List.append_nil]
  refine ⟨hsends ▸ h.talk, ?_, fun u hu => ?_⟩
  · rw [List.count_append, h.creates, hsums.creates]
    simp [hgot, hsame]
  · cases hu
    refine ⟨halive.openCallback, halive.password, ?_, ?_, ?_, ?_⟩
    · simp [hpc, hsame]
    · rw [hsends]
      exact halive.silent
    · rw [hsends]
      exact halive.connecting
    · rw [List.filterMap_append, hsums.given, halive.signals]
      simp

/-- What the client does as long as the other side talks as a server does. -/
theorem ClientSide.step (h : ClientSide p q out got (.ok s))
    (hstep : signalingPeer.step (.ok s) e = some (x, new)) {heard : List SignalMessage}
    (htalk : Talk (verifyAck (p = q)) (p = q) heard)
    (hheard : got ++ (port.receives e).toList <+: heard) :
    ClientSide p q (out ++ new) (got ++ (port.receives e).toList) x := by
  obtain ⟨_, hs, henabled, -, -⟩ := machine_step_eq_some hstep
  cases hs
  by_cases hquiet : SignalingPeer.quiet e = true
  · obtain ⟨t, acts, hrun, hkept, hsums⟩ := run_quiet hquiet s
    obtain ⟨rfl, rfl⟩ := step_of_run hstep hrun
    have hnone : port.receives e = none := by cases e <;> first | rfl | cases hquiet
    rw [hnone, Option.toList_none, List.append_nil]
    exact h.kept hkept hsums
  cases e with
  | opened =>
      obtain ⟨acts, hrun, hsums⟩ := run_opened s
      obtain ⟨rfl, rfl⟩ := step_of_run hstep hrun
      show ClientSide p q _ (got ++ []) _
      rw [List.append_nil]
      exact h.opened (of_decide_eq_true henabled) hsums
  | message fields peerConnection dataChannel =>
      have hheard' : got ++ [fields] <+: heard := hheard
      rcases htalk.next hheard' with ⟨rfl, rfl⟩ | ⟨hgot, hsame, signal, rfl⟩
      · exact h.answered hstep
      · obtain ⟨acts, hrun, hsums⟩ := run_signal signal peerConnection dataChannel s
        obtain ⟨rfl, rfl⟩ := step_of_run hstep hrun
        exact h.told hgot hsame hsums
  | localDescription sdp =>
      obtain ⟨acts, hrun, hsums⟩ := run_local (.description sdp) s
      obtain ⟨rfl, rfl⟩ := step_of_run hstep hrun
      show ClientSide p q _ (got ++ []) _
      rw [List.append_nil]
      exact h.tells henabled hsums
  | localCandidate line mid =>
      obtain ⟨acts, hrun, hsums⟩ := run_local (.candidate line mid) s
      obtain ⟨rfl, rfl⟩ := step_of_run hstep hrun
      show ClientSide p q _ (got ++ []) _
      rw [List.append_nil]
      exact h.tells henabled hsums
  | _ => exact absurd rfl hquiet

/-! ## The server -/

/-- The server after it has done `out` and received `got`. -/
structure Answering (p q : String) (out : List PeerAction) (got : List SignalMessage)
    (s : SignalingPeer) : Prop where
  openCallback : s.openCallback = false
  password : s.controller.password = q
  loginSuccessCallback : s.controller.loginSuccessCallback = true
  pc : s.controller.pc = true → got ≠ [] ∧ p = q
  silent : got ≠ [] → out.filterMap port.sends = [] → s.webSocket ≠ .open
  connecting : s.webSocket = .connecting → got = []
  signals : out.filterMap remoteSignal =
    if s.controller.pc then got.filterMap Signal.ofFields else []

/-- What the server with password `q` does for a client with password `p`. -/
structure ServerSide (p q : String) (out : List PeerAction) (got : List SignalMessage)
    (x : Except SignalFault SignalingPeer) : Prop where
  talk : Talk (verifyAck (p = q)) (p = q) (out.filterMap port.sends)
  asked : got = [] → out.filterMap port.sends = []
  creates : out.count (.controller .createPeerConnection) = if got ≠ [] ∧ p = q then 1 else 0
  logins : out.count (.controller .loginSuccess) = if got ≠ [] ∧ p = q then 1 else 0
  alive : ∃ s, x = .ok s ∧ Answering p q out got s

theorem server_side_start (p q : String) : ServerSide p q [] [] (.ok (server q)) where
  talk := .inl rfl
  asked _ := rfl
  creates := by simp
  logins := by simp
  alive := ⟨_, rfl, rfl, rfl, rfl, fun h => (by cases h), fun h => absurd rfl h, fun _ => rfl, rfl⟩

/-- An event that has no part in the login. -/
theorem ServerSide.kept (h : ServerSide p q out got (.ok s)) (hkept : Kept s t)
    (hsums : Sums new 0 0 [] []) : ServerSide p q (out ++ new) got (.ok t) := by
  obtain ⟨_, hs, halive⟩ := h.alive
  cases hs
  have hsends : (out ++ new).filterMap port.sends = out.filterMap port.sends := by
    rw [List.filterMap_append, hsums.sends, List.append_nil]
  refine ⟨hsends ▸ h.talk, hsends ▸ h.asked,
    by rw [List.count_append, h.creates, hsums.creates, Nat.add_zero],
    by rw [List.count_append, h.logins, hsums.logins, Nat.add_zero], t, rfl,
    hkept.openCallback.trans halive.openCallback, hkept.password.trans halive.password,
    hkept.loginSuccessCallback.trans halive.loginSuccessCallback, hkept.pc ▸ halive.pc,
    fun hgot hnone hopen => ?_, fun hconnecting => ?_, ?_⟩
  · rw [hsends] at hnone
    rcases hkept.webSocket with hsame | hsame | hsame <;> rw [hsame] at hopen
    · exact halive.silent hgot hnone hopen
    · cases hopen
    · cases hopen
  · rcases hkept.webSocket with hsame | hsame | hsame <;> rw [hsame] at hconnecting
    · exact halive.connecting hconnecting
    · cases hconnecting
    · cases hconnecting
  · rw [List.filterMap_append, hsums.given, List.append_nil, halive.signals, hkept.pc]

/-- The server sends nothing when its WebSocket opens. -/
theorem ServerSide.opened (h : ServerSide p q out got (.ok s))
    (hconnecting : s.webSocket = .connecting)
    (hsums : Sums new 0 0 (if s.openCallback then [verify s.controller.password] else []) []) :
    ServerSide p q (out ++ new) got (.ok { s with webSocket := .open }) := by
  obtain ⟨_, hs, halive⟩ := h.alive
  cases hs
  have hgot := halive.connecting hconnecting
  rw [halive.openCallback] at hsums
  have hsends : (out ++ new).filterMap port.sends = out.filterMap port.sends := by
    rw [List.filterMap_append, hsums.sends]
    exact List.append_nil _
  refine ⟨hsends ▸ h.talk, hsends ▸ h.asked,
    by rw [List.count_append, h.creates, hsums.creates, Nat.add_zero],
    by rw [List.count_append, h.logins, hsums.logins, Nat.add_zero], _, rfl,
    halive.openCallback, halive.password, halive.loginSuccessCallback, halive.pc,
    fun hne => absurd hgot hne, fun h => (by cases h), ?_⟩
  rw [List.filterMap_append, hsums.given, List.append_nil, halive.signals]

/-- What the server's peer connection is told is sent after the answer to the login. -/
theorem ServerSide.tells (h : ServerSide p q out got (.ok s)) {signal : Signal}
    (hpc : s.controller.pc = true)
    (hsums : Sums new 0 0 (if s.webSocket = .open then [signal.fields] else []) []) :
    ServerSide p q (out ++ new) got (.ok s) := by
  by_cases hopen : s.webSocket = .open
  · rw [if_pos hopen] at hsums
    obtain ⟨_, hs, halive⟩ := h.alive
    cases hs
    obtain ⟨hgot, hsame⟩ := halive.pc hpc
    have hsaid : out.filterMap port.sends ≠ [] := fun hnone => halive.silent hgot hnone hopen
    have hsends : (out ++ new).filterMap port.sends =
        out.filterMap port.sends ++ [signal.fields] := by
      rw [List.filterMap_append, hsums.sends]
    refine ⟨hsends ▸ h.talk.signal hsaid hsame signal, fun hnone => absurd hnone hgot,
      by rw [List.count_append, h.creates, hsums.creates, Nat.add_zero],
      by rw [List.count_append, h.logins, hsums.logins, Nat.add_zero], s, rfl,
      halive.openCallback, halive.password, halive.loginSuccessCallback, halive.pc,
      fun _ hnone => ?_, halive.connecting, ?_⟩
    · rw [hsends] at hnone
      simp at hnone
    · rw [List.filterMap_append, hsums.given, List.append_nil, halive.signals]
  · rw [if_neg hopen] at hsums
    exact h.kept (kept_refl s) hsums

/-- The answer of the server to a login. -/
theorem ServerSide.replied (h : ServerSide p q out [] (.ok s))
    (hconnecting : s.webSocket ≠ .connecting) (hopen : t.openCallback = s.openCallback)
    (hpassword : t.controller.password = s.controller.password)
    (hcallback : t.controller.loginSuccessCallback = s.controller.loginSuccessCallback)
    (hwebSocket : t.webSocket = s.webSocket) (hpc : t.controller.pc = true → p = q)
    (hsums : Sums new (if p = q then 1 else 0) (if p = q then 1 else 0)
      (if s.webSocket = .open then [verifyAck (p = q)] else []) []) :
    ServerSide p q (out ++ new) [verify p] (.ok t) := by
  obtain ⟨_, hs, halive⟩ := h.alive
  cases hs
  have hsends : (out ++ new).filterMap port.sends =
      if s.webSocket = .open then [verifyAck (p = q)] else [] := by
    rw [List.filterMap_append, h.asked rfl, hsums.sends, List.nil_append]
  refine ⟨?_, fun hnone => (by cases hnone), ?_, ?_, t, rfl, hopen.trans halive.openCallback,
    hpassword.trans halive.password, hcallback.trans halive.loginSuccessCallback,
    fun h => ⟨List.cons_ne_nil _ _, hpc h⟩, fun _ hnone heq => ?_, fun heq => ?_, ?_⟩
  · rw [hsends]
    split
    · exact talk_first _ _
    · exact .inl rfl
  · rw [List.count_append, h.creates, hsums.creates]
    simp
  · rw [List.count_append, h.logins, hsums.logins]
    simp
  · rw [hsends, ← hwebSocket, if_pos heq] at hnone
    cases hnone
  · exact absurd (hwebSocket.symm.trans heq) hconnecting
  · rw [List.filterMap_append, hsums.given, List.append_nil, halive.signals]
    simp

/-- What the server does with a login. -/
theorem ServerSide.login (h : ServerSide p q out [] (.ok s))
    {peerConnection dataChannel : Construction}
    (hstep : signalingPeer.step (.ok s) (.message (verify p) peerConnection dataChannel) =
      some (x, new)) : ServerSide p q (out ++ new) [verify p] x := by
  obtain ⟨_, hs, halive⟩ := h.alive
  cases hs
  obtain ⟨_, hs, henabled, -, -⟩ := machine_step_eq_some hstep
  cases hs
  have hconnecting : s.webSocket ≠ .connecting := by
    intro hconnecting
    simp [enabled, hconnecting] at henabled
  by_cases hsame : p = q
  · obtain ⟨acts, hrun, hsums⟩ :=
      run_verify (hsame.trans halive.password.symm) peerConnection dataChannel
    obtain ⟨rfl, rfl⟩ := step_of_run hstep hrun
    rw [halive.loginSuccessCallback] at hsums
    refine h.replied hconnecting rfl rfl rfl rfl (fun _ => hsame) ?_
    rw [if_pos hsame, decide_eq_true hsame]
    exact hsums
  · obtain ⟨acts, hrun, hsums⟩ := run_verify_wrong
      (fun heq => hsame (heq.trans halive.password)) peerConnection dataChannel
    obtain ⟨rfl, rfl⟩ := step_of_run hstep hrun
    refine h.replied hconnecting rfl rfl rfl rfl (fun hpc => (halive.pc hpc).2) ?_
    rw [if_neg hsame, decide_eq_false hsame]
    exact hsums

/-- What the server does with a signal. -/
theorem ServerSide.told (h : ServerSide p q out got (.ok s)) {signal : Signal} (hgot : got ≠ [])
    (hsums : Sums new 0 0 [] (if s.controller.pc then [signal] else [])) :
    ServerSide p q (out ++ new) (got ++ [signal.fields]) (.ok s) := by
  obtain ⟨_, hs, halive⟩ := h.alive
  cases hs
  have hsends : (out ++ new).filterMap port.sends = out.filterMap port.sends := by
    rw [List.filterMap_append, hsums.sends, List.append_nil]
  refine ⟨hsends ▸ h.talk, fun hnone => ?_, ?_, ?_, s, rfl, halive.openCallback, halive.password,
    halive.loginSuccessCallback, fun hpc => ⟨?_, (halive.pc hpc).2⟩, fun _ hnone => ?_,
    fun hconnecting => absurd (halive.connecting hconnecting) hgot, ?_⟩
  · simp at hnone
  · rw [List.count_append, h.creates, hsums.creates]
    simp [hgot]
  · rw [List.count_append, h.logins, hsums.logins]
    simp [hgot]
  · simp
  · rw [hsends] at hnone
    exact halive.silent hgot hnone
  · rw [List.filterMap_append, hsums.given, halive.signals]
    split <;> simp

/-- What the server does as long as the other side talks as a client does. -/
theorem ServerSide.step (h : ServerSide p q out got (.ok s))
    (hstep : signalingPeer.step (.ok s) e = some (x, new)) {heard : List SignalMessage}
    (htalk : Talk (verify p) (p = q) heard)
    (hheard : got ++ (port.receives e).toList <+: heard) :
    ServerSide p q (out ++ new) (got ++ (port.receives e).toList) x := by
  obtain ⟨_, hs, henabled, -, -⟩ := machine_step_eq_some hstep
  cases hs
  by_cases hquiet : SignalingPeer.quiet e = true
  · obtain ⟨t, acts, hrun, hkept, hsums⟩ := run_quiet hquiet s
    obtain ⟨rfl, rfl⟩ := step_of_run hstep hrun
    have hnone : port.receives e = none := by cases e <;> first | rfl | cases hquiet
    rw [hnone, Option.toList_none, List.append_nil]
    exact h.kept hkept hsums
  cases e with
  | opened =>
      obtain ⟨acts, hrun, hsums⟩ := run_opened s
      obtain ⟨rfl, rfl⟩ := step_of_run hstep hrun
      show ServerSide p q _ (got ++ []) _
      rw [List.append_nil]
      exact h.opened (of_decide_eq_true henabled) hsums
  | message fields peerConnection dataChannel =>
      have hheard' : got ++ [fields] <+: heard := hheard
      rcases htalk.next hheard' with ⟨rfl, rfl⟩ | ⟨hgot, -, signal, rfl⟩
      · exact h.login hstep
      · obtain ⟨acts, hrun, hsums⟩ := run_signal signal peerConnection dataChannel s
        obtain ⟨rfl, rfl⟩ := step_of_run hstep hrun
        exact h.told hgot hsums
  | localDescription sdp =>
      obtain ⟨acts, hrun, hsums⟩ := run_local (.description sdp) s
      obtain ⟨rfl, rfl⟩ := step_of_run hstep hrun
      show ServerSide p q _ (got ++ []) _
      rw [List.append_nil]
      exact h.tells henabled hsums
  | localCandidate line mid =>
      obtain ⟨acts, hrun, hsums⟩ := run_local (.candidate line mid) s
      obtain ⟨rfl, rfl⟩ := step_of_run hstep hrun
      show ServerSide p q _ (got ++ []) _
      rw [List.append_nil]
      exact h.tells henabled hsums
  | _ => exact absurd rfl hquiet

/-! ## Both -/

/-- The client and the server at any time. -/
theorem sides_of_run {es : List (PeerEvent ⊕ PeerEvent)} {out : List (PeerAction ⊕ PeerAction)}
    {d : Duplex (Except SignalFault SignalingPeer) (Except SignalFault SignalingPeer) SignalMessage}
    (hrun : login.run (.start (.ok (client p)) (.ok (server q))) es = some (d, out)) :
    ClientSide p q (lefts out) ((lefts es).filterMap port.receives) d.left ∧
      ServerSide p q (rights out) ((rights es).filterMap port.receives) d.right := by
  refine Machine.run_induction (P := fun es out d =>
    ClientSide p q (lefts out) ((lefts es).filterMap port.receives) d.left ∧
      ServerSide p q (rights out) ((rights es).filterMap port.receives) d.right) ?_ ?_ hrun
  · exact ⟨client_side_start p q, server_side_start p q⟩
  intro es out d e d' new hes ih hstep
  obtain ⟨hclient, hserver⟩ := ih
  have hjoined := duplex_run (Machine.run_snoc.mpr ⟨d, out, new, hes, hstep, rfl⟩)
  have hconcat : ∀ (xs : List PeerEvent) (e : PeerEvent),
      (xs ++ [e]).filterMap port.receives = xs.filterMap port.receives ++
        (port.receives e).toList := by
    intro xs e
    rw [List.filterMap_append]
    cases hr : port.receives e <;> simp [hr]
  have hlefts : ∀ e : PeerEvent, lefts [(.inl e : PeerEvent ⊕ PeerEvent)] = [e] ∧
      rights [(.inl e : PeerEvent ⊕ PeerEvent)] = [] := fun _ => ⟨rfl, rfl⟩
  have hrights : ∀ e : PeerEvent, rights [(.inr e : PeerEvent ⊕ PeerEvent)] = [e] ∧
      lefts [(.inr e : PeerEvent ⊕ PeerEvent)] = [] := fun _ => ⟨rfl, rfl⟩
  cases e with
  | inl e =>
      obtain ⟨channel, x, acts, -, hs, rfl, rfl⟩ := duplex_step_inl.mp hstep
      obtain ⟨s, hleft, -⟩ := machine_step_eq_some hs
      have hheard := hjoined.received_left
      rw [hleft] at hclient hs
      simp only [lefts_append, rights_append, (hlefts e).1, (hlefts e).2, lefts_map_inl,
        rights_map_inl, List.append_nil, hconcat] at hheard ⊢
      exact ⟨hclient.step hs hserver.talk hheard, hserver⟩
  | inr e =>
      obtain ⟨channel, x, acts, -, hs, rfl, rfl⟩ := duplex_step_inr.mp hstep
      obtain ⟨s, hright, -⟩ := hserver.alive
      have hheard := hjoined.received_right
      rw [hright] at hserver hs
      simp only [lefts_append, rights_append, (hrights e).1, (hrights e).2, lefts_map_inr,
        rights_map_inr, List.append_nil, hconcat] at hheard ⊢
      exact ⟨hclient, hserver.step hs hclient.talk hheard⟩

end SignalingPeer

open SignalingPeer

variable {p q : String} {es : List (PeerEvent ⊕ PeerEvent)} {out : List (PeerAction ⊕ PeerAction)}
  {d : Duplex (Except SignalFault SignalingPeer) (Except SignalFault SignalingPeer) SignalMessage}

/-- Whatever the order of what happens, client and server agree on the login: the client calls
`createPeerConnection` only if the server has called it, the server calls it once at most and
reports as many logins, neither calls it if the passwords differ, and the server does not fail. If
the passwords are the same, the WebSocket is open and nothing is on the way, both have called it. -/
theorem login_agrees
    (hrun : login.run (.start (.ok (client p)) (.ok (server q))) es = some (d, out)) :
    (lefts out).count (.controller .createPeerConnection) ≤
        (rights out).count (.controller .createPeerConnection) ∧
      (rights out).count (.controller .createPeerConnection) ≤ 1 ∧
      (rights out).count (.controller .loginSuccess) =
        (rights out).count (.controller .createPeerConnection) ∧
      (p ≠ q → (rights out).count (.controller .createPeerConnection) = 0) ∧
      (∃ s, d.right = .ok s) ∧
      ∀ c s, d.left = .ok c → d.right = .ok s → c.webSocket = .open → s.webSocket = .open →
        d.toRight.waiting = [] → d.toLeft.waiting = [] → p = q →
        (lefts out).count (.controller .createPeerConnection) = 1 ∧
          (rights out).count (.controller .createPeerConnection) = 1 := by
  obtain ⟨hclient, hserver⟩ := sides_of_run hrun
  have hjoined := duplex_run hrun
  have hbefore : (lefts es).filterMap port.receives ≠ [] →
      (rights es).filterMap port.receives ≠ [] := by
    intro hgot hnone
    have hsilent := hjoined.received_left
    rw [hserver.asked hnone, List.prefix_nil] at hsilent
    exact hgot hsilent
  obtain ⟨s, hs, hanswering⟩ := hserver.alive
  rw [hclient.creates, hserver.creates, hserver.logins]
  refine ⟨?_, by split <;> omega, rfl, fun hne => if_neg fun h => hne h.2, ⟨s, hs⟩, ?_⟩
  · by_cases hgot : (lefts es).filterMap port.receives ≠ [] ∧ p = q
    · rw [if_pos hgot, if_pos ⟨hbefore hgot.1, hgot.2⟩]
    · rw [if_neg hgot]
      exact Nat.zero_le _
  · intro c s' hc hs' hopenC hopenS hright hleft hsame
    rw [hs] at hs'
    cases hs'
    have hasked : (rights es).filterMap port.receives ≠ [] := by
      rw [← hjoined.receivedRight, Fifo.delivered_eq_of_waiting_nil hright, hjoined.sentRight]
      exact fun hnone => (hclient.alive c hc).silent hnone hopenC
    have hanswered : (lefts es).filterMap port.receives ≠ [] := by
      rw [← hjoined.receivedLeft, Fifo.delivered_eq_of_waiting_nil hleft, hjoined.sentLeft]
      exact fun hnone => hanswering.silent hasked hnone hopenS
    rw [if_pos ⟨hanswered, hsame⟩, if_pos ⟨hasked, hsame⟩]
    exact ⟨rfl, rfl⟩

/-- A login with the right password, an offer and the answer to it, which is on its way. -/
def offered : List (PeerEvent ⊕ PeerEvent) :=
  [.inl .opened, .inr .opened, .inr (.message (verify "secret") .succeeds .succeeds),
    .inl (.message (verifyAck true) .succeeds .succeeds), .inl (.localDescription "offer"),
    .inr (.message (Signal.description "offer").fields .succeeds .succeeds),
    .inr (.localDescription "answer")]

/-- The login alone, after which nothing is on its way. -/
def loggedIn : List (PeerEvent ⊕ PeerEvent) := offered.take 4

theorem login_agrees_offered :
    (∃ d out, login.run (.start (.ok (client "secret")) (.ok (server "secret"))) offered =
        some (d, out) ∧
      (lefts out).count (.controller .createPeerConnection) ≤
        (rights out).count (.controller .createPeerConnection) ∧
      (rights out).count (.controller .createPeerConnection) ≤ 1) ∧
    ∃ d out, login.run (.start (.ok (client "secret")) (.ok (server "secret"))) loggedIn =
        some (d, out) ∧
      (lefts out).count (.controller .createPeerConnection) = 1 ∧
      (rights out).count (.controller .createPeerConnection) = 1 := by
  constructor
  · obtain ⟨d, out, hrun⟩ : ∃ d out, login.run
        (.start (.ok (client "secret")) (.ok (server "secret"))) offered = some (d, out) :=
      ⟨_, _, rfl⟩
    obtain ⟨hle, hone, -⟩ := login_agrees hrun
    exact ⟨d, out, hrun, hle, hone⟩
  · obtain ⟨d, out, c, s, hrun, hc, hs, hopenC, hopenS, hright, hleft⟩ : ∃ d out c s, login.run
        (.start (.ok (client "secret")) (.ok (server "secret"))) loggedIn = some (d, out) ∧
        d.left = .ok c ∧ d.right = .ok s ∧ c.webSocket = .open ∧ s.webSocket = .open ∧
        d.toRight.waiting = [] ∧ d.toLeft.waiting = [] :=
      ⟨_, _, _, _, rfl, rfl, rfl, rfl, rfl, rfl, rfl⟩
    obtain ⟨-, -, -, -, -, hboth⟩ := login_agrees hrun
    exact ⟨d, out, hrun, hboth c s hc hs hopenC hopenS hright hleft rfl⟩

/-- As long as the client is alive, what its peer connection is told of the server's is what has
been sent of that one, in order, but for what is still on the way; and so for the server, if it has
a peer connection. -/
theorem signals_delivered
    (hrun : login.run (.start (.ok (client p)) (.ok (server q))) es = some (d, out)) :
    (∀ c, d.left = .ok c → (lefts out).filterMap remoteSignal ++
        d.toLeft.waiting.filterMap Signal.ofFields = (rights out).filterMap localSignal) ∧
      ∀ s, d.right = .ok s → s.controller.pc = true → (rights out).filterMap remoteSignal ++
        d.toRight.waiting.filterMap Signal.ofFields = (lefts out).filterMap localSignal := by
  obtain ⟨hclient, hserver⟩ := sides_of_run hrun
  have hjoined := duplex_run hrun
  have hsent : ∀ acts : List PeerAction,
      acts.filterMap localSignal = (acts.filterMap port.sends).filterMap Signal.ofFields :=
    fun acts => List.filterMap_filterMap.symm
  refine ⟨fun c hc => ?_, fun s hs hpc => ?_⟩
  · rw [(hclient.alive c hc).signals, ← hjoined.receivedLeft, ← List.filterMap_append,
      ← d.toLeft.conserved, hjoined.sentLeft, hsent]
  · obtain ⟨s', hs', hanswering⟩ := hserver.alive
    rw [hs] at hs'
    cases hs'
    rw [hanswering.signals, if_pos hpc, ← hjoined.receivedRight, ← List.filterMap_append,
      ← d.toRight.conserved, hjoined.sentRight, hsent]

theorem signals_delivered_offered :
    ∃ d out c, login.run (.start (.ok (client "secret")) (.ok (server "secret"))) offered =
        some (d, out) ∧ d.left = .ok c ∧
      (lefts out).filterMap remoteSignal ++ d.toLeft.waiting.filterMap Signal.ofFields =
        (rights out).filterMap localSignal ∧
      (rights out).filterMap localSignal = [.description "answer"] := by
  obtain ⟨d, out, c, hrun, hc, hanswer⟩ : ∃ d out c, login.run
      (.start (.ok (client "secret")) (.ok (server "secret"))) offered = some (d, out) ∧
        d.left = .ok c ∧ (rights out).filterMap localSignal = [.description "answer"] :=
    ⟨_, _, _, rfl, rfl, rfl⟩
  exact ⟨d, out, c, hrun, hc, (signals_delivered hrun).1 c hc, hanswer⟩

end RtcVpn
