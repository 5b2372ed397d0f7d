import RtcVpn.Signaling.SessionController

/-!
# The password gate

A peer connection gives access to the tunnel, so the server should create one
only for a peer that has sent the password. The branch of `verify` checks it.
The branch of `verifyACK`, meant for the client, creates a peer connection for
whoever sends it, on the server as well.
-/

namespace RtcVpn

open SessionController

/-- A message of a type. -/
def HasType (type : String) (json : Json) : Prop := json.find "type" = some (.string type)

/-- A `verify` message with the right password. -/
def IsVerify (password : String) : SignalEvent → Prop
  | .message json _ _ => HasType "verify" json ∧ json.find "passwd" = some (.string password)
  | .remoteDataChannel => False

/-- A `verifyACK` message that reports success. -/
def IsSuccessAck : SignalEvent → Prop
  | .message json _ _ => HasType "verifyACK" json ∧ json.fieldEquals "result" "success" = true
  | .remoteDataChannel => False

/-- The calls that create something. -/
def Creates (out : List SignalAction) : Prop :=
  .createPeerConnection ∈ out ∨ ∃ label, .createDataChannel label ∈ out

/-- The gate: nothing has been created, and neither `pc_` nor `dc_` is set, unless the right
password has been received. -/
def Gate (password : String) (es : List SignalEvent) (out : List SignalAction)
    (x : Except SignalFault SessionController) : Prop :=
  (Creates out ∨ ∃ s, x = .ok s ∧ (s.pc = true ∨ s.dc = true)) → ∃ e ∈ es, IsVerify password e

/-- Every message that reports success comes after one with the right password. -/
def AcksAfterVerify (password : String) (es : List SignalEvent) : Prop :=
  ∀ before e after, es = before ++ e :: after → IsSuccessAck e → ∃ v ∈ before, IsVerify password v

/-- The gate holds at every point of the run of the messages. -/
def GateAlong (password : String) (callback : Bool) (es : List SignalEvent) : Prop :=
  ∀ fs gs x mid, es = fs ++ gs →
    sessionController.run (.ok (attached password callback)) fs = some (x, mid) →
    Gate password fs mid x

namespace SessionController

@[simp] theorem creates_append (out new : List SignalAction) :
    Creates (out ++ new) ↔ Creates out ∨ Creates new := by
  simp only [Creates, List.mem_append, exists_or]
  tauto

@[simp] theorem not_creates_nil : ¬ Creates [] := by simp [Creates]

/-! ## Handlers that create nothing -/

/-- Started in `s`, the handler leaves the controller as it is and creates nothing. -/
def Inert {β : Type} (s : SessionController)
    (x : Effect SessionController SignalAction SignalFault β) : Prop :=
  Effect.Triple (· = s) x fun t out _ => t = s ∧ ¬ Creates out

theorem Inert.bind {β γ : Type} {s : SessionController}
    {x : Effect SessionController SignalAction SignalFault β}
    {f : β → Effect SessionController SignalAction SignalFault γ} (hx : Inert s x)
    (hf : ∀ b, Inert s (f b)) : Inert s (x >>= f) := by
  refine Effect.Triple.bind hx ?_ fun t out e h => h
  intro out b t ht
  obtain ⟨hstate, hnew⟩ := hf b t ht.1
  exact ⟨hstate, by simp [ht.2, hnew]⟩

theorem inert_pure {β : Type} (s : SessionController) (b : β) :
    Inert s (pure b : Effect SessionController SignalAction SignalFault β) := by
  intro t ht
  exact ⟨ht, not_creates_nil⟩

theorem inert_emit (s : SessionController) {a : SignalAction} (ha : ¬ Creates [a]) :
    Inert s (Effect.emit a : SignalHandler) := by
  intro t ht
  exact ⟨ht, ha⟩

theorem inert_or_throw {β : Type} (s : SessionController) (b : Option β) :
    Inert s (orThrow b) := by
  cases b with
  | some b => exact inert_pure s b
  | none =>
      intro t ht
      exact ⟨ht, not_creates_nil⟩

theorem inert_get (s : SessionController) :
    Inert s (Effect.get : Effect SessionController SignalAction SignalFault SessionController) := by
  intro t ht
  exact ⟨ht, not_creates_nil⟩

/-- `P2PClient::handleSignalMessage` only ever uses the peer connection there is. -/
theorem inert_handle_signal_message (s : SessionController) (json : Json) :
    Inert s (handleSignalMessage json) := by
  refine (inert_or_throw s _).bind fun type => (inert_get s).bind fun t => ?_
  split
  · split
    · exact inert_emit s (by simp [Creates])
    · refine (inert_or_throw s _).bind fun sdp => ?_
      split
      · exact inert_emit s (by simp [Creates])
      · exact inert_pure s ()
  · split
    · split
      · exact inert_emit s (by simp [Creates])
      · exact inert_emit s (by simp [Creates])
      · refine (inert_or_throw s _).bind fun candidate => (inert_or_throw s _).bind fun mid => ?_
        split
        · exact inert_emit s (by simp [Creates])
        · exact inert_pure s ()
    · exact inert_emit s (by simp [Creates])

/-- A `verify` message with the wrong password, or none. -/
theorem inert_on_verify {s : SessionController} {json : Json} (peerConnection : Construction)
    (h : json.find "passwd" ≠ some (.string s.password)) :
    Inert s (onVerify json peerConnection) := by
  intro t ht
  subst ht
  rw [onVerify, Effect.run_bind, Effect.run_get, Effect.andThen_ok]
  cases hpasswd : json.find "passwd" with
  | none => simp [Creates]
  | some passwd =>
      cases hstring : passwd.asString with
      | none => simp [orThrow, hstring]
      | some pwd =>
          have hwrong : pwd ≠ t.password := by
            intro heq
            cases passwd with
            | string value =>
                cases hstring
                exact h (by rw [hpasswd, heq])
            | _ => cases hstring
          simp [orThrow, hstring, hwrong, Creates]

/-- A `verifyACK` message that does not report success. -/
theorem inert_on_verify_ack {s : SessionController} {json : Json}
    (peerConnection dataChannel : Construction)
    (h : json.fieldEquals "result" "success" = false) :
    Inert s (onVerifyAck json peerConnection dataChannel) := by
  rw [onVerifyAck, if_neg (by simp [h])]
  exact (inert_emit s (by simp [Creates])).bind fun _ => inert_emit s (by simp [Creates])

/-- A `verifyACK` message that reports success creates a peer connection. -/
theorem creates_on_verify_ack {s : SessionController} {json : Json}
    {peerConnection dataChannel : Construction}
    (h : json.fieldEquals "result" "success" = true) :
    Creates ((onVerifyAck json peerConnection dataChannel).run s).actions := by
  rw [onVerifyAck, if_pos h]
  refine .inl ?_
  cases peerConnection <;> simp [createPeerConnection]

/-- The type a message is dispatched on. -/
theorem value_type {json : Json} {type : String} (h : json.value "type" = some type)
    (hfound : json.find "type" ≠ none) : HasType type json := by
  unfold Json.value at h
  split at h
  · next field hfind =>
      cases field with
      | string value =>
          cases h
          exact hfind
      | _ => cases h
  · next hfind => exact absurd hfind hfound

/-- A message is dispatched on its type. -/
theorem run_on_message {json : Json} {type : String} {peerConnection dataChannel : Construction}
    (h : json.value "type" = some type) (s : SessionController) :
    (onMessage json peerConnection dataChannel).run s =
      Effect.run (if type = "verifyACK" then onVerifyAck json peerConnection dataChannel
        else if type = "verify" then onVerify json peerConnection
        else handleSignalMessage json) s := by
  rw [onMessage, h]
  rfl

/-- An event that is neither a successful `verifyACK` nor a correct `verify` creates nothing. -/
theorem inert_handle {s : SessionController} {json : Json}
    {peerConnection dataChannel : Construction}
    (hack : ¬ IsSuccessAck (.message json peerConnection dataChannel))
    (hverify : ¬ IsVerify s.password (.message json peerConnection dataChannel)) :
    Inert s (handle (.message json peerConnection dataChannel)) := by
  cases htype : json.find "type" with
  | none =>
      simp only [handle, htype]
      exact inert_emit s (by simp [Creates])
  | some field =>
      suffices h : Inert s (onMessage json peerConnection dataChannel) by
        intro t ht
        simpa [handle, htype] using h t ht
      cases hvalue : json.value "type" with
      | none =>
          intro t ht
          simpa [onMessage, hvalue, orThrow] using ht
      | some type =>
          have hhas : HasType type json := value_type hvalue (by simp [htype])
          intro t ht
          rw [run_on_message hvalue]
          revert t
          show Inert s _
          split
          · next htype =>
              subst htype
              refine inert_on_verify_ack peerConnection dataChannel ?_
              rw [← Bool.not_eq_true]
              exact fun hsuccess => hack ⟨hhas, hsuccess⟩
          · split
            · next htype =>
                subst htype
                exact inert_on_verify peerConnection fun hpasswd => hverify ⟨hhas, hpasswd⟩
            · exact inert_handle_signal_message s json

/-- A `verifyACK` message that reports success creates a peer connection, whoever sent it. -/
theorem creates_handle {s : SessionController} {e : SignalEvent} (h : IsSuccessAck e) :
    Creates ((handle e).run s).actions := by
  cases e with
  | remoteDataChannel => exact h.elim
  | message json peerConnection dataChannel =>
      obtain ⟨htype, hsuccess⟩ := h
      have hvalue : json.value "type" = some "verifyACK" := by
        rw [HasType] at htype
        simp [Json.value, htype, Json.asString]
      rw [HasType] at htype
      simp only [handle, htype, Effect.swallow_actions, run_on_message hvalue, if_true]
      exact creates_on_verify_ack hsuccess

/-! ## The password -/

/-- The handler leaves the password as it is. -/
def KeepsPassword {β : Type} (x : Effect SessionController SignalAction SignalFault β) : Prop :=
  ∀ password, Effect.Keeps (fun s => s.password = password) x

theorem keeps_password_create_peer_connection (outcome : Construction) :
    KeepsPassword (createPeerConnection outcome) := by
  intro password s hs
  cases outcome <;> simpa [createPeerConnection] using hs

theorem keeps_password_create_data_channel (label : String) (outcome : Construction) :
    KeepsPassword (createDataChannel label outcome) := by
  intro password s hs
  by_cases hpc : s.pc = true
  · cases outcome <;> simpa [createDataChannel, hpc] using hs
  · simpa [createDataChannel, hpc] using hs

theorem keeps_password_of_inert {β : Type}
    {x : Effect SessionController SignalAction SignalFault β} (h : ∀ s, Inert s x) :
    KeepsPassword x := by
  intro password
  refine Effect.keeps_of_state fun s hs => ?_
  rw [(h s s rfl).1]
  exact hs

theorem keeps_password_on_verify (json : Json) (peerConnection : Construction) :
    KeepsPassword (onVerify json peerConnection) := by
  intro password
  refine Effect.Respects.bind (keeps_password_of_inert inert_get password) fun s => ?_
  split
  · refine Effect.Respects.bind
      (keeps_password_of_inert (fun s => inert_or_throw s _) password) fun pwd => ?_
    split
    · refine Effect.Respects.bind (keeps_password_create_peer_connection _ password) fun _ => ?_
      dsimp only
      split
      · exact Effect.Respects.bind (Effect.Respects.emit trivial) fun _ =>
          Effect.Respects.emit trivial
      · exact Effect.Respects.emit trivial
    · exact Effect.Respects.bind (Effect.Respects.emit trivial) fun _ =>
        Effect.Respects.emit trivial
  · exact Effect.Respects.bind (Effect.Respects.emit trivial) fun _ => Effect.Respects.emit trivial

theorem keeps_password_on_verify_ack (json : Json) (peerConnection dataChannel : Construction) :
    KeepsPassword (onVerifyAck json peerConnection dataChannel) := by
  intro password
  unfold onVerifyAck
  split
  · exact Effect.Respects.bind (keeps_password_create_peer_connection _ password) fun _ =>
      keeps_password_create_data_channel _ _ password
  · exact Effect.Respects.bind (Effect.Respects.emit trivial) fun _ => Effect.Respects.emit trivial

theorem keeps_password_handle (e : SignalEvent) : KeepsPassword (handle e) := by
  intro password
  cases e with
  | remoteDataChannel => exact Effect.keeps_of_state fun s hs => hs
  | message json peerConnection dataChannel =>
      unfold handle
      dsimp only
      split
      · exact Effect.Respects.emit trivial
      · refine Effect.Respects.swallow _ (Effect.Respects.bind
          (keeps_password_of_inert (fun s => inert_or_throw s _) password) fun type => ?_)
        split
        · exact keeps_password_on_verify_ack _ _ _ password
        · split
          · exact keeps_password_on_verify _ _ password
          · exact keeps_password_of_inert
              (fun s => inert_handle_signal_message s json) password

/-! ## The gate along a run -/

theorem password_run {password : String} {callback : Bool} {es : List SignalEvent}
    {s : SessionController} {out : List SignalAction}
    (hrun : sessionController.run (.ok (attached password callback)) es = some (.ok s, out)) :
    s.password = password := by
  refine Machine.run_invariant (I := fun x => ∀ s, x = .ok s → s.password = password)
    ?_ ?_ hrun s rfl
  · intro x e y new hx hstep t ht
    subst ht
    obtain ⟨s, rfl, _, hhandle⟩ := Effect.machine_step_alive hstep
    have hkeeps := (keeps_password_handle e password).state (hx s rfl)
    rwa [hhandle] at hkeeps
  · intro s hs
    cases hs
    rfl

/-- A step keeps the gate shut if and only if it is no success report before a correct password. -/
theorem gate_step {password : String} {es : List SignalEvent} {out new : List SignalAction}
    {s : SessionController} {e : SignalEvent} {y : Except SignalFault SessionController}
    (hpassword : s.password = password) (hgate : Gate password es out (.ok s))
    (hstep : sessionController.step (.ok s) e = some (y, new)) :
    Gate password (es ++ [e]) (out ++ new) y ↔
      (IsSuccessAck e → ∃ v ∈ es, IsVerify password v) := by
  obtain ⟨s', hs', henabled, rfl, rfl⟩ := Effect.machine_step_eq_some hstep
  cases hs'
  subst hpassword
  constructor
  · intro hafter hack
    obtain ⟨v, hv, hverify⟩ := hafter (.inl (by simp [creates_handle hack]))
    rcases List.mem_append.mp hv with hv | hv
    · exact ⟨v, hv, hverify⟩
    · -- the success report itself is no correct password
      rw [List.mem_singleton] at hv
      subst hv
      cases v with
      | remoteDataChannel => exact hverify.elim
      | message json _ _ => exact absurd (hack.1.symm.trans hverify.1) (by simp)
  · intro hok hcreated
    have hlift : (∃ v ∈ es, IsVerify s.password v) → ∃ v ∈ es ++ [e], IsVerify s.password v :=
      fun ⟨v, hv, hverify⟩ => ⟨v, List.mem_append_left _ hv, hverify⟩
    cases e with
    | remoteDataChannel => exact hlift (hgate (.inr ⟨s, rfl, .inl henabled⟩))
    | message json peerConnection dataChannel =>
        by_cases hverify : IsVerify s.password (.message json peerConnection dataChannel)
        · exact ⟨_, by simp, hverify⟩
        · by_cases hack : IsSuccessAck (.message json peerConnection dataChannel)
          · exact hlift (hok hack)
          · obtain ⟨hstate, hnone⟩ := inert_handle hack hverify s rfl
            refine hlift (hgate ?_)
            rw [hstate, creates_append] at hcreated
            rcases hcreated with (hout | hnew) | ⟨t, ht, hset⟩
            · exact .inl hout
            · exact absurd hnew hnone
            · cases hresult :
                ((handle (.message json peerConnection dataChannel)).run s).result with
              | error fault =>
                  rw [hresult] at ht
                  cases ht
              | ok _ =>
                  rw [hresult] at ht
                  cases ht
                  exact .inr ⟨s, rfl, hset⟩

end SessionController

/-- On the server nothing is created before the right password is received if and only if every
message that reports success comes after one with the right password. -/
theorem password_gate_iff {password : String} {callback : Bool} {es : List SignalEvent}
    {r : Except SignalFault SessionController} {out : List SignalAction}
    (hrun : sessionController.run (.ok (attached password callback)) es = some (r, out)) :
    GateAlong password callback es ↔ AcksAfterVerify password es := by
  have hmeets : GateAlong password callback es ↔ sessionController.Meets
        (fun before _ _ e => IsSuccessAck e → ∃ v ∈ before, IsVerify password v)
        (.ok (attached password callback)) es := by
    refine Machine.forall_reached_iff_meets (by simp [Gate, attached]) ?_ hrun
    intro es out t e u new hes hgate hstep
    obtain ⟨s, rfl, _, _, _⟩ := Effect.machine_step_eq_some hstep
    exact gate_step (password_run hes) hgate hstep
  rw [hmeets]
  constructor
  · intro h before e after hsplit
    rw [hsplit] at hrun
    obtain ⟨x, mid, _, hbefore, _, _⟩ := Machine.run_append.mp hrun
    exact h before e after x mid hsplit hbefore
  · intro h before e after x mid hsplit _
    exact h before e after hsplit

theorem password_gate_verified_login :
    (∃ s out, sessionController.run (.ok (attached "secret" true))
        [.message (.object [("type", .string "verify"), ("passwd", .string "secret")])
          .succeeds .succeeds] = some (.ok s, out) ∧ s.pc = true) ∧
      GateAlong "secret" true
        [.message (.object [("type", .string "verify"), ("passwd", .string "secret")])
          .succeeds .succeeds] := by
  refine ⟨⟨_, _, rfl, rfl⟩, (password_gate_iff rfl).mpr ?_⟩
  intro before e after hsplit hack
  have he : e ∈ before ++ e :: after := by simp
  rw [← hsplit, List.mem_singleton] at he
  subst he
  exact absurd hack.1 (by simp [HasType])

/-- A peer that knows no password reports success to the server. -/
theorem success_report_opens_gate :
    (∃ s, sessionController.run (.ok (attached "secret" true))
        [.message (.object [("type", .string "verifyACK"), ("result", .string "success")])
          .succeeds .succeeds] =
        some (.ok s, [.createPeerConnection, .createDataChannel "data"]) ∧
      s.pc = true ∧ s.dc = true) ∧
    ¬ GateAlong "secret" true
        [.message (.object [("type", .string "verifyACK"), ("result", .string "success")])
          .succeeds .succeeds] := by
  refine ⟨⟨_, rfl, rfl, rfl⟩, fun hgate => ?_⟩
  have hcreated : Creates [.createPeerConnection, .createDataChannel "data"] := by simp [Creates]
  obtain ⟨e, he, hverify⟩ := hgate _ [] _ _ (List.append_nil _).symm rfl
    (.inl hcreated)
  rw [List.mem_singleton] at he
  subst he
  exact absurd hverify.1 (by simp [HasType])

end RtcVpn
