import RtcVpn.Library.Machine

/-!
# Handlers that update a state, act on the outside and may fault

An `Effect` is the meaning of an event handler of an object: it reads and
updates the object's state, takes actions in order, and either returns a result
or stops at a fault, keeping what it did until then. `Effect.machine` turns the
handlers of an object into a `Machine` whose state is the object, or the fault
that ended the process. `Effect.Triple` states a handler's pre- and
postcondition, with one rule for each way handlers are composed.
-/

namespace RtcVpn

/-- What running a handler leaves: the state, the actions it took in order, and its result or the
fault that stopped it. -/
structure Outcome (σ α φ β : Type) where
  state : σ
  actions : List α
  result : Except φ β

/-- A handler over a state `σ` that takes actions `α` and may stop at a fault `φ`. -/
def Effect (σ α φ β : Type) : Type := σ → Outcome σ α φ β

namespace Effect

variable {σ α φ β γ ε : Type}

/-- The outcome of a handler started in a state. -/
def run (x : Effect σ α φ β) (s : σ) : Outcome σ α φ β := x s

/-- Continue after an outcome unless it is a fault. -/
def andThen (o : Outcome σ α φ β) (f : β → Effect σ α φ γ) : Outcome σ α φ γ :=
  match o.result with
  | .ok b =>
      let next := (f b).run o.state
      ⟨next.state, o.actions ++ next.actions, next.result⟩
  | .error e => ⟨o.state, o.actions, .error e⟩

instance : Monad (Effect σ α φ) where
  pure b := fun s => ⟨s, [], .ok b⟩
  bind x f := fun s => andThen (x.run s) f

/-- Read the state. -/
def get : Effect σ α φ σ := fun s => ⟨s, [], .ok s⟩

/-- Update the state. -/
def modify (f : σ → σ) : Effect σ α φ Unit := fun s => ⟨f s, [], .ok ()⟩

/-- Take one action. -/
def emit (a : α) : Effect σ α φ Unit := fun s => ⟨s, [a], .ok ()⟩

/-- Stop at a fault. -/
def fail (e : φ) : Effect σ α φ β := fun s => ⟨s, [], .error e⟩

/-- Run a handler under a caller that swallows the faults `caught` selects. -/
def swallow (caught : φ → Bool) (x : Effect σ α φ Unit) : Effect σ α φ Unit := fun s =>
  let o := x.run s
  match o.result with
  | .ok _ => o
  | .error e => if caught e then ⟨o.state, o.actions, .ok ()⟩ else o

/-- Run one handler for each element of a list, in order. -/
def forEach (xs : List ε) (f : ε → Effect σ α φ Unit) : Effect σ α φ Unit :=
  match xs with
  | [] => pure ()
  | x :: rest => do
      f x
      forEach rest f

/-- A handler of a part of the state, with its actions and faults renamed. -/
def within {τ α' φ' : Type} (read : τ → σ) (write : σ → τ → τ) (act : α → α') (fault : φ → φ')
    (x : Effect σ α φ β) : Effect τ α' φ' β := fun t =>
  let o := x.run (read t)
  ⟨write o.state t, o.actions.map act, o.result.mapError fault⟩

/-- A handler of a part of the state whose actions, once it has ended, the whole carries out. -/
def performing {τ α' φ' : Type} (read : τ → σ) (write : σ → τ → τ) (fault : φ → φ')
    (x : Effect σ α φ β) (perform : α → Effect τ α' φ' Unit) : Effect τ α' φ' β := fun t =>
  let o := x.run (read t)
  let done := (forEach o.actions perform).run (write o.state t)
  ⟨done.state, done.actions, done.result.bind fun _ => o.result.mapError fault⟩

/-! ## Evaluation -/

@[simp] theorem run_pure (b : β) (s : σ) :
    (pure b : Effect σ α φ β).run s = ⟨s, [], .ok b⟩ := rfl

@[simp] theorem run_bind (x : Effect σ α φ β) (f : β → Effect σ α φ γ) (s : σ) :
    (x >>= f).run s = andThen (x.run s) f := rfl

@[simp] theorem run_get (s : σ) : (get : Effect σ α φ σ).run s = ⟨s, [], .ok s⟩ := rfl

@[simp] theorem run_modify (f : σ → σ) (s : σ) :
    (modify f : Effect σ α φ Unit).run s = ⟨f s, [], .ok ()⟩ := rfl

@[simp] theorem run_emit (a : α) (s : σ) :
    (emit a : Effect σ α φ Unit).run s = ⟨s, [a], .ok ()⟩ := rfl

@[simp] theorem run_fail (e : φ) (s : σ) :
    (fail e : Effect σ α φ β).run s = ⟨s, [], .error e⟩ := rfl

@[simp] theorem run_ite (c : Prop) [Decidable c] (x y : Effect σ α φ β) (s : σ) :
    (if c then x else y).run s = if c then x.run s else y.run s := by
  split <;> rfl

@[simp] theorem andThen_ok (s : σ) (as : List α) (b : β) (f : β → Effect σ α φ γ) :
    andThen ⟨s, as, .ok b⟩ f =
      ⟨((f b).run s).state, as ++ ((f b).run s).actions, ((f b).run s).result⟩ := rfl

@[simp] theorem andThen_error (s : σ) (as : List α) (e : φ) (f : β → Effect σ α φ γ) :
    andThen ⟨s, as, .error e⟩ f = ⟨s, as, .error e⟩ := rfl

/-- What returns is two handlers that return, one after the other. -/
theorem andThen_eq_ok {o : Outcome σ α φ β} {f : β → Effect σ α φ γ} {t : σ} {as : List α} {c : γ}
    (h : andThen o f = ⟨t, as, .ok c⟩) :
    ∃ u first b rest, o = ⟨u, first, .ok b⟩ ∧ (f b).run u = ⟨t, rest, .ok c⟩ ∧
      as = first ++ rest := by
  obtain ⟨u, first, result⟩ := o
  cases result with
  | error e => cases h
  | ok b =>
      rw [andThen_ok] at h
      generalize hnext : (f b).run u = next at h
      obtain ⟨v, rest, result⟩ := next
      cases h
      exact ⟨u, first, b, rest, rfl, hnext, rfl⟩

@[simp] theorem swallow_state (caught : φ → Bool) (x : Effect σ α φ Unit) (s : σ) :
    ((swallow caught x).run s).state = (x.run s).state := by
  show (match (x.run s).result with | .ok _ => _ | .error e => _ : Outcome σ α φ Unit).state = _
  cases (x.run s).result with
  | ok b => rfl
  | error e => dsimp only; split <;> rfl

@[simp] theorem swallow_actions (caught : φ → Bool) (x : Effect σ α φ Unit) (s : σ) :
    ((swallow caught x).run s).actions = (x.run s).actions := by
  show (match (x.run s).result with | .ok _ => _ | .error e => _ : Outcome σ α φ Unit).actions = _
  cases (x.run s).result with
  | ok b => rfl
  | error e => dsimp only; split <;> rfl

@[simp] theorem swallow_result (caught : φ → Bool) (x : Effect σ α φ Unit) (s : σ) :
    ((swallow caught x).run s).result =
      match (x.run s).result with
      | .ok _ => .ok ()
      | .error e => if caught e then .ok () else .error e := by
  show (match (x.run s).result with | .ok _ => _ | .error e => _ : Outcome σ α φ Unit).result = _
  cases hresult : (x.run s).result with
  | ok b => exact hresult
  | error e =>
      dsimp only
      split
      · rfl
      · exact hresult

/-- A handler that returns is not changed by its caller. -/
theorem run_swallow_ok {caught : φ → Bool} {x : Effect σ α φ Unit} {s t : σ} {as : List α}
    (h : x.run s = ⟨t, as, .ok ()⟩) : (swallow caught x).run s = ⟨t, as, .ok ()⟩ := by
  show (match (x.run s).result with | .ok _ => x.run s | .error e => _ : Outcome σ α φ Unit) = _
  rw [h]

/-- A fault that the caller lets pass is not changed by it. -/
theorem run_swallow_passed {caught : φ → Bool} {x : Effect σ α φ Unit}
    {s t : σ} {as : List α} {fault : φ} (h : x.run s = ⟨t, as, .error fault⟩)
    (hpass : caught fault = false) : (swallow caught x).run s = ⟨t, as, .error fault⟩ := by
  show (match (x.run s).result with | .ok _ => x.run s | .error e => _ : Outcome σ α φ Unit) = _
  rw [h]
  dsimp only
  rw [hpass]
  rfl

@[simp] theorem run_within {τ α' φ' : Type} (read : τ → σ) (write : σ → τ → τ) (act : α → α')
    (fault : φ → φ') (x : Effect σ α φ β) (t : τ) :
    (within read write act fault x).run t =
      ⟨write (x.run (read t)).state t, (x.run (read t)).actions.map act,
        (x.run (read t)).result.mapError fault⟩ := rfl

@[simp] theorem run_performing {τ α' φ' : Type} (read : τ → σ) (write : σ → τ → τ)
    (fault : φ → φ') (x : Effect σ α φ β) (perform : α → Effect τ α' φ' Unit) (t : τ) :
    (performing read write fault x perform).run t =
      ⟨((forEach (x.run (read t)).actions perform).run (write (x.run (read t)).state t)).state,
        ((forEach (x.run (read t)).actions perform).run (write (x.run (read t)).state t)).actions,
        ((forEach (x.run (read t)).actions perform).run
          (write (x.run (read t)).state t)).result.bind
            fun _ => (x.run (read t)).result.mapError fault⟩ := rfl

@[simp] theorem forEach_nil (f : ε → Effect σ α φ Unit) : forEach [] f = pure () := rfl

@[simp] theorem forEach_cons (x : ε) (xs : List ε) (f : ε → Effect σ α φ Unit) :
    forEach (x :: xs) f = (f x >>= fun _ => forEach xs f) := rfl

/-- A loop whose body always returns folds what the body does. -/
theorem run_forEach {f : ε → Effect σ α φ Unit} {next : ε → σ → σ} {acts : ε → List α}
    (hf : ∀ x s, (f x).run s = ⟨next x s, acts x, .ok ()⟩) (xs : List ε) (s : σ) :
    (forEach xs f).run s = ⟨xs.foldl (fun s x => next x s) s, xs.flatMap acts, .ok ()⟩ := by
  induction xs generalizing s with
  | nil => rfl
  | cons x xs ih => simp [hf, ih]

/-! ## Pre- and postconditions -/

/-- Started in a state satisfying `P`, the handler ends in a state and with actions and a result
that satisfy `Q`. -/
def Triple (P : σ → Prop) (x : Effect σ α φ β) (Q : σ → List α → Except φ β → Prop) : Prop :=
  ∀ s, P s → Q (x.run s).state (x.run s).actions (x.run s).result

/-- Sequencing: the second handler starts where the first one returns, and a fault of the first
is the fault of the whole. -/
theorem Triple.bind {P : σ → Prop} {x : Effect σ α φ β} {f : β → Effect σ α φ γ}
    {R : σ → List α → Except φ β → Prop} {Q : σ → List α → Except φ γ → Prop}
    (hx : Triple P x R)
    (hok : ∀ as b, Triple (fun s => R s as (.ok b)) (f b) fun s bs r => Q s (as ++ bs) r)
    (herr : ∀ s as e, R s as (.error e) → Q s as (.error e)) :
    Triple P (x >>= f) Q := by
  intro s hs
  have hfirst := hx s hs
  rw [run_bind]
  generalize x.run s = o at hfirst ⊢
  obtain ⟨t, as, r⟩ := o
  cases r with
  | ok b => exact hok as b t hfirst
  | error e => exact herr t as e hfirst

/-- A handler that first reads the state. -/
theorem Triple.get_bind {P : σ → Prop} {f : σ → Effect σ α φ β}
    {Q : σ → List α → Except φ β → Prop} (h : ∀ s, Triple (fun t => t = s ∧ P t) (f s) Q) :
    Triple P (get >>= f) Q := by
  intro s hs
  have hf := h s s ⟨rfl, hs⟩
  simpa using hf

/-- Weakening the postcondition and strengthening the precondition. -/
theorem Triple.mono {P P' : σ → Prop} {x : Effect σ α φ β}
    {Q Q' : σ → List α → Except φ β → Prop} (h : Triple P x Q) (hpre : ∀ s, P' s → P s)
    (hpost : ∀ s as r, Q s as r → Q' s as r) : Triple P' x Q' :=
  fun s hs => hpost _ _ _ (h s (hpre s hs))

/-- `x` keeps `I` and takes only actions that satisfy `A`, whatever it returns, faults included. -/
def Respects (I : σ → Prop) (A : α → Prop) (x : Effect σ α φ β) : Prop :=
  Triple I x fun s as _ => I s ∧ ∀ a ∈ as, A a

/-- `x` keeps `I`. -/
abbrev Keeps (I : σ → Prop) (x : Effect σ α φ β) : Prop := Respects I (fun _ => True) x

theorem keeps_of_state {I : σ → Prop} {x : Effect σ α φ β} (h : ∀ s, I s → I (x.run s).state) :
    Keeps I x :=
  fun s hs => ⟨h s hs, fun _ _ => trivial⟩

section

variable {I : σ → Prop} {A : α → Prop}

theorem Respects.state {x : Effect σ α φ β} {s : σ} (h : Respects I A x) (hs : I s) :
    I (x.run s).state :=
  (h s hs).1

theorem Respects.actions {x : Effect σ α φ β} {s : σ} (h : Respects I A x) (hs : I s) :
    ∀ a ∈ (x.run s).actions, A a :=
  (h s hs).2

theorem Respects.pure (b : β) : Respects I A (Pure.pure b : Effect σ α φ β) :=
  fun _ hs => ⟨hs, by simp⟩

theorem Respects.get : Respects I A (get : Effect σ α φ σ) :=
  fun _ hs => ⟨hs, by simp⟩

theorem Respects.modify {f : σ → σ} (hf : ∀ s, I s → I (f s)) :
    Respects I A (modify f : Effect σ α φ Unit) :=
  fun s hs => ⟨hf s hs, by simp⟩

theorem Respects.emit {a : α} (h : A a) : Respects I A (emit a : Effect σ α φ Unit) :=
  fun _ hs => ⟨hs, by simpa using h⟩

theorem Respects.fail (e : φ) : Respects I A (fail e : Effect σ α φ β) :=
  fun _ hs => ⟨hs, by simp⟩

theorem Respects.bind {x : Effect σ α φ β} {f : β → Effect σ α φ γ} (hx : Respects I A x)
    (hf : ∀ b, Respects I A (f b)) : Respects I A (x >>= f) := by
  refine Triple.bind hx (fun as b s hs => ?_) fun s as e hs => hs
  obtain ⟨hI, hnew⟩ := hf b s hs.1
  refine ⟨hI, fun a ha => ?_⟩
  rcases List.mem_append.mp ha with h | h
  · exact hs.2 a h
  · exact hnew a h

theorem Respects.ite {c : Prop} [Decidable c] {x y : Effect σ α φ β} (hx : Respects I A x)
    (hy : Respects I A y) : Respects I A (if c then x else y) := by
  split
  · exact hx
  · exact hy

theorem Respects.swallow {x : Effect σ α φ Unit} (caught : φ → Bool) (hx : Respects I A x) :
    Respects I A (swallow caught x) := by
  intro s hs
  rw [swallow_state, swallow_actions]
  exact hx s hs

/-- A loop respects what its body respects for each element. -/
theorem Respects.forEach_mem {f : ε → Effect σ α φ Unit} {xs : List ε}
    (hf : ∀ x ∈ xs, Respects I A (f x)) : Respects I A (forEach xs f) := by
  induction xs with
  | nil => exact Respects.pure ()
  | cons x xs ih =>
      refine Respects.bind (hf x List.mem_cons_self) fun _ => ih fun y hy => ?_
      exact hf y (List.mem_cons_of_mem x hy)

theorem Respects.forEach {f : ε → Effect σ α φ Unit} (xs : List ε) (hf : ∀ x, Respects I A (f x)) :
    Respects I A (forEach xs f) :=
  .forEach_mem fun x _ => hf x

end

/-! ## What a handler does to any state -/

/-- A relation between a state, the actions taken from it on and the state they lead to, which
holds of doing nothing and composes. -/
structure Composes (R : σ → List α → σ → Prop) : Prop where
  refl : ∀ s, R s [] s
  trans : ∀ {s t u as bs}, R s as t → R t bs u → R s (as ++ bs) u

/-- From any state on, `x` does what `R` tells, whatever it returns, faults included. -/
def Relates (R : σ → List α → σ → Prop) (x : Effect σ α φ β) : Prop :=
  ∀ s, R s (x.run s).actions (x.run s).state

/-- Keeping a predicate and taking only actions of one kind. -/
theorem composes_respects (I : σ → Prop) (A : α → Prop) :
    Composes fun s as t => I s → I t ∧ ∀ a ∈ as, A a where
  refl _ hs := ⟨hs, by simp⟩
  trans h h' hs := by
    obtain ⟨ht, has⟩ := h hs
    obtain ⟨hu, hbs⟩ := h' ht
    refine ⟨hu, fun a ha => ?_⟩
    rcases List.mem_append.mp ha with ha | ha
    · exact has a ha
    · exact hbs a ha

section

variable {R : σ → List α → σ → Prop}

theorem Relates.mono {R' : σ → List α → σ → Prop} {x : Effect σ α φ β} (h : Relates R x)
    (hR : ∀ {s as t}, R s as t → R' s as t) : Relates R' x :=
  fun s => hR (h s)

theorem Relates.pure (hR : Composes R) (b : β) : Relates R (Pure.pure b : Effect σ α φ β) :=
  hR.refl

theorem Relates.get (hR : Composes R) : Relates R (get : Effect σ α φ σ) := hR.refl

theorem Relates.modify {f : σ → σ} (hf : ∀ s, R s [] (f s)) :
    Relates R (modify f : Effect σ α φ Unit) := hf

theorem Relates.emit {a : α} (h : ∀ s, R s [a] s) : Relates R (emit a : Effect σ α φ Unit) := h

theorem Relates.fail (hR : Composes R) (e : φ) : Relates R (fail e : Effect σ α φ β) := hR.refl

theorem Relates.bind (hR : Composes R) {x : Effect σ α φ β} {f : β → Effect σ α φ γ}
    (hx : Relates R x) (hf : ∀ b, Relates R (f b)) : Relates R (x >>= f) := by
  intro s
  have hfirst := hx s
  rw [run_bind]
  generalize x.run s = o at hfirst ⊢
  obtain ⟨t, as, r⟩ := o
  cases r with
  | ok b => exact hR.trans hfirst (hf b t)
  | error e => exact hfirst

theorem Relates.ite {c : Prop} [Decidable c] {x y : Effect σ α φ β} (hx : Relates R x)
    (hy : Relates R y) : Relates R (if c then x else y) := by
  split
  · exact hx
  · exact hy

theorem Relates.swallow {x : Effect σ α φ Unit} (caught : φ → Bool) (hx : Relates R x) :
    Relates R (swallow caught x) := by
  intro s
  rw [swallow_state, swallow_actions]
  exact hx s

/-- A loop does what its body does, any number of times. -/
theorem Relates.forEach (hR : Composes R) {f : ε → Effect σ α φ Unit} (xs : List ε)
    (hf : ∀ x, Relates R (f x)) : Relates R (forEach xs f) := by
  induction xs with
  | nil => exact Relates.pure hR ()
  | cons x xs ih => exact Relates.bind hR (hf x) fun _ => ih

end

/-! ## Faults -/

/-- `x` never stops at the fault. -/
def Never (e : φ) (x : Effect σ α φ β) : Prop := ∀ s, (x.run s).result ≠ .error e

section

variable {e : φ}

theorem Never.pure (b : β) : Never e (Pure.pure b : Effect σ α φ β) := fun _ h => by cases h

theorem Never.get : Never e (get : Effect σ α φ σ) := fun _ h => by cases h

theorem Never.modify (f : σ → σ) : Never e (modify f : Effect σ α φ Unit) := fun _ h => by cases h

theorem Never.emit (a : α) : Never e (emit a : Effect σ α φ Unit) := fun _ h => by cases h

theorem Never.fail {e' : φ} (h : e' ≠ e) : Never e (fail e' : Effect σ α φ β) :=
  fun _ hfail => h (Except.error.inj hfail)

theorem Never.bind {x : Effect σ α φ β} {f : β → Effect σ α φ γ} (hx : Never e x)
    (hf : ∀ b, Never e (f b)) : Never e (x >>= f) := by
  intro s
  have hfirst := hx s
  rw [run_bind]
  generalize x.run s = o at hfirst ⊢
  obtain ⟨t, as, r⟩ := o
  cases r with
  | ok b => exact hf b t
  | error e' =>
      intro h
      rw [andThen_error] at h
      exact hfirst (congrArg Except.error (Except.error.inj h))

theorem Never.ite {c : Prop} [Decidable c] {x y : Effect σ α φ β} (hx : Never e x)
    (hy : Never e y) : Never e (if c then x else y) := by
  split
  · exact hx
  · exact hy

theorem Never.forEach {f : ε → Effect σ α φ Unit} (xs : List ε) (hf : ∀ x, Never e (f x)) :
    Never e (forEach xs f) := by
  induction xs with
  | nil => exact Never.pure ()
  | cons x xs ih => exact Never.bind (hf x) fun _ => ih

/-- A caller that swallows a fault that never happens changes nothing. -/
theorem Never.run_swallow [DecidableEq φ] {x : Effect σ α φ Unit} (h : Never e x) (s : σ) :
    (swallow (· == e) x).run s = x.run s := by
  have hnever := h s
  show (match (x.run s).result with
    | .ok _ => x.run s
    | .error e' => if e' == e then _ else x.run s : Outcome σ α φ Unit) = _
  generalize x.run s = o at hnever ⊢
  obtain ⟨t, as, r⟩ := o
  cases r with
  | ok b => rfl
  | error e' =>
      have hne : e' ≠ e := fun h => hnever (congrArg Except.error h)
      simp [hne]

end

/-! ## What a handler does not look at -/

/-- An outcome with its state changed. -/
def changed (f : σ → σ) (o : Outcome σ α φ β) : Outcome σ α φ β := { o with state := f o.state }

/-- The change makes no difference to `x`: it may come before or after. -/
def Ignores (f : σ → σ) (x : Effect σ α φ β) : Prop := ∀ s, x.run (f s) = changed f (x.run s)

section

variable {f : σ → σ}

theorem Ignores.pure (b : β) : Ignores f (Pure.pure b : Effect σ α φ β) := fun _ => rfl

theorem Ignores.modify {g : σ → σ} (h : ∀ s, g (f s) = f (g s)) :
    Ignores f (modify g : Effect σ α φ Unit) := by
  intro s
  rw [run_modify, h]
  rfl

theorem Ignores.emit (a : α) : Ignores f (emit a : Effect σ α φ Unit) := fun _ => rfl

theorem Ignores.fail (e : φ) : Ignores f (fail e : Effect σ α φ β) := fun _ => rfl

theorem Ignores.bind {x : Effect σ α φ β} {k : β → Effect σ α φ γ} (hx : Ignores f x)
    (hk : ∀ b, Ignores f (k b)) : Ignores f (x >>= k) := by
  intro s
  rw [run_bind, run_bind, hx s]
  generalize x.run s = o
  obtain ⟨t, as, r⟩ := o
  cases r with
  | ok b =>
      have hrest : (k b).run (f t) = changed f ((k b).run t) := hk b t
      show andThen ⟨f t, as, .ok b⟩ k = changed f (andThen ⟨t, as, .ok b⟩ k)
      rw [andThen_ok, andThen_ok, hrest]
      rfl
  | error e => rfl

/-- The state is read, but not what the change is about. -/
theorem Ignores.get_bind {k : σ → Effect σ α φ β} (hsame : ∀ s, k (f s) = k s)
    (hk : ∀ s, Ignores f (k s)) : Ignores f (get >>= k) := by
  intro s
  rw [run_bind, run_bind, run_get, run_get, andThen_ok, andThen_ok, hsame, hk s s]
  rfl

theorem Ignores.ite {c : Prop} [Decidable c] {x y : Effect σ α φ β} (hx : Ignores f x)
    (hy : Ignores f y) : Ignores f (if c then x else y) := by
  split
  · exact hx
  · exact hy

theorem Ignores.forEach {k : ε → Effect σ α φ Unit} (xs : List ε) (hk : ∀ x, Ignores f (k x)) :
    Ignores f (forEach xs k) := by
  induction xs with
  | nil => exact .pure ()
  | cons x xs ih => exact .bind (hk x) fun _ => ih

end

/-! ## Objects as machines -/

/-- The machine of an object whose events are answered by handlers when they are enabled. A fault
ends the process, which then takes no step. -/
def machine (enabled : σ → ε → Bool) (handler : ε → Effect σ α φ Unit) :
    Machine (Except φ σ) ε α where
  step
    | .error _, _ => none
    | .ok s, e =>
        if enabled s e then
          let o := (handler e).run s
          some (o.result.map fun _ => o.state, o.actions)
        else none

variable {enabled : σ → ε → Bool} {handler : ε → Effect σ α φ Unit}

@[simp] theorem machine_step_error (f : φ) (e : ε) :
    (machine enabled handler).step (.error f) e = none := rfl

/-- A live object answers every enabled event. -/
theorem machine_step_ok {s : σ} {e : ε} (h : enabled s e = true) :
    (machine enabled handler).step (.ok s) e =
      some (((handler e).run s).result.map fun _ => ((handler e).run s).state,
        ((handler e).run s).actions) := by
  simp [machine, h]

/-- A step starts from a live object at an enabled event, and its outcome is the handler's. -/
theorem machine_step_eq_some {x y : Except φ σ} {e : ε} {out : List α}
    (h : (machine enabled handler).step x e = some (y, out)) :
    ∃ s, x = .ok s ∧ enabled s e = true ∧
      y = ((handler e).run s).result.map (fun _ => ((handler e).run s).state) ∧
      out = ((handler e).run s).actions := by
  cases x with
  | error f => exact absurd h (by simp)
  | ok s =>
      by_cases he : enabled s e = true
      · rw [machine_step_ok he] at h
        cases h
        exact ⟨s, rfl, he, rfl, rfl⟩
      · simp [machine, he] at h

/-- A step that leaves the object alive is a handler that returned. -/
theorem machine_step_alive {x : Except φ σ} {e : ε} {t : σ} {out : List α}
    (h : (machine enabled handler).step x e = some (.ok t, out)) :
    ∃ s, x = .ok s ∧ enabled s e = true ∧ (handler e).run s = ⟨t, out, .ok ()⟩ := by
  obtain ⟨s, rfl, he, hresult, rfl⟩ := machine_step_eq_some h
  refine ⟨s, rfl, he, ?_⟩
  generalize (handler e).run s = o at hresult ⊢
  obtain ⟨u, as, r⟩ := o
  cases r with
  | ok b => cases hresult; rfl
  | error f => cases hresult

/-- A step that ends in a fault is a handler that stopped at it. -/
theorem machine_step_fault {x : Except φ σ} {e : ε} {f : φ} {out : List α}
    (h : (machine enabled handler).step x e = some (.error f, out)) :
    ∃ s, x = .ok s ∧ enabled s e = true ∧ ((handler e).run s).result = .error f := by
  obtain ⟨s, rfl, he, hresult, -⟩ := machine_step_eq_some h
  refine ⟨s, rfl, he, ?_⟩
  generalize (handler e).run s = o at hresult ⊢
  obtain ⟨u, as, r⟩ := o
  cases r with
  | ok b => cases hresult
  | error f => cases hresult; rfl

/-- `s` is what is left of an object once the events have been handled with the actions `out`,
whether or not the last handler faulted. -/
inductive Leaves (enabled : σ → ε → Bool) (handler : ε → Effect σ α φ Unit) (s₀ : σ) :
    List ε → List α → σ → Prop where
  | start : Leaves enabled handler s₀ [] [] s₀
  | step {es : List ε} {out : List α} {s : σ} {e : ε}
      (hrun : (machine enabled handler).run (.ok s₀) es = some (.ok s, out))
      (henabled : enabled s e = true) :
      Leaves enabled handler s₀ (es ++ [e]) (out ++ ((handler e).run s).actions)
        ((handler e).run s).state

/-- A live object is what is left of it. -/
theorem Leaves.of_run {s₀ s : σ} {es : List ε} {out : List α}
    (hrun : (machine enabled handler).run (.ok s₀) es = some (.ok s, out)) :
    Leaves enabled handler s₀ es out s := by
  rcases List.eq_nil_or_concat es with rfl | ⟨es, e, rfl⟩
  · cases hrun
    exact .start
  · rw [List.concat_eq_append] at hrun ⊢
    obtain ⟨x, first, rest, hes, hstep, rfl⟩ := Machine.run_snoc.mp hrun
    obtain ⟨t, rfl, he, hhandler⟩ := machine_step_alive hstep
    have hleft := Leaves.step hes he
    rw [hhandler] at hleft
    exact hleft

/-- The induction rule for what is left of an object. -/
theorem Leaves.induction {P : List ε → List α → σ → Prop} {s₀ : σ} (hinit : P [] [] s₀)
    (hstep : ∀ es out s e, (machine enabled handler).run (.ok s₀) es = some (.ok s, out) →
      P es out s → enabled s e = true →
      P (es ++ [e]) (out ++ ((handler e).run s).actions) ((handler e).run s).state)
    {es : List ε} {out : List α} {s : σ} (h : Leaves enabled handler s₀ es out s) : P es out s := by
  have halive : ∀ {es out s}, (machine enabled handler).run (.ok s₀) es = some (.ok s, out) →
      P es out s := by
    intro es out s hrun
    refine Machine.run_induction (P := fun es out x => ∀ s, x = .ok s → P es out s) ?_ ?_ hrun s rfl
    · rintro _ ⟨⟩
      exact hinit
    · intro es out x e y new hx ih hmachine t ht
      subst ht
      obtain ⟨s, rfl, he, hhandler⟩ := machine_step_alive hmachine
      have hnext := hstep es out s e hx (ih s rfl) he
      rw [hhandler] at hnext
      exact hnext
  cases h with
  | start => exact hinit
  | step hrun he => exact hstep _ _ _ _ hrun (halive hrun) he

/-- What every handler does, a whole run does. -/
theorem Leaves.relates {R : σ → List α → σ → Prop} (hR : Composes R)
    (hhandler : ∀ e, Relates R (handler e)) {s₀ s : σ} {es : List ε} {out : List α}
    (h : Leaves enabled handler s₀ es out s) : R s₀ out s :=
  Leaves.induction (P := fun _ out s => R s₀ out s) (hR.refl s₀)
    (fun _ _ s e _ hs _ => hR.trans hs (hhandler e s)) h

/-- A condition on live objects and their events, as a condition on the steps of a run. -/
def WhenAlive (c : σ → ε → Prop) (_ : List ε) (_ : List α) (x : Except φ σ) (e : ε) : Prop :=
  ∀ s, x = .ok s → c s e

@[simp] theorem when_alive_ok {c : σ → ε → Prop} {es : List ε} {out : List α} {s : σ} {e : ε} :
    WhenAlive c es out (.ok s : Except φ σ) e ↔ c s e := by
  constructor
  · exact fun h => h s rfl
  · rintro h _ ⟨⟩
    exact h

/-- A run of a live object whose first event meets the condition. -/
theorem meets_when_alive_cons {m : Machine (Except φ σ) ε α} {c : σ → ε → Prop} {s : σ} {e : ε}
    {es : List ε} {x : Except φ σ} {new : List α} (hstep : m.step (.ok s) e = some (x, new))
    (he : c s e) (h : m.Meets (WhenAlive c) x es) : m.Meets (WhenAlive c) (.ok s) (e :: es) := by
  intro before e' after t out hsplit hrun
  cases before with
  | nil =>
      cases hsplit
      cases hrun
      exact when_alive_ok.mpr he
  | cons b before =>
      obtain ⟨rfl, rfl⟩ := List.cons.inj hsplit
      obtain ⟨y, first, rest, hfirst, hrest, -⟩ := Machine.run_cons.mp hrun
      rw [hstep] at hfirst
      cases hfirst
      exact h before e' after t rest rfl hrest

end Effect

end RtcVpn
