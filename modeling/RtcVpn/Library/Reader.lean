import RtcVpn.Library.Effect

/-!
# Pausable readers

A reader keeps reading from a source by starting the next read when one is
delivered, unless it has been paused in between. `Reader` counts the reads in
flight, and `ReadMove` lists what can happen to them. A machine whose steps are
moves of a reader (`Reads`) has at most one read in flight exactly when every
read it begins from outside the delivery of another one is begun alone, and a
pause is then followed by one delivery at most.
-/

namespace RtcVpn

/-- The reads in flight, the number of reads ever begun, and whether the reader is not paused. -/
structure Reader where
  outstanding : Nat
  began : Nat
  isReading : Bool
  deriving DecidableEq, Repr

/-- What can happen to a reader: nothing, a pause, the end of a pause without or with the begin of
a read, the begin of a read, the failure of a read, and its delivery. -/
inductive ReadMove where
  | stay
  | pause
  | resume
  | resumeRead
  | begin
  | fail
  | deliver
  deriving DecidableEq, Repr

namespace Reader

/-- The reader after a move. The delivery of a read begins the next one unless paused. -/
def apply (r : Reader) : ReadMove → Reader
  | .stay => r
  | .pause => { r with isReading := false }
  | .resume => { r with isReading := true }
  | .resumeRead => ⟨r.outstanding + 1, r.began + 1, true⟩
  | .begin => { r with outstanding := r.outstanding + 1, began := r.began + 1 }
  | .fail => { r with outstanding := r.outstanding - 1 }
  | .deliver =>
      if r.isReading then { r with began := r.began + 1 }
      else { r with outstanding := r.outstanding - 1 }

/-- A read ends only if there is one. -/
def Enabled (r : Reader) : ReadMove → Prop
  | .fail => 0 < r.outstanding
  | .deliver => 0 < r.outstanding
  | _ => True

/-- A read begun from outside a delivery is the only one in flight. -/
def BeginsAlone (r : Reader) : ReadMove → Prop
  | .resumeRead => r.outstanding = 0
  | .begin => r.outstanding = 0
  | _ => True

/-- A read begun from outside a delivery is the only one in flight, and while paused only the
first one ever is begun. -/
def BeginsOnce (r : Reader) : ReadMove → Prop
  | .resumeRead => r.outstanding = 0
  | .begin => r.outstanding = 0 ∧ (r.isReading = true ∨ r.began = 0)
  | _ => True

theorem BeginsOnce.alone {r : Reader} {m : ReadMove} (h : BeginsOnce r m) : BeginsAlone r m := by
  cases m with
  | begin => exact h.1
  | _ => exact h

/-- The number of deliveries of a move. -/
def deliveries : ReadMove → Nat
  | .deliver => 1
  | _ => 0

/-- One read in flight at most after a move if and only if what begins begins alone. -/
theorem outstanding_apply {r : Reader} {m : ReadMove} (h : r.outstanding ≤ 1) :
    (r.apply m).outstanding ≤ 1 ↔ r.BeginsAlone m := by
  cases m with
  | resumeRead => simp [apply, BeginsAlone]
  | begin => simp [apply, BeginsAlone]
  | fail => simp only [apply, BeginsAlone, iff_true]; omega
  | deliver =>
      simp only [apply, BeginsAlone, iff_true]
      split
      · exact h
      · show r.outstanding - 1 ≤ 1
        omega
  | _ => simpa [apply, BeginsAlone] using h

/-- Reads in flight have been begun. -/
theorem outstanding_le_began {r : Reader} {m : ReadMove} (h : r.outstanding ≤ r.began) :
    (r.apply m).outstanding ≤ (r.apply m).began := by
  cases m with
  | deliver => simp only [apply]; split <;> dsimp only <;> omega
  | _ => simp only [apply]; omega

/-- What holds during a pause in which `n` deliveries have been made. -/
structure Paused (n : Nat) (r : Reader) : Prop where
  isPaused : r.isReading = false
  atMostOne : n + r.outstanding ≤ 1
  first : r.began = 0 → n = 0 ∧ r.outstanding = 0

theorem Paused.mono {n k : Nat} {r : Reader} (h : Paused n r) (hle : k ≤ n) : Paused k r where
  isPaused := h.isPaused
  atMostOne := by have := h.atMostOne; omega
  first hzero := by have := h.first hzero; omega

/-- A move within a pause. -/
theorem Paused.apply {n : Nat} {r : Reader} {m : ReadMove} (h : Paused n r)
    (henabled : r.Enabled m) (honce : r.BeginsOnce m)
    (hpause : m ≠ .resume ∧ m ≠ .resumeRead) :
    Paused (n + deliveries m) (r.apply m) := by
  obtain ⟨hpaused, hone, hfirst⟩ := h
  cases m with
  | stay => exact ⟨hpaused, hone, hfirst⟩
  | pause => exact ⟨rfl, hone, hfirst⟩
  | resume => exact absurd rfl hpause.1
  | resumeRead => exact absurd rfl hpause.2
  | begin =>
      -- a paused reader begins its first read only
      have hbegan : r.began = 0 := by simpa [hpaused] using honce.2
      obtain ⟨hn, hr⟩ := hfirst hbegan
      refine ⟨hpaused, ?_, fun hzero => absurd hzero (by simp [Reader.apply])⟩
      simp only [Reader.apply, deliveries]
      omega
  | fail =>
      refine ⟨hpaused, ?_, fun hzero => ?_⟩
      · simp only [Reader.apply, deliveries]
        omega
      · have hnone := (hfirst hzero).2
        exact absurd henabled (by simp [Enabled, hnone])
  | deliver =>
      have hmove : r.apply .deliver = { r with outstanding := r.outstanding - 1 } := by
        simp [Reader.apply, hpaused]
      have hpositive : 0 < r.outstanding := henabled
      rw [hmove]
      refine ⟨hpaused, ?_, fun hzero => ?_⟩
      · simp only [deliveries]
        omega
      · have hnone := (hfirst hzero).2
        omega

end Reader

/-! ## Machines that read -/

/-- The steps of a machine are moves of a reader, and the actions that deliver are counted by the
moves. `pauses` and `resumes` are the events that ask for a pause and for its end. -/
structure Reads {σ ε α φ : Type} (m : Machine (Except φ σ) ε α) (reader : σ → Reader)
    (move : σ → ε → ReadMove) (delivered : List α → Nat) (pauses resumes : ε → Prop) : Prop where
  step : ∀ {s t e new}, m.step (.ok s) e = some (.ok t, new) →
    reader t = (reader s).apply (move s e) ∧ (reader s).Enabled (move s e) ∧
      delivered new ≤ Reader.deliveries (move s e)
  pause : ∀ {s e}, pauses e → move s e = .pause
  resume : ∀ {s e}, move s e = .resume ∨ move s e = .resumeRead → resumes e
  alive : ∀ {x e y new}, m.step x e = some (y, new) → ∃ s, x = .ok s
  append : ∀ out new, delivered (out ++ new) = delivered out + delivered new
  nil : delivered [] = 0

namespace Reads

variable {σ ε α φ : Type} {m : Machine (Except φ σ) ε α} {reader : σ → Reader}
  {move : σ → ε → ReadMove} {delivered : List α → Nat} {pauses resumes : ε → Prop}

/-- In every state of a run at most one read is in flight. -/
def Single (m : Machine (Except φ σ) ε α) (reader : σ → Reader) (s₀ : σ) (es : List ε) : Prop :=
  ∀ before after s out, es = before ++ after → m.run (.ok s₀) before = some (.ok s, out) →
    (reader s).outstanding ≤ 1

/-- From a pause until the next event that ends pauses, at most one delivery is made. -/
def OncePaused (m : Machine (Except φ σ) ε α) (delivered : List α → Nat)
    (pauses resumes : ε → Prop) (s₀ : σ) (es : List ε) : Prop :=
  ∀ before e during after s t out new, es = before ++ (e :: during) ++ after → pauses e →
    (∀ e' ∈ during, ¬ resumes e') → m.run (.ok s₀) before = some (.ok s, out) →
    m.run (.ok s) (e :: during) = some (.ok t, new) → delivered new ≤ 1

/-- A run that ends alive starts alive. -/
theorem run_alive (h : Reads m reader move delivered pauses resumes) {x : Except φ σ} {t : σ}
    {es : List ε} {out : List α} (hrun : m.run x es = some (.ok t, out)) : ∃ s, x = .ok s := by
  cases es with
  | nil =>
      cases hrun
      exact ⟨t, rfl⟩
  | cons e es =>
      obtain ⟨_, _, _, hstep, _, _⟩ := Machine.run_cons.mp hrun
      exact h.alive hstep

/-- The reads in flight along a run whose reads begin alone. -/
theorem outstanding_run (h : Reads m reader move delivered pauses resumes) {s₀ s : σ}
    {es : List ε} {out : List α} (hinit : (reader s₀).outstanding ≤ 1)
    (hmeets : m.Meets (Effect.WhenAlive fun s e => (reader s).BeginsAlone (move s e)) (.ok s₀) es)
    (hrun : m.run (.ok s₀) es = some (.ok s, out)) : (reader s).outstanding ≤ 1 := by
  refine Machine.run_induction_of_meets
    (P := fun _ _ x => ∀ s, x = .ok s → (reader s).outstanding ≤ 1) ?_ ?_ hmeets hrun s rfl
  · rintro _ ⟨⟩
    exact hinit
  · rintro es out x e y new _ hx hok hstep t rfl
    obtain ⟨s, rfl⟩ := h.alive hstep
    rw [(h.step hstep).1]
    exact (Reader.outstanding_apply (hx s rfl)).mpr (hok s rfl)

/-- One read in flight at most in every state of a run, if and only if every read begun from
outside a delivery is begun alone. -/
theorem single_iff (h : Reads m reader move delivered pauses resumes) {s₀ s : σ} {es : List ε}
    {out : List α} (hinit : (reader s₀).outstanding ≤ 1)
    (hrun : m.run (.ok s₀) es = some (.ok s, out)) :
    Single m reader s₀ es ↔
      m.Meets (Effect.WhenAlive fun s e => (reader s).BeginsAlone (move s e)) (.ok s₀) es := by
  constructor
  · intro hsingle
    refine Machine.meets_of_steps hrun ?_
    intro before after mid x e y new hsplit hbefore hstep
    have hnext : m.run (.ok s₀) (before ++ [e]) = some (y, mid ++ new) :=
      Machine.run_snoc.mpr ⟨x, mid, new, hbefore, hstep, rfl⟩
    obtain ⟨y', _, hy', hrest⟩ : ∃ y' first, m.run (.ok s₀) (before ++ [e]) = some (y', first) ∧
        ∃ rest, m.run y' after = some (.ok s, rest) := by
      obtain ⟨y', first, rest, hfirst, hrest, _⟩ := Machine.run_append.mp
        (show m.run (.ok s₀) ((before ++ [e]) ++ after) = _ by rw [← hrun, hsplit]; simp)
      exact ⟨y', first, hfirst, rest, hrest⟩
    rw [hnext] at hy'
    cases hy'
    obtain ⟨rest, hrest⟩ := hrest
    obtain ⟨w, rfl⟩ := h.run_alive hrest
    obtain ⟨v, rfl⟩ := h.alive hstep
    have hv := hsingle before (e :: after) v mid hsplit hbefore
    have hw := hsingle (before ++ [e]) after w _ (by rw [hsplit]; simp) hnext
    rw [(h.step hstep).1, Reader.outstanding_apply hv] at hw
    exact Effect.when_alive_ok.mpr hw
  · rintro hmeets before after v mid rfl hv
    exact h.outstanding_run hinit hmeets.front hv

/-- Once paused, a machine whose reads begin once delivers at most once. -/
theorem once_paused (h : Reads m reader move delivered pauses resumes) {s₀ : σ} {es : List ε}
    (hinit : (reader s₀).outstanding ≤ 1) (hbegan : (reader s₀).outstanding ≤ (reader s₀).began)
    (hmeets : m.Meets (Effect.WhenAlive fun s e => (reader s).BeginsOnce (move s e)) (.ok s₀) es) :
    OncePaused m delivered pauses resumes s₀ es := by
  rintro before e during after s t out new rfl hpause hduring hbefore hafter
  have hcount : (reader s).outstanding ≤ (reader s).began := by
    refine Machine.run_invariant
      (I := fun x => ∀ s, x = .ok s → (reader s).outstanding ≤ (reader s).began) ?_ ?_ hbefore s rfl
    · rintro x e y new hx hstep t rfl
      obtain ⟨s, rfl⟩ := h.alive hstep
      rw [(h.step hstep).1]
      exact Reader.outstanding_le_began (hx s rfl)
    · rintro _ ⟨⟩
      exact hbegan
  have hone : (reader s).outstanding ≤ 1 := by
    refine h.outstanding_run hinit ?_ hbefore
    intro before' e' after' x mid hsplit hx v hv
    exact (hmeets.front.front before' e' after' x mid hsplit hx v hv).alone
  obtain ⟨x, first, rest, hstep, hrest, rfl⟩ := Machine.run_cons.mp hafter
  obtain ⟨v, rfl⟩ := h.run_alive hrest
  obtain ⟨hreader, _, hfirst⟩ := h.step hstep
  rw [h.pause hpause] at hreader hfirst
  have hpaused : Reader.Paused (delivered first) (reader v) := by
    rw [hreader]
    have hzero : delivered first = 0 := Nat.le_zero.mp hfirst
    exact ⟨rfl, by rw [hzero]; simpa [Reader.apply] using hone,
      fun hb => ⟨hzero, by simp only [Reader.apply] at hb ⊢; omega⟩⟩
  have hmeets' : m.Meets (Effect.WhenAlive fun s e => (reader s).BeginsOnce (move s e))
      (.ok v) during := by
    have hfront := hmeets.front
    rw [show before ++ e :: during = (before ++ [e]) ++ during by simp] at hfront
    exact Machine.Meets.suffix
      (c := fun x e => ∀ s, x = .ok s → (reader s).BeginsOnce (move s e)) hfront
      (Machine.run_snoc.mpr ⟨_, out, first, hbefore, hstep, rfl⟩)
  have hfinal : Reader.Paused (delivered (first ++ rest)) (reader t) := by
    refine Machine.run_induction_of_meets
      (P := fun es out x => (∀ e' ∈ es, ¬ resumes e') → ∀ s, x = .ok s →
        Reader.Paused (delivered (first ++ out)) (reader s)) ?_ ?_ hmeets' hrest hduring t rfl
    · rintro _ _ ⟨⟩
      simpa using hpaused
    · rintro es out x e y new _ hx hok hstep hno w rfl
      obtain ⟨u, rfl⟩ := h.alive hstep
      obtain ⟨hreader, henabled, hnew⟩ := h.step hstep
      have hu := hx (fun e' he' => hno e' (List.mem_append_left _ he')) u rfl
      have he := hno e (by simp)
      have hmove := hu.apply henabled (hok u rfl)
        ⟨fun hr => he (h.resume (.inl hr)), fun hr => he (h.resume (.inr hr))⟩
      rw [hreader]
      refine hmove.mono ?_
      rw [← List.append_assoc, h.append]
      omega
  have := hfinal.atMostOne
  omega

end Reads

end RtcVpn
