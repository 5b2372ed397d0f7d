import Mathlib.Data.List.Induction
import Mathlib.Tactic.Common

/-!
# Machines that consume events and emit actions

A `Machine` answers an event in a state with a successor state and the actions
taken on the way, or with nothing when the event cannot happen there. A run
executes a list of events and concatenates the actions. `run_induction` is the
rule behind every statement about whole runs: a property of the events, the
actions and the state that one step preserves holds at the end of every run.
`Meets` restricts the rule to runs all of whose steps satisfy a condition.
-/

namespace RtcVpn

/-- A partial step function from a state and an event to a state and a list of actions. -/
structure Machine (σ ε α : Type) where
  step : σ → ε → Option (σ × List α)

namespace Machine

variable {σ ε α : Type} (m : Machine σ ε α)

/-- Execute the events in order; an event that cannot happen stops the run. -/
def run : σ → List ε → Option (σ × List α)
  | s, [] => some (s, [])
  | s, e :: es => do
      let (t, out) ← m.step s e
      let (u, rest) ← run t es
      pure (u, out ++ rest)

variable {m}

@[simp] theorem run_nil (s : σ) : m.run s [] = some (s, []) := rfl

/-- A run of a nonempty list is one step and then a run of the rest. -/
theorem run_cons {s u : σ} {e : ε} {es : List ε} {out : List α} :
    m.run s (e :: es) = some (u, out) ↔
      ∃ t first rest, m.step s e = some (t, first) ∧ m.run t es = some (u, rest) ∧
        out = first ++ rest := by
  simp only [run, bind, Option.bind_eq_some_iff, pure, Option.some.injEq, Prod.mk.injEq]
  constructor
  · rintro ⟨⟨t, first⟩, hstep, ⟨v, rest⟩, hrun, rfl, rfl⟩
    exact ⟨t, first, rest, hstep, hrun, rfl⟩
  · rintro ⟨t, first, rest, hstep, hrun, rfl⟩
    exact ⟨(t, first), hstep, (u, rest), hrun, rfl, rfl⟩

/-- A run of a concatenation is a run of the first part and then one of the second. -/
theorem run_append {s u : σ} {es fs : List ε} {out : List α} :
    m.run s (es ++ fs) = some (u, out) ↔
      ∃ t first rest, m.run s es = some (t, first) ∧ m.run t fs = some (u, rest) ∧
        out = first ++ rest := by
  induction es generalizing s out with
  | nil => simp
  | cons e es ih =>
      rw [List.cons_append, run_cons]
      constructor
      · rintro ⟨t, first, rest, hstep, hrun, rfl⟩
        obtain ⟨v, mid, last, hes, hfs, rfl⟩ := ih.mp hrun
        exact ⟨v, first ++ mid, last, run_cons.mpr ⟨t, first, mid, hstep, hes, rfl⟩, hfs,
          (List.append_assoc _ _ _).symm⟩
      · rintro ⟨v, front, last, hes, hfs, rfl⟩
        obtain ⟨t, first, mid, hstep, hmid, rfl⟩ := run_cons.mp hes
        exact ⟨t, first, mid ++ last, hstep, ih.mpr ⟨v, mid, last, hmid, hfs, rfl⟩,
          List.append_assoc _ _ _⟩

/-- A run of one event is a step. -/
theorem run_singleton {s u : σ} {e : ε} {out : List α} :
    m.run s [e] = some (u, out) ↔ m.step s e = some (u, out) := by
  rw [run_cons]
  constructor
  · rintro ⟨t, first, rest, hstep, hrun, rfl⟩
    cases hrun
    simpa using hstep
  · intro hstep
    exact ⟨u, out, [], hstep, rfl, (List.append_nil _).symm⟩

/-- The last event of a run is a step from the state the earlier events reach. -/
theorem run_snoc {s u : σ} {e : ε} {es : List ε} {out : List α} :
    m.run s (es ++ [e]) = some (u, out) ↔
      ∃ t first rest, m.run s es = some (t, first) ∧ m.step t e = some (u, rest) ∧
        out = first ++ rest := by
  simp only [run_append, run_singleton]

/-- A property of the events read, the actions taken and the state, true at the start and
preserved by every step, holds at the end of every run. -/
theorem run_induction {P : List ε → List α → σ → Prop} {s : σ} (hinit : P [] [] s)
    (hstep : ∀ es out t e u new, m.run s es = some (t, out) → P es out t →
      m.step t e = some (u, new) → P (es ++ [e]) (out ++ new) u)
    {es : List ε} {t : σ} {out : List α} (hrun : m.run s es = some (t, out)) :
    P es out t := by
  induction es using List.reverseRecOn generalizing t out with
  | nil =>
      cases hrun
      exact hinit
  | append_singleton es e ih =>
      obtain ⟨v, first, rest, hes, he, rfl⟩ := run_snoc.mp hrun
      exact hstep es first v e t rest hes (ih hes) he

/-- A state predicate that every step preserves holds at the end of every run. -/
theorem run_invariant {I : σ → Prop}
    (hstep : ∀ s e t out, I s → m.step s e = some (t, out) → I t)
    {s t : σ} {es : List ε} {out : List α} (hs : I s) (hrun : m.run s es = some (t, out)) :
    I t :=
  run_induction (P := fun _ _ t => I t) hs
    (fun _ _ _ _ _ _ _ ht he => hstep _ _ _ _ ht he) hrun

/-- What `f` selects of the actions of each step, given the event of the step. -/
def collect {β : Type} (m : Machine σ ε α) (f : ε → α → Option β) : σ → List ε → List β
  | _, [] => []
  | s, e :: es =>
      match m.step s e with
      | some (t, out) => out.filterMap (f e) ++ collect m f t es
      | none => []

theorem collect_append {β : Type} (f : ε → α → Option β) {s t : σ} {es : List ε} (fs : List ε)
    {out : List α} (hrun : m.run s es = some (t, out)) :
    m.collect f s (es ++ fs) = m.collect f s es ++ m.collect f t fs := by
  induction es generalizing s out with
  | nil =>
      cases hrun
      rfl
  | cons e es ih =>
      obtain ⟨v, first, rest, hfirst, hrest, rfl⟩ := run_cons.mp hrun
      rw [List.cons_append, collect, collect, hfirst]
      dsimp only
      rw [ih hrest, List.append_assoc]

theorem collect_snoc {β : Type} (f : ε → α → Option β) {s t u : σ} {es : List ε} {e : ε}
    {out new : List α} (hrun : m.run s es = some (t, out)) (hstep : m.step t e = some (u, new)) :
    m.collect f s (es ++ [e]) = m.collect f s es ++ new.filterMap (f e) := by
  rw [collect_append f [e] hrun]
  simp [collect, hstep]

/-- What is selected whatever the event is selected of all the actions. -/
theorem collect_const {β : Type} (f : α → Option β) {s t : σ} {es : List ε} {out : List α}
    (hrun : m.run s es = some (t, out)) : m.collect (fun _ => f) s es = out.filterMap f := by
  refine run_induction (P := fun es out _ => m.collect (fun _ => f) s es = out.filterMap f) rfl ?_
    hrun
  intro es out t e u new hes ih hstep
  rw [collect_snoc _ hes hstep, ih, List.filterMap_append]

/-- A run that ends alive was alive before, if nothing happens to what has failed. -/
theorem alive_of_run {φ : Type} {m : Machine (Except φ σ) ε α}
    (hdead : ∀ f e, m.step (.error f) e = none) {x : Except φ σ} {es : List ε} {t : σ}
    {out : List α} (hrun : m.run x es = some (.ok t, out)) : ∃ s, x = .ok s := by
  cases x with
  | ok s => exact ⟨s, rfl⟩
  | error f =>
      cases es with
      | nil => cases hrun
      | cons e es =>
          obtain ⟨_, _, _, hstep, _, _⟩ := run_cons.mp hrun
          rw [hdead] at hstep
          cases hstep

/-! ## Runs whose steps all meet a condition -/

variable (m)

/-- Every event of the list is processed where `ok` allows it, given the events and the actions
before it and the state it finds. -/
def Meets (ok : List ε → List α → σ → ε → Prop) (s : σ) (es : List ε) : Prop :=
  ∀ before e after t out, es = before ++ e :: after → m.run s before = some (t, out) →
    ok before out t e

variable {m} {ok : List ε → List α → σ → ε → Prop}

@[simp] theorem meets_nil (s : σ) : m.Meets ok s [] := by
  intro before e after t out hsplit
  exact absurd hsplit (by simp)

/-- What meets a condition meets it up to any point. -/
theorem Meets.front {s : σ} {es fs : List ε} (h : m.Meets ok s (es ++ fs)) :
    m.Meets ok s es := by
  intro before e after t out hsplit hrun
  exact h before e (after ++ fs) t out (by rw [hsplit]; simp) hrun

/-- What meets two conditions meets both at once. -/
theorem Meets.and {ok' : List ε → List α → σ → ε → Prop} {s : σ} {es : List ε}
    (h : m.Meets ok s es) (h' : m.Meets ok' s es) :
    m.Meets (fun es out t e => ok es out t e ∧ ok' es out t e) s es := by
  intro before e after t out hsplit hrun
  exact ⟨h before e after t out hsplit hrun, h' before e after t out hsplit hrun⟩

/-- What meets a condition meets it at its last event. -/
theorem Meets.last {s t : σ} {es : List ε} {e : ε} {out : List α}
    (h : m.Meets ok s (es ++ [e])) (hrun : m.run s es = some (t, out)) : ok es out t e :=
  h es e [] t out rfl hrun

/-- What meets a condition on states and events meets it from any point on. -/
theorem Meets.suffix {c : σ → ε → Prop} {s t : σ} {es fs : List ε} {out : List α}
    (h : m.Meets (fun _ _ t e => c t e) s (es ++ fs)) (hrun : m.run s es = some (t, out)) :
    m.Meets (fun _ _ t e => c t e) t fs := by
  rintro before e after u mid rfl hu
  exact h (es ++ before) e after u (out ++ mid) (by simp)
    (run_append.mpr ⟨t, out, mid, hrun, hu, rfl⟩)

/-- Extending a run by an event that meets the condition. -/
theorem Meets.snoc {s t : σ} {es : List ε} {e : ε} {out : List α} (h : m.Meets ok s es)
    (hrun : m.run s es = some (t, out)) (hok : ok es out t e) : m.Meets ok s (es ++ [e]) := by
  intro before e' after u mid hsplit hu
  rcases List.eq_nil_or_concat after with rfl | ⟨init, last, rfl⟩
  · obtain ⟨rfl, hlast⟩ := List.append_inj' hsplit rfl
    cases hlast
    rw [hrun] at hu
    cases hu
    exact hok
  · rw [List.concat_eq_append, ← List.cons_append, ← List.append_assoc] at hsplit
    exact h before e' init u mid (List.append_inj' hsplit rfl).1 hu

/-- The induction rule for runs all of whose steps meet a condition. -/
theorem run_induction_of_meets {P : List ε → List α → σ → Prop} {s : σ} (hinit : P [] [] s)
    (hstep : ∀ es out t e u new, m.run s es = some (t, out) → P es out t → ok es out t e →
      m.step t e = some (u, new) → P (es ++ [e]) (out ++ new) u)
    {es : List ε} {t : σ} {out : List α} (hmeets : m.Meets ok s es)
    (hrun : m.run s es = some (t, out)) : P es out t := by
  refine run_induction (P := fun es out t => m.Meets ok s es → P es out t)
    (fun _ => hinit) ?_ hrun hmeets
  intro es out t e u new hes ih he hmeets
  exact hstep es out t e u new hes (ih hmeets.front) (hmeets.last hes) he

/-- To meet a condition it is enough that every step of the run does. -/
theorem meets_of_steps {s : σ} {es : List ε} {r : σ} {out : List α}
    (hrun : m.run s es = some (r, out))
    (hstep : ∀ before after mid t e u new, es = before ++ e :: after →
      m.run s before = some (t, mid) → m.step t e = some (u, new) → ok before mid t e) :
    m.Meets ok s es := by
  rintro before e after t mid rfl ht
  obtain ⟨v, first, rest, hbefore, hafter, rfl⟩ := run_append.mp hrun
  rw [ht] at hbefore
  cases hbefore
  obtain ⟨u, new, _, he, _, _⟩ := run_cons.mp hafter
  exact hstep before after mid t e u new rfl ht he

/-- Every step of the list, where the run gets to it, satisfies `Q`, given the events before it. -/
def AllStepsAfter (m : Machine σ ε α) (Q : List ε → σ → ε → σ → List α → Prop) (s : σ)
    (es : List ε) : Prop :=
  ∀ before e after t out u new, es = before ++ e :: after → m.run s before = some (t, out) →
    m.step t e = some (u, new) → Q before t e u new

/-- If a step satisfies `Q` exactly when it meets a condition, so does a run. -/
theorem all_steps_after_iff_meets {Q : List ε → σ → ε → σ → List α → Prop} {s : σ} {es : List ε}
    {r : σ} {out : List α} (hrun : m.run s es = some (r, out))
    (hstep : ∀ before mid t e u new, m.run s before = some (t, mid) →
      m.step t e = some (u, new) → (Q before t e u new ↔ ok before mid t e)) :
    m.AllStepsAfter Q s es ↔ m.Meets ok s es := by
  constructor
  · intro hall
    refine meets_of_steps hrun fun before after mid t e u new hsplit ht he => ?_
    exact (hstep before mid t e u new ht he).mp (hall before e after t mid u new hsplit ht he)
  · rintro hmeets before e after t mid u new rfl ht he
    exact (hstep before mid t e u new ht he).mpr (hmeets before e after t mid rfl ht)

/-- Every step of the list, where the run gets to it, satisfies `Q`. -/
def AllSteps (m : Machine σ ε α) (Q : σ → ε → σ → List α → Prop) (s : σ) (es : List ε) : Prop :=
  ∀ before e after t out u new, es = before ++ e :: after → m.run s before = some (t, out) →
    m.step t e = some (u, new) → Q t e u new

/-- The same for a condition on the steps alone. -/
theorem all_steps_iff_meets {Q : σ → ε → σ → List α → Prop} {s : σ} {es : List ε} {r : σ}
    {out : List α} (hrun : m.run s es = some (r, out))
    (hstep : ∀ before mid t e u new, m.run s before = some (t, mid) →
      m.step t e = some (u, new) → (Q t e u new ↔ ok before mid t e)) :
    m.AllSteps Q s es ↔ m.Meets ok s es :=
  @all_steps_after_iff_meets σ ε α m ok (fun _ => Q) s es r out hrun hstep

/-- If one step keeps a property exactly when it meets a condition, then a property true at the
start holds at every point of a run if and only if the whole run meets the condition. -/
theorem forall_reached_iff_meets {P : List ε → List α → σ → Prop} {s : σ} (hinit : P [] [] s)
    (hstep : ∀ es out t e u new, m.run s es = some (t, out) → P es out t →
      m.step t e = some (u, new) → (P (es ++ [e]) (out ++ new) u ↔ ok es out t e))
    {es : List ε} {t : σ} {out : List α} (hrun : m.run s es = some (t, out)) :
    (∀ fs gs u mid, es = fs ++ gs → m.run s fs = some (u, mid) → P fs mid u) ↔
      m.Meets ok s es := by
  constructor
  · rintro hall before e after u mid rfl hu
    have hP := hall before (e :: after) u mid rfl hu
    obtain ⟨v, first, rest, hbefore, hafter, rfl⟩ := run_append.mp hrun
    rw [hu] at hbefore
    cases hbefore
    obtain ⟨w, new, _, he, _, _⟩ := run_cons.mp hafter
    refine (hstep before mid u e w new hu hP he).mp ?_
    exact hall (before ++ [e]) after w (mid ++ new) (by simp)
      (run_snoc.mpr ⟨u, mid, new, hu, he, rfl⟩)
  · rintro hmeets fs gs u mid rfl hu
    exact run_induction_of_meets hinit
      (fun es out t e u new hes hP hok he => (hstep es out t e u new hes hP he).mpr hok)
      hmeets.front hu

end Machine

end RtcVpn
