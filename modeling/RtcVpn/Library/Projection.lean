import RtcVpn.Library.Duplex
import RtcVpn.Library.Effect

/-!
# Machines seen from one of their parts

A machine `m` that is made up of parts can be seen as one of them: each event of
`m` is one event of the part `n` or none, and what `m` does in between is
nothing that `n` does. `Projects` says so of single steps, of those that a
condition covers; two parts that are joined by channels are a part of what is
joined, if each of them takes from the channels what the other puts in for it.
`Agrees` compares a handler in two states and has one rule for each way handlers
are composed.
-/

namespace RtcVpn

namespace Machine

variable {σ τ ε ζ α β : Type}

/-- The events of a part along a run. -/
def seen (m : Machine σ ε α) (event : σ → ε → Option ζ) : σ → List ε → List ζ
  | _, [] => []
  | s, e :: es =>
      match m.step s e with
      | some (t, _) => (event s e).toList ++ seen m event t es
      | none => []

variable {m : Machine σ ε α} {event : σ → ε → Option ζ}

theorem seen_append {s t : σ} {es : List ε} {out : List α} (fs : List ε)
    (hrun : m.run s es = some (t, out)) :
    m.seen event s (es ++ fs) = m.seen event s es ++ m.seen event t fs := by
  induction es generalizing s out with
  | nil =>
      cases hrun
      rfl
  | cons e es ih =>
      obtain ⟨u, first, rest, hstep, hrest, rfl⟩ := run_cons.mp hrun
      rw [List.cons_append, seen, seen, hstep]
      dsimp only
      rw [ih hrest, List.append_assoc]

theorem seen_snoc {s t u : σ} {es : List ε} {e : ε} {out new : List α}
    (hrun : m.run s es = some (t, out)) (hstep : m.step t e = some (u, new)) :
    m.seen event s (es ++ [e]) = m.seen event s es ++ (event t e).toList := by
  rw [seen_append [e] hrun, seen, hstep]
  simp [seen]

/-- Each step of `m` that is covered is a step of `n`, or none. -/
def Projects (m : Machine σ ε α) (n : Machine τ ζ β) (event : σ → ε → Option ζ)
    (action : α → Option β) (Rel : σ → τ → Prop) (covers : σ → ε → σ → List α → Prop) : Prop :=
  ∀ ⦃s s' t e out⦄, Rel s t → m.step s e = some (s', out) → covers s e s' out →
    ∃ t', n.run t (event s e).toList = some (t', out.filterMap action) ∧ Rel s' t'

end Machine

/-! ## Parts that are joined -/

namespace Fifo

variable {μ : Type} {keep : μ → Bool} {q q' r : Fifo μ}

/-- Of what waits in `q`, `r` has what is meant for a part. -/
def Restricts (keep : μ → Bool) (q r : Fifo μ) : Prop := r.waiting = q.waiting.filter keep

theorem push_all_waiting (q : Fifo μ) (ms : List μ) :
    (q.pushAll ms).waiting = q.waiting ++ ms := by
  induction ms generalizing q with
  | nil => exact (List.append_nil _).symm
  | cons m ms ih =>
      show ((q.push m).pushAll ms).waiting = _
      rw [ih, push_waiting, List.append_assoc, List.singleton_append]

theorem Restricts.push_all (h : Restricts keep q r) {ms ns : List μ} (hms : ns = ms.filter keep) :
    Restricts keep (q.pushAll ms) (r.pushAll ns) := by
  rw [Restricts, push_all_waiting, push_all_waiting, List.filter_append, h, hms]

theorem take_front_eq_some_iff [DecidableEq μ] {x : μ} :
    q.takeFront (some x) = some r ↔ q.pop = some (x, r) := by
  cases hpop : q.pop with
  | none => simp [takeFront, hpop]
  | some first =>
      obtain ⟨front, rest⟩ := first
      by_cases hfront : front = x <;> simp [takeFront, hpop, hfront]

/-- An element that is not meant for the part is taken from `q` only. -/
theorem Restricts.take_front [DecidableEq μ] {m : Option μ} (h : Restricts keep q r)
    (hq : q.takeFront m = some q') :
    ∃ r', r.takeFront (m.filter keep) = some r' ∧ Restricts keep q' r' := by
  cases m with
  | none =>
      cases hq
      exact ⟨r, rfl, h⟩
  | some x =>
      have hwaiting : q.waiting = x :: q'.waiting := (pop_eq_some (take_front_eq_some_iff.mp hq)).1
      by_cases hkeep : keep x = true
      · have hrest : r.waiting = x :: q'.waiting.filter keep := by
          rw [h, hwaiting, List.filter_cons_of_pos hkeep]
        obtain ⟨r', hpop, hr'⟩ := pop_of_waiting hrest
        refine ⟨r', ?_, hr'⟩
        rw [Option.filter_some_pos hkeep]
        exact take_front_eq_some_iff.mpr hpop
      · refine ⟨r, ?_, ?_⟩
        · rw [Option.filter_some_neg (Bool.eq_false_iff.mpr hkeep)]
          rfl
        · rw [Restricts, h, hwaiting, List.filter_cons_of_neg hkeep]

end Fifo

namespace Machine

section

variable {σ σ' τ τ' ε ε' ζ ζ' α α' β β' μ : Type}

/-- The event of the joined parts. -/
def joinedEvent (eventA : σ → ε → Option ε') (eventB : τ → ζ → Option ζ') (d : Duplex σ τ μ) :
    ε ⊕ ζ → Option (ε' ⊕ ζ')
  | .inl e => (eventA d.left e).map .inl
  | .inr e => (eventB d.right e).map .inr

/-- The action of the joined parts. -/
def joinedAction (actionA : α → Option α') (actionB : β → Option β') :
    α ⊕ β → Option (α' ⊕ β')
  | .inl x => (actionA x).map .inl
  | .inr x => (actionB x).map .inr

/-- Both parties are related, and what waits in the channels of the parts is what of the channels
is meant for them. -/
structure JoinedRel (RelA : σ → σ' → Prop) (RelB : τ → τ' → Prop) (keep : μ → Bool)
    (d : Duplex σ τ μ) (d' : Duplex σ' τ' μ) : Prop where
  left : RelA d.left d'.left
  right : RelB d.right d'.right
  toRight : d.toRight.Restricts keep d'.toRight
  toLeft : d.toLeft.Restricts keep d'.toLeft

/-- The step of a party is covered. -/
def joinedCovers (coversA : σ → ε → σ → List α → Prop) (coversB : τ → ζ → τ → List β → Prop)
    (d : Duplex σ τ μ) (e : ε ⊕ ζ) (d' : Duplex σ τ μ) (out : List (α ⊕ β)) : Prop :=
  match e with
  | .inl e => coversA d.left e d'.left (lefts out)
  | .inr e => coversB d.right e d'.right (rights out)

/-- What a party of the whole takes from the channel and puts into it is for its part what is meant
for the parts. -/
structure Meant (m : Machine σ ε α) (event : σ → ε → Option ε') (action : α → Option α')
    (covers : σ → ε → σ → List α → Prop) (port : Port ε α μ) (port' : Port ε' α' μ)
    (keep : μ → Bool) : Prop where
  receives : ∀ {s s' e out}, m.step s e = some (s', out) → covers s e s' out →
    (event s e).bind port'.receives = (port.receives e).filter keep
  sends : ∀ {s s' e out}, m.step s e = some (s', out) → covers s e s' out →
    (out.filterMap action).filterMap port'.sends = (out.filterMap port.sends).filter keep

variable [DecidableEq μ] {a : Machine σ ε α} {b : Machine τ ζ β} {pa : Port ε α μ} {pb : Port ζ β μ}
  {a' : Machine σ' ε' α'} {b' : Machine τ' ζ' β'} {pa' : Port ε' α' μ} {pb' : Port ζ' β' μ}
  {eventA : σ → ε → Option ε'} {eventB : τ → ζ → Option ζ'} {actionA : α → Option α'}
  {actionB : β → Option β'} {RelA : σ → σ' → Prop} {RelB : τ → τ' → Prop}
  {coversA : σ → ε → σ → List α → Prop} {coversB : τ → ζ → τ → List β → Prop} {keep : μ → Bool}

theorem filter_map_inl (xs : List α) : (xs.map Sum.inl).filterMap (joinedAction actionA actionB) =
    (xs.filterMap actionA).map Sum.inl := by
  rw [List.filterMap_map, List.map_filterMap]
  rfl

theorem filter_map_inr (xs : List β) : (xs.map Sum.inr).filterMap (joinedAction actionA actionB) =
    (xs.filterMap actionB).map Sum.inr := by
  rw [List.filterMap_map, List.map_filterMap]
  rfl

/-- Parts that are joined are a part of what is joined. -/
theorem Projects.duplex (ha : a.Projects a' eventA actionA RelA coversA)
    (hb : b.Projects b' eventB actionB RelB coversB)
    (hmeantA : Meant a eventA actionA coversA pa pa' keep)
    (hmeantB : Meant b eventB actionB coversB pb pb' keep) :
    (duplex a b pa pb).Projects (duplex a' b' pa' pb') (joinedEvent eventA eventB)
      (joinedAction actionA actionB) (JoinedRel RelA RelB keep) (joinedCovers coversA coversB) := by
  intro d d₁ d' e new hrel hstep hcovers
  cases e with
  | inl e =>
      obtain ⟨q, s, out, hq, hs, rfl, rfl⟩ := duplex_step_inl.mp hstep
      have hcovers' : coversA d.left e s out := by
        have h : coversA d.left e s (lefts (out.map .inl)) := hcovers
        rwa [lefts_map_inl] at h
      obtain ⟨t', hrun, hrel'⟩ := ha hrel.left hs hcovers'
      obtain ⟨r', hr', hrestricts⟩ := hrel.toLeft.take_front hq
      have hsends := hmeantA.sends hs hcovers'
      have hjoined : JoinedRel RelA RelB keep
          ⟨s, d.right, d.toRight.pushAll (out.filterMap pa.sends), q⟩
          ⟨t', d'.right, d'.toRight.pushAll ((out.filterMap actionA).filterMap pa'.sends), r'⟩ :=
        ⟨hrel', hrel.right, hrel.toRight.push_all hsends, hrestricts⟩
      rw [← hmeantA.receives hs hcovers'] at hr'
      rw [filter_map_inl]
      cases hevent : eventA d.left e with
      | none =>
          rw [hevent] at hrun hr'
          cases hr'
          obtain ⟨rfl, hnone⟩ : d'.left = t' ∧ [] = out.filterMap actionA := by simpa using hrun
          rw [← hnone] at hjoined ⊢
          refine ⟨d', ?_, hjoined⟩
          simp [joinedEvent, hevent]
      | some f =>
          rw [hevent] at hrun hr'
          refine ⟨_, ?_, hjoined⟩
          simp only [joinedEvent, hevent, Option.map_some, Option.toList_some]
          rw [run_singleton, duplex_step_inl]
          exact ⟨r', t', _, hr', run_singleton.mp hrun, rfl, rfl⟩
  | inr e =>
      obtain ⟨q, s, out, hq, hs, rfl, rfl⟩ := duplex_step_inr.mp hstep
      have hcovers' : coversB d.right e s out := by
        have h : coversB d.right e s (rights (out.map .inr)) := hcovers
        rwa [rights_map_inr] at h
      obtain ⟨t', hrun, hrel'⟩ := hb hrel.right hs hcovers'
      obtain ⟨r', hr', hrestricts⟩ := hrel.toRight.take_front hq
      have hsends := hmeantB.sends hs hcovers'
      have hjoined : JoinedRel RelA RelB keep
          ⟨d.left, s, q, d.toLeft.pushAll (out.filterMap pb.sends)⟩
          ⟨d'.left, t', r', d'.toLeft.pushAll ((out.filterMap actionB).filterMap pb'.sends)⟩ :=
        ⟨hrel.left, hrel', hrestricts, hrel.toLeft.push_all hsends⟩
      rw [← hmeantB.receives hs hcovers'] at hr'
      rw [filter_map_inr]
      cases hevent : eventB d.right e with
      | none =>
          rw [hevent] at hrun hr'
          cases hr'
          obtain ⟨rfl, hnone⟩ : d'.right = t' ∧ [] = out.filterMap actionB := by simpa using hrun
          rw [← hnone] at hjoined ⊢
          refine ⟨d', ?_, hjoined⟩
          simp [joinedEvent, hevent]
      | some f =>
          rw [hevent] at hrun hr'
          refine ⟨_, ?_, hjoined⟩
          simp only [joinedEvent, hevent, Option.map_some, Option.toList_some]
          rw [run_singleton, duplex_step_inr]
          exact ⟨r', t', _, hr', run_singleton.mp hrun, rfl, rfl⟩

end

end Machine

namespace Effect

variable {σ τ ε ζ α β φ ψ : Type}

/-! ## Handlers in related states -/

/-- From related states on the handlers take the same actions, return the same and end in related
states. -/
def Agrees (R : σ → τ → Prop) (x : Effect σ α φ β) (y : Effect τ α φ β) : Prop :=
  ∀ s t, R s t → (x.run s).actions = (y.run t).actions ∧ (x.run s).result = (y.run t).result ∧
    R (x.run s).state (y.run t).state

section

variable {γ δ : Type} {R : σ → τ → Prop}

theorem Agrees.pure (b : β) :
    Agrees R (Pure.pure b : Effect σ α φ β) (Pure.pure b : Effect τ α φ β) :=
  fun _ _ h => ⟨rfl, rfl, h⟩

theorem Agrees.emit (a : α) :
    Agrees R (emit a : Effect σ α φ Unit) (emit a : Effect τ α φ Unit) :=
  fun _ _ h => ⟨rfl, rfl, h⟩

theorem Agrees.fail (e : φ) :
    Agrees R (fail e : Effect σ α φ β) (fail e : Effect τ α φ β) :=
  fun _ _ h => ⟨rfl, rfl, h⟩

theorem Agrees.modify {f : σ → σ} {g : τ → τ} (h : ∀ s t, R s t → R (f s) (g t)) :
    Agrees R (modify f : Effect σ α φ Unit) (modify g : Effect τ α φ Unit) :=
  fun s t hst => ⟨rfl, rfl, h s t hst⟩

theorem Agrees.bind {x : Effect σ α φ β} {y : Effect τ α φ β} {f : β → Effect σ α φ γ}
    {g : β → Effect τ α φ γ} (hxy : Agrees R x y) (hfg : ∀ b, Agrees R (f b) (g b)) :
    Agrees R (x >>= f) (y >>= g) := by
  intro s t hst
  have hfirst := hxy s t hst
  rw [run_bind, run_bind]
  generalize x.run s = o at hfirst ⊢
  generalize y.run t = o' at hfirst ⊢
  obtain ⟨u, as, r⟩ := o
  obtain ⟨u', as', r'⟩ := o'
  obtain ⟨rfl, rfl, hu⟩ := hfirst
  cases r with
  | error e => exact ⟨rfl, rfl, hu⟩
  | ok b =>
      obtain ⟨hactions, hresult, hstate⟩ := hfg b u u' hu
      rw [andThen_ok, andThen_ok, hactions]
      exact ⟨rfl, hresult, hstate⟩

/-- Handlers that first read the state. -/
theorem Agrees.get_bind {f : σ → Effect σ α φ β} {g : τ → Effect τ α φ β}
    (h : ∀ s t, R s t → Agrees R (f s) (g t)) : Agrees R (get >>= f) (get >>= g) := by
  intro s t hst
  obtain ⟨hactions, hresult, hstate⟩ := h s t hst s t hst
  rw [run_bind, run_bind, run_get, run_get, andThen_ok, andThen_ok, List.nil_append,
    List.nil_append]
  exact ⟨hactions, hresult, hstate⟩

theorem Agrees.ite {c c' : Prop} [Decidable c] [Decidable c'] {x x' : Effect σ α φ β}
    {y y' : Effect τ α φ β} (hc : c ↔ c') (hx : Agrees R x y) (hx' : Agrees R x' y') :
    Agrees R (if c then x else x') (if c' then y else y') := by
  by_cases h : c
  · rw [if_pos h, if_pos (hc.mp h)]
    exact hx
  · rw [if_neg h, if_neg (fun h' => h (hc.mpr h'))]
    exact hx'

theorem Agrees.forEach {f : γ → Effect σ α φ Unit} {g : γ → Effect τ α φ Unit} (xs : List γ)
    (h : ∀ x, Agrees R (f x) (g x)) : Agrees R (forEach xs f) (forEach xs g) := by
  induction xs with
  | nil => exact .pure ()
  | cons x xs ih => exact .bind (h x) fun _ => ih

/-- A handler of a part that both states have in common. -/
theorem Agrees.performing {κ ω χ : Type} {read : σ → κ} {read' : τ → κ} {write : κ → σ → σ}
    {write' : κ → τ → τ} {fault : χ → φ} {x : Effect κ ω χ β} {perform : ω → Effect σ α φ Unit}
    {perform' : ω → Effect τ α φ Unit} (hread : ∀ s t, R s t → read s = read' t)
    (hwrite : ∀ k s t, R s t → R (write k s) (write' k t))
    (hperform : ∀ a, Agrees R (perform a) (perform' a)) :
    Agrees R (performing read write fault x perform)
      (performing read' write' fault x perform') := by
  intro s t hst
  rw [run_performing, run_performing, hread s t hst]
  obtain ⟨hactions, hresult, hstate⟩ := Agrees.forEach (x.run (read' t)).actions hperform _ _
    (hwrite (x.run (read' t)).state s t hst)
  dsimp only
  rw [hactions, hresult]
  exact ⟨rfl, rfl, hstate⟩

end

/-! ## Handlers of a part -/

/-- What a part does at one of its events, or that nothing happens to it. -/
def Responds (enabled : τ → ζ → Bool) (part : ζ → Effect τ β ψ Unit) (R : τ → Prop) (t : τ)
    (out : List β) : Option ζ → Prop
  | some f => enabled t f = true ∧ ∃ t', (part f).run t = ⟨t', out, .ok ()⟩ ∧ R t'
  | none => out = [] ∧ R t

theorem Responds.imp {enabled : τ → ζ → Bool} {part : ζ → Effect τ β ψ Unit} {R S : τ → Prop}
    {t : τ} {out : List β} {f : Option ζ} (h : Responds enabled part R t out f)
    (hRS : ∀ t, R t → S t) :
    Responds enabled part S t out f := by
  cases f with
  | some f =>
      obtain ⟨henabled, t', hrun, hR⟩ := h
      exact ⟨henabled, t', hrun, hRS t' hR⟩
  | none => exact ⟨h.1, hRS t h.2⟩

/-- The objects have not failed. -/
def Alive (R : σ → τ → Prop) : Except φ σ → Except ψ τ → Prop
  | .ok s, .ok t => R s t
  | _, _ => False

/-- The event of an object that has not failed. -/
def onAlive (event : σ → ε → Option ζ) : Except φ σ → ε → Option ζ
  | .ok s, e => event s e
  | .error _, _ => none

/-- A step in which the object does not fail. -/
def aliveCovers (covers : σ → ε → σ → List α → Prop) :
    Except φ σ → ε → Except φ σ → List α → Prop
  | .ok s, e, .ok s', out => covers s e s' out
  | _, _, _, _ => False

theorem alive_covers_mono {covers covers' : σ → ε → σ → List α → Prop}
    (h : ∀ {s e s' out}, covers' s e s' out → covers s e s' out) {x x' : Except φ σ} {e : ε}
    {out : List α} (hcovered : aliveCovers covers' x e x' out) : aliveCovers covers x e x' out := by
  cases x with
  | error => exact hcovered.elim
  | ok s =>
      cases x' with
      | error => exact hcovered.elim
      | ok s' => exact h hcovered

theorem projects {enabled : σ → ε → Bool} {handler : ε → Effect σ α φ Unit}
    {partEnabled : τ → ζ → Bool} {part : ζ → Effect τ β ψ Unit} {event : σ → ε → Option ζ}
    {action : α → Option β} {R : σ → τ → Prop} {covers : σ → ε → σ → List α → Prop}
    (h : ∀ {s s' t e out}, R s t → enabled s e = true → (handler e).run s = ⟨s', out, .ok ()⟩ →
      covers s e s' out → Responds partEnabled part (R s') t (out.filterMap action) (event s e)) :
    (machine enabled handler).Projects (machine partEnabled part) (onAlive event) action (Alive R)
      (aliveCovers covers) := by
  intro x x' y e out hrel hstep hcovers
  obtain ⟨s, rfl, henabled, hx', hout⟩ := machine_step_eq_some hstep
  cases x' with
  | error fault => exact hcovers.elim
  | ok s' =>
      obtain ⟨_, hs, -, hrun⟩ := machine_step_alive hstep
      cases hs
      cases y with
      | error fault => exact hrel.elim
      | ok t =>
          have hanswers := h hrel henabled hrun hcovers
          show ∃ t', (machine partEnabled part).run (.ok t) (event s e).toList = some (t', _) ∧ _
          cases hevent : event s e with
          | some f =>
              rw [hevent] at hanswers
              obtain ⟨henabled', t', hpart, hrel'⟩ := hanswers
              refine ⟨.ok t', ?_, hrel'⟩
              rw [Option.toList_some, Machine.run_singleton, machine_step_ok henabled', hpart]
              rfl
          | none =>
              rw [hevent] at hanswers
              obtain ⟨hnone, hrel'⟩ := hanswers
              exact ⟨.ok t, by rw [hnone]; rfl, hrel'⟩

/-! ## Runs -/

/-- An object that is alive at the end of a run is alive at its beginning. -/
theorem alive_of_run {enabled : σ → ε → Bool} {handler : ε → Effect σ α φ Unit} {x : Except φ σ}
    {es : List ε} {out : List α} {t : σ}
    (hrun : (machine enabled handler).run x es = some (.ok t, out)) : ∃ s, x = .ok s := by
  cases es with
  | nil =>
      cases hrun
      exact ⟨t, rfl⟩
  | cons e es =>
      obtain ⟨y, first, rest, hstep, -, -⟩ := Machine.run_cons.mp hrun
      obtain ⟨s, hx, -⟩ := machine_step_eq_some hstep
      exact ⟨s, hx⟩

/-- What holds at the end of every run that does not fail, by induction on the run. -/
theorem alive_induction {enabled : σ → ε → Bool} {handler : ε → Effect σ α φ Unit}
    {P : List ε → List α → σ → Prop} {s : σ} (hinit : P [] [] s)
    (hstep : ∀ es out t e u new, (machine enabled handler).run (.ok s) es = some (.ok t, out) →
      P es out t → enabled t e = true → (handler e).run t = ⟨u, new, .ok ()⟩ →
      P (es ++ [e]) (out ++ new) u)
    {es : List ε} {out : List α} {t : σ}
    (hrun : (machine enabled handler).run (.ok s) es = some (.ok t, out)) : P es out t := by
  refine Machine.run_induction (P := fun es out x => ∀ t, x = .ok t → P es out t) ?_ ?_ hrun t rfl
  · intro t ht
    cases ht
    exact hinit
  · intro es out x e y new hes ih he u hu
    subst hu
    obtain ⟨t, rfl, henabled, hrun⟩ := machine_step_alive he
    exact hstep es out t e u new hes (ih t rfl) henabled hrun

end Effect

end RtcVpn
