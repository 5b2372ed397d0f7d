import RtcVpn.Library.Fifo
import RtcVpn.Library.Machine

/-!
# Two machines joined by channels

`duplex` joins two machines by a lossless first-in first-out channel in each
direction. A `Port` says which event of a party takes which message from its
incoming channel and which of its actions puts one into the other. The events
of both parties come in any order; `duplex_run` gives back a run of each party
and says that what a party has received is what the other one has sent, up to
what is still on the way.
-/

namespace RtcVpn

/-! ## Channels -/

namespace Fifo

variable {μ : Type}

/-- Put in several elements, in order. -/
def pushAll (q : Fifo μ) (ms : List μ) : Fifo μ := ms.foldl push q

@[simp] theorem push_all_accepted (q : Fifo μ) (ms : List μ) :
    (q.pushAll ms).accepted = q.accepted ++ ms := by
  induction ms generalizing q with
  | nil => simp [pushAll]
  | cons m ms ih =>
      show ((q.push m).pushAll ms).accepted = _
      rw [ih, push_accepted, List.append_assoc, List.singleton_append]

@[simp] theorem push_all_delivered (q : Fifo μ) (ms : List μ) :
    (q.pushAll ms).delivered = q.delivered := by
  induction ms generalizing q with
  | nil => rfl
  | cons m ms ih =>
      show ((q.push m).pushAll ms).delivered = _
      rw [ih, push_delivered]

/-- Take the element from the front, if it is there; nothing is taken if there is none to take. -/
def takeFront [DecidableEq μ] (q : Fifo μ) : Option μ → Option (Fifo μ)
  | none => some q
  | some m =>
      match q.pop with
      | some (front, rest) => if front = m then some rest else none
      | none => none

theorem take_front_eq_some [DecidableEq μ] {q r : Fifo μ} {m : Option μ}
    (h : q.takeFront m = some r) :
    r.accepted = q.accepted ∧ r.delivered = q.delivered ++ m.toList := by
  cases m with
  | none =>
      cases h
      simp
  | some m =>
      change (match q.pop with
        | some (front, rest) => if front = m then some rest else none
        | none => none) = some r at h
      split at h
      · next front rest hpop =>
          split at h
          · next hfront =>
              cases h
              subst hfront
              obtain ⟨_, hdelivered, haccepted⟩ := pop_eq_some hpop
              exact ⟨haccepted, hdelivered⟩
          · cases h
      · cases h

end Fifo

/-! ## The joined machines -/

/-- The parties and the channels between them. -/
structure Duplex (σ τ μ : Type) where
  left : σ
  right : τ
  toRight : Fifo μ
  toLeft : Fifo μ

/-- Two parties that have sent nothing. -/
def Duplex.start {σ τ μ : Type} (left : σ) (right : τ) : Duplex σ τ μ :=
  ⟨left, right, .empty, .empty⟩

/-- The message an event takes from the incoming channel, and the one an action puts into the
outgoing channel. -/
structure Port (ε α μ : Type) where
  receives : ε → Option μ
  sends : α → Option μ

section

variable {σ τ ε ζ α β μ : Type}

/-- What is on the left. -/
def lefts (xs : List (α ⊕ β)) : List α := xs.filterMap Sum.getLeft?

/-- What is on the right. -/
def rights (xs : List (α ⊕ β)) : List β := xs.filterMap Sum.getRight?

@[simp] theorem lefts_append (xs ys : List (α ⊕ β)) : lefts (xs ++ ys) = lefts xs ++ lefts ys :=
  List.filterMap_append

@[simp] theorem rights_append (xs ys : List (α ⊕ β)) :
    rights (xs ++ ys) = rights xs ++ rights ys :=
  List.filterMap_append

@[simp] theorem lefts_map_inl (xs : List α) : lefts (xs.map Sum.inl : List (α ⊕ β)) = xs := by
  simp [lefts, List.filterMap_map, Function.comp_def]

@[simp] theorem lefts_map_inr (xs : List β) : lefts (xs.map Sum.inr : List (α ⊕ β)) = [] := by
  simp [lefts, List.filterMap_map, Function.comp_def]

@[simp] theorem rights_map_inl (xs : List α) : rights (xs.map Sum.inl : List (α ⊕ β)) = [] := by
  simp [rights, List.filterMap_map, Function.comp_def]

@[simp] theorem rights_map_inr (xs : List β) : rights (xs.map Sum.inr : List (α ⊕ β)) = xs := by
  simp [rights, List.filterMap_map, Function.comp_def]

variable {a : Machine σ ε α} {b : Machine τ ζ β} {pa : Port ε α μ} {pb : Port ζ β μ}

/-- What the joined machines have done: each party's part is a run of it, and the channels have
taken in what it has sent and given out what the other one has received. -/
structure Joined (a : Machine σ ε α) (b : Machine τ ζ β) (pa : Port ε α μ) (pb : Port ζ β μ)
    (left : σ) (right : τ) (es : List (ε ⊕ ζ)) (out : List (α ⊕ β)) (d : Duplex σ τ μ) :
    Prop where
  left : a.run left (lefts es) = some (d.left, lefts out)
  right : b.run right (rights es) = some (d.right, rights out)
  sentRight : d.toRight.accepted = (lefts out).filterMap pa.sends
  sentLeft : d.toLeft.accepted = (rights out).filterMap pb.sends
  receivedRight : d.toRight.delivered = (rights es).filterMap pb.receives
  receivedLeft : d.toLeft.delivered = (lefts es).filterMap pa.receives

/-- What the party on the right has received is what the one on the left has sent, up to a
point. -/
theorem Joined.received_right {left : σ} {right : τ} {es : List (ε ⊕ ζ)} {out : List (α ⊕ β)}
    {d : Duplex σ τ μ} (h : Joined a b pa pb left right es out d) :
    (rights es).filterMap pb.receives <+: (lefts out).filterMap pa.sends := by
  rw [← h.receivedRight, ← h.sentRight]
  exact d.toRight.delivered_prefix

/-- What the party on the left has received is what the one on the right has sent, up to a
point. -/
theorem Joined.received_left {left : σ} {right : τ} {es : List (ε ⊕ ζ)} {out : List (α ⊕ β)}
    {d : Duplex σ τ μ} (h : Joined a b pa pb left right es out d) :
    (lefts es).filterMap pa.receives <+: (rights out).filterMap pb.sends := by
  rw [← h.receivedLeft, ← h.sentLeft]
  exact d.toLeft.delivered_prefix

variable [DecidableEq μ]

/-- Two machines joined by channels. An event that takes a message comes when that message is at
the front. -/
def duplex (a : Machine σ ε α) (b : Machine τ ζ β) (pa : Port ε α μ) (pb : Port ζ β μ) :
    Machine (Duplex σ τ μ) (ε ⊕ ζ) (α ⊕ β) where
  step
    | d, .inl e => do
        let q ← d.toLeft.takeFront (pa.receives e)
        let (s, out) ← a.step d.left e
        pure (⟨s, d.right, d.toRight.pushAll (out.filterMap pa.sends), q⟩, out.map .inl)
    | d, .inr e => do
        let q ← d.toRight.takeFront (pb.receives e)
        let (s, out) ← b.step d.right e
        pure (⟨d.left, s, q, d.toLeft.pushAll (out.filterMap pb.sends)⟩, out.map .inr)

/-- A step of the party on the left. -/
theorem duplex_step_inl {d d' : Duplex σ τ μ} {e : ε} {new : List (α ⊕ β)} :
    (duplex a b pa pb).step d (.inl e) = some (d', new) ↔
      ∃ q s out, d.toLeft.takeFront (pa.receives e) = some q ∧ a.step d.left e = some (s, out) ∧
        d' = ⟨s, d.right, d.toRight.pushAll (out.filterMap pa.sends), q⟩ ∧
        new = out.map .inl := by
  simp only [duplex, bind, Option.bind_eq_some_iff, pure, Option.some.injEq, Prod.mk.injEq,
    Prod.exists]
  constructor
  · rintro ⟨q, hq, s, out, hstep, rfl, rfl⟩
    exact ⟨q, s, out, hq, hstep, rfl, rfl⟩
  · rintro ⟨q, s, out, hq, hstep, rfl, rfl⟩
    exact ⟨q, hq, s, out, hstep, rfl, rfl⟩

/-- A step of the party on the right. -/
theorem duplex_step_inr {d d' : Duplex σ τ μ} {e : ζ} {new : List (α ⊕ β)} :
    (duplex a b pa pb).step d (.inr e) = some (d', new) ↔
      ∃ q s out, d.toRight.takeFront (pb.receives e) = some q ∧
        b.step d.right e = some (s, out) ∧
        d' = ⟨d.left, s, q, d.toLeft.pushAll (out.filterMap pb.sends)⟩ ∧
        new = out.map .inr := by
  simp only [duplex, bind, Option.bind_eq_some_iff, pure, Option.some.injEq, Prod.mk.injEq,
    Prod.exists]
  constructor
  · rintro ⟨q, hq, s, out, hstep, rfl, rfl⟩
    exact ⟨q, s, out, hq, hstep, rfl, rfl⟩
  · rintro ⟨q, s, out, hq, hstep, rfl, rfl⟩
    exact ⟨q, hq, s, out, hstep, rfl, rfl⟩

/-- Every run of the joined machines comes apart. -/
theorem duplex_run {left : σ} {right : τ} {es : List (ε ⊕ ζ)} {out : List (α ⊕ β)}
    {d : Duplex σ τ μ}
    (hrun : (duplex a b pa pb).run (.start left right) es = some (d, out)) :
    Joined a b pa pb left right es out d := by
  refine Machine.run_induction (P := fun es out d => Joined a b pa pb left right es out d) ?_ ?_
    hrun
  · exact ⟨rfl, rfl, rfl, rfl, rfl, rfl⟩
  intro es out d e d' new _ h hstep
  cases e with
  | inl e =>
      obtain ⟨q, s, acts, hq, hs, rfl, rfl⟩ := duplex_step_inl.mp hstep
      obtain ⟨haccepted, hdelivered⟩ := Fifo.take_front_eq_some hq
      have hlefts : lefts [(.inl e : ε ⊕ ζ)] = [e] := rfl
      have hrights : rights [(.inl e : ε ⊕ ζ)] = [] := rfl
      refine ⟨?_, ?_, ?_, ?_, ?_, ?_⟩
      · rw [lefts_append, lefts_append, hlefts, lefts_map_inl]
        exact Machine.run_snoc.mpr ⟨_, _, _, h.left, hs, rfl⟩
      · rw [rights_append, rights_append, hrights, rights_map_inl, List.append_nil,
          List.append_nil]
        exact h.right
      · simp [h.sentRight]
      · simp [haccepted, h.sentLeft]
      · simp [h.receivedRight, hrights]
      · rw [lefts_append, hlefts, List.filterMap_append, hdelivered, h.receivedLeft]
        cases hr : pa.receives e <;> simp [hr]
  | inr e =>
      obtain ⟨q, s, acts, hq, hs, rfl, rfl⟩ := duplex_step_inr.mp hstep
      obtain ⟨haccepted, hdelivered⟩ := Fifo.take_front_eq_some hq
      have hlefts : lefts [(.inr e : ε ⊕ ζ)] = [] := rfl
      have hrights : rights [(.inr e : ε ⊕ ζ)] = [e] := rfl
      refine ⟨?_, ?_, ?_, ?_, ?_, ?_⟩
      · rw [lefts_append, lefts_append, hlefts, lefts_map_inr, List.append_nil,
          List.append_nil]
        exact h.left
      · rw [rights_append, rights_append, hrights, rights_map_inr]
        exact Machine.run_snoc.mpr ⟨_, _, _, h.right, hs, rfl⟩
      · simp [haccepted, h.sentRight]
      · simp [h.sentLeft]
      · rw [rights_append, hrights, List.filterMap_append, hdelivered, h.receivedRight]
        cases hr : pb.receives e <;> simp [hr]
      · simp [h.receivedLeft, hlefts]

end

end RtcVpn
