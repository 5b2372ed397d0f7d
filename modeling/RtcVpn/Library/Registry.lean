import RtcVpn.Library.Machine
import Mathlib.Data.List.AList

/-!
# Registries of numbered objects

An owner makes objects one after another, gives each the next id of a counter,
and keeps the ones in use in a map from ids to objects, which it overwrites when
an object is made and from which it erases an object's id when the object
closes. Objects are named by the order in which they were made. `ProperlyOwned`
says that the map is what it should be; it stays so exactly as long as no object
is given the id of one that is still alive.
-/

namespace RtcVpn

/-- The counter, the map, the id of each object made and the objects that have closed. -/
structure Registry (κ : Type) where
  counter : κ
  entries : AList (fun _ : κ => Nat) := ∅
  made : List κ := []
  closed : List Nat := []

/-- An object is made, or one closes. -/
inductive RegistryEvent where
  | accept
  | close (object : Nat)
  deriving DecidableEq, Repr

/-- What an event does to the map: the object that was there is replaced or removed. -/
inductive RegistryAction (κ : Type) where
  | inserted (id : κ) (object : Nat) (replaced : Option Nat)
  | erased (id : κ) (object : Nat) (removed : Option Nat)
  deriving DecidableEq, Repr

namespace Registry

variable {κ : Type}

/-- The object has been made and has not closed. -/
def Alive (r : Registry κ) (object : Nat) : Prop := object < r.made.length ∧ object ∉ r.closed

instance (r : Registry κ) (object : Nat) : Decidable (r.Alive object) :=
  inferInstanceAs (Decidable (_ ∧ _))

variable [DecidableEq κ]

/-- Make an object with the next id. -/
def accept (next : κ → κ) (r : Registry κ) : Registry κ where
  counter := next r.counter
  entries := r.entries.insert (next r.counter) r.made.length
  made := r.made ++ [next r.counter]
  closed := r.closed

/-- Close an object that has an id. -/
def close (r : Registry κ) (object : Nat) (id : κ) : Registry κ :=
  { r with entries := r.entries.erase id, closed := object :: r.closed }

end Registry

open Registry

variable {κ : Type} [DecidableEq κ]

/-- The owner as a machine. An object closes once. -/
def registry (next : κ → κ) : Machine (Registry κ) RegistryEvent (RegistryAction κ) where
  step r
    | .accept =>
        let id := next r.counter
        some (r.accept next, [.inserted id r.made.length (r.entries.lookup id)])
    | .close object =>
        match r.made[object]? with
        | none => none
        | some id =>
            if object ∈ r.closed then none
            else some (r.close object id, [.erased id object (r.entries.lookup id)])

namespace Registry

variable {next : κ → κ}

/-- The live objects have different ids and are registered under them, nothing else is registered,
no insertion has replaced an object, and the close of an object has removed that object. -/
structure ProperlyOwned (out : List (RegistryAction κ)) (r : Registry κ) : Prop where
  distinct : ∀ j k id, r.Alive j → r.Alive k → r.made[j]? = some id → r.made[k]? = some id → j = k
  registered : ∀ k id, r.Alive k → r.made[k]? = some id → r.entries.lookup id = some k
  live : ∀ id k, r.entries.lookup id = some k → r.Alive k ∧ r.made[k]? = some id
  inserted : ∀ id k replaced, .inserted id k replaced ∈ out → replaced = none
  erased : ∀ id k removed, .erased id k removed ∈ out → removed = some k

/-- No live object has the id the next object will get. -/
def NextIsFree (next : κ → κ) (r : Registry κ) : Prop :=
  ∀ k, r.Alive k → r.made[k]? ≠ some (next r.counter)

theorem properly_owned_start (counter : κ) :
    ProperlyOwned ([] : List (RegistryAction κ)) ⟨counter, ∅, [], []⟩ where
  distinct j k id hj := absurd hj.1 (Nat.not_lt_zero j)
  registered k id hk := absurd hk.1 (Nat.not_lt_zero k)
  live id k h := by simp at h
  inserted id k replaced h := by simp at h
  erased id k removed h := by simp at h

/-! ## Steps -/

/-- What one step does. -/
theorem step_cases {r t : Registry κ} {e : RegistryEvent} {new : List (RegistryAction κ)}
    (h : (registry next).step r e = some (t, new)) :
    (e = .accept ∧ t = r.accept next ∧
      new = [.inserted (next r.counter) r.made.length (r.entries.lookup (next r.counter))]) ∨
    ∃ k id, e = .close k ∧ r.Alive k ∧ r.made[k]? = some id ∧ t = r.close k id ∧
      new = [.erased id k (r.entries.lookup id)] := by
  cases e with
  | accept =>
      cases h
      exact .inl ⟨rfl, rfl, rfl⟩
  | close k =>
      cases hid : r.made[k]? with
      | none => simp [registry, hid] at h
      | some id =>
          by_cases hclosed : k ∈ r.closed
          · simp [registry, hid, hclosed] at h
          · simp only [registry, hid, if_neg hclosed, Option.some.injEq, Prod.mk.injEq] at h
            obtain ⟨rfl, rfl⟩ := h
            exact .inr ⟨k, id, rfl, ⟨(List.getElem?_eq_some_iff.mp hid).1, hclosed⟩, hid, rfl, rfl⟩

/-- A live object can close. -/
theorem step_close {r : Registry κ} {k : Nat} {id : κ} (hk : r.Alive k)
    (hid : r.made[k]? = some id) :
    (registry next).step r (.close k) =
      some (r.close k id, [.erased id k (r.entries.lookup id)]) := by
  simp only [registry, hid, if_neg hk.2]

/-- The objects alive after one is made. -/
theorem alive_accept {r : Registry κ} {k : Nat} (hclosed : ∀ j ∈ r.closed, j < r.made.length) :
    (r.accept next).Alive k ↔ r.Alive k ∨ k = r.made.length := by
  simp only [Alive, accept, List.length_append, List.length_singleton]
  constructor
  · rintro ⟨hlt, hnot⟩
    by_cases hk : k = r.made.length
    · exact .inr hk
    · exact .inl ⟨by omega, hnot⟩
  · rintro (⟨hlt, hnot⟩ | rfl)
    · exact ⟨by omega, hnot⟩
    · exact ⟨by omega, fun hmem => absurd (hclosed _ hmem) (Nat.lt_irrefl _)⟩

/-- The objects alive after one has closed. -/
theorem alive_close {r : Registry κ} {j k : Nat} {id : κ} :
    (r.close j id).Alive k ↔ r.Alive k ∧ k ≠ j := by
  simp only [Alive, close, List.mem_cons, not_or]
  tauto

/-- The id of an object made before. -/
theorem made_accept_of_alive {r : Registry κ} {k : Nat} (hk : r.Alive k) :
    (r.accept next).made[k]? = r.made[k]? :=
  List.getElem?_append_left hk.1

/-- The id of the object just made. -/
theorem made_accept_length {r : Registry κ} :
    (r.accept next).made[r.made.length]? = some (next r.counter) := by
  simp [accept]

/-- Making an object with an id that is free. -/
theorem ProperlyOwned.accept {r : Registry κ} {out : List (RegistryAction κ)}
    (h : ProperlyOwned out r) (hclosed : ∀ j ∈ r.closed, j < r.made.length)
    (hfree : r.NextIsFree next) :
    ProperlyOwned
      (out ++ [.inserted (next r.counter) r.made.length (r.entries.lookup (next r.counter))])
      (r.accept next) := by
  have hnone : r.entries.lookup (next r.counter) = none := by
    cases hlookup : r.entries.lookup (next r.counter) with
    | none => rfl
    | some k => exact absurd (h.live _ k hlookup).2 (hfree k (h.live _ k hlookup).1)
  have hregistered : ∀ k id, (r.accept next).Alive k → (r.accept next).made[k]? = some id →
      (r.accept next).entries.lookup id = some k := by
    intro k id hk hid
    rcases (alive_accept hclosed).mp hk with hold | rfl
    · rw [made_accept_of_alive hold] at hid
      have hne : id ≠ next r.counter := fun heq => hfree k hold (heq ▸ hid)
      exact (AList.lookup_insert_ne hne).trans (h.registered k id hold hid)
    · rw [made_accept_length] at hid
      cases hid
      exact AList.lookup_insert r.entries
  refine ⟨fun j k id hj hk hjid hkid => ?_, hregistered, fun id k hlookup => ?_,
    fun id k replaced hmem => ?_, fun id k removed hmem => ?_⟩
  · have hj' := hregistered j id hj hjid
    rw [hregistered k id hk hkid] at hj'
    exact (Option.some.inj hj').symm
  · by_cases hid : id = next r.counter
    · subst hid
      have hk : (r.entries.insert (next r.counter) r.made.length).lookup (next r.counter) =
          some k := hlookup
      rw [AList.lookup_insert] at hk
      cases hk
      exact ⟨(alive_accept hclosed).mpr (.inr rfl), made_accept_length⟩
    · have hk : (r.entries.insert (next r.counter) r.made.length).lookup id = some k := hlookup
      rw [AList.lookup_insert_ne hid] at hk
      obtain ⟨halive, hmade⟩ := h.live id k hk
      exact ⟨(alive_accept hclosed).mpr (.inl halive), (made_accept_of_alive halive).trans hmade⟩
  · rcases List.mem_append.mp hmem with hmem | hmem
    · exact h.inserted id k replaced hmem
    · rw [List.mem_singleton] at hmem
      cases hmem
      exact hnone
  · rcases List.mem_append.mp hmem with hmem | hmem
    · exact h.erased id k removed hmem
    · simp at hmem

/-- Closing an object removes it and leaves the others as they are. -/
theorem ProperlyOwned.close {r : Registry κ} {out : List (RegistryAction κ)}
    (h : ProperlyOwned out r) {k : Nat} {id : κ} (hk : r.Alive k) (hid : r.made[k]? = some id) :
    ProperlyOwned (out ++ [.erased id k (r.entries.lookup id)]) (r.close k id) := by
  have hown : r.entries.lookup id = some k := h.registered k id hk hid
  refine ⟨fun i j i' hi hj hii hji => ?_, fun j i hj hji => ?_, fun i j hlookup => ?_,
    fun i j replaced hmem => ?_, fun i j removed hmem => ?_⟩
  · exact h.distinct i j i' (alive_close.mp hi).1 (alive_close.mp hj).1 hii hji
  · obtain ⟨hlive, hne⟩ := alive_close.mp hj
    have hne' : i ≠ id := fun heq => hne (h.distinct j k id hlive hk (heq ▸ hji) hid)
    exact (AList.lookup_erase_ne hne').trans (h.registered j i hlive hji)
  · have hj : (r.entries.erase id).lookup i = some j := hlookup
    by_cases hi : i = id
    · rw [hi, AList.lookup_erase] at hj
      cases hj
    · rw [AList.lookup_erase_ne hi] at hj
      obtain ⟨hlive, hmade⟩ := h.live i j hj
      refine ⟨alive_close.mpr ⟨hlive, fun heq => hi ?_⟩, hmade⟩
      subst heq
      exact Option.some.inj (hmade.symm.trans hid)
  · rcases List.mem_append.mp hmem with hmem | hmem
    · exact h.inserted i j replaced hmem
    · simp at hmem
  · rcases List.mem_append.mp hmem with hmem | hmem
    · exact h.erased i j removed hmem
    · rw [List.mem_singleton] at hmem
      cases hmem
      exact hown

/-! ## Runs -/

/-- Only objects that have been made have closed. -/
theorem closed_of_run {counter : κ} {es : List RegistryEvent} {r : Registry κ}
    {out : List (RegistryAction κ)}
    (hrun : (registry next).run ⟨counter, ∅, [], []⟩ es = some (r, out)) :
    ∀ j ∈ r.closed, j < r.made.length := by
  refine Machine.run_invariant (I := fun r => ∀ j ∈ r.closed, j < r.made.length) ?_ (by simp) hrun
  intro s e t new hs hstep j hj
  rcases step_cases hstep with ⟨rfl, rfl, _⟩ | ⟨k, id, rfl, hk, _, rfl, _⟩
  · have hlt := hs j hj
    simp only [accept, List.length_append]
    omega
  · rcases List.mem_cons.mp hj with rfl | hj
    · exact hk.1
    · exact hs j hj

/-- The objects that have closed are those whose close is in the run. -/
theorem mem_closed_iff {counter : κ} {es : List RegistryEvent} {r : Registry κ}
    {out : List (RegistryAction κ)} {j : Nat}
    (hrun : (registry next).run ⟨counter, ∅, [], []⟩ es = some (r, out)) :
    j ∈ r.closed ↔ .close j ∈ es := by
  refine Machine.run_induction (P := fun es _ r => j ∈ r.closed ↔ .close j ∈ es) (by simp) ?_ hrun
  intro es out s e t new hs ih hstep
  rcases step_cases hstep with ⟨rfl, rfl, -⟩ | ⟨k, id, rfl, -, -, rfl, -⟩
  · simpa [accept] using ih
  · simp [close, ih, or_comm]

/-- The map is as it should be all along a run if and only if every object made in it gets an id
that no live object has. -/
theorem properly_owned_iff_free {counter : κ} {es : List RegistryEvent} {r : Registry κ}
    {out : List (RegistryAction κ)}
    (hrun : (registry next).run ⟨counter, ∅, [], []⟩ es = some (r, out)) :
    (∀ before after s mid, es = before ++ after →
        (registry next).run ⟨counter, ∅, [], []⟩ before = some (s, mid) → ProperlyOwned mid s) ↔
      (registry next).Meets (fun _ _ s e => e = .accept → s.NextIsFree next)
        ⟨counter, ∅, [], []⟩ es := by
  refine Machine.forall_reached_iff_meets (P := fun _ mid s => ProperlyOwned mid s)
    (properly_owned_start counter) ?_ hrun
  intro before mid s e t new hs hP hstep
  have hclosed := closed_of_run hs
  rcases step_cases hstep with ⟨rfl, rfl, rfl⟩ | ⟨k, id, rfl, hk, hid, rfl, rfl⟩
  · constructor
    · intro hafter _ k hk hid
      have hlt := hk.1
      have heq := hafter.distinct k s.made.length _ ((alive_accept hclosed).mpr (.inl hk))
        ((alive_accept hclosed).mpr (.inr rfl)) ((made_accept_of_alive hk).trans hid)
        made_accept_length
      omega
    · exact fun hfree => hP.accept hclosed (hfree rfl)
  · constructor
    · intro _ h
      cases h
    · exact fun _ => hP.close hk hid

end Registry

end RtcVpn
