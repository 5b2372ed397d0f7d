import Mathlib.Data.List.Basic
import Mathlib.Tactic.Common

/-!
# The elements of a list that are selected

Selecting elements of a list renumbers them: an element that is selected stands
in the selection at the number of those selected before it. Changing it, or
another one, is changing it in the selection, or nothing.
-/

namespace RtcVpn

namespace Selection

variable {α β : Type} {p : α → Bool}

/-- The index in the selection of what stands at an index of the list. -/
def number (p : α → Bool) (xs : List α) (k : Nat) : Nat := (xs.take k).countP p

/-- What stands at an index is selected. -/
def selects (p : α → Bool) (xs : List α) (k : Nat) : Bool := xs[k]?.any p

theorem selects_iff {xs : List α} {k : Nat} {x : α} (hx : xs[k]? = some x) :
    selects p xs k = p x := by
  rw [selects, hx]
  rfl

theorem number_length (xs : List α) : number p xs xs.length = (xs.filter p).length := by
  rw [number, List.take_length, List.countP_eq_length_filter]

theorem number_map (f : β → α) (xs : List β) (k : Nat) :
    number p (xs.map f) k = number (p ∘ f) xs k := by
  rw [number, ← List.map_take, List.countP_map, number]

/-- What comes later does not change the number. -/
theorem prefix_number {xs ys : List α} (h : xs <+: ys) {k : Nat} (hk : k ≤ xs.length) :
    number p ys k = number p xs k := by
  obtain ⟨zs, rfl⟩ := h
  rw [number, number, List.take_append_of_le_length hk]

theorem prefix_selects {xs ys : List α} (h : xs <+: ys) {k : Nat} (hk : k < xs.length) :
    selects p ys k = selects p xs k := by
  obtain ⟨zs, rfl⟩ := h
  rw [selects, selects, List.getElem?_append_left hk]

theorem number_succ (y : α) (ys : List α) (k : Nat) :
    number p (y :: ys) (k + 1) = number p ys k + if p y then 1 else 0 := by
  rw [number, List.take_succ_cons, List.countP_cons, number]

/-- An element that is selected stands in the selection at its number. -/
theorem get_number {xs : List α} {k : Nat} {x : α} (hx : xs[k]? = some x) (hp : p x = true) :
    (xs.filter p)[number p xs k]? = some x := by
  induction xs generalizing k with
  | nil => cases hx
  | cons y ys ih =>
      cases k with
      | zero =>
          cases hx
          rw [List.filter_cons_of_pos hp]
          rfl
      | succ k =>
          rw [number_succ]
          by_cases hy : p y = true
          · rw [List.filter_cons_of_pos hy, if_pos hy, List.getElem?_cons_succ]
            exact ih hx
          · rw [List.filter_cons_of_neg hy, if_neg hy]
            exact ih hx

/-- The numbers of two elements that are selected are different. -/
theorem number_lt {xs : List α} {j k : Nat} {x : α} (hx : xs[j]? = some x) (hp : p x = true)
    (hjk : j < k) : number p xs j < number p xs k := by
  have hlt := (List.getElem?_eq_some_iff.mp hx).1
  have hle : number p xs (j + 1) ≤ number p xs k := by
    have htake : xs.take (j + 1) <+: xs.take k := List.take_prefix_take_left (by omega)
    exact htake.sublist.countP_le
  have hsucc : number p xs (j + 1) = number p xs j + 1 := by
    rw [number, List.take_add_one, hx, List.countP_append, number]
    simp [hp]
  omega

theorem number_ne {xs : List α} {j k : Nat} (hj : selects p xs j = true)
    (hk : selects p xs k = true) (hjk : j ≠ k) : number p xs j ≠ number p xs k := by
  obtain ⟨x, hx, hpx⟩ := (Option.any_eq_true p xs[j]?).mp hj
  obtain ⟨y, hy, hpy⟩ := (Option.any_eq_true p xs[k]?).mp hk
  rcases Nat.lt_or_gt_of_ne hjk with hlt | hgt
  · exact Nat.ne_of_lt (number_lt hx hpx hlt)
  · exact (Nat.ne_of_lt (number_lt hy hpy hgt)).symm

/-- Changing an element that is selected, or one that is not. -/
theorem filter_modify {f : α → α} (hf : ∀ x, p (f x) = p x) (xs : List α) (k : Nat) :
    (xs.modify k f).filter p =
      if selects p xs k then (xs.filter p).modify (number p xs k) f else xs.filter p := by
  induction xs generalizing k with
  | nil => simp [selects]
  | cons y ys ih =>
      cases k with
      | zero =>
          by_cases hy : p y = true
          · rw [if_pos (by simpa [selects] using hy), List.filter_cons_of_pos hy]
            show (f y :: ys).filter p = _
            rw [List.filter_cons_of_pos ((hf y).trans hy)]
            rfl
          · rw [if_neg (by simpa [selects] using hy), List.filter_cons_of_neg hy]
            show (f y :: ys).filter p = _
            rw [List.filter_cons_of_neg (by rw [hf]; exact hy)]
      | succ k =>
          have hselects : selects p (y :: ys) (k + 1) = selects p ys k := rfl
          rw [List.modify_succ_cons, hselects, number_succ]
          by_cases hy : p y = true
          · rw [List.filter_cons_of_pos hy, List.filter_cons_of_pos hy, ih, if_pos hy]
            split
            · rw [List.modify_succ_cons]
            · rfl
          · rw [List.filter_cons_of_neg hy, List.filter_cons_of_neg hy, ih, if_neg hy, Nat.add_zero]

end Selection

end RtcVpn
