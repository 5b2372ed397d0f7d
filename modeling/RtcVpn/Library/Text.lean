import Mathlib.Data.List.DropRight
import Mathlib.Data.List.TakeWhile
import Mathlib.Data.Nat.Digits.Defs
import Mathlib.Tactic.Common

/-!
# Strings as bytes

The string functions of the C and C++ libraries on strings given as lists of
bytes: literals, numbers printed in decimal and in hexadecimal and read back,
comparison up to the case of ASCII letters, `std::stoi`, `find`, and what is
left of a string without the characters of a kind at its ends.
-/

namespace RtcVpn

/-- The bytes of a literal. -/
def text (s : String) : List UInt8 := s.toUTF8.data.toList

/-- `std::to_string` and `%d` of a number that is not negative. -/
def decimal (n : Nat) : List UInt8 := (Nat.toDigits 10 n).map fun c => UInt8.ofNat c.toNat

/-- A number below `10 ^ e` is printed with `e` digits at most. -/
theorem decimal_length {n e : Nat} (he : 0 < e) (hn : n < 10 ^ e) : (decimal n).length ≤ e := by
  rw [decimal, List.length_map]
  exact Nat.toDigits_length 10 n e he hn

/-- `%zx`. -/
def hexadecimal (n : Nat) : List UInt8 := (Nat.toDigits 16 n).map fun c => UInt8.ofNat c.toNat

/-- `std::tolower` in the C locale. -/
def toLower (c : UInt8) : UInt8 := if 0x41 ≤ c ∧ c ≤ 0x5A then c + 0x20 else c

/-- `std::isspace` in the C locale. -/
def isSpace (c : UInt8) : Bool := c == 0x20 || (0x09 ≤ c && c ≤ 0x0D)

/-- `std::isdigit`. -/
def isDigit (c : UInt8) : Bool := 0x30 ≤ c && c ≤ 0x39

/-- The number a list of decimal digits stands for. -/
def digitsValue (ds : List UInt8) : Nat := ds.foldl (fun n d => 10 * n + (d.toNat - 0x30)) 0

/-- `std::stoi`: leading space, a sign, and the longest list of digits behind it. `none` is the
exception `std::invalid_argument` when there is no digit and `std::out_of_range` when the number
does not fit. -/
def stoi (s : List UInt8) : Option Int :=
  let s := s.dropWhile isSpace
  let (negative, s) := match s with
    | 0x2D :: rest => (true, rest)
    | 0x2B :: rest => (false, rest)
    | _ => (false, s)
  let digits := s.takeWhile isDigit
  let value : Int := if negative then -digitsValue digits else digitsValue digits
  if digits.isEmpty then none
  else if -2147483648 ≤ value ∧ value ≤ 2147483647 then some value
  else none

/-- `find` of a character: the part before its first occurrence and the part behind it. -/
def splitAtFirst (c : UInt8) (s : List UInt8) : Option (List UInt8 × List UInt8) :=
  if c ∈ s then some (s.takeWhile (· != c), (s.dropWhile (· != c)).drop 1) else none

example : stoi (text " +8080/") = some 8080 := by decide

example : splitAtFirst 0x3A (text "a:1:2") = some (text "a", text "1:2") := by decide

/-! ## Digits -/

/-- What is printed in a base is read back in it. -/
theorem foldl_toDigits {b : Nat} (hb : 1 < b) {f : Char → Nat}
    (hf : ∀ d < b, f (Nat.digitChar d) = d) (n : Nat) :
    (Nat.toDigits b n).foldl (fun v c => b * v + f c) 0 = n := by
  induction n using Nat.strong_induction_on with
  | h n ih =>
      rw [Nat.toDigits_eq_if hb]
      split
      · next hlt => simp [hf n hlt]
      · next hge =>
          have hdiv : n / b < n := Nat.div_lt_self (by omega) hb
          have hmod : n % b < b := Nat.mod_lt _ (by omega)
          rw [List.foldl_append, ih (n / b) hdiv]
          simp [hf _ hmod, Nat.div_add_mod]

/-- Every printed digit is one of the base. -/
theorem mem_toDigits {b n : Nat} (hb : 1 < b) {c : Char} (h : c ∈ Nat.toDigits b n) :
    ∃ d < b, c = Nat.digitChar d := by
  induction n using Nat.strong_induction_on with
  | h n ih =>
      rw [Nat.toDigits_eq_if hb] at h
      split at h
      · next hlt => exact ⟨n, hlt, List.mem_singleton.mp h⟩
      · next hge =>
          rcases List.mem_append.mp h with h | h
          · exact ih (n / b) (Nat.div_lt_self (by omega) hb) h
          · exact ⟨n % b, Nat.mod_lt _ (by omega), List.mem_singleton.mp h⟩

theorem digitsValue_decimal (n : Nat) : digitsValue (decimal n) = n := by
  have hdigit : ∀ d < 10, (UInt8.ofNat (Nat.digitChar d).toNat).toNat - 0x30 = d := by decide
  rw [digitsValue, decimal, List.foldl_map]
  exact foldl_toDigits (by decide) hdigit n

theorem isDigit_of_mem_decimal {n : Nat} {c : UInt8} (h : c ∈ decimal n) : isDigit c = true := by
  have hdigit : ∀ d < 10, isDigit (UInt8.ofNat (Nat.digitChar d).toNat) = true := by decide
  obtain ⟨c, hc, rfl⟩ := List.mem_map.mp h
  obtain ⟨d, hd, rfl⟩ := mem_toDigits (by decide) hc
  exact hdigit d hd

/-- Only zero is printed with a zero in front. -/
theorem decimal_head {n : Nat} (h : (decimal n).head? = some 0x30) : n = 0 := by
  have hdigit : ∀ d < 10, UInt8.ofNat (Nat.digitChar d).toNat = 0x30 → d = 0 := by decide
  induction n using Nat.strong_induction_on with
  | h n ih =>
      rw [decimal, Nat.toDigits_eq_if (by decide)] at h
      split at h
      · next hlt => exact hdigit n hlt (by simpa using h)
      · next hge =>
          have hfront : (decimal (n / 10)).head? = some 0x30 := by
            rw [List.map_append, List.head?_append_of_ne_nil _
              (by simp)] at h
            exact h
          have := ih (n / 10) (Nat.div_lt_self (by omega) (by decide)) hfront
          omega

/-- What a hexadecimal digit stands for. -/
def hexDigit (c : UInt8) : Option Nat :=
  if isDigit c then some (c.toNat - 0x30)
  else if 0x61 ≤ toLower c ∧ toLower c ≤ 0x66 then some ((toLower c).toNat - 0x57)
  else none

/-- The number a list of hexadecimal digits stands for. -/
def hexValue (ds : List UInt8) : Nat := ds.foldl (fun n d => 16 * n + (hexDigit d).getD 0) 0

theorem hexValue_hexadecimal (n : Nat) : hexValue (hexadecimal n) = n := by
  have hdigit : ∀ d < 16, (hexDigit (UInt8.ofNat (Nat.digitChar d).toNat)).getD 0 = d := by decide
  rw [hexValue, hexadecimal, List.foldl_map]
  exact foldl_toDigits (by decide) hdigit n

theorem hexDigit_of_mem_hexadecimal {n : Nat} {c : UInt8} (h : c ∈ hexadecimal n) :
    (hexDigit c).isSome := by
  have hdigit : ∀ d < 16, (hexDigit (UInt8.ofNat (Nat.digitChar d).toNat)).isSome := by decide
  obtain ⟨c, hc, rfl⟩ := List.mem_map.mp h
  obtain ⟨d, hd, rfl⟩ := mem_toDigits (by decide) hc
  exact hdigit d hd

theorem hexadecimal_ne_nil (n : Nat) : hexadecimal n ≠ [] := by
  rw [hexadecimal, Ne, List.map_eq_nil_iff]
  exact Nat.toDigits_ne_nil

theorem decimal_three {n : Nat} (h : 100 ≤ n) (h' : n < 1000) : (decimal n).length = 3 := by
  have h1 : (decimal n).length ≤ 3 := decimal_length (by decide) h'
  have h2 : ¬ (Nat.toDigits 10 n).length ≤ 2 := by
    rw [Nat.length_toDigits_le_iff (by decide) (by decide)]
    omega
  rw [decimal, List.length_map] at h1 ⊢
  omega

theorem splitAtFirst_append {c : UInt8} {a : List UInt8} (h : c ∉ a) (b : List UInt8) :
    splitAtFirst c (a ++ c :: b) = some (a, b) := by
  have hall : ∀ x ∈ a, (x != c) = true := by
    intro x hx
    simp only [bne_iff_ne, ne_eq]
    rintro rfl
    exact h hx
  rw [splitAtFirst, if_pos (by simp), List.takeWhile_append_of_pos hall,
    List.dropWhile_append_of_pos hall, List.takeWhile_cons_of_neg (by simp),
    List.dropWhile_cons_of_neg (by simp), List.append_nil]
  rfl

theorem splitAtFirst_eq_none {c : UInt8} {s : List UInt8} : splitAtFirst c s = none ↔ c ∉ s := by
  unfold splitAtFirst
  split <;> simp_all

/-- What is split has the character between its parts, for the first time. -/
theorem splitAtFirst_eq_some {c : UInt8} {s a b : List UInt8} (h : splitAtFirst c s = some (a, b)) :
    s = a ++ c :: b ∧ c ∉ a := by
  have hmem : c ∈ s := by
    by_contra hnone
    rw [splitAtFirst_eq_none.mpr hnone] at h
    cases h
  obtain ⟨a', b', rfl, ha'⟩ := List.eq_append_cons_of_mem hmem
  rw [splitAtFirst_append ha'] at h
  cases h
  exact ⟨rfl, ha'⟩

/-! ## Ends -/

section

variable {α : Type} {p : α → Bool}

/-- A list without the elements of a kind at its ends. -/
def strip (p : α → Bool) (s : List α) : List α := (s.rdropWhile p).dropWhile p

/-- Stripping twice changes nothing. -/
theorem strip_strip (s : List α) : strip p (strip p s) = strip p s := by
  have hlast : (strip p s).rdropWhile p = strip p s := by
    rw [List.rdropWhile_eq_self_iff]
    intro hne
    have hsuffix : strip p s <:+ s.rdropWhile p := List.dropWhile_suffix p
    have hrest : s.rdropWhile p ≠ [] := hsuffix.ne_nil hne
    rw [hsuffix.getLast hne]
    exact List.rdropWhile_last_not p s hrest
  show ((strip p s).rdropWhile p).dropWhile p = strip p s
  rw [hlast]
  exact List.dropWhile_idempotent p _

/-- A change of the elements that keeps their kind comes before or after stripping. -/
theorem strip_map {f : α → α} (hf : ∀ a, p (f a) = p a) (s : List α) :
    strip p (s.map f) = (strip p s).map f := by
  have hkind : p ∘ f = p := funext hf
  simp only [strip, List.rdropWhile, ← List.map_reverse, List.dropWhile_map, hkind]

/-- Whether there is anything to strip is told by the length. -/
theorem strip_eq_self_iff (s : List α) : strip p s = s ↔ (strip p s).length = s.length := by
  have hsublist : (strip p s).Sublist s :=
    (List.dropWhile_sublist p).trans (List.rdropWhile_prefix p s).sublist
  exact ⟨congrArg List.length, hsublist.eq_of_length⟩

end

end RtcVpn
