import Mathlib.Algebra.Order.Field.Basic
import Mathlib.Algebra.Order.Ring.Rat
import Mathlib.Tactic.Linarith
import Mathlib.Tactic.NormNum
import TaskDriver.Number.ByteSize
import TaskDriver.Proofs.Number.Digits

/-! What the text of a size says: a number of the largest unit that is not greater than the size,
rounded to one decimal. The unit goes by the size and not by the number that is shown, so that a
size just below the next unit is shown as 1024.0 of the smaller one. -/
namespace TaskDriver.Number

/-! ## Rounding to the nearest number -/

/-- `m` is the natural number nearest to `x`; of two, the even one. -/
structure NearestEven (x : ℚ) (m : Nat) : Prop where
  near : |x - m| ≤ 1 / 2
  tie : |x - m| = 1 / 2 → Even m

namespace NearestEven

variable {x : ℚ} {m k : Nat}

theorem le_of_le (h : NearestEven x m) (hx : x ≤ k) : m ≤ k := by
  have hm := (abs_le.mp h.near).1
  have : (m : ℚ) < k + 1 := by linarith
  exact Nat.lt_succ_iff.mp (by exact_mod_cast this)

/-- From half a unit below an even number on, rounding goes up to it. -/
theorem lt_even_iff (h : NearestEven x m) (hk : Even k) : m < k ↔ x < k - 1 / 2 := by
  obtain ⟨hlow, hhigh⟩ := abs_le.mp h.near
  constructor
  · intro hm
    have hm' : (m : ℚ) + 1 ≤ k := by exact_mod_cast hm
    rcases lt_or_ge x (k - 1 / 2) with hx | hx
    · exact hx
    · -- Only the number just before is left, and it is odd.
      have hx' : x - m = 1 / 2 := by linarith
      have hmk : m + 1 = k := by
        have : (m : ℚ) + 1 = k := by linarith
        exact_mod_cast this
      have hodd : ¬ Even m := Nat.even_add_one.mp (hmk ▸ hk)
      exact absurd (h.tie (by rw [hx']; norm_num)) hodd
  · intro hx
    have : (m : ℚ) < k := by linarith
    exact_mod_cast this

end NearestEven

/-- The quotient is cut off or goes up to the next number, whichever is nearer. -/
theorem roundDiv_cases (n d : Nat) :
    (2 * (n % d) ≤ d ∧ roundDiv n d = n / d ∧ (2 * (n % d) = d → Even (n / d))) ∨
      (d ≤ 2 * (n % d) ∧ roundDiv n d = n / d + 1 ∧ (2 * (n % d) = d → Even (n / d + 1))) := by
  simp only [roundDiv]
  split_ifs with hbelow habove heven
  · exact .inl ⟨hbelow.le, rfl, fun h => absurd h hbelow.ne⟩
  · exact .inr ⟨habove.le, rfl, fun h => absurd h habove.ne'⟩
  · exact .inl ⟨Nat.not_lt.mp habove, rfl, fun _ => Nat.even_iff.mpr heven⟩
  · refine .inr ⟨Nat.not_lt.mp hbelow, rfl, fun _ => ?_⟩
    exact Nat.even_add_one.mpr fun h => heven (Nat.even_iff.mp h)

/-- A quotient is the one that is cut off and a fraction, which is the rest in parts of the
divisor. -/
theorem exists_fraction (n : Nat) {d : Nat} (hd : 0 < d) :
    ∃ f : ℚ, (n : ℚ) / d = (n / d : Nat) + f ∧ (0 ≤ f ∧ f < 1) ∧
      (f ≤ 1 / 2 ↔ 2 * (n % d) ≤ d) ∧ (1 / 2 ≤ f ↔ d ≤ 2 * (n % d)) := by
  have hd' : (0 : ℚ) < d := by exact_mod_cast hd
  refine ⟨(n % d : Nat) / d, ?_, ⟨by positivity, ?_⟩, ?_, ?_⟩
  · rw [div_eq_iff hd'.ne', add_mul, div_mul_cancel₀ _ hd'.ne', mul_comm]
    exact_mod_cast (Nat.div_add_mod n d).symm
  · rw [div_lt_one hd']
    exact_mod_cast Nat.mod_lt n hd
  · rw [div_le_div_iff₀ hd' two_pos, one_mul, mul_comm]
    exact_mod_cast Iff.rfl
  · rw [div_le_div_iff₀ two_pos hd', one_mul, mul_comm]
    exact_mod_cast Iff.rfl

theorem nearestEven_roundDiv (n : Nat) {d : Nat} (hd : 0 < d) :
    NearestEven (n / d) (roundDiv n d) := by
  obtain ⟨f, hf, ⟨hpos, hone⟩, hbelow, habove⟩ := exists_fraction n hd
  have hhalf : f = 1 / 2 → 2 * (n % d) = d := fun h =>
    Nat.le_antisymm (hbelow.mp h.le) (habove.mp h.ge)
  rcases roundDiv_cases n d with ⟨hle, hm, htie⟩ | ⟨hle, hm, htie⟩
  · have hdist : |(n : ℚ) / d - roundDiv n d| = f := by
      rw [hm, hf, add_sub_cancel_left, abs_of_nonneg hpos]
    refine ⟨by rw [hdist]; exact hbelow.mpr hle, fun h => ?_⟩
    rw [hm]
    exact htie (hhalf (hdist ▸ h))
  · have hdist : |(n : ℚ) / d - roundDiv n d| = 1 - f := by
      rw [hm, hf, Nat.cast_add_one, add_sub_add_left_eq_sub, abs_sub_comm,
        abs_of_nonneg (by linarith)]
    refine ⟨by rw [hdist]; linarith [habove.mpr hle], fun h => ?_⟩
    rw [hm]
    exact htie (hhalf (by linarith [hdist ▸ h]))

/-! ## Units -/

inductive SizeUnit
  | byte
  | kilobyte
  | megabyte
  | gigabyte
  deriving DecidableEq

namespace SizeUnit

/-- The number of bytes in a unit. -/
def size : SizeUnit → Nat
  | byte => 1
  | kilobyte => 1024
  | megabyte => 1024 ^ 2
  | gigabyte => 1024 ^ 3

def symbol : SizeUnit → String
  | byte => "B"
  | kilobyte => "KB"
  | megabyte => "MB"
  | gigabyte => "GB"

/-- Only bytes are shown as whole numbers. -/
def decimals : SizeUnit → Nat
  | byte => 0
  | _ => 1

theorem size_pos (u : SizeUnit) : 0 < u.size := by
  cases u <;> decide

/-- The unit is the largest one that is not greater than `n`; nothing is counted in bytes. -/
structure Fits (u : SizeUnit) (n : Nat) : Prop where
  le : u = byte ∨ u.size ≤ n
  greatest : ∀ v : SizeUnit, v.size ≤ n → v.size ≤ u.size

theorem size_injective {u v : SizeUnit} (h : u.size = v.size) : u = v := by
  cases u <;> cases v <;> first | rfl | exact absurd h (by decide)

theorem Fits.unique {u v : SizeUnit} {n : Nat} (h : u.Fits n) (h' : v.Fits n) : u = v := by
  have le : ∀ {u v : SizeUnit}, u.Fits n → v.Fits n → v.size ≤ u.size := by
    intro u v hu hv
    rcases hv.le with rfl | hle
    · exact u.size_pos
    · exact hu.greatest v hle
  exact size_injective (Nat.le_antisymm (le h' h) (le h h'))

theorem Fits.lt {u : SizeUnit} {n : Nat} (h : u.Fits n) (hu : u ≠ gigabyte) :
    n < 1024 * u.size := by
  by_contra hn
  have next : ∀ v : SizeUnit, v.size = 1024 * u.size → False := by
    intro v hv
    have := h.greatest v (by omega)
    have := u.size_pos
    omega
  cases u with
  | byte => exact next kilobyte rfl
  | kilobyte => exact next megabyte rfl
  | megabyte => exact next gigabyte rfl
  | gigabyte => exact hu rfl

/-- The unit for a size. -/
def of (n : Nat) : SizeUnit :=
  if n < Number.kilobyte then byte
  else if n < Number.megabyte then kilobyte
  else if n < Number.gigabyte then megabyte
  else gigabyte

theorem of_fits (n : Nat) : (of n).Fits n := by
  have hmega : Number.megabyte = 1024 ^ 2 := rfl
  have hgiga : Number.gigabyte = 1024 ^ 3 := rfl
  unfold of
  split_ifs with h₁ h₂ h₃ <;> rw [Number.kilobyte] at h₁
  · refine ⟨.inl rfl, fun v hv => ?_⟩
    cases v <;> simp only [size] at hv ⊢ <;> omega
  · refine ⟨.inr (by simp only [size]; omega), fun v hv => ?_⟩
    cases v <;> simp only [size] at hv ⊢ <;> omega
  · refine ⟨.inr (by simp only [size]; omega), fun v hv => ?_⟩
    cases v <;> simp only [size] at hv ⊢ <;> omega
  · refine ⟨.inr (by simp only [size]; omega), fun v _ => ?_⟩
    cases v <;> simp only [size] <;> omega

end SizeUnit

/-! ## The text -/

/-- The digits of a number with their point, if any of them are decimals. -/
def pointed (whole decimals : List Char) : List Char :=
  if decimals = [] then whole else whole ++ '.' :: decimals

/-- The text is a decimal number for `x`, a blank and the symbol of the unit. -/
def Shows (s : String) (x : ℚ) (u : SizeUnit) : Prop :=
  ∃ whole decimals, WholeDigits whole ∧ (∀ c ∈ decimals, c.isDigit = true) ∧
    decimals.length = u.decimals ∧ s.toList = pointed whole decimals ++ ' ' :: u.symbol.toList ∧
    x = Binary64.natOfDigits (whole ++ decimals) / 10 ^ decimals.length

/-- The text tells the size `n` as the number `x` of the unit `u`: of the largest one that is not
greater, and to the nearest decimal. -/
structure Told (s : String) (n : Nat) (u : SizeUnit) (x : ℚ) : Prop where
  fits : u.Fits n
  shown : Shows s x u
  whole : u = .byte → x = n
  rounded : u ≠ .byte → ∃ m : Nat, x = m / 10 ∧ NearestEven (10 * n / u.size) m

/-- Below `2 ^ 53` the size is not rounded before it is divided. -/
theorem toList_byteSize {n : Nat} (h : n < mantissaLimit) :
    (byteSize n).toList = (if SizeUnit.of n = .byte then toString n
      else tenths (roundDiv (n * 10) (SizeUnit.of n).size)).toList ++
        ' ' :: (SizeUnit.of n).symbol.toList := by
  have hn : to53Bits n = n := if_pos h
  simp only [byteSize, hn, SizeUnit.of]
  split_ifs <;> first | contradiction | (rw [String.toList_append]; rfl)

theorem toList_tenths (m : Nat) :
    (tenths m).toList = pointed (digitsOf (m / 10)) (digitsOf (m % 10)) := by
  rw [pointed, if_neg (digitsOf_ne_nil _), tenths, String.toList_append, String.toList_append,
    toList_toString, toList_toString, List.append_assoc]
  rfl

theorem digitsOf_of_lt {d : Nat} (h : d < 10) : (digitsOf d).length = 1 := by
  rw [digitsOf, if_pos h]
  rfl

theorem shows_byte {s : String} {n : Nat}
    (h : s.toList = (toString n).toList ++ ' ' :: SizeUnit.byte.symbol.toList) :
    Shows s n .byte := by
  refine ⟨digitsOf n, [], wholeDigits_digitsOf n, nofun, rfl, ?_, ?_⟩
  · rw [h, toList_toString]
    rfl
  · rw [List.append_nil, natOfDigits_digitsOf]
    simp

theorem shows_tenths {s : String} {m : Nat} {u : SizeUnit} (hu : u ≠ .byte)
    (h : s.toList = (tenths m).toList ++ ' ' :: u.symbol.toList) : Shows s (m / 10) u := by
  have hlen : (digitsOf (m % 10)).length = 1 := digitsOf_of_lt (Nat.mod_lt m (by decide))
  refine ⟨digitsOf (m / 10), digitsOf (m % 10), wholeDigits_digitsOf _,
    fun _ => isDigit_of_mem_digitsOf, ?_, by rw [h, toList_tenths], ?_⟩
  · cases u <;> first | exact absurd rfl hu | exact hlen
  · rw [natOfDigits_append, natOfDigits_digitsOf, natOfDigits_digitsOf, hlen, pow_one, pow_one,
      Nat.div_add_mod']

theorem told_byteSize {n : Nat} (h : n < mantissaLimit) :
    ∃ x, Told (byteSize n) n (SizeUnit.of n) x := by
  have htext := toList_byteSize h
  by_cases hu : SizeUnit.of n = .byte
  · rw [if_pos hu, hu] at htext
    exact ⟨n, SizeUnit.of_fits n, hu ▸ shows_byte htext, fun _ => rfl, fun h => absurd hu h⟩
  · rw [if_neg hu] at htext
    have hm := nearestEven_roundDiv (n * 10) (SizeUnit.of n).size_pos
    rw [Nat.cast_mul, mul_comm] at hm
    exact ⟨_, SizeUnit.of_fits n, shows_tenths hu htext, fun h => absurd h hu,
      fun _ => ⟨_, rfl, hm⟩⟩

/-- The number of a unit that is not the largest is below 1024 just if the size is more than a
twentieth of the unit below the next unit; otherwise it is 1024. -/
theorem Told.lt_iff {s : String} {n : Nat} {u : SizeUnit} {x : ℚ} (h : Told s n u x)
    (hu : u ≠ .gigabyte) : x ≤ 1024 ∧ (x < 1024 ↔ (n : ℚ) / u.size < 1024 - 1 / 20) := by
  by_cases hb : u = .byte
  · subst hb
    have hn : n ≤ 1023 := Nat.lt_succ_iff.mp (h.fits.lt hu)
    have hx : (n : ℚ) ≤ 1023 := by exact_mod_cast hn
    rw [h.whole rfl, SizeUnit.size, Nat.cast_one, div_one]
    exact ⟨by linarith, fun _ => by linarith, fun _ => by linarith⟩
  · obtain ⟨m, rfl, hm⟩ := h.rounded hb
    have hpos : (0 : ℚ) < u.size := by exact_mod_cast u.size_pos
    have hn : (n : ℚ) < 1024 * u.size := by exact_mod_cast h.fits.lt hu
    have hle : 10 * (n : ℚ) / u.size ≤ (10240 : Nat) := by
      rw [div_le_iff₀ hpos]
      push_cast
      linarith
    have hlt : m < 10240 ↔ 10 * ((n : ℚ) / u.size) < (10240 : Nat) - 1 / 2 := by
      rw [← mul_div_assoc]
      exact hm.lt_even_iff (by decide)
    have hm' : (m : ℚ) / 10 < 1024 ↔ m < 10240 := by
      rw [div_lt_iff₀ (by norm_num), ← Nat.cast_lt (α := ℚ)]
      norm_num
    constructor
    · have : (m : ℚ) ≤ (10240 : Nat) := by exact_mod_cast hm.le_of_le hle
      push_cast at this
      linarith
    · rw [hm', hlt]
      push_cast
      constructor <;> intro <;> linarith

end TaskDriver.Number
