import Mathlib.Algebra.Order.Field.Power
import Mathlib.Algebra.Order.Ring.Rat
import Mathlib.Tactic.FieldSimp
import Mathlib.Tactic.Linarith
import Mathlib.Tactic.NormNum
import Mathlib.Tactic.Positivity
import Mathlib.Tactic.Ring
import TaskDriver.Number.Binary64

/-! Rounding to the nearest floating-point number: every fraction in the interval of a number is
rounded to that number. -/
namespace TaskDriver.Number

/-! ## Fractions -/

/-- The number that a fraction stands for. -/
def fractionValue (x : Nat × Nat) : ℚ :=
  x.1 / x.2

variable {a base : Nat} {e : Int} {x y : Nat × Nat}

theorem power_den_pos (a : Nat) (hb : 0 < base) (e : Int) : 0 < (power a base e).2 := by
  unfold power
  split
  · exact Nat.one_pos
  · exact Nat.pow_pos hb

theorem power_num_pos (ha : 0 < a) (hb : 0 < base) (e : Int) : 0 < (power a base e).1 := by
  unfold power
  split
  · exact Nat.mul_pos ha (Nat.pow_pos hb)
  · exact ha

theorem fractionValue_power (a : Nat) (hb : 0 < base) (e : Int) :
    fractionValue (power a base e) = a * (base : ℚ) ^ e := by
  have hne : (base : ℚ) ≠ 0 := by exact_mod_cast hb.ne'
  unfold fractionValue power
  split
  · next h =>
    obtain ⟨n, rfl⟩ := Int.eq_ofNat_of_zero_le h
    simp
  · next h =>
    obtain ⟨n, hn⟩ := Int.eq_ofNat_of_zero_le (a := -e) (by omega)
    obtain rfl : e = -n := by omega
    simp [div_eq_mul_inv]

theorem fractionLt_iff (hx : 0 < x.2) (hy : 0 < y.2) :
    fractionLt x y = true ↔ fractionValue x < fractionValue y := by
  have hx' : (0 : ℚ) < x.2 := by exact_mod_cast hx
  have hy' : (0 : ℚ) < y.2 := by exact_mod_cast hy
  rw [fractionLt, decide_eq_true_eq, fractionValue, fractionValue, div_lt_div_iff₀ hx' hy']
  exact_mod_cast Iff.rfl

/-- A quotient cut to a natural number. -/
theorem div_spec {n d : Nat} (hd : 0 < d) (m : Nat) : m ≤ n / d ↔ (m : ℚ) ≤ n / d := by
  have hd' : (0 : ℚ) < d := by exact_mod_cast hd
  rw [Nat.le_div_iff_mul_le hd, le_div_iff₀ hd']
  exact_mod_cast Iff.rfl

/-! ## Rounding -/

/-- A quotient at most half a unit from a number is rounded to it; if it is exactly half a unit
away, the number has to be even. -/
theorem roundDiv_eq {n d m : Nat} (hd : 0 < d) (hlow : (m : ℚ) - 1 / 2 ≤ n / d)
    (hhigh : (n : ℚ) / d ≤ m + 1 / 2)
    (htie : m % 2 = 0 ∨ ((m : ℚ) - 1 / 2 < n / d ∧ (n : ℚ) / d < m + 1 / 2)) :
    roundDiv n d = m := by
  have hd' : (0 : ℚ) < d := by exact_mod_cast hd
  have hlow' : 2 * (d * m) ≤ 2 * n + d := by
    rw [le_div_iff₀ hd'] at hlow
    have : (2 * (d * m) : ℚ) ≤ 2 * n + d := by linarith
    exact_mod_cast this
  have hhigh' : 2 * n ≤ 2 * (d * m) + d := by
    rw [div_le_iff₀ hd'] at hhigh
    have : (2 * n : ℚ) ≤ 2 * (d * m) + d := by linarith
    exact_mod_cast this
  have htie' : m % 2 = 0 ∨ (2 * (d * m) < 2 * n + d ∧ 2 * n < 2 * (d * m) + d) := by
    refine htie.imp id fun ⟨h₁, h₂⟩ => ⟨?_, ?_⟩
    · rw [lt_div_iff₀ hd'] at h₁
      have : (2 * (d * m) : ℚ) < 2 * n + d := by linarith
      exact_mod_cast this
    · rw [div_lt_iff₀ hd'] at h₂
      have : (2 * n : ℚ) < 2 * (d * m) + d := by linarith
      exact_mod_cast this
  have hdiv := Nat.div_add_mod n d
  have hmod := Nat.mod_lt n hd
  -- The number is the quotient cut off or the next one.
  have hcases : m = n / d ∨ m = n / d + 1 := by
    have h₁ : n / d ≤ m := by
      by_contra h
      have := Nat.mul_le_mul_left d (Nat.succ_le_of_lt (Nat.lt_of_not_le h))
      rw [Nat.mul_succ] at this
      omega
    have h₂ : m ≤ n / d + 1 := by
      by_contra h
      have := Nat.mul_le_mul_left d (Nat.succ_le_of_lt (Nat.lt_of_not_le h))
      rw [Nat.mul_succ, Nat.mul_succ] at this
      omega
    omega
  unfold roundDiv
  rcases hcases with rfl | rfl
  · simp only
    split_ifs with h₁ h₂ h₃ <;> omega
  · rw [Nat.mul_succ] at *
    simp only
    split_ifs with h₁ h₂ h₃ <;> omega

/-! ## Binary exponents -/

theorem log2_spec {n : Nat} (hn : 0 < n) :
    (2 : ℚ) ^ (n.log2 : Int) ≤ n ∧ (n : ℚ) < 2 ^ ((n.log2 : Int) + 1) := by
  have h₁ := Nat.log2_self_le hn.ne'
  have h₂ := Nat.lt_log2_self (n := n)
  constructor
  · rw [zpow_natCast]
    exact_mod_cast h₁
  · have : (2 : ℚ) ^ ((n.log2 : Int) + 1) = ((2 ^ (n.log2 + 1) : Nat) : ℚ) := by
      push_cast
      rfl
    rw [this]
    exact_mod_cast h₂

/-- A number counted in units of `a · base ^ e`. -/
theorem div_power (n a : Nat) (hb : 0 < base) (e : Int) :
    ((n * (power a base e).2 : Nat) : ℚ) / (power a base e).1 = n / (a * (base : ℚ) ^ e) := by
  rw [← fractionValue_power a hb e, fractionValue, Nat.cast_mul, div_div_eq_mul_div]

/-- With its exponent, a positive quotient has a mantissa of 53 binary digits. -/
theorem exponentOf_spec {n d : Nat} (hn : 0 < n) (hd : 0 < d) :
    (2 : ℚ) ^ 52 * 2 ^ Binary64.exponentOf n d ≤ n / d ∧
      (n : ℚ) / d < 2 ^ 53 * 2 ^ Binary64.exponentOf n d := by
  have two : ∀ i j : Int, (2 : ℚ) ^ (i + j) = 2 ^ i * 2 ^ j := fun i j =>
    zpow_add₀ (by norm_num) i j
  obtain ⟨n₁, n₂⟩ := log2_spec hn
  obtain ⟨d₁, d₂⟩ := log2_spec hd
  have hd' : (0 : ℚ) < d := by exact_mod_cast hd
  generalize he : (n.log2 : Int) - (d.log2 : Int) - 53 = e
  have hpos : (0 : ℚ) < 2 ^ e := by positivity
  have hlog : (2 : ℚ) ^ (n.log2 : Int) = 2 ^ 53 * 2 ^ e * 2 ^ (d.log2 : Int) := by
    rw [show (n.log2 : Int) = 53 + e + d.log2 by omega, two, two]
    norm_num
  have hlow : (2 : ℚ) ^ 52 * 2 ^ e ≤ n / d := by
    rw [le_div_iff₀ hd']
    rw [two] at d₂
    nlinarith
  have hhigh : (n : ℚ) / d < 2 ^ 54 * 2 ^ e := by
    rw [div_lt_iff₀ hd']
    rw [two] at n₂
    nlinarith
  have htest : mantissaLimit ≤ n * (power d 2 e).2 / (power d 2 e).1 ↔
      (2 : ℚ) ^ 53 * 2 ^ e ≤ n / d := by
    rw [div_spec (power_num_pos hd (by decide) e), div_power n d (by decide) e, ← div_div,
      Nat.cast_ofNat, le_div_iff₀ hpos]
    norm_num [mantissaLimit]
  unfold Binary64.exponentOf
  simp only [he]
  split_ifs with h
  · exact ⟨hlow, lt_of_not_ge fun h' => Nat.not_lt.mpr (htest.mpr h') h⟩
  · have := htest.mp (Nat.not_lt.mp h)
    rw [two]
    norm_num at *
    constructor <;> linarith

/-- A number with 53 binary digits at one exponent has no fewer at a greater one. -/
theorem exponent_le {x : ℚ} {e f : Int} (hlow : 2 ^ 52 * 2 ^ e ≤ x) (hhigh : x < 2 ^ 53 * 2 ^ f) :
    e ≤ f := by
  have h : (2 : ℚ) ^ (52 + e) < 2 ^ (53 + f) := by
    rw [zpow_add₀ (by norm_num), zpow_add₀ (by norm_num)]
    exact lt_of_le_of_lt hlow hhigh
  have := (zpow_lt_zpow_iff_right₀ (by norm_num : (1 : ℚ) < 2)).mp h
  omega

/-! ## The interval of a number -/

/-- A mantissa and an exponent in the one form that a number has. -/
structure Canonical (m : Nat) (e : Int) : Prop where
  lt_limit : m < mantissaLimit
  normal : mantissaLimit / 2 ≤ m ∨ e = leastExponent
  least_le : leastExponent ≤ e
  le_greatest : e ≤ greatestExponent

/-- How far the interval of a number reaches down, in units of its last digit: only half as far
where the exponent changes. -/
def reachDown (m : Nat) (e : Int) : ℚ :=
  if 2 * m = mantissaLimit ∧ leastExponent < e then 1 / 4 else 1 / 2

/-- The numbers that are rounded to `m · 2 ^ e`. -/
structure Near (m : Nat) (e : Int) (x : ℚ) : Prop where
  low : (m - reachDown m e) * 2 ^ e ≤ x
  high : x ≤ (m + 1 / 2) * 2 ^ e
  tie : m % 2 = 0 ∨ ((m - reachDown m e) * 2 ^ e < x ∧ x < (m + 1 / 2) * 2 ^ e)

theorem reachDown_le (m : Nat) (e : Int) : reachDown m e ≤ 1 / 2 := by
  unfold reachDown
  split <;> norm_num

theorem le_reachDown (m : Nat) (e : Int) : 1 / 4 ≤ reachDown m e := by
  unfold reachDown
  split <;> norm_num

theorem Canonical.add_one_le {m : Nat} {e : Int} (hc : Canonical m e) : (m : ℚ) + 1 ≤ 2 ^ 53 := by
  have := hc.lt_limit
  rw [mantissaLimit] at this
  exact_mod_cast this

theorem zpow_two_sub (e k : Int) : (2 : ℚ) ^ (e - k) = 2 ^ e / 2 ^ k :=
  zpow_sub₀ (by norm_num) e k

theorem contains_iff {m : Nat} {e : Int} (hm : 0 < m) {y : Nat × Nat} (hy : 0 < y.2) :
    (intervalOf m e).contains y = true ↔ Near m e (fractionValue y) := by
  have hlow : fractionValue (intervalOf m e).low = (m - reachDown m e) * 2 ^ e := by
    unfold intervalOf reachDown
    simp only [fractionValue_power _ (by decide : 0 < 2)]
    rw [Nat.cast_ofNat, zpow_two_sub]
    split_ifs
    · rw [Nat.cast_sub (by omega)]
      push_cast
      ring
    · rw [Nat.cast_sub (by omega)]
      push_cast
      ring
  have hhigh : fractionValue (intervalOf m e).high = (m + 1 / 2) * 2 ^ e := by
    unfold intervalOf
    simp only [fractionValue_power _ (by decide : 0 < 2)]
    rw [Nat.cast_ofNat, zpow_two_sub]
    push_cast
    ring
  have dlow : 0 < (intervalOf m e).low.2 := power_den_pos _ (by decide) _
  have dhigh : 0 < (intervalOf m e).high.2 := power_den_pos _ (by decide) _
  have lt₁ := fractionLt_iff hy dlow
  have lt₂ := fractionLt_iff dhigh hy
  have lt₃ := fractionLt_iff dlow hy
  have lt₄ := fractionLt_iff hy dhigh
  rw [hlow] at lt₁ lt₃
  rw [hhigh] at lt₂ lt₄
  have hclosed : (intervalOf m e).closed = decide (m % 2 = 0) := rfl
  rw [Interval.contains, hclosed]
  by_cases heven : m % 2 = 0
  · simp only [heven, decide_true, ↓reduceIte, Bool.and_eq_true, Bool.not_eq_true',
      ← Bool.not_eq_true, lt₁, lt₂, not_lt]
    exact ⟨fun h => ⟨h.1, h.2, .inl heven⟩, fun h => ⟨h.low, h.high⟩⟩
  · simp only [heven, decide_false, Bool.false_eq_true, ↓reduceIte, Bool.and_eq_true, lt₃, lt₄]
    exact ⟨fun h => ⟨h.1.le, h.2.le, .inr h⟩, fun h => h.tie.resolve_left heven⟩

/-! ## Fractions near a number -/

variable {m n d : Nat}

/-- A quotient in units of the last digit at an exponent. -/
theorem units_eq (n d : Nat) (e : Int) :
    ((n * (power d 2 e).2 : Nat) : ℚ) / (power d 2 e).1 = n / d / 2 ^ e := by
  rw [div_power n d (by decide) e, ← div_div, Nat.cast_ofNat]

theorem Near.exponentOf_le (h : Near m e (n / d)) (hc : Canonical m e) (hn : 0 < n) (hd : 0 < d) :
    Binary64.exponentOf n d ≤ e := by
  have hlimit := hc.add_one_le
  refine exponent_le (exponentOf_spec hn hd).1 (lt_of_le_of_lt h.high ?_)
  exact mul_lt_mul_of_pos_right (by linarith) (by positivity)

theorem Near.roundDiv_eq (h : Near m e (n / d)) (hd : 0 < d) :
    roundDiv (n * (power d 2 e).2) (power d 2 e).1 = m := by
  have hpos : (0 : ℚ) < 2 ^ e := by positivity
  have hreach := reachDown_le m e
  have hlow : ((m : ℚ) - 1 / 2) * 2 ^ e ≤ (m - reachDown m e) * 2 ^ e :=
    mul_le_mul_of_nonneg_right (by linarith) hpos.le
  refine Number.roundDiv_eq (power_num_pos hd (by decide) e) ?_ ?_ ?_ <;> rw [units_eq]
  · rw [le_div_iff₀ hpos]
    exact hlow.trans h.low
  · rw [div_le_iff₀ hpos]
    exact h.high
  · rw [lt_div_iff₀ hpos, div_lt_iff₀ hpos]
    exact h.tie.imp id fun ht => ⟨hlow.trans_lt ht.1, ht.2⟩

/-- Only the least mantissa of an exponent has numbers with a smaller exponent near it. -/
theorem Near.least_mantissa (h : Near m e (n / d)) (hc : Canonical m e)
    (he : leastExponent < e) (hlt : (n : ℚ) / d < 2 ^ 53 * 2 ^ (e - 1)) :
    2 * m = mantissaLimit := by
  have hpos : (0 : ℚ) < 2 ^ e := by positivity
  have hreach := reachDown_le m e
  rw [zpow_two_sub] at hlt
  have hm : (m : ℚ) - 1 / 2 < 2 ^ 52 := by
    by_contra hge
    have := mul_le_mul_of_nonneg_right (not_lt.mp hge) hpos.le
    have := mul_le_mul_of_nonneg_right (sub_le_sub_left hreach (m : ℚ)) hpos.le
    have := h.low
    linarith
  have hge := hc.normal.resolve_right he.ne'
  have hlt : (m : ℚ) < 2 ^ 52 + 1 := by linarith
  have hlt' : m < 2 ^ 52 + 1 := by exact_mod_cast hlt
  rw [mantissaLimit] at hge ⊢
  omega

/-- Just below the least mantissa of an exponent the digits are half as great. -/
theorem Near.low_of_least (h : Near m e (n / d)) (he : leastExponent < e)
    (hm : 2 * m = mantissaLimit) : (2 ^ 53 - 1 / 2) * 2 ^ (e - 1) ≤ (n : ℚ) / d := by
  have hm' : (m : ℚ) = 2 ^ 52 := by
    rw [mantissaLimit] at hm
    have : m = 2 ^ 52 := by omega
    exact_mod_cast this
  have := h.low
  rw [reachDown, if_pos ⟨hm, he⟩, hm'] at this
  rw [zpow_two_sub]
  linarith

/-- Digits at most half a unit below the limit of the mantissas are rounded up to it. -/
theorem roundDiv_limit (hd : 0 < d) (hlow : (2 ^ 53 - 1 / 2) * 2 ^ e ≤ (n : ℚ) / d)
    (hhigh : (n : ℚ) / d < 2 ^ 53 * 2 ^ e) :
    roundDiv (n * (power d 2 e).2) (power d 2 e).1 = mantissaLimit := by
  have hpos : (0 : ℚ) < 2 ^ e := by positivity
  have hlimit : (mantissaLimit : ℚ) = 2 ^ 53 := by
    rw [mantissaLimit]
    norm_num
  refine roundDiv_eq (power_num_pos hd (by decide) _) ?_ ?_ (.inl (by decide)) <;>
    rw [units_eq, hlimit]
  · rw [le_div_iff₀ hpos]
    exact hlow
  · rw [div_le_iff₀ hpos]
    linarith

/-- A fraction near a number is rounded to it. -/
theorem ofRatio_near (hc : Canonical m e) (hn : 0 < n) (hd : 0 < d) (h : Near m e (n / d))
    (negative : Bool) : Binary64.ofRatio negative n d = .finite negative m e := by
  have hle := h.exponentOf_le hc hn hd
  have hgreatest := hc.le_greatest
  obtain ⟨spec₁, spec₂⟩ := exponentOf_spec hn hd
  unfold Binary64.ofRatio
  rw [if_neg hn.ne']
  by_cases hsame : max leastExponent (Binary64.exponentOf n d) = e
  · simp only [hsame, h.roundDiv_eq hd, hc.lt_limit.ne, ↓reduceIte]
    rw [if_neg (by omega)]
  · -- The quotient has a smaller exponent, and is rounded up to the limit there.
    have hlt : Binary64.exponentOf n d ≤ e - 1 ∧ leastExponent < e := by
      have := hc.least_le
      omega
    have hsmall : (n : ℚ) / d < 2 ^ 53 * 2 ^ (e - 1) :=
      spec₂.trans_le (mul_le_mul_of_nonneg_left (zpow_le_zpow_right₀ (by norm_num) hlt.1)
        (by norm_num))
    have hm := h.least_mantissa hc hlt.2 hsmall
    have hlow := h.low_of_least hlt.2 hm
    have hexponent : Binary64.exponentOf n d = e - 1 := by
      have hpos : (0 : ℚ) < 2 ^ (e - 1) := by positivity
      exact le_antisymm hlt.1 (exponent_le (by linarith) spec₂)
    have hmax : max leastExponent (Binary64.exponentOf n d) = e - 1 := by
      rw [hexponent]
      omega
    simp only [hmax, roundDiv_limit hd hlow hsmall, ↓reduceIte]
    rw [if_neg (by omega), sub_add_cancel, show mantissaLimit / 2 = m by omega]

end TaskDriver.Number
