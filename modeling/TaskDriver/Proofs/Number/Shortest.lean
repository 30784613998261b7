import TaskDriver.Proofs.Number.Digits
import TaskDriver.Proofs.Number.Nearest

/-! The shortest decimal number for a floating-point number leads back to it. -/
namespace TaskDriver.Number

open Binary64

variable {m : Nat} {e : Int} {ds : List Char}

/-! ## Decimal numbers -/

theorem ten_zpow_lt {i j : Int} (h : (10 : ℚ) ^ i < 10 ^ j) : i < j :=
  (zpow_lt_zpow_iff_right₀ (by norm_num)).mp h

theorem two_pow_lt : (2 : ℚ) ^ (1024 : Int) < 10 ^ (309 : Int) := by
  have h : 2 ^ 1024 < 10 ^ 309 := by decide +kernel
  exact_mod_cast h

theorem ten_zpow_lt_least : (10 : ℚ) ^ (-331 : Int) < 2 ^ (-1075 : Int) := by
  have h : 2 ^ 1075 < 10 ^ 331 := by decide +kernel
  rw [zpow_neg, zpow_neg]
  exact inv_strictAnti₀ (by positivity) (by exact_mod_cast h)

/-- What lies near a positive number is at least half of the least one. -/
theorem Near.least_le {v : ℚ} (h : Near m e v) (hc : Canonical m e) (hm : 0 < m) :
    2 ^ (-1075 : Int) ≤ v := by
  have hm' : (1 : ℚ) ≤ m := by exact_mod_cast hm
  have hleast : (2 : ℚ) ^ (-1074 : Int) ≤ 2 ^ e := zpow_le_zpow_right₀ (by norm_num) hc.least_le
  have hreach := reachDown_le m e
  calc (2 : ℚ) ^ (-1075 : Int) = 1 / 2 * 2 ^ (-1074 : Int) := by
        rw [show (-1075 : Int) = -1074 - 1 by norm_num, zpow_two_sub]
        ring
    _ ≤ (m - reachDown m e) * 2 ^ e :=
        mul_le_mul (by linarith) hleast (by positivity) (by linarith)
    _ ≤ v := h.low

theorem Near.lt_limit {v : ℚ} (h : Near m e v) (hc : Canonical m e) : v < 10 ^ (309 : Int) := by
  have hgreatest : (2 : ℚ) ^ e ≤ 2 ^ (971 : Int) :=
    zpow_le_zpow_right₀ (by norm_num) hc.le_greatest
  have hlimit := hc.add_one_le
  calc v ≤ (m + 1 / 2) * 2 ^ e := h.high
    _ ≤ 2 ^ 53 * 2 ^ (971 : Int) :=
        mul_le_mul (by linarith) hgreatest (by positivity) (by norm_num)
    _ = 2 ^ (1024 : Int) := by
        rw [← zpow_natCast 2 53, ← zpow_add₀ (by norm_num)]
        rfl
    _ < 10 ^ (309 : Int) := two_pow_lt

/-- The first digit stands for no more than the number. -/
theorem length_add_le {x k : Int} (hne : ds ≠ []) (hd : ∀ c ∈ ds, c.isDigit = true)
    (hz : ds.head? ≠ some '0') (h : (natOfDigits ds : ℚ) * 10 ^ x < 10 ^ k) :
    ds.length + x ≤ k := by
  have hfirst : (10 : ℚ) ^ ((ds.length : Int) - 1) ≤ natOfDigits ds := by
    have hlen := List.length_pos_iff.mpr hne
    rw [show (ds.length : Int) - 1 = (ds.length - 1 : Nat) by omega, zpow_natCast]
    exact_mod_cast le_natOfDigits hne hd hz
  have hten : (10 : ℚ) ^ ((ds.length : Int) - 1 + x) < 10 ^ k := by
    rw [zpow_add₀ (by norm_num)]
    exact (mul_le_mul_of_nonneg_right hfirst (by positivity)).trans_lt h
  have := ten_zpow_lt hten
  omega

theorem lt_length_add {x k : Int} (hd : ∀ c ∈ ds, c.isDigit = true)
    (h : (10 : ℚ) ^ k < natOfDigits ds * 10 ^ x) : k < ds.length + x := by
  have hlast : (natOfDigits ds : ℚ) ≤ 10 ^ (ds.length : Int) := by
    rw [zpow_natCast]
    exact_mod_cast (natOfDigits_lt hd).le
  refine ten_zpow_lt ?_
  rw [zpow_add₀ (by norm_num)]
  exact h.trans_le (mul_le_mul_of_nonneg_right hlast (by positivity))

/-- A decimal number near a number is read as that number. -/
theorem ofDecimal_near (hc : Canonical m e) (hm : 0 < m) (hds : ∀ c ∈ ds, c.isDigit = true)
    {x : Int}
    (h : Near m e (natOfDigits ds * 10 ^ x)) (negative : Bool) :
    ofDecimal negative ds x = .finite negative m e := by
  generalize ht : ds.dropWhile (· = '0') = ts
  have hts : natOfDigits ts = natOfDigits ds := ht ▸ natOfDigits_dropZeros ds
  have hd : ∀ c ∈ ts, c.isDigit = true := fun c hc =>
    hds c ((List.dropWhile_sublist _).mem (ht ▸ hc))
  rw [← hts] at h
  have hlow := h.least_le hc hm
  have hvalue : 0 < natOfDigits ts := by
    rcases Nat.eq_zero_or_pos (natOfDigits ts) with h₀ | h₀
    · rw [h₀, Nat.cast_zero, zero_mul] at hlow
      exact absurd hlow (not_le.mpr (by positivity))
    · exact h₀
  have hne : ts ≠ [] := by
    rintro rfl
    exact absurd hvalue (by decide)
  have hz : ts.head? ≠ some '0' := by
    intro hh
    have := List.head?_dropWhile_not (p := (· = '0')) ds
    rw [ht, hh] at this
    simp at this
  have hbelow : (ts.length : Int) + x ≤ 309 := length_add_le hne hd hz (h.lt_limit hc)
  have habove : -331 < (ts.length : Int) + x :=
    lt_length_add hd (ten_zpow_lt_least.trans_le hlow)
  unfold ofDecimal
  simp only [ht, hne, ↓reduceIte]
  rw [if_neg (by omega), if_neg (by omega)]
  refine ofRatio_near hc (power_num_pos hvalue (by decide) x) (power_den_pos _ (by decide) x)
    ?_ negative
  have hfraction := fractionValue_power (natOfDigits ts) (by decide : 0 < 10) x
  rw [fractionValue] at hfraction
  rw [hfraction]
  exact h

/-! ## The shortest digits -/

theorem gridPoint_contains {i : Interval} {p : Int} {q : Nat} (h : gridPoint i p = some q) :
    i.contains (power q 10 p) = true := by
  unfold gridPoint at h
  simp only at h
  split_ifs at h with h₁ h₂ h₃ h₄
  · rw [Bool.and_eq_true] at h₁
    exact Option.some.inj h ▸ h₁.2
  · rw [Bool.and_eq_true] at h₁
    exact Option.some.inj h ▸ h₁.1
  · exact Option.some.inj h ▸ h₃
  · exact Option.some.inj h ▸ h₄

/-- Where the greatest multiple below the value lies in the interval, a point is found. -/
theorem exists_gridPoint {i : Interval} {p : Int}
    (h : i.contains
      (power (i.value.1 * (power i.value.2 10 p).2 / (power i.value.2 10 p).1) 10 p) = true)
    (hq : i.value.1 * (power i.value.2 10 p).2 / (power i.value.2 10 p).1 ≠ 0) :
    ∃ q, gridPoint i p = some q ∧ q ≠ 0 := by
  unfold gridPoint
  simp only [h, Bool.true_and, ↓reduceIte]
  split_ifs
  · exact ⟨_, rfl, Nat.succ_ne_zero _⟩
  · exact ⟨_, rfl, hq⟩
  · exact ⟨_, rfl, hq⟩

theorem shortestFrom_spec (i : Interval) (fuel : Nat) (p : Int)
    (h : ∃ k < fuel, ∃ q, gridPoint i (p - k) = some q ∧ q ≠ 0) :
    (shortestFrom i fuel p).1 ≠ 0 ∧
      gridPoint i (shortestFrom i fuel p).2 = some (shortestFrom i fuel p).1 := by
  induction fuel generalizing p with
  | zero =>
    obtain ⟨k, hk, _⟩ := h
    exact absurd hk (Nat.not_lt_zero k)
  | succ fuel ih =>
    obtain ⟨k, hk, q, hq, hne⟩ := h
    have further : (∀ q', gridPoint i p = some q' → q' = 0) →
        ∃ k < fuel, ∃ q, gridPoint i (p - 1 - k) = some q ∧ q ≠ 0 := by
      intro hzero
      cases k with
      | zero => exact absurd (hzero q (by simpa using hq)) hne
      | succ k =>
        refine ⟨k, by omega, q, ?_, hne⟩
        rwa [Nat.cast_succ, ← sub_sub, sub_right_comm] at hq
    rw [shortestFrom]
    split
    · next q' hq' =>
      split
      · next hz => exact ih (p - 1) (further fun _ h' => Option.some.inj (hq'.symm.trans h') ▸ hz)
      · next hz => exact ⟨hz, hq'⟩
    · next hnone => exact ih (p - 1) (further fun _ h' => absurd (hnone.symm.trans h') (by simp))

theorem ten_pow_le_two_pow {n k : Nat} (h : 103 * n ≤ 31 * k) : 10 ^ n ≤ 2 ^ k := by
  refine (Nat.pow_le_pow_iff_left (by decide : 31 ≠ 0)).mp ?_
  calc (10 ^ n) ^ 31 = (10 ^ 31) ^ n := Nat.pow_right_comm 10 n 31
    _ ≤ (2 ^ 103) ^ n := Nat.pow_le_pow_left (by norm_num) n
    _ = 2 ^ (103 * n) := (Nat.pow_mul 2 103 n).symm
    _ ≤ 2 ^ (31 * k) := Nat.pow_le_pow_right (by decide) h
    _ = (2 ^ k) ^ 31 := by rw [Nat.mul_comm, Nat.pow_mul]

theorem two_pow_le_ten_pow {n k : Nat} (h : 28 * k ≤ 93 * n) : 2 ^ k ≤ 10 ^ n := by
  refine (Nat.pow_le_pow_iff_left (by decide : 93 ≠ 0)).mp ?_
  calc (2 ^ k) ^ 93 = (2 ^ 93) ^ k := Nat.pow_right_comm 2 k 93
    _ ≤ (10 ^ 28) ^ k := Nat.pow_le_pow_left (by norm_num) k
    _ = 10 ^ (28 * k) := (Nat.pow_mul 10 28 k).symm
    _ ≤ 10 ^ (93 * n) := Nat.pow_le_pow_right (by decide) h
    _ = (10 ^ n) ^ 93 := by rw [Nat.mul_comm, Nat.pow_mul]

/-- Powers of ten against powers of two: the logarithm of two lies between 28 / 93 and 31 / 103. -/
theorem ten_zpow_le_two_zpow {a b : Int}
    (h : 0 ≤ a ∧ 103 * a ≤ 31 * b ∨ a ≤ 0 ∧ 93 * a ≤ 28 * b) : (10 : ℚ) ^ a ≤ 2 ^ b := by
  rcases h with ⟨ha, h⟩ | ⟨ha, h⟩
  · obtain ⟨n, rfl⟩ := Int.eq_ofNat_of_zero_le ha
    obtain ⟨k, rfl⟩ := Int.eq_ofNat_of_zero_le (by omega : 0 ≤ b)
    rw [zpow_natCast, zpow_natCast]
    exact_mod_cast ten_pow_le_two_pow (by omega)
  · obtain ⟨n, hn⟩ := Int.eq_ofNat_of_zero_le (by omega : 0 ≤ -a)
    obtain rfl : a = -n := by omega
    rcases Int.le_total 0 b with hb | hb
    · calc (10 : ℚ) ^ (-n : Int) ≤ 10 ^ (0 : Int) := zpow_le_zpow_right₀ (by norm_num) ha
        _ = 2 ^ (0 : Int) := by norm_num
        _ ≤ 2 ^ b := zpow_le_zpow_right₀ (by norm_num) hb
    · obtain ⟨k, hk⟩ := Int.eq_ofNat_of_zero_le (by omega : 0 ≤ -b)
      obtain rfl : b = -k := by omega
      rw [zpow_neg, zpow_neg, zpow_natCast, zpow_natCast]
      refine inv_anti₀ (by positivity) ?_
      exact_mod_cast two_pow_le_ten_pow (by omega)

/-- The estimate is a power of ten below the number, as long as it is not out of all bounds. -/
theorem ten_decimalExponent_le {x : Nat × Nat} (h₁ : 0 < x.1) (h₂ : 0 < x.2)
    (hn : x.1.log2 ≤ 10000) (hd : x.2.log2 ≤ 10000) :
    (10 : ℚ) ^ decimalExponent x ≤ fractionValue x := by
  have test : ∀ t : Int,
      (!fractionLt x (power 1 10 t)) = true ↔ (10 : ℚ) ^ t ≤ fractionValue x := by
    intro t
    rw [Bool.not_eq_true', ← Bool.not_eq_true, fractionLt_iff h₂ (power_den_pos 1 (by decide) t),
      not_lt, fractionValue_power 1 (by decide) t, Nat.cast_one, one_mul, Nat.cast_ofNat]
  unfold decimalExponent
  simp only
  split_ifs with h h'
  · exact (test _).mp h
  · exact (test _).mp h'
  · have hlow : (2 : ℚ) ^ ((x.1.log2 : Int) - x.2.log2 - 1) ≤ fractionValue x := by
      have hx : (0 : ℚ) < x.2 := by exact_mod_cast h₂
      rw [fractionValue, le_div_iff₀ hx]
      calc (2 : ℚ) ^ ((x.1.log2 : Int) - x.2.log2 - 1) * x.2
          ≤ 2 ^ ((x.1.log2 : Int) - x.2.log2 - 1) * 2 ^ ((x.2.log2 : Int) + 1) :=
            mul_le_mul_of_nonneg_left (log2_spec h₂).2.le (by positivity)
        _ = 2 ^ (x.1.log2 : Int) := by
            rw [← zpow_add₀ (by norm_num)]
            congr 1
            omega
        _ ≤ x.1 := (log2_spec h₁).1
    refine (ten_zpow_le_two_zpow ?_).trans hlow
    omega

theorem log2_power_le (hc : Canonical m e) (hm : 0 < m) :
    (power m 2 e).1.log2 ≤ 10000 ∧ (power m 2 e).2.log2 ≤ 10000 := by
  have hlimit := hc.lt_limit
  have hleast := hc.least_le
  have hgreatest := hc.le_greatest
  rw [mantissaLimit] at hlimit
  rw [leastExponent] at hleast
  rw [greatestExponent] at hgreatest
  unfold power
  split
  · refine ⟨?_, (by decide : (1 : Nat).log2 ≤ 10000)⟩
    have hk : e.toNat ≤ 971 := by omega
    refine Nat.le_of_lt ((Nat.log2_lt (Nat.mul_pos hm (Nat.pow_pos (by decide))).ne').mpr ?_)
    calc m * Nat.pow 2 e.toNat < 2 ^ 53 * Nat.pow 2 e.toNat :=
          Nat.mul_lt_mul_of_pos_right (by omega) (Nat.pow_pos (by decide))
      _ = 2 ^ (53 + e.toNat) := (Nat.pow_add 2 53 _).symm
      _ ≤ 2 ^ 10000 := Nat.pow_le_pow_right (by decide) (by omega)
  · constructor
    · refine Nat.le_of_lt ((Nat.log2_lt hm.ne').mpr (Nat.lt_of_lt_of_le hlimit ?_))
      exact Nat.pow_le_pow_right (by decide : 0 < 2) (by decide : 53 ≤ 10000)
    · show (2 ^ (-e).toNat).log2 ≤ 10000
      rw [Nat.log2_two_pow]
      omega

/-- A multiple of a power of ten with seventeen digits below the greatest one lies near. -/
theorem near_cut (hc : Canonical m e) {t : Int} (ht : (10 : ℚ) ^ t ≤ m * 2 ^ e) {q : Nat}
    (hle : (q : ℚ) * 10 ^ (t - 17) ≤ m * 2 ^ e) (hlt : (m : ℚ) * 2 ^ e < (q + 1) * 10 ^ (t - 17)) :
    Near m e (q * 10 ^ (t - 17)) := by
  have hpos : (0 : ℚ) < 2 ^ e := by positivity
  have hlimit := hc.add_one_le
  have hreach := le_reachDown m e
  have hstep : (10 : ℚ) ^ (t - 17) < 1 / 4 * 2 ^ e := by
    have hten : (10 : ℚ) ^ (t - 17) = 10 ^ t / 10 ^ 17 := zpow_sub₀ (by norm_num) t 17
    have hmul := mul_le_mul_of_nonneg_right hlimit hpos.le
    rw [hten, div_lt_iff₀ (by norm_num)]
    linarith
  have hlow : (m - reachDown m e) * 2 ^ e < q * 10 ^ (t - 17) := by
    have := mul_le_mul_of_nonneg_right hreach hpos.le
    linarith
  have hhigh : (q : ℚ) * 10 ^ (t - 17) < (m + 1 / 2) * 2 ^ e := by linarith
  exact ⟨hlow.le, hhigh.le, .inr ⟨hlow, hhigh⟩⟩

/-- The greatest multiple of a power of ten below the value of an interval. -/
def cut (i : Interval) (p : Int) : Nat :=
  i.value.1 * (power i.value.2 10 p).2 / (power i.value.2 10 p).1

theorem cut_spec {i : Interval} (hd : 0 < i.value.2) (p : Int) :
    (cut i p : ℚ) * 10 ^ p ≤ fractionValue i.value ∧
      fractionValue i.value < (cut i p + 1) * 10 ^ p := by
  have hten : (0 : ℚ) < 10 ^ p := by positivity
  have hunits := div_power i.value.1 i.value.2 (by decide : 0 < 10) p
  have hdiv := div_spec (n := i.value.1 * (power i.value.2 10 p).2)
    (power_num_pos hd (by decide : 0 < 10) p)
  rw [← div_div, Nat.cast_ofNat] at hunits
  constructor
  · rw [← le_div_iff₀ hten]
    exact hunits ▸ (hdiv _).mp le_rfl
  · rw [← div_lt_iff₀ hten, ← not_le]
    intro h
    have := (hdiv (cut i p + 1)).mpr (by rw [hunits]; exact_mod_cast h)
    exact absurd this (Nat.not_succ_le_self _)

/-- The shortest digits lie near the number. -/
theorem shortestFrom_near (hc : Canonical m e) (hm : 0 < m) {q : Nat} {p : Int}
    (h : shortestFrom (intervalOf m e) 18 (decimalExponent (intervalOf m e).value) = (q, p)) :
    0 < q ∧ Near m e (q * 10 ^ p) := by
  have hden : 0 < (intervalOf m e).value.2 := power_den_pos m (by decide) e
  have hvalue : fractionValue (intervalOf m e).value = m * 2 ^ e :=
    fractionValue_power m (by decide) e
  have ht : (10 : ℚ) ^ decimalExponent (intervalOf m e).value ≤ m * 2 ^ e :=
    hvalue ▸ ten_decimalExponent_le (power_num_pos hm (by decide) e) hden (log2_power_le hc hm).1
      (log2_power_le hc hm).2
  generalize decimalExponent (intervalOf m e).value = t at h ht
  -- The seventeenth grid after the first has a point.
  have hexists : ∃ k : Nat, k < 18 ∧ ∃ q, gridPoint (intervalOf m e) (t - k) = some q ∧ q ≠ 0 := by
    obtain ⟨hle, hlt⟩ := cut_spec hden (t - 17)
    rw [hvalue] at hle hlt
    refine ⟨17, by decide, exists_gridPoint ?_ fun hzero => ?_⟩
    · refine (contains_iff hm (power_den_pos _ (by decide) _)).mpr ?_
      rw [fractionValue_power _ (by decide)]
      exact near_cut hc ht hle hlt
    · have hcut : cut (intervalOf m e) (t - 17) = 0 := hzero
      have hten : (10 : ℚ) ^ (t - 17) ≤ 10 ^ t := zpow_le_zpow_right₀ (by norm_num) (by omega)
      rw [hcut, Nat.cast_zero, zero_add, one_mul] at hlt
      exact absurd (hlt.trans_le hten) (not_lt.mpr ht)
  obtain ⟨hq, hgrid⟩ := shortestFrom_spec _ 18 t hexists
  rw [h] at hq hgrid
  have hnear := (contains_iff hm (power_den_pos q (by decide) p)).mp (gridPoint_contains hgrid)
  rw [fractionValue_power q (by decide) p] at hnear
  exact ⟨Nat.pos_of_ne_zero hq, hnear⟩

/-! ## Without an exponent -/

/-- Zeros at the end count as tens. -/
theorem natOfDigits_append_zeros (ds : List Char) (k : Nat) :
    natOfDigits (ds ++ List.replicate k '0') = natOfDigits ds * 10 ^ k := by
  rw [natOfDigits_append, natOfDigits_zeros, List.length_replicate, Nat.add_zero]

/-- Digits around a point, with the value of a decimal number. -/
structure Spelled (s : Scientific) (ds ps : List Char) : Prop where
  text : s.positional = ds ++ '.' :: ps
  whole : WholeDigits ds
  places_ne : ps ≠ []
  isDigit : ∀ c ∈ ps, c.isDigit = true
  value : (natOfDigits (ds ++ ps) : ℚ) * 10 ^ (-(ps.length : Int)) =
    natOfDigits s.digits * 10 ^ (s.exponent + 1 - s.digits.length)

section

variable {x : Int} {n : Nat}

theorem isDigit_of_mem_zeros {k : Nat} (c : Char) (hc : c ∈ List.replicate k '0') :
    c.isDigit = true := by
  rw [List.eq_of_mem_replicate hc]
  rfl

/-- A number below one has all its digits behind the point. -/
theorem spelled_below_one (hne : ds ≠ []) (hd : ∀ c ∈ ds, c.isDigit = true) (hx : x < 0) :
    Spelled ⟨ds, x⟩ ['0'] (List.replicate ((-x).toNat - 1) '0' ++ ds) where
  text := by simp [Scientific.positional, hx]
  whole := ⟨List.cons_ne_nil _ _, by simp, .inl rfl⟩
  places_ne := by simp [hne]
  isDigit := fun c hc => (List.mem_append.mp hc).elim (isDigit_of_mem_zeros c) (hd c)
  value := by
    have hvalue : natOfDigits (['0'] ++ (List.replicate ((-x).toNat - 1) '0' ++ ds)) =
        natOfDigits ds := by
      rw [natOfDigits_append, natOfDigits_append, natOfDigits_zeros, Nat.zero_mul, Nat.zero_add]
      simp [natOfDigits, digitValue]
    rw [hvalue]
    congr 2
    simp only [List.length_append, List.length_replicate]
    omega

/-- The point stands among the digits where there are more than the whole number takes. -/
theorem spelled_among (hd : ∀ c ∈ ds, c.isDigit = true) (hz : ds.head? ≠ some '0')
    (hn : n + 1 < ds.length) : Spelled ⟨ds, n⟩ (ds.take (n + 1)) (ds.drop (n + 1)) where
  text := by
    have hdrop : ds.drop (n + 1) ≠ [] := by simpa using hn
    have hzero : n + 1 - ds.length = 0 := by omega
    have hx : ¬ (n : Int) < 0 := by omega
    simp only [Scientific.positional, hx, ↓reduceIte, Int.toNat_natCast, hdrop, hzero,
      List.replicate_zero, List.append_nil]
  whole := by
    have hne : ds ≠ [] := List.ne_nil_of_length_pos (by omega)
    refine ⟨by simpa using hne, fun c hc => hd c (List.mem_of_mem_take hc), .inr ?_⟩
    rwa [List.head?_take, if_neg (by omega)]
  places_ne := by simpa using hn
  isDigit := fun c hc => hd c (List.mem_of_mem_drop hc)
  value := by
    rw [List.take_append_drop]
    congr 2
    simp only [List.length_drop]
    omega

/-- Zeros fill up a whole number that has fewer digits. -/
theorem spelled_filled (hne : ds ≠ []) (hd : ∀ c ∈ ds, c.isDigit = true)
    (hz : ds.head? ≠ some '0') (hn : ds.length ≤ n + 1) :
    Spelled ⟨ds, n⟩ (ds ++ List.replicate (n + 1 - ds.length) '0') ['0'] where
  text := by
    have hdrop : ds.drop (n + 1) = [] := by simpa using hn
    have htake : (ds ++ List.replicate (n + 1 - ds.length) '0').take (n + 1) =
        ds ++ List.replicate (n + 1 - ds.length) '0' := by
      refine List.take_of_length_le ?_
      simp only [List.length_append, List.length_replicate]
      omega
    have hx : ¬ (n : Int) < 0 := by omega
    simp only [Scientific.positional, hx, ↓reduceIte, Int.toNat_natCast, hdrop, htake]
  whole := by
    refine ⟨by simp [hne], fun c hc => ?_, .inr ?_⟩
    · exact (List.mem_append.mp hc).elim (hd c) (isDigit_of_mem_zeros c)
    · obtain ⟨d, t, rfl⟩ := List.exists_cons_of_ne_nil hne
      exact hz
  places_ne := List.cons_ne_nil _ _
  isDigit := by simp
  value := by
    have hten : ((natOfDigits (ds ++ List.replicate (n + 1 - ds.length) '0' ++ ['0']) : Nat) : ℚ) =
        natOfDigits ds * 10 ^ ((n + 1 - ds.length + 1 : Nat) : Int) := by
      rw [List.append_assoc, ← List.replicate_succ', natOfDigits_append_zeros, zpow_natCast]
      push_cast
      rfl
    rw [hten, mul_assoc, ← zpow_add₀ (by norm_num)]
    congr 2
    simp only [List.length_singleton]
    omega

end

theorem exists_spelled {s : Scientific} (hne : s.digits ≠ []) (hz : s.digits.head? ≠ some '0')
    (hd : ∀ c ∈ s.digits, c.isDigit = true) : ∃ ds ps, Spelled s ds ps := by
  obtain ⟨digits, x⟩ := s
  rcases lt_or_ge x 0 with hx | hx
  · exact ⟨_, _, spelled_below_one hne hd hx⟩
  · obtain ⟨n, rfl⟩ := Int.eq_ofNat_of_zero_le hx
    rcases Nat.lt_or_ge (n + 1) digits.length with hlong | hshort
    · exact ⟨_, _, spelled_among hd hz hlong⟩
    · exact ⟨_, _, spelled_filled hne hd hz hshort⟩

/-- The written form of a number is read as the number. -/
theorem shortest_spelled (hc : Canonical m e) :
    ∃ ds ps, (shortest m e).positional = ds ++ '.' :: ps ∧
    WholeDigits ds ∧ ps ≠ [] ∧ (∀ c ∈ ps, c.isDigit = true) ∧
    ∀ negative, Numeral.value ⟨ds, ps, 0⟩ negative = .finite negative m e := by
  rcases Nat.eq_zero_or_pos m with rfl | hm
  · have he : e = leastExponent := hc.normal.resolve_left (by decide)
    subst he
    exact ⟨['0'], ['0'], rfl, ⟨List.cons_ne_nil _ _, by simp, .inl rfl⟩, List.cons_ne_nil _ _,
      by simp, fun _ => rfl⟩
  · obtain ⟨q, p, hqp⟩ : ∃ q p, shortestFrom (intervalOf m e) 18
        (decimalExponent (intervalOf m e).value) = (q, p) := ⟨_, _, rfl⟩
    obtain ⟨hq, hnear⟩ := shortestFrom_near hc hm hqp
    obtain ⟨k, hk⟩ := append_cutZeros (digitsOf q)
    generalize hkept : ((digitsOf q).reverse.dropWhile (· = '0')).reverse = kept at hk
    have hshortest : shortest m e = ⟨kept, p + (digitsOf q).length - 1⟩ := by
      simp only [shortest, hm.ne', ↓reduceIte, hqp, hkept]
    have hvalue : q = natOfDigits kept * 10 ^ k := by
      rw [← natOfDigits_append_zeros, hk, natOfDigits_digitsOf]
    have hne : kept ≠ [] := by
      rintro rfl
      rw [natOfDigits, List.foldl_nil, Nat.zero_mul] at hvalue
      omega
    have hz : kept.head? ≠ some '0' := by
      have := head_digitsOf hq
      rw [← hk] at this
      obtain ⟨d, t, rfl⟩ := List.exists_cons_of_ne_nil hne
      exact this
    have hd : ∀ c ∈ kept, c.isDigit = true := fun c hc =>
      isDigit_of_mem_digitsOf (hk ▸ List.mem_append_left _ hc)
    obtain ⟨ds, ps, h⟩ := exists_spelled (s := ⟨kept, p + (digitsOf q).length - 1⟩) hne hz hd
    have hsame : (natOfDigits (ds ++ ps) : ℚ) * 10 ^ (-(ps.length : Int)) = q * 10 ^ p := by
      have hlength : (digitsOf q).length = kept.length + k := by
        rw [← hk, List.length_append, List.length_replicate]
      rw [h.value]
      simp only [hlength]
      rw [hvalue, Nat.cast_mul, Nat.cast_pow, Nat.cast_ofNat, mul_assoc, ← zpow_natCast,
        ← zpow_add₀ (by norm_num)]
      congr 2
      omega
    refine ⟨ds, ps, hshortest ▸ h.text, h.whole, h.places_ne, h.isDigit, fun negative => ?_⟩
    rw [Numeral.value, zero_sub]
    refine ofDecimal_near hc hm (fun c hc => ?_) (hsame ▸ hnear) negative
    exact (List.mem_append.mp hc).elim (h.whole.isDigit c) (h.isDigit c)

end TaskDriver.Number
