import Mathlib.Data.List.Induction
import Mathlib.Data.List.TakeWhile
import Mathlib.Tactic.Ring
import TaskDriver.Number.Binary64
import TaskDriver.Toml.Datetime

/-! Numbers from their decimal digits, and the digits of a number. -/
namespace TaskDriver.Number

open Binary64

variable {ds es : List Char} {c : Char} {n w : Nat}

theorem natOfDigits_eq (ds : List Char) : natOfDigits ds = Nat.ofDigitChars 10 ds 0 := rfl

theorem natOfDigits_append (ds es : List Char) :
    natOfDigits (ds ++ es) = natOfDigits ds * 10 ^ es.length + natOfDigits es := by
  rw [natOfDigits_eq, Nat.ofDigitChars_append, Nat.ofDigitChars_eq_ofDigitChars_zero]
  simp only [natOfDigits_eq]
  ring

theorem natOfDigits_zeros (n : Nat) : natOfDigits (List.replicate n '0') = 0 := by
  rw [natOfDigits_eq, Nat.ofDigitChars_replicate_zero]
  rfl

theorem toNat_of_isDigit (h : c.isDigit = true) : 48 ≤ c.toNat ∧ c.toNat ≤ 57 := by
  simp only [Char.isDigit, Bool.and_eq_true, decide_eq_true_eq] at h
  exact ⟨UInt32.le_iff_toNat_le.mp h.1, UInt32.le_iff_toNat_le.mp h.2⟩

theorem natOfDigits_lt (h : ∀ c ∈ ds, c.isDigit = true) : natOfDigits ds < 10 ^ ds.length := by
  induction ds using List.reverseRecOn with
  | nil => decide
  | append_singleton ds c ih =>
    have hds := ih fun d hd => h d (List.mem_append_left _ hd)
    have hc := toNat_of_isDigit (h c (by simp))
    rw [natOfDigits_append, List.length_append, pow_add]
    simp only [natOfDigits, List.foldl_cons, List.foldl_nil, digitValue, List.length_singleton]
      at hds ⊢
    omega

theorem digitsOf_eq (n : Nat) : digitsOf n = Nat.toDigits 10 n := by
  have digit : ∀ d, d < 10 → Nat.digitChar d = Char.ofNat (48 + d) := by decide
  induction n using Nat.strongRecOn with
  | ind n ih =>
    rw [digitsOf]
    split
    · next h => rw [Nat.toDigits_of_lt_base h, digit n h]
    · next h =>
      rw [Nat.toDigits_of_base_le (by decide) (by omega), ih (n / 10) (by omega),
        digit _ (Nat.mod_lt n (by decide))]

theorem natOfDigits_digitsOf (n : Nat) : natOfDigits (digitsOf n) = n := by
  rw [digitsOf_eq, natOfDigits_eq, Nat.ofDigitChars_ten_toDigits]

theorem isDigit_of_mem_digitsOf (h : c ∈ digitsOf n) : c.isDigit = true :=
  Nat.isDigit_of_mem_toDigits (by decide) (by decide) (digitsOf_eq n ▸ h)

theorem digitsOf_ne_nil (n : Nat) : digitsOf n ≠ [] := by
  rw [digitsOf_eq]
  exact Nat.toDigits_ne_nil

theorem length_digitsOf_le (hw : 0 < w) (h : n < 10 ^ w) : (digitsOf n).length ≤ w := by
  rw [digitsOf_eq]
  exact (Nat.length_toDigits_le_iff (by decide) hw).mpr h

/-- Only zero starts with a zero. -/
theorem head_digitsOf (h : 0 < n) : (digitsOf n).head? ≠ some '0' := by
  induction n using Nat.strongRecOn with
  | ind n ih =>
    have hdigit : ∀ d : Fin 10, 0 < (d : Nat) → Char.ofNat (48 + d) ≠ '0' := by decide
    rw [digitsOf]
    split
    · next hlt => simpa using hdigit ⟨n, hlt⟩ h
    · next hge =>
      obtain ⟨c, t, hc⟩ := List.exists_cons_of_ne_nil (digitsOf_ne_nil (n / 10))
      have := ih (n / 10) (by omega) (by omega)
      rwa [hc, List.cons_append, List.head?_cons] at *

/-- Digits that can stand before a point or alone. -/
structure WholeDigits (ds : List Char) : Prop where
  ne_nil : ds ≠ []
  isDigit : ∀ c ∈ ds, c.isDigit = true
  head : ds = ['0'] ∨ ds.head? ≠ some '0'

theorem wholeDigits_digitsOf (n : Nat) : WholeDigits (digitsOf n) where
  ne_nil := digitsOf_ne_nil n
  isDigit _ := isDigit_of_mem_digitsOf
  head := by
    rcases Nat.eq_zero_or_pos n with rfl | h
    · exact .inl (by rw [digitsOf]; rfl)
    · exact .inr (head_digitsOf h)

theorem toList_toString (n : Nat) : (toString n).toList = digitsOf n := by
  rw [Nat.toString_eq_repr, Nat.toList_repr, digitsOf_eq]

theorem takeWhile_zeros (ds : List Char) :
    ds.takeWhile (· = '0') = List.replicate (ds.takeWhile (· = '0')).length '0' :=
  List.eq_replicate_iff.mpr ⟨rfl, fun c hc => by simpa using List.mem_takeWhile_imp hc⟩

/-- Only zeros are cut off. -/
theorem append_cutZeros (ds : List Char) :
    ∃ k, (ds.reverse.dropWhile (· = '0')).reverse ++ List.replicate k '0' = ds := by
  refine ⟨(ds.reverse.takeWhile (· = '0')).length, ?_⟩
  calc (ds.reverse.dropWhile (· = '0')).reverse ++
        List.replicate (ds.reverse.takeWhile (· = '0')).length '0'
      = (ds.reverse.dropWhile (· = '0')).reverse ++ (ds.reverse.takeWhile (· = '0')).reverse := by
        rw [takeWhile_zeros, List.reverse_replicate, List.length_replicate]
    _ = (ds.reverse.takeWhile (· = '0') ++ ds.reverse.dropWhile (· = '0')).reverse :=
        List.reverse_append.symm
    _ = ds := by rw [List.takeWhile_append_dropWhile, List.reverse_reverse]

theorem natOfDigits_dropZeros (ds : List Char) :
    natOfDigits (ds.dropWhile (· = '0')) = natOfDigits ds := by
  calc natOfDigits (ds.dropWhile (· = '0'))
      = natOfDigits (ds.takeWhile (· = '0') ++ ds.dropWhile (· = '0')) := by
        rw [takeWhile_zeros, natOfDigits_append, natOfDigits_zeros, Nat.zero_mul, Nat.zero_add]
    _ = natOfDigits ds := by rw [List.takeWhile_append_dropWhile]

theorem le_natOfDigits (hne : ds ≠ []) (h : ∀ c ∈ ds, c.isDigit = true) (hz : ds.head? ≠ some '0') :
    10 ^ (ds.length - 1) ≤ natOfDigits ds := by
  obtain ⟨d, ds, rfl⟩ := List.exists_cons_of_ne_nil hne
  have hd := toNat_of_isDigit (h d (.head _))
  have hd₀ : d.toNat ≠ 48 := fun he =>
    hz (congrArg some (Char.toNat_inj.mp (he.trans (by decide : 48 = '0'.toNat))))
  have hdigit : natOfDigits [d] = d.toNat - 48 := by simp [natOfDigits, digitValue]
  rw [← List.singleton_append, natOfDigits_append, hdigit]
  have : 10 ^ ds.length ≤ (d.toNat - 48) * 10 ^ ds.length := Nat.le_mul_of_pos_left _ (by omega)
  simp only [List.singleton_append, List.length_cons, Nat.add_sub_cancel]
  omega

end TaskDriver.Number

namespace TaskDriver.Toml

open Number Binary64

variable {c : Char} {n w : Nat}

theorem length_zeroPadded (hw : 0 < w) (h : n < 10 ^ w) : (zeroPadded w n).length = w := by
  have := length_digitsOf_le hw h
  simp only [zeroPadded, List.length_append, List.length_replicate]
  omega

theorem isDigit_of_mem_zeroPadded (h : c ∈ zeroPadded w n) : c.isDigit = true := by
  rcases List.mem_append.mp h with hz | hd
  · rw [List.eq_of_mem_replicate hz]
    rfl
  · exact isDigit_of_mem_digitsOf hd

theorem natOfDigits_zeroPadded (w n : Nat) : natOfDigits (zeroPadded w n) = n := by
  rw [zeroPadded, natOfDigits_append, natOfDigits_zeros, natOfDigits_digitsOf, Nat.zero_mul,
    Nat.zero_add]

end TaskDriver.Toml
