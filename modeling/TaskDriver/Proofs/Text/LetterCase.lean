import Mathlib
import TaskDriver.Text.LetterCase

/-! What lower-case forms are made of. Every character of a lower-case form is a lower-case form of
its own; it is an upper-case letter only where that letter has no other lower-case form, as `ℝ`. -/
namespace TaskDriver.Text

/-! ## Runs of code points side by side -/

/-- Whether two runs can be told to have no code point in common: one ends before the other, one is a
single code point, or one has the even code points and the other one the odd ones. -/
def CodeRun.apart (r s : CodeRun) : Bool :=
  r.last.blt s.first || s.last.blt r.first ||
    (if r.first = r.last then !s.has r.first
    else if s.first = s.last then !r.has s.first
    else r.step == 2 && s.step == 2 && r.first % 2 != s.first % 2)

theorem CodeRun.has_iff {r : CodeRun} {n : Nat} :
    r.has n = true ↔ (r.first ≤ n ∧ n ≤ r.last) ∧ (n - r.first) % r.step = 0 := by
  simp [has]

theorem CodeRun.not_has_of_apart {r s : CodeRun} {n : Nat} (h : r.apart s = true)
    (hr : r.has n = true) : s.has n = false := by
  rw [Bool.eq_false_iff]
  intro hs
  obtain ⟨⟨hr₁, hr₂⟩, hr₃⟩ := has_iff.mp hr
  obtain ⟨⟨hs₁, hs₂⟩, hs₃⟩ := has_iff.mp hs
  unfold apart at h
  split at h
  · next hsingle =>
    obtain rfl : r.first = n := by omega
    rw [hs] at h
    simp at h
    omega
  · split at h
    · next hsingle =>
      obtain rfl : s.first = n := by omega
      rw [hr] at h
      simp at h
      omega
    · simp only [Bool.or_eq_true, Bool.and_eq_true, Nat.blt_eq, beq_iff_eq, bne_iff_ne] at h
      rcases h with (h | h) | ⟨⟨h₁, h₂⟩, h₃⟩
      · omega
      · omega
      · rw [h₁] at hr₃
        rw [h₂] at hs₃
        omega

/-! ## Where the table of lower-case forms leads -/

/-- The code points that a run is lowered to. -/
def LoweringRun.image (r : LoweringRun) : CodeRun :=
  ⟨(r.run.first + r.shift).toNat, (r.run.last + r.shift).toNat, r.run.step⟩

/-- The code points of upper-case letters and of characters that are lowered to another one. -/
def casedRuns : List CodeRun :=
  ⟨0x41, 0x5A, 1⟩ :: uppercaseRuns ++ loweringRuns.map (·.run)

/-- Lowering leads away from upper-case letters and from characters that would be lowered again. -/
theorem apart_image : loweringRuns.all (fun r => casedRuns.all r.image.apart) = true := by
  decide +kernel

/-- Lowering leads to characters, and to none of those before the small letters. -/
theorem valid_image : ∀ r ∈ loweringRuns, 0x60 < r.run.first + r.shift ∧
    (r.run.last + r.shift < 0xD800 ∨
      0xDFFF < r.run.first + r.shift ∧ r.run.last + r.shift < 0x110000) := by
  decide +kernel

theorem LoweringRun.image_has {r : LoweringRun} {n : Nat} (hr : r ∈ loweringRuns)
    (h : r.run.has n = true) : r.image.has (n + r.shift).toNat = true := by
  obtain ⟨⟨h₁, h₂⟩, h₃⟩ := CodeRun.has_iff.mp h
  have hpos := (valid_image r hr).1
  have hsub : (n + r.shift).toNat - (r.run.first + r.shift).toNat = n - r.run.first := by omega
  refine CodeRun.has_iff.mpr ⟨⟨?_, ?_⟩, ?_⟩
  · simp only [image]
    omega
  · simp only [image]
    omega
  · simp only [image, hsub, h₃]

theorem LoweringRun.toNat_image {r : LoweringRun} {n : Nat} (hr : r ∈ loweringRuns)
    (h : r.run.has n = true) :
    (Char.ofNat (n + r.shift).toNat).toNat = (n + r.shift).toNat := by
  obtain ⟨⟨h₁, h₂⟩, _⟩ := CodeRun.has_iff.mp h
  have hvalid := valid_image r hr
  rw [Char.toNat_ofNat, if_pos]
  simp only [Nat.isValidChar]
  omega

/-! ## Characters of lower-case forms -/

/-- What is neither an upper-case letter nor lowered to another character. -/
theorem lowercase_of_not_cased {c : Char} (h : ∀ r ∈ casedRuns, r.has c.toNat = false) :
    lowercase c = [c] ∧ isUppercase c = false := by
  have hascii : c.isUpper = false := by
    have hrun := h ⟨0x41, 0x5A, 1⟩ (.head _)
    rw [Bool.eq_false_iff] at hrun ⊢
    intro hupper
    refine hrun (CodeRun.has_iff.mpr ⟨?_, Nat.mod_one _⟩)
    simpa [Char.isUpper, UInt32.le_iff_toNat_le] using hupper
  have hupper : isUppercase c = false := by
    unfold isUppercase
    split
    · exact hascii
    · refine List.any_eq_false.mpr fun r hr => ?_
      rw [h r (.tail _ (List.mem_append_left _ hr))]
      exact Bool.false_ne_true
  refine ⟨?_, hupper⟩
  unfold lowercase
  split
  · rw [Char.toLower_eq_of_not_isUpper (by simp [hascii])]
  · split
    · next hdotted =>
      rw [← Char.ofNat_toNat c, hdotted] at hupper
      exact absurd hupper (by decide)
    · have hnone : loweringRuns.find? (·.run.has c.toNat) = none := by
        refine List.find?_eq_none.mpr fun r hr => ?_
        rw [h r.run (.tail _ (List.mem_append_right _ (List.mem_map_of_mem hr)))]
        exact Bool.false_ne_true
      rw [hnone]

/-- A character of the lower-case form of another character. -/
inductive Lowers (c : Char) : Char → Prop
  | ascii : c.isUpper = true → Lowers c c.toLower
  | dotted {d} : c.toNat = 0x130 → d ∈ ['i', Char.ofNat 0x307] → Lowers c d
  | shifted {r} : r ∈ loweringRuns → r.run.has c.toNat = true →
      Lowers c (Char.ofNat (c.toNat + r.shift).toNat)

theorem lowercase_cases (c : Char) : lowercase c = [c] ∨ ∀ d ∈ lowercase c, Lowers c d := by
  by_cases hascii : c.toNat < 0x80
  · rw [lowercase, if_pos hascii]
    by_cases hupper : c.isUpper = true
    · refine .inr fun d hd => ?_
      rw [List.mem_singleton.mp hd]
      exact .ascii hupper
    · exact .inl (by rw [Char.toLower_eq_of_not_isUpper hupper])
  by_cases hdotted : c.toNat = 0x130
  · rw [lowercase, if_neg hascii, if_pos hdotted]
    exact .inr fun d hd => .dotted hdotted hd
  rcases hfind : loweringRuns.find? (·.run.has c.toNat) with _ | r <;>
    rw [lowercase, if_neg hascii, if_neg hdotted, hfind]
  · exact .inl rfl
  · refine .inr fun d hd => ?_
    rw [List.mem_singleton.mp hd]
    exact .shifted (List.mem_of_find?_eq_some hfind) (by simpa using List.find?_some hfind)

theorem toNat_toLower {c : Char} (h : c.isUpper = true) :
    0x60 < c.toLower.toNat ∧ c.toLower.toNat < 0x80 := by
  have hc : 0x41 ≤ c.toNat ∧ c.toNat ≤ 0x5A := by
    simpa [Char.isUpper, UInt32.le_iff_toNat_le] using h
  rw [Char.toLower_eq_of_isUpper h, Char.toNat_ofNat, if_pos (.inl (by omega))]
  omega

theorem Lowers.toNat_gt {c d : Char} (h : Lowers c d) : 0x60 < d.toNat := by
  cases h with
  | ascii hupper => exact (toNat_toLower hupper).1
  | dotted _ hd => rcases List.mem_pair.mp hd with rfl | rfl <;> decide
  | shifted hr hhas =>
    rw [LoweringRun.toNat_image hr hhas]
    obtain ⟨⟨hfirst, _⟩, _⟩ := CodeRun.has_iff.mp hhas
    have hlow := (valid_image _ hr).1
    omega

/-- What a character is lowered to is neither lowered again nor upper-case. -/
theorem Lowers.settled {c d : Char} (h : Lowers c d) :
    lowercase d = [d] ∧ isUppercase d = false := by
  cases h with
  | ascii hupper =>
    have hlt := (toNat_toLower hupper).2
    rw [lowercase, if_pos hlt, isUppercase, if_pos hlt, Char.toLower_toLower_eq_toLower,
      Char.isUpper_toLower_eq_false]
    exact ⟨rfl, rfl⟩
  | dotted _ hd =>
    refine lowercase_of_not_cased ?_
    rcases List.mem_pair.mp hd with rfl | rfl <;> decide +kernel
  | shifted hr hhas =>
    refine lowercase_of_not_cased fun s hs => ?_
    rw [LoweringRun.toNat_image hr hhas]
    have happart := List.all_eq_true.mp (List.all_eq_true.mp apart_image _ hr) s hs
    exact CodeRun.not_has_of_apart happart (LoweringRun.image_has hr hhas)

theorem lowercase_of_mem {c d : Char} (h : d ∈ lowercase c) : lowercase d = [d] := by
  rcases lowercase_cases c with hc | hc
  · rw [hc, List.mem_singleton] at h
    rw [h, hc]
  · exact (hc d h).settled.1

/-- Nothing is lowered to a capital, a digit or a mark before the small letters. -/
theorem eq_of_mem_lowercase {c d : Char} (h : d ∈ lowercase c) (hd : d.toNat ≤ 0x60) : d = c := by
  rcases lowercase_cases c with hc | hc
  · rwa [hc, List.mem_singleton] at h
  · have hgt := (hc d h).toNat_gt
    omega

/-- An upper-case letter without a lower-case form. -/
def isUnlowered (c : Char) : Bool :=
  isUppercase c && lowercase c == [c]

/-- A character of a lower-case form is upper-case just if it is such a letter, which is lowered to
itself. -/
theorem isUppercase_of_mem_lowercase {c d : Char} (h : d ∈ lowercase c) :
    isUppercase d = true ↔ d = c ∧ isUnlowered c = true := by
  rcases lowercase_cases c with hc | hc
  · rw [hc, List.mem_singleton] at h
    simp [isUnlowered, hc, h]
  · obtain ⟨_, hupper⟩ := (hc d h).settled
    rw [hupper]
    refine ⟨nofun, ?_⟩
    rintro ⟨rfl, hu⟩
    simp [isUnlowered, hupper] at hu

end TaskDriver.Text
