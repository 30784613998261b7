import TaskDriver.Definition.Lexer

/-! A word is read up to the first character that cannot go on with it. -/
namespace TaskDriver.Definition
open Text (isIdentStart isIdentContinue)

theorem isIdentContinue_of_isIdentStart {c : Char} (h : isIdentStart c = true) :
    isIdentContinue c = true := by
  unfold isIdentStart at h
  unfold isIdentContinue
  split at h
  · next hc =>
    rw [if_pos hc]
    simp only [Char.isAlphanum, Bool.or_eq_true] at h ⊢
    exact h.imp_left .inl
  · next hc => rw [if_neg hc, h, Bool.true_or]

theorem toNat_of_isDigit {c : Char} (h : c.isDigit = true) : 48 ≤ c.toNat ∧ c.toNat ≤ 57 := by
  simp only [Char.isDigit, Bool.and_eq_true, decide_eq_true_eq] at h
  exact h

theorem isIdentContinue_of_isDigit {c : Char} (h : c.isDigit = true) :
    isIdentContinue c = true := by
  have hc : c.toNat < 0x80 := by have := (toNat_of_isDigit h).2; omega
  rw [isIdentContinue, if_pos hc, Char.isAlphanum, h, Bool.or_true, Bool.true_or]

theorem not_isIdentStart_of_isDigit {c : Char} (h : c.isDigit = true) : isIdentStart c = false := by
  have hd := toNat_of_isDigit h
  have : ∀ n : Fin 10, isIdentStart (Char.ofNat (48 + n)) = false := by decide
  have hc := this ⟨c.toNat - 48, by omega⟩
  rwa [Nat.add_sub_cancel' hd.1, Char.ofNat_toNat] at hc

/-- A text that does not go on with a word before it. -/
def EndsWord (r : List Char) : Prop :=
  ∀ c ∈ r.head?, isIdentContinue c = false

theorem EndsWord.ne {c d : Char} {r : List Char} (h : EndsWord (c :: r))
    (hd : isIdentContinue d = true) : c ≠ d := by
  rintro rfl
  exact absurd hd (by simp [h c rfl])

theorem EndsWord.not_isDigit {c : Char} {r : List Char} (h : EndsWord (c :: r)) :
    c.isDigit = false := by
  rw [Bool.eq_false_iff]
  exact fun hd => h.ne (isIdentContinue_of_isDigit hd) rfl

theorem EndsWord.wordLength {r : List Char} (h : EndsWord r) : wordLength r = 0 := by
  cases r with
  | nil => rfl
  | cons c r =>
    rw [Definition.wordLength, if_neg]
    exact fun hc => h.ne (isIdentContinue_of_isIdentStart hc) rfl

theorem IsWord.cases {w : List Char} (h : IsWord w) :
    ∃ c r, w = c :: r ∧ isIdentStart c = true ∧ ∀ d ∈ r, isIdentContinue d = true := by
  obtain ⟨hne, hl⟩ := h
  cases w with
  | nil => exact absurd rfl hne
  | cons c r =>
    by_cases hc : isIdentStart c = true
    · rw [Definition.wordLength, if_pos hc, List.length_cons, Nat.add_right_cancel_iff] at hl
      refine ⟨c, r, rfl, hc, ?_⟩
      have := (List.takeWhile_prefix isIdentContinue (l := r)).eq_of_length hl
      exact fun d hd => List.all_eq_true.mp (List.all_takeWhile (p := isIdentContinue) (l := r)) d
        (this.symm ▸ hd)
    · rw [Definition.wordLength, if_neg hc] at hl
      exact absurd hl (by simp)

theorem IsWord.wordLength_append {w r : List Char} (h : IsWord w) (hr : EndsWord r) :
    wordLength (w ++ r) = w.length := by
  obtain ⟨c, t, rfl, hc, ht⟩ := h.cases
  rw [List.cons_append, Definition.wordLength, if_pos hc, List.takeWhile_append_of_pos ht]
  cases r with
  | nil => simp
  | cons d r => simp [hr d rfl]

/-- The characters that are in no word because they have a part of their own in the text. -/
def separators : List Char :=
  punctMarks ++ "()[]\x7b\x7d\x22\x5c".toList

theorem isIdentContinue_of_mem {c : Char} (h : c ∈ separators) : isIdentContinue c = false := by
  have all : separators.all (!isIdentContinue ·) = true := by decide
  simpa using List.all_eq_true.mp all c h

/-- The code points of `isSpace` one by one. -/
def spaceCodes : List Nat :=
  [0x9, 0xA, 0xB, 0xC, 0xD, 0x20, 0x85, 0xA0, 0x1680, 0x2000, 0x2001, 0x2002, 0x2003, 0x2004,
   0x2005, 0x2006, 0x2007, 0x2008, 0x2009, 0x200A, 0x200E, 0x200F, 0x2028, 0x2029, 0x202F, 0x205F,
   0x3000]

theorem toNat_mem_spaceCodes {c : Char} (h : isSpace c = true) : c.toNat ∈ spaceCodes := by
  simp only [isSpace, Text.isBlank, Bool.or_eq_true, Bool.and_eq_true, decide_eq_true_eq,
    beq_iff_eq] at h
  simp only [spaceCodes, List.mem_cons, List.not_mem_nil, or_false]
  omega

theorem isIdentContinue_of_isSpace {c : Char} (h : isSpace c = true) :
    isIdentContinue c = false := by
  have : ∀ n ∈ spaceCodes, isIdentContinue (Char.ofNat n) = false := by decide +kernel
  have hc := this c.toNat (toNat_mem_spaceCodes h)
  rwa [Char.ofNat_toNat] at hc

end TaskDriver.Definition
