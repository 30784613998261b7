import TaskDriver.Proofs.Text.LetterCase
import TaskDriver.Task.Name

/-! How a task name starts. An identifier that does not start with a separator gives a name that
starts with its first character in lower case, so that the name is not taken for an option. -/
namespace TaskDriver

namespace Text

theorem lowercase_ne_nil (c : Char) : lowercase c ≠ [] := by
  unfold lowercase
  split
  · simp
  · split
    · simp
    · split <;> simp

theorem hyphen_not_mem_lowercase {c : Char} (hc : c ≠ '-') : '-' ∉ lowercase c :=
  fun h => hc (eq_of_mem_lowercase h (by decide)).symm

end Text

namespace Task

/-- What is built already is not touched again, but for a hyphen after it. -/
theorem suffix_addHyphen (built : List Char) : built <:+ addHyphen built := by
  unfold addHyphen
  split
  · exact List.suffix_refl _
  · split
    · exact List.suffix_refl _
    · exact List.suffix_cons _ _

theorem suffix_nameFrom (built : List Char) (before : Option Char) (s : List Char) :
    built <:+ nameFrom built before s := by
  induction s generalizing built before with
  | nil => exact List.suffix_refl _
  | cons c s ih =>
    rw [nameFrom]
    split
    · exact (suffix_addHyphen built).trans (ih _ _)
    · simp only
      split
      · exact (suffix_addHyphen built).trans ((List.suffix_append _ _).trans (ih _ _))
      · exact (List.suffix_append _ _).trans (ih _ _)

/-- The name starts with the first character in lower case. -/
theorem lowercase_begins_nameChars {c : Char} {s : List Char} (hc : isSeparator c = false) :
    Text.lowercase c <+: nameChars (c :: s) := by
  have hne : c ≠ '-' := by
    rintro rfl
    exact absurd hc (by decide)
  have hs : (Text.lowercase c).reverse <:+ nameFrom [] none (c :: s) := by
    rw [nameFrom]
    simp only [hc, startsWord, Bool.and_false, Bool.false_eq_true, ↓reduceIte, List.append_nil]
    exact suffix_nameFrom _ _ _
  obtain ⟨t, ht⟩ := hs
  -- The hyphens that are cut off at the end come after the first character.
  have hdrop : ∀ t : List Char, (Text.lowercase c).reverse <:+
      (t ++ (Text.lowercase c).reverse).dropWhile (· == '-') := by
    intro t
    induction t with
    | nil =>
      rw [List.nil_append]
      rcases hl : (Text.lowercase c).reverse with _ | ⟨d, l⟩
      · exact List.nil_suffix
      · have hd : d ≠ '-' := by
          rintro rfl
          exact Text.hyphen_not_mem_lowercase hne (List.mem_reverse.mp (hl ▸ .head _))
        exact ⟨[], (List.dropWhile_cons_of_neg (by simpa using hd)).symm⟩
    | cons d t ih =>
      rw [List.cons_append, List.dropWhile_cons]
      split
      · exact ih
      · exact (List.suffix_append t _).trans (List.suffix_cons _ _)
  rw [nameChars, ← ht]
  have := List.reverse_prefix.mpr (hdrop t)
  rwa [List.reverse_reverse] at this

theorem isSeparator_of_isUppercase {c : Char} (h : Text.isUppercase c = true) :
    isSeparator c = false := by
  rw [Bool.eq_false_iff]
  intro hc
  simp only [isSeparator, Bool.or_eq_true, beq_iff_eq] at hc
  rcases hc with rfl | rfl <;> exact absurd h (by decide)

/-- The name of an exported function does not look like an option. -/
theorem exists_toList_name {ident : String} (h : ident.toList.head?.any Text.isUppercase = true) :
    ∃ d s, (name ident).toList = d :: s ∧ d ≠ '-' := by
  rcases hi : ident.toList with _ | ⟨c, r⟩
  · rw [hi] at h
    cases h
  rw [hi] at h
  have hc := isSeparator_of_isUppercase (c := c) (by simpa using h)
  obtain ⟨t, ht⟩ := lowercase_begins_nameChars (s := r) hc
  rcases hl : Text.lowercase c with _ | ⟨d, l⟩
  · exact absurd hl (Text.lowercase_ne_nil c)
  refine ⟨d, l ++ t, ?_, ?_⟩
  · rw [name, String.toList_ofList, hi, ← ht, hl, List.cons_append]
  · rintro rfl
    have hne : c ≠ '-' := by
      rintro rfl
      exact absurd hc (by decide)
    exact Text.hyphen_not_mem_lowercase hne (hl ▸ .head _)

end Task

end TaskDriver
