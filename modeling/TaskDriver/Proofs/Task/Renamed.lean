import TaskDriver.Proofs.Task.Words
import TaskDriver.Proofs.Text.LetterCase
import TaskDriver.Text.Identifier

/-! The name of a name. A name is in lower case but for upper-case letters that have no lower-case
form, and it is its own name unless one of these letters starts a word in it. -/
namespace TaskDriver.Task

variable {s p q r : List Char} {c d : Char}

/-! ## What a name is made of -/

theorem mem_nameChars (hd : d ≠ '-') :
    d ∈ nameChars s ↔ ∃ c ∈ s, isSeparator c = false ∧ d ∈ Text.lowercase c := by
  have hfilter : (nameChars s).filter (· ≠ '-') =
      (s.filter (!isSeparator ·)).flatMap Text.lowercase := by
    rw [nameChars_eq, filter_joined (not_isSeparator_kept s), map_kept]
  have hmem : d ∈ nameChars s ↔ d ∈ (nameChars s).filter (· ≠ '-') := by simp [hd]
  rw [hmem, hfilter]
  simp [and_assoc]

theorem isSeparator_of_mem_lowercase (hc : isSeparator c = false) (hd : d ∈ Text.lowercase c) :
    isSeparator d = false := by
  by_contra h
  have hlow : d.toNat ≤ 0x60 := by
    simp only [isSeparator, Bool.not_eq_false, Bool.or_eq_true, beq_iff_eq] at h
    rcases h with rfl | rfl <;> decide
  exact h (Text.eq_of_mem_lowercase hd hlow ▸ hc)

/-- A text in lower case whose only separators are single hyphens inside it. -/
structure Divided (s : List Char) : Prop where
  lower : ∀ d ∈ s, Text.lowercase d = [d]
  hyphen : ∀ d ∈ s, isSeparator d = true → d = '-'
  head : s.head? ≠ some '-'
  last : s.getLast? ≠ some '-'
  single : ¬ ['-', '-'] <:+: s

theorem divided_nameChars (s : List Char) : Divided (nameChars s) := by
  constructor
  case lower =>
    intro d hd
    by_cases hh : d = '-'
    · rw [hh]
      decide
    · obtain ⟨c, _, _, hc⟩ := (mem_nameChars hh).mp hd
      exact Text.lowercase_of_mem hc
  case hyphen =>
    intro d hd hsep
    by_contra hh
    obtain ⟨c, _, hc, hdc⟩ := (mem_nameChars hh).mp hd
    exact absurd hsep (by simp [isSeparator_of_mem_lowercase hc hdc])
  case head =>
    rw [nameChars_eq]
    by_cases hne : kept s = []
    · simp [hne, joined]
    · have hhead := head?_joined (s := s) (not_isSeparator_kept s) [] hne
      rwa [List.append_nil] at hhead
  case last =>
    rw [nameChars_eq]
    exact getLast?_joined s s
  case single =>
    rw [nameChars_eq]
    exact not_doubled_joined (not_isSeparator_kept s)

/-! ## Reading it again -/

/-- Whether a word starts at a letter, with what stands before and after it. -/
def startsAt (p : List Char) (c : Char) (r : List Char) : Bool :=
  Text.isUppercase c && startsWord p.getLast? r.head?

theorem addHyphen_of_getLast? (hne : p ≠ []) (hlast : p.getLast? ≠ some '-') :
    addHyphen p.reverse = '-' :: p.reverse := by
  simpa [hne] using addHyphen_reverse hlast (.inl rfl)

/-- A hyphen inside the text is read as a hyphen. -/
theorem Divided.addHyphen_hyphen (h : Divided (p ++ '-' :: r)) :
    addHyphen p.reverse = (p ++ ['-']).reverse := by
  have hne : p ≠ [] := by
    rintro rfl
    exact h.head rfl
  have hlast : p.getLast? ≠ some '-' := by
    intro hlast
    obtain ⟨q, rfl⟩ := List.getLast?_eq_some_iff.mp hlast
    exact h.single ⟨q, r, by simp⟩
  rw [addHyphen_of_getLast? hne hlast, List.reverse_concat]

theorem forall_split_cons {P : List Char → Char → List Char → Prop} :
    (∀ q d t, c :: r = q ++ d :: t → P q d t) ↔
      P [] c r ∧ ∀ q d t, r = q ++ d :: t → P (c :: q) d t := by
  constructor
  · intro h
    exact ⟨h [] c r rfl, fun q d t ht => h (c :: q) d t (by rw [ht]; rfl)⟩
  · rintro ⟨hhere, hafter⟩ q d t ht
    rcases q with _ | ⟨b, q⟩
    · obtain ⟨rfl, rfl⟩ := List.cons.inj ht
      exact hhere
    · obtain ⟨rfl, hr⟩ := List.cons.inj ht
      exact hafter q d t hr

theorem startsAt_hyphen (p r : List Char) : startsAt p '-' r = false := by
  have hupper : Text.isUppercase '-' = false := by decide
  rw [startsAt, hupper, Bool.false_and]

/-- Where a word starts, the character before it is no hyphen. -/
theorem addHyphen_of_startsAt (h : startsAt p c r = true) :
    addHyphen p.reverse = '-' :: p.reverse := by
  refine addHyphen_of_getLast? ?_ ?_
  · rintro rfl
    simp [startsAt, startsWord] at h
  · intro hlast
    have hcase : Text.isLowercase '-' = false ∧ Text.isUppercase '-' = false := by decide
    simp [startsAt, hlast, startsWord, hcase] at h

/-- A name that gets a hyphen before a letter of a text is not that text. -/
theorem nameFrom_ne (hc : c ≠ '-') (p r : List Char) :
    nameFrom (c :: '-' :: p.reverse) (some c) r ≠ (p ++ c :: r).reverse := by
  intro heq
  have hsuffix := suffix_nameFrom (c :: '-' :: p.reverse) (some c) r
  rw [heq, ← List.reverse_prefix] at hsuffix
  simp only [List.reverse_cons, List.reverse_reverse, List.append_assoc, List.cons_append,
    List.nil_append, List.prefix_append_right_inj, List.cons_prefix_cons] at hsuffix
  exact hc hsuffix.1.symm

/-- What is read as it stands up to some place is read so to the end just if no word starts from
that place on. -/
theorem Divided.nameFrom_eq_iff (h : Divided s) (hs : s = p ++ r) :
    nameFrom p.reverse p.getLast? r = s.reverse ↔
      ∀ q c t, r = q ++ c :: t → startsAt (p ++ q) c t = false := by
  induction r generalizing p with
  | nil =>
    rw [hs, List.append_nil, nameFrom]
    exact ⟨fun _ q c t ht => absurd ht.symm (by simp), fun _ => rfl⟩
  | cons c r ih =>
    have ih := ih (p := p ++ [c]) (by rw [hs, List.append_assoc]; rfl)
    simp only [List.getLast?_concat, List.append_assoc, List.singleton_append] at ih
    rw [forall_split_cons, ← ih, List.append_nil, nameFrom]
    by_cases hsep : isSeparator c = true
    · obtain rfl := h.hyphen c (by simp [hs]) hsep
      rw [if_pos hsep, Divided.addHyphen_hyphen (hs ▸ h), startsAt_hyphen]
      exact (and_iff_right rfl).symm
    have hlower : Text.lowercase c = [c] := h.lower c (by simp [hs])
    rw [if_neg hsep, hlower]
    rcases hstart : startsAt p c r with _ | _
    · rw [startsAt] at hstart
      simp only [hstart, Bool.false_eq_true, ↓reduceIte, true_and, List.reverse_append]
    · have hc : c ≠ '-' := fun hc => hsep (by rw [hc]; rfl)
      have hadd := addHyphen_of_startsAt hstart
      rw [startsAt] at hstart
      simp only [hstart, ↓reduceIte, hadd]
      exact ⟨fun heq => absurd (heq.trans (congrArg _ hs)) (nameFrom_ne hc p r),
        fun hnone => absurd hnone.1 (by decide)⟩

/-- The name of such a text is the text itself, unless a word starts in it without a hyphen. -/
theorem Divided.nameChars_eq_iff (h : Divided s) :
    nameChars s = s ↔ ∀ p c r, s = p ++ c :: r → startsAt p c r = false := by
  have hpending : pending s = [] := by
    rcases List.eq_nil_or_concat s with rfl | ⟨q, b, rfl⟩
    · rfl
    · have hb : isSeparator b = false := by
        by_contra hb
        have hhyphen := h.hyphen b (by simp) (by simpa using hb)
        exact h.last (by simp [hhyphen])
      simp [pending, hb]
  have hname : nameChars s = (nameFrom [] none s).reverse := by
    have hread : (nameFrom [] none s).reverse = joined s (kept s) ++ pending s :=
      nameFrom_reverse (p := []) rfl
    rw [hread, hpending, List.append_nil, nameChars_eq]
  rw [hname, List.reverse_eq_iff]
  exact h.nameFrom_eq_iff (p := []) rfl

/-! ## Lower case -/

theorem mem_name_isUppercase_iff :
    d ∈ nameChars s ∧ Text.isUppercase d = true ↔ d ∈ s ∧ Text.isUnlowered d = true := by
  constructor
  · rintro ⟨hd, hupper⟩
    have hh : d ≠ '-' := by
      rintro rfl
      exact absurd hupper (by decide)
    obtain ⟨c, hc, _, hdc⟩ := (mem_nameChars hh).mp hd
    obtain ⟨rfl, hun⟩ := (Text.isUppercase_of_mem_lowercase hdc).mp hupper
    exact ⟨hc, hun⟩
  · rintro ⟨hd, hun⟩
    have hun' := hun
    simp only [Text.isUnlowered, Bool.and_eq_true, beq_iff_eq] at hun'
    obtain ⟨hupper, hself⟩ := hun'
    have hsep := isSeparator_of_isUppercase hupper
    have hh : d ≠ '-' := by
      rintro rfl
      exact absurd hsep (by decide)
    exact ⟨(mem_nameChars hh).mpr ⟨d, hd, hsep, by rw [hself]; exact .head _⟩, hupper⟩

/-- **A name is in lower case, and the name of a name is that name**, but for upper-case letters
without a lower-case form. They are the upper-case characters of the name; and a name becomes another
one when it is read again just if one of them starts a word in it, which it does after a lower-case
letter, after a digit, and between an upper-case letter and a lower-case one. -/
theorem name_lowered (ident : String) :
    (∀ d, d ∈ (name ident).toList ∧ Text.isUppercase d = true ↔
      d ∈ ident.toList ∧ Text.isUnlowered d = true) ∧
    (name (name ident) = name ident ↔
      ∀ p c r, (name ident).toList = p ++ c :: r → startsAt p c r = false) ∧
    ((∀ c ∈ ident.toList, Text.isUnlowered c = false) →
      (∀ d ∈ (name ident).toList, Text.isUppercase d = false) ∧
        name (name ident) = name ident) := by
  have hchars : (name ident).toList = nameChars ident.toList := by
    rw [name, String.toList_ofList]
  have hupper : ∀ d, d ∈ (name ident).toList ∧ Text.isUppercase d = true ↔
      d ∈ ident.toList ∧ Text.isUnlowered d = true := by
    intro d
    rw [hchars]
    exact mem_name_isUppercase_iff
  have hagain : name (name ident) = name ident ↔
      ∀ p c r, (name ident).toList = p ++ c :: r → startsAt p c r = false := by
    rw [← String.toList_inj, hchars, ← (divided_nameChars ident.toList).nameChars_eq_iff, name,
      String.toList_ofList, hchars]
  refine ⟨hupper, hagain, fun hall => ?_⟩
  have hlower : ∀ d ∈ (name ident).toList, Text.isUppercase d = false := by
    intro d hd
    by_contra hu
    obtain ⟨hmem, hun⟩ := (hupper d).mp ⟨hd, by simpa using hu⟩
    rw [hall d hmem] at hun
    cases hun
  refine ⟨hlower, hagain.mpr fun p c r hsplit => ?_⟩
  rw [startsAt, hlower c (by simp [hsplit]), Bool.false_and]

/-- A capital with a dot, a letter in title case and an acronym are all lowered for good. -/
theorem name_lowered_acronym :
    (∀ c ∈ "İstHTTPǅ2_Go".toList, Text.isUnlowered c = false) ∧
      name "İstHTTPǅ2_Go" = "i̇st-httpǆ2-go" ∧ name "i̇st-httpǆ2-go" = "i̇st-httpǆ2-go" := by
  have hall : ∀ c ∈ "İstHTTPǅ2_Go".toList, Text.isUnlowered c = false := by
    have hnone : "İstHTTPǅ2_Go".toList.any Text.isUnlowered = false := by decide +kernel
    exact fun c hc => Bool.eq_false_iff.mpr (List.any_eq_false.mp hnone c hc)
  have hname : name "İstHTTPǅ2_Go" = "i̇st-httpǆ2-go" := by decide +kernel
  have hagain := ((name_lowered "İstHTTPǅ2_Go").2.2 hall).2
  rw [hname] at hagain
  exact ⟨hall, hname, hagain⟩

/-- The letter `ℝ` has no lower-case form: it stays in the name, and when the name is read again it
starts a word. -/
theorem name_unlowered : Text.isIdentStart 'A' = true ∧ Text.isIdentContinue 'ℝ' = true ∧
    name "Aℝ" = "aℝ" ∧ Text.isUppercase 'ℝ' = true ∧ name "aℝ" = "a-ℝ" := by
  decide +kernel

end TaskDriver.Task
