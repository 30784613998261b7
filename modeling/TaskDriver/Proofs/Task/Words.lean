import Mathlib.Data.List.Basic
import TaskDriver.Proofs.Task.Naming

/-! A task name as the words of an identifier. The characters other than separators stand in the
name in lower case and in their order, and a hyphen stands between two of them just where a word
ends and the next one starts. -/
namespace TaskDriver.Task

/-- The characters of an identifier that are no separators, with their positions. -/
def kept (s : List Char) : List (Char × Nat) :=
  s.zipIdx.filter fun x => !isSeparator x.1

/-- Whether a word ends with the first of two characters and the next word starts with the second
one: separators stand between them, or the second one is a capital after a lower-case letter, after
a digit, or at the end of a run of capitals. -/
def divides (s : List Char) : Char × Nat → Char × Nat → Bool
  | (b, i), (c, j) =>
    i + 1 < j || Text.isUppercase c &&
      (Text.isLowercase b || b.isDigit || Text.isUppercase b && s[j + 1]?.any Text.isLowercase)

/-- What stands between two characters that follow each other in the name. -/
def between (s : List Char) (x y : Char × Nat) : List Char :=
  if divides s x y then ['-'] else []

/-- Characters of an identifier in lower case, divided into words. -/
def joined (s : List Char) : List (Char × Nat) → List Char
  | [] => []
  | [x] => Text.lowercase x.1
  | x :: y :: xs => Text.lowercase x.1 ++ between s x y ++ joined s (y :: xs)

variable {s p : List Char} {b c : Char} {x y : Char × Nat} {xs : List (Char × Nat)}

/-! ## The characters that are kept -/

theorem kept_snoc_separator (hc : isSeparator c = true) : kept (p ++ [c]) = kept p := by
  simp [kept, List.zipIdx_append, hc]

theorem kept_snoc (hc : isSeparator c = false) : kept (p ++ [c]) = kept p ++ [(c, p.length)] := by
  simp [kept, List.zipIdx_append, hc]

theorem kept_before (h : x ∈ kept s) : x.2 < s.length ∧ isSeparator x.1 = false := by
  obtain ⟨hx, hs⟩ := List.mem_filter.mp h
  exact ⟨by simpa using List.snd_lt_add_of_mem_zipIdx hx, by simpa using hs⟩

theorem not_isSeparator_kept (s : List Char) : ∀ x ∈ kept s, isSeparator x.1 = false :=
  fun _ hx => (kept_before hx).2

/-- Without their positions they are what is left of the identifier. -/
theorem map_kept (s : List Char) : (kept s).map Prod.fst = s.filter (!isSeparator ·) := by
  rw [kept, ← List.zipIdx_map_fst 0 s, List.filter_map, List.zipIdx_map_fst]
  rfl

/-! ## The words they are joined to -/

theorem joined_snoc (s : List Char) (xs : List (Char × Nat)) (x y : Char × Nat) :
    joined s (xs ++ [x] ++ [y]) =
      joined s (xs ++ [x]) ++ between s x y ++ Text.lowercase y.1 := by
  induction xs with
  | nil => simp [joined]
  | cons w xs ih =>
    cases xs with
    | nil => simp [joined]
    | cons z xs =>
      simp only [List.cons_append] at ih ⊢
      rw [joined, ih, joined]
      simp only [List.append_assoc]

/-- The image of a character is not empty and has no hyphen in it. -/
theorem image (hc : isSeparator c = false) : Text.lowercase c ≠ [] ∧ '-' ∉ Text.lowercase c := by
  refine ⟨Text.lowercase_ne_nil c, Text.hyphen_not_mem_lowercase ?_⟩
  rintro rfl
  exact absurd hc (by decide)

theorem exists_joined_snoc (s : List Char) (xs : List (Char × Nat)) (x : Char × Nat) :
    ∃ w, joined s (xs ++ [x]) = w ++ Text.lowercase x.1 := by
  rcases List.eq_nil_or_concat xs with rfl | ⟨ys, y, rfl⟩
  · exact ⟨[], rfl⟩
  · rw [List.concat_eq_append]
    exact ⟨_, joined_snoc s ys y x⟩

theorem joined_kept_eq_nil_iff : joined s (kept p) = [] ↔ kept p = [] := by
  rcases List.eq_nil_or_concat (kept p) with h | ⟨xs, x, h⟩
  · simp [h, joined]
  · rw [h, List.concat_eq_append]
    obtain ⟨w, hw⟩ := exists_joined_snoc s xs x
    simp [hw, Text.lowercase_ne_nil]

/-- The name ends with the image of a character. -/
theorem getLast?_joined (s p : List Char) : (joined s (kept p)).getLast? ≠ some '-' := by
  rcases List.eq_nil_or_concat (kept p) with h | ⟨xs, x, h⟩
  · simp [h, joined]
  · have hx : isSeparator x.1 = false := (kept_before (s := p) (by simp [h])).2
    obtain ⟨w, hw⟩ := exists_joined_snoc s xs x
    rw [h, List.concat_eq_append, hw, List.getLast?_append_of_ne_nil _ (image hx).1]
    exact fun hl => (image hx).2 (List.mem_of_getLast? hl)

/-! ## The name while it is built -/

/-- The hyphen that waits for a next word. -/
def pending (p : List Char) : List Char :=
  if p.getLast?.any isSeparator && !(kept p).isEmpty then ['-'] else []

/-- What comes between the last character of a part that is kept and the next one. -/
def gap (s p : List Char) (y : Char × Nat) : List Char :=
  ((kept p).getLast?.map (between s · y)).getD []

theorem joined_next (s p : List Char) (y : Char × Nat) :
    joined s (kept p ++ [y]) = joined s (kept p) ++ gap s p y ++ Text.lowercase y.1 := by
  rcases List.eq_nil_or_concat (kept p) with h | ⟨xs, x, h⟩
  · simp [gap, h, joined]
  · rw [gap, h, List.concat_eq_append, joined_snoc, List.getLast?_concat]
    rfl

/-- A hyphen is added behind a word that has none behind it yet. -/
theorem addHyphen_reverse {w t : List Char} (hw : w.getLast? ≠ some '-')
    (ht : t = [] ∨ t = ['-'] ∧ w ≠ []) :
    addHyphen (w ++ t).reverse = (w ++ if w = [] then [] else ['-']).reverse := by
  rcases ht with rfl | ⟨rfl, hne⟩
  · rcases List.eq_nil_or_concat w with rfl | ⟨u, d, rfl⟩
    · rfl
    · have hd : d ≠ '-' := by simpa using hw
      simp [addHyphen, hd]
  · simp [addHyphen, hne]

theorem pending_cases (s p : List Char) :
    pending p = [] ∨ pending p = ['-'] ∧ joined s (kept p) ≠ [] := by
  unfold pending
  split
  · next h =>
    simp only [Bool.and_eq_true, Bool.not_eq_true', List.isEmpty_eq_false_iff] at h
    exact .inr ⟨rfl, fun hj => h.2 (joined_kept_eq_nil_iff.mp hj)⟩
  · exact .inl rfl

/-- After a separator a hyphen waits, if there is a word before it. -/
theorem reverse_addHyphen_separator (hc : isSeparator c = true) :
    (addHyphen (joined s (kept p) ++ pending p).reverse).reverse =
      joined s (kept (p ++ [c])) ++ pending (p ++ [c]) := by
  rw [addHyphen_reverse (getLast?_joined s p) (pending_cases s p), List.reverse_reverse, pending,
    kept_snoc_separator hc]
  simp [joined_kept_eq_nil_iff, hc]

/-- Where the next character is kept, the hyphen is there just if a word starts with it. -/
theorem addHyphen_next {r : List Char} (hs : s = p ++ c :: r) :
    (if Text.isUppercase c && startsWord p.getLast? r.head? then
        addHyphen (joined s (kept p) ++ pending p).reverse
      else (joined s (kept p) ++ pending p).reverse) =
      (joined s (kept p) ++ gap s p (c, p.length)).reverse := by
  have hadd := addHyphen_reverse (getLast?_joined s p) (pending_cases s p)
  rw [hadd]
  simp only [joined_kept_eq_nil_iff]
  rcases List.eq_nil_or_concat p with rfl | ⟨q, b, rfl⟩
  · simp [startsWord, pending, gap, kept]
  rw [List.concat_eq_append] at hs ⊢
  by_cases hb : isSeparator b = true
  · -- The separator before it makes the hyphen, if there is a word before that.
    rcases List.eq_nil_or_concat (kept q) with hq | ⟨xs, x, hq⟩
    · simp [pending, gap, kept_snoc_separator hb, hq]
    · have hx : x.2 < q.length := (kept_before (s := q) (by simp [hq])).1
      simp [pending, gap, kept_snoc_separator hb, hq, hb, between, divides, hx]
  · -- The two characters stand side by side in the identifier.
    have hb : isSeparator b = false := by simpa using hb
    have hnext : s[q.length + 2]? = r.head? := by
      rw [hs, List.getElem?_append_right (by simp)]
      cases r <;> simp
    have hstart : divides s (b, q.length) (c, q.length + 1) =
        (Text.isUppercase c && startsWord (some b) r.head?) := by
      simp [divides, startsWord, hnext]
    simp only [pending, gap, kept_snoc hb, between, List.getLast?_concat, List.length_append,
      List.length_singleton, Option.map_some, Option.getD_some, hstart, Option.any_some, hb]
    split <;> simp

theorem nameFrom_reverse {r : List Char} (hs : s = p ++ r) :
    (nameFrom (joined s (kept p) ++ pending p).reverse p.getLast? r).reverse =
      joined s (kept s) ++ pending s := by
  induction r generalizing p with
  | nil =>
    rw [nameFrom, List.reverse_reverse, hs, List.append_nil]
  | cons c r ih =>
    have ih := ih (p := p ++ [c]) (by rw [hs, List.append_assoc]; rfl)
    rw [List.getLast?_concat] at ih
    rw [nameFrom]
    split
    · next hc =>
      rw [← reverse_addHyphen_separator hc, List.reverse_reverse] at ih
      exact ih
    · next hc =>
      have hc : isSeparator c = false := by simpa using hc
      dsimp only
      rw [addHyphen_next hs, ← List.reverse_append, List.append_assoc, ← List.append_assoc]
      rw [kept_snoc hc, joined_next] at ih
      have hp : pending (p ++ [c]) = [] := by simp [pending, hc]
      rw [hp, List.append_nil] at ih
      exact ih

/-- The hyphen that waits at the end is cut off. -/
theorem nameChars_eq (s : List Char) : nameChars s = joined s (kept s) := by
  have hb : (nameFrom [] none s).reverse = joined s (kept s) ++ pending s :=
    nameFrom_reverse (p := []) rfl
  have hlast : ∀ w : List Char, w.getLast? ≠ some '-' →
      w.reverse.dropWhile (· == '-') = w.reverse := by
    intro w hw
    rcases List.eq_nil_or_concat w with rfl | ⟨u, d, rfl⟩
    · rfl
    · have hd : d ≠ '-' := by simpa using hw
      simp [hd]
  rw [nameChars, ← List.reverse_reverse (nameFrom [] none s), hb, List.reverse_append]
  rcases pending_cases s s with ht | ⟨ht, _⟩ <;>
    simp [ht, hlast _ (getLast?_joined s s)]

/-! ## Where its hyphens are -/

theorem filter_joined (h : ∀ x ∈ xs, isSeparator x.1 = false) :
    (joined s xs).filter (· ≠ '-') = (xs.map Prod.fst).flatMap Text.lowercase := by
  have hf : ∀ x ∈ xs, (Text.lowercase x.1).filter (· ≠ '-') = Text.lowercase x.1 := by
    intro x hx
    refine List.filter_eq_self.mpr fun d hd => ?_
    have hne : d ≠ '-' := by
      rintro rfl
      exact (image (h x hx)).2 hd
    simpa using hne
  have hb : ∀ x y, (between s x y).filter (· ≠ '-') = [] := by
    intro x y
    unfold between
    split <;> rfl
  induction xs with
  | nil => rfl
  | cons x xs ih =>
    cases xs with
    | nil => simpa [joined] using hf x (.head _)
    | cons y xs =>
      have ih := ih (fun z hz => h z (.tail _ hz)) fun z hz => hf z (.tail _ hz)
      rw [joined, List.filter_append, List.filter_append, hb, hf x (.head _), ih, List.append_nil]
      rfl

theorem head?_joined (h : ∀ x ∈ xs, isSeparator x.1 = false) (r : List Char) :
    xs ≠ [] → (joined s xs ++ r).head? ≠ some '-' := by
  intro hne
  obtain ⟨x, xs, rfl⟩ := List.exists_cons_of_ne_nil hne
  have hx := image (h x (.head _))
  obtain ⟨d, l, hl⟩ := List.exists_cons_of_ne_nil hx.1
  have hd : d ≠ '-' := by
    rintro rfl
    exact hx.2 (hl ▸ .head _)
  cases xs <;> simp [joined, hl, hd]

/-- A doubled hyphen is not in a text without hyphens, nor does it start in one. -/
theorem doubled_append {w r : List Char} (hw : '-' ∉ w) (h : ['-', '-'] <:+: w ++ r) :
    ['-', '-'] <:+: r := by
  induction w with
  | nil => exact h
  | cons d w ih =>
    rw [List.cons_append, List.infix_cons_iff] at h
    rcases h with hp | h
    · obtain rfl := (List.cons_prefix_cons.mp hp).1
      exact absurd (.head _) hw
    · exact ih (fun hm => hw (.tail _ hm)) h

theorem not_doubled_joined (h : ∀ x ∈ xs, isSeparator x.1 = false) :
    ¬ ['-', '-'] <:+: joined s xs := by
  induction xs with
  | nil => simp [joined]
  | cons x xs ih =>
    have hx := (image (h x (.head _))).2
    cases xs with
    | nil =>
      intro hd
      rw [joined] at hd
      exact hx (hd.subset (.head _))
    | cons y xs =>
      have hxs : ∀ z ∈ y :: xs, isSeparator z.1 = false := fun z hz => h z (.tail _ hz)
      intro hd
      rw [joined, List.append_assoc] at hd
      have hd := doubled_append hx hd
      rw [between] at hd
      split at hd
      · -- The hyphen between two words has a letter behind it.
        rw [List.singleton_append, List.infix_cons_iff] at hd
        rcases hd with hp | hd
        · obtain ⟨t, ht⟩ := (List.cons_prefix_cons.mp hp).2
          refine head?_joined (s := s) hxs [] (List.cons_ne_nil _ _) ?_
          rw [List.append_nil, ← ht]
          rfl
        · exact ih hxs hd
      · exact ih hxs hd

/-- **A task name is the words of its identifier.** Between the images of two characters that
follow each other when the separators are left out, there is one hyphen where a word ends and
nothing else; there are no other hyphens, so that they are never first, last or doubled, and the
name without them is the characters in lower case. -/
theorem name_eq_words (ident : String) :
    (name ident).toList = joined ident.toList (kept ident.toList) ∧
    (∀ x ∈ kept ident.toList, Text.lowercase x.1 ≠ [] ∧ '-' ∉ Text.lowercase x.1) ∧
    (name ident).toList.filter (· ≠ '-') =
      (ident.toList.filter (!isSeparator ·)).flatMap Text.lowercase ∧
    (name ident).toList.head? ≠ some '-' ∧ (name ident).toList.getLast? ≠ some '-' ∧
    ¬ ['-', '-'] <:+: (name ident).toList := by
  have hk : ∀ x ∈ kept ident.toList, isSeparator x.1 = false := fun x hx => (kept_before hx).2
  have hname : (name ident).toList = joined ident.toList (kept ident.toList) := by
    rw [name, String.toList_ofList, nameChars_eq]
  rw [hname]
  refine ⟨rfl, fun x hx => image (hk x hx), ?_, ?_, getLast?_joined _ _, not_doubled_joined hk⟩
  · rw [filter_joined hk, map_kept]
  · by_cases hne : kept ident.toList = []
    · simp [hne, joined]
    · have hhead := head?_joined (s := ident.toList) hk [] hne
      rwa [List.append_nil] at hhead

/-- Capitals in a row are one word, and the last of them starts the next word; the two characters
that `İ` has in lower case stay together. -/
theorem name_eq_words_acronym :
    name "_HTTPServer2__Go-İx_" = "http-server2-go-i̇x" ∧
    ('İ', 17) ∈ kept "_HTTPServer2__Go-İx_".toList ∧ '-' ∉ Text.lowercase 'İ' ∧
    (name "_HTTPServer2__Go-İx_").toList.head? ≠ some '-' := by
  obtain ⟨hname, himage, -, hhead, -⟩ := name_eq_words "_HTTPServer2__Go-İx_"
  have hm : ('İ', 17) ∈ kept "_HTTPServer2__Go-İx_".toList := by decide +kernel
  have hjoined : joined "_HTTPServer2__Go-İx_".toList (kept "_HTTPServer2__Go-İx_".toList) =
      "http-server2-go-i̇x".toList := by decide +kernel
  exact ⟨String.toList_inj.mp (hname.trans hjoined), hm, (himage _ hm).2, hhead⟩

end TaskDriver.Task
