import Mathlib.Data.List.Forall2
import TaskDriver.Toml.Blank

/-! How readers run: what is known of the parts is put together for the whole. -/
namespace TaskDriver.Toml

namespace Scan

variable {α β ι : Type} {p : Scan α} {s r : List Char} {a : α}

theorem bind_read {f : α → Scan β} (h : p s = .read a r) : (p >>= f) s = f a r := by
  simp only [bind, h]

theorem bind_failed {f : α → Scan β} {b : Bool} (h : p s = .failed b r) :
    (p >>= f) s = .failed b r := by
  simp only [bind, h]

theorem settle_read (h : p s = .read a r) : settle p s = .read a r := by
  simp only [settle, h]

theorem orElse_read {q : Scan α} (h : p s = .read a r) : orElse p q s = .read a r := by
  simp only [orElse, h]

theorem orElse_failed {q : Scan α} (h : p s = .failed false r) : orElse p q s = q s := by
  simp only [orElse, h]

theorem optional_read (h : p s = .read a r) : optional p s = .read (some a) r := by
  simp only [optional, h]

theorem optional_failed (h : p s = .failed false r) : optional p s = .read none s := by
  simp only [optional, h]

theorem mapped_read {f : α → Option β} {b : β} (h : p s = .read a r) (hf : f a = some b) :
    mapped p f s = .read b r := by
  simp only [mapped, h, hf]

theorem mapped_none {f : α → Option β} (h : p s = .read a r) (hf : f a = none) :
    mapped p f s = .failed false s := by
  simp only [mapped, h, hf]

theorem mapped_failed {f : α → Option β} {b : Bool} (h : p s = .failed b r) :
    mapped p f s = .failed b r := by
  simp only [mapped, h]

theorem oneOf_read {q : Char → Bool} {c : Char} (h : q c = true) (s : List Char) :
    oneOf q (c :: s) = .read c s := by
  simp [oneOf, h]

theorem oneOf_failed {q : Char → Bool} (h : s.head?.any q = false) :
    oneOf q s = .failed false s := by
  cases s with
  | nil => rfl
  | cons c s => simp_all [oneOf]

theorem mark_read (c : Char) (s : List Char) : mark c (c :: s) = .read () s :=
  bind_read (oneOf_read (by simp) s)

theorem mark_failed {c : Char} (h : s.head? ≠ some c) : mark c s = .failed false s := by
  refine bind_failed (oneOf_failed ?_)
  cases s with
  | nil => rfl
  | cons d s => simpa using h

theorem exactly_read (t s : List Char) : exactly t (t ++ s) = .read () s := by
  simp [exactly]

theorem exactly_pair (c d : Char) (s : List Char) : exactly [c, d] (c :: d :: s) = .read () s :=
  exactly_read [c, d] s

theorem exactly_failed {t : List Char} (h : ¬ t <+: s) : exactly t s = .failed false s := by
  rw [exactly, if_neg (by simpa using h)]

/-- A span of a class ends at the first character of another. -/
theorem takeWhile_span {q : Char → Bool} {t : List Char} (ht : ∀ c ∈ t, q c = true)
    (hs : s.head?.any q = false) : (t ++ s).takeWhile q = t ∧ (t ++ s).dropWhile q = s := by
  have hnone : s.takeWhile q = [] ∧ s.dropWhile q = s := by
    cases s with
    | nil => exact ⟨rfl, rfl⟩
    | cons c s => simp_all
  rw [List.takeWhile_append_of_pos ht, List.dropWhile_append_of_pos ht, hnone.1, hnone.2,
    List.append_nil]
  exact ⟨rfl, rfl⟩

theorem takeWhile_read {q : Char → Bool} {t : List Char} (ht : ∀ c ∈ t, q c = true)
    (hs : s.head?.any q = false) : takeWhile q (t ++ s) = .read t s := by
  rw [takeWhile, (takeWhile_span ht hs).1, (takeWhile_span ht hs).2]

theorem takeSome_read {q : Char → Bool} {t : List Char} (ht : ∀ c ∈ t, q c = true) (hne : t ≠ [])
    (hs : s.head?.any q = false) : takeSome q (t ++ s) = .read t s := by
  obtain ⟨c, u, rfl⟩ := List.exists_cons_of_ne_nil hne
  rw [takeSome, if_pos (by simp [ht c (.head _)]), (takeWhile_span ht hs).1,
    (takeWhile_span ht hs).2]

theorem count_read {q : Char → Bool} {t : List Char} {n : Nat} (hn : t.length = n)
    (ht : ∀ c ∈ t, q c = true) (s : List Char) : count n q (t ++ s) = .read t s := by
  subst hn
  simpa [count] using ht

theorem count_failed {q : Char → Bool} {t : List Char} {n : Nat} {c : Char} (hn : t.length < n)
    (hc : q c = false) (s : List Char) :
    count n q (t ++ c :: s) = .failed false (t ++ c :: s) := by
  have hmem : c ∈ (t ++ c :: s).take n := by
    rw [List.take_append, List.mem_append]
    obtain ⟨k, hk⟩ : ∃ k, n - t.length = k + 1 := ⟨n - t.length - 1, by omega⟩
    exact .inr (by rw [hk, List.take_succ_cons]; exact .head _)
  refine if_neg fun h => ?_
  rw [List.all_eq_true.mp h.2 c hmem] at hc
  exact absurd hc (by decide)

theorem many_stop (h : p s = .failed false r) : many p s = .read [] s := by
  rw [many, h]

theorem many_next {as : List α} {t : List Char} (h : p s = .read a r) (hl : r.length < s.length)
    (hr : many p r = .read as t) : many p s = .read (a :: as) t := by
  rw [many, h]
  simp only [hl, ↓reduceDIte, hr]

/-- Pieces one after the other, each of which can be read in front of whatever may follow it;
something may be passed over behind each. -/
theorem many_pieces_skip (R : α → ι → Prop) (write : ι → List Char) (follow : List Char → Prop)
    (skip : List Char → List Char) {xs : List ι} (hs : follow s)
    (hstop : p (skip s) = .failed false r)
    (hread : ∀ x ∈ xs, ∀ t, follow t → ∃ a, p (write x ++ t) = .read a (skip t) ∧ R a x)
    (hfollow : ∀ x ∈ xs, ∀ t, follow (write x ++ t)) (hne : ∀ x ∈ xs, write x ≠ [])
    (hskip : ∀ x ∈ xs, ∀ t, skip (write x ++ t) = write x ++ t)
    (hshort : ∀ t, (skip t).length ≤ t.length) :
    ∃ as, many p (skip (xs.flatMap write ++ s)) = .read as (skip s) ∧ List.Forall₂ R as xs := by
  induction xs with
  | nil => exact ⟨[], many_stop hstop, .nil⟩
  | cons x xs ih =>
    obtain ⟨as, has, hR⟩ := ih (fun y hy => hread y (.tail _ hy))
      (fun y hy => hfollow y (.tail _ hy))
      (fun y hy => hne y (.tail _ hy)) fun y hy => hskip y (.tail _ hy)
    have htail : follow (xs.flatMap write ++ s) := by
      cases xs with
      | nil => exact hs
      | cons y ys =>
        rw [List.flatMap_cons, List.append_assoc]
        exact hfollow y (.tail _ (.head _)) _
    obtain ⟨a, ha, haR⟩ := hread x (.head _) _ htail
    refine ⟨a :: as, ?_, .cons haR hR⟩
    rw [List.flatMap_cons, List.append_assoc, hskip x (.head _)]
    refine many_next ha ?_ has
    have h₁ := List.length_pos_iff.mpr (hne x (.head _))
    have h₂ := hshort (xs.flatMap write ++ s)
    simp only [List.length_append] at h₂ ⊢
    omega

theorem many_pieces (R : α → ι → Prop) (write : ι → List Char) (follow : List Char → Prop)
    {xs : List ι} (hs : follow s) (hstop : p s = .failed false r)
    (hread : ∀ x ∈ xs, ∀ t, follow t → ∃ a, p (write x ++ t) = .read a t ∧ R a x)
    (hfollow : ∀ x ∈ xs, ∀ t, follow (write x ++ t)) (hne : ∀ x ∈ xs, write x ≠ []) :
    ∃ as, many p (xs.flatMap write ++ s) = .read as s ∧ List.Forall₂ R as xs :=
  many_pieces_skip R write follow id hs hstop hread hfollow hne (fun _ _ _ => rfl)
    fun _ => Nat.le_refl _

/-- Pieces with a separator between two of them, the first of which is written as `w`. -/
theorem separated_pieces (R : α → ι → Prop) (write : ι → List Char) (follow : List Char → Prop)
    (skip : List Char → List Char) {c : Char} {w : List Char} {x : ι} {xs : List ι} (hs : follow s)
    (hc : (skip s).head? ≠ some c)
    (hfirst : ∀ t, follow t → ∃ a, p (w ++ t) = .read a (skip t) ∧ R a x)
    (hmore : ∀ y ∈ xs, ∀ t, follow t → ∃ a, p (write y ++ t) = .read a (skip t) ∧ R a y)
    (hfollow : ∀ t, follow (c :: t)) (hskip : ∀ t, skip (c :: t) = c :: t)
    (hshort : ∀ t, (skip t).length ≤ t.length) :
    ∃ as, separated p c (w ++ (xs.flatMap (fun y => c :: write y) ++ s)) = .read as (skip s) ∧
      List.Forall₂ R as (x :: xs) := by
  have hstop : (do mark c; p : Scan α) (skip s) = .failed false (skip s) :=
    bind_failed (mark_failed hc)
  obtain ⟨as, has, hR⟩ := many_pieces_skip R (fun y => c :: write y) follow skip hs hstop
    (fun y hy t ht => by
      obtain ⟨a, ha, haR⟩ := hmore y hy t ht
      exact ⟨a, (bind_read (mark_read c _)).trans ha, haR⟩)
    (fun y _ t => hfollow _) (fun y _ => List.cons_ne_nil _ _) (fun y _ t => hskip _) hshort
  have htail : follow (xs.flatMap (fun y => c :: write y) ++ s) := by
    cases xs with
    | nil => exact hs
    | cons y ys => exact hfollow _
  obtain ⟨a, ha, haR⟩ := hfirst _ htail
  exact ⟨a :: as, (bind_read ha).trans (bind_read has), .cons haR hR⟩

end Scan

/-! ## Blanks -/

variable {s : List Char}

theorem blanks_blank (s : List Char) : blanks (' ' :: s) = blanks s := rfl

theorem blanks_none (h : s.head?.any isBlankChar = false) : blanks s = .read () s := by
  rw [blanks, Scan.skipWhile]
  cases s with
  | nil => rfl
  | cons c s => simp_all

/-- Nothing that readers pass over between the parts stands at the start. -/
def Firm (s : List Char) : Prop :=
  ∀ c, s.head? = some c → c ∉ [' ', '\t', '#', '\r', '\n']

theorem Firm.not_blank (h : Firm s) : s.head?.any isBlankChar = false := by
  cases s with
  | nil => rfl
  | cons c s =>
    have := h c rfl
    simp_all [isBlankChar]

theorem Firm.head_ne (h : Firm s) {c : Char} (hc : c ∈ [' ', '\t', '#', '\r', '\n']) :
    s.head? ≠ some c :=
  fun he => h c he hc

theorem newline_failed (h₁ : s.head? ≠ some '\n') (h₂ : s.head? ≠ some '\r') :
    newline s = .failed false s := by
  cases s with
  | nil => rfl
  | cons c s =>
    unfold newline
    split
    · simp_all
    · simp_all
    · rfl

theorem comment_failed (h : s.head? ≠ some '#') : comment s = .failed false s :=
  Scan.bind_failed (Scan.mark_failed h)

theorem space_of_blanks {t : List Char} (ht : blanks t = .read () s) (h : Firm s) :
    space t = .read () s := by
  have hline : (do blanks; let _ ← Scan.optional comment; newline : Scan Unit) t =
      .failed false s := by
    rw [Scan.bind_read ht,
      Scan.bind_read (Scan.optional_failed (comment_failed (h.head_ne (by decide))))]
    exact newline_failed (h.head_ne (by decide)) (h.head_ne (by decide))
  have hnone : s.head?.any (fun c => decide (c = '#' ∨ c = '\r')) = false := by
    cases s with
    | nil => rfl
    | cons c s =>
      have := h c rfl
      simp_all
  rw [space, Scan.bind_read (Scan.many_stop hline), Scan.bind_read ht,
    Scan.bind_read (p := Scan.ahead) (a := s) rfl, hnone]
  rfl

theorem space_none (h : Firm s) : space s = .read () s :=
  space_of_blanks (blanks_none h.not_blank) h

theorem space_blank (h : Firm s) : space (' ' :: s) = .read () s :=
  space_of_blanks ((blanks_blank s).trans (blanks_none h.not_blank)) h

/-! ## Behind a value -/

/-- What stands behind a value: the end of its line, or of an array or a table around it, or
another value. -/
inductive EndsValue : List Char → Prop
  | line (t : List Char) : EndsValue ('\n' :: t)
  | next (t : List Char) : EndsValue (',' :: t)
  | array (t : List Char) : EndsValue (']' :: t)
  | braces (t : List Char) : EndsValue (' ' :: '\x7d' :: t)

theorem EndsValue.head_ne (h : EndsValue s) {c : Char} (hc : c ∉ ['\n', ',', ']', ' ']) :
    s.head? ≠ some c := by
  cases h <;> simp_all [eq_comm]

theorem EndsValue.head_not (h : EndsValue s) {p : Char → Bool}
    (hp : ['\n', ',', ']', ' '].any p = false) : s.head?.any p = false := by
  cases h <;> simp_all

end TaskDriver.Toml
