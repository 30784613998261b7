import TaskDriver.Proofs.Files.Lead

/-! The text of a path. A path from the root that is written down is read as the same path. -/
namespace TaskDriver

namespace Text

variable {sep : Char} {l s : List Char}

theorem splitOn_of_not_mem (h : sep ∉ l) : splitOn sep l = [l] := by
  induction l with
  | nil => rfl
  | cons c l ih =>
    simp only [List.mem_cons, not_or] at h
    obtain ⟨hc, hl⟩ := h
    rw [splitOn, if_neg (Ne.symm hc), ih hl]

theorem splitOn_append (h : sep ∉ l) : splitOn sep (l ++ sep :: s) = l :: splitOn sep s := by
  induction l with
  | nil => rw [List.nil_append, splitOn, if_pos rfl]
  | cons c l ih =>
    simp only [List.mem_cons, not_or] at h
    obtain ⟨hc, hl⟩ := h
    rw [List.cons_append, splitOn, if_neg (Ne.symm hc), ih hl]

theorem splitOn_intercalate {ls : List (List Char)} (hne : ls ≠ []) (h : ∀ l ∈ ls, sep ∉ l) :
    splitOn sep ([sep].intercalate ls) = ls := by
  induction ls with
  | nil => exact absurd rfl hne
  | cons l ls ih =>
    have hl := h l (.head _)
    cases ls with
    | nil => exact (congrArg _ List.intercalate_singleton).trans (splitOn_of_not_mem hl)
    | cons m ms =>
      rw [List.intercalate_cons_cons, List.append_assoc, List.singleton_append, splitOn_append hl,
        ih (by simp) fun k hk => h k (.tail _ hk)]

end Text

namespace Files.Path

/-- A path from the root, as it is read from a text. -/
structure Rooted (p : Path) : Prop where
  absolute : p.absolute = true
  plain : ∀ n ∈ p.names, '/' ∉ n.toList
  names : p.names ≠ [""]

variable {p : Path}

theorem Rooted.toList_text (h : p.Rooted) :
    p.text.toList = '/' :: ['/'].intercalate (p.names.map String.toList) := by
  simp [text, h.absolute]

theorem Rooted.text_ne (h : p.Rooted) {c : Char} {r : List Char} (hc : c ≠ '/') :
    p.text ≠ String.ofList (c :: r) := by
  intro he
  have := h.toList_text
  rw [he, String.toList_ofList] at this
  exact hc (List.cons.inj this).1

theorem Rooted.ofText_text (h : p.Rooted) : ofText p.text = p := by
  obtain ⟨absolute, names⟩ := p
  cases h.absolute
  unfold ofText
  rw [h.toList_text]
  simp only [Path.mk.injEq, true_and]
  unfold namesOf
  split
  · next he =>
    cases names with
    | nil => rfl
    | cons n ns =>
      cases ns with
      | nil =>
        have hn : n = "" := by simpa using he
        exact absurd (by rw [hn]) h.names
      | cons m ms => simp at he
  · next he =>
    have hne : names.map String.toList ≠ [] := by
      intro hnil
      rw [hnil] at he
      exact he rfl
    have hplain : ∀ l ∈ names.map String.toList, '/' ∉ l := by
      intro l hl
      obtain ⟨n, hn, rfl⟩ := List.mem_map.mp hl
      exact h.plain n hn
    rw [Text.splitOn_intercalate hne hplain, List.map_map]
    simp [Function.comp_def]

theorem Rooted.child {n : String} (h : p.Rooted) (hn : Literal n) (hs : '/' ∉ n.toList) :
    (p.child n).Rooted := by
  rw [child_eq hn]
  refine ⟨h.absolute, ?_, ?_⟩
  · intro m hm
    rcases List.mem_append.mp hm with hm | hm
    · obtain ⟨bs, hbs, _⟩ := p.names_eq_stem_append
      exact h.plain m (hbs ▸ List.mem_append_left _ hm)
    · rw [List.mem_singleton.mp hm]
      exact hs
  · intro he
    have hlast := congrArg List.getLast? he
    simp at hlast
    exact hn.ne_empty hlast

end Files.Path

end TaskDriver
