import TaskDriver.Definition.Command

/-! What holds of every command of a definition file that is accepted: the name of an exported one
is no keyword, and its summary is one line. -/
namespace TaskDriver

namespace Text

variable {sep c : Char} {l s : List Char}

theorem not_mem_of_mem_splitOn (h : l ∈ splitOn sep s) : sep ∉ l := by
  induction s generalizing l with
  | nil =>
    rw [splitOn, List.mem_singleton] at h
    rw [h]
    exact List.not_mem_nil
  | cons c s ih =>
    rw [splitOn] at h
    split at h
    next hc =>
      rcases List.mem_cons.mp h with rfl | hl
      · exact List.not_mem_nil
      · exact ih hl
    next hc =>
      -- The line that the character stands on, and the others.
      split at h
      next l' ls hs =>
        rw [hs] at ih
        rcases List.mem_cons.mp h with rfl | hl
        · have hl := ih (.head _)
          simp [Ne.symm hc, hl]
        · exact ih (.tail _ hl)
      next hs => exact absurd hs (splitOn_ne_nil sep s)

theorem mem_of_mem_cutEnd {p : Char → Bool} (h : c ∈ cutEnd p s) : c ∈ s :=
  List.mem_reverse.mp ((List.dropWhile_sublist p).mem (List.mem_reverse.mp h))

end Text

namespace Definition

variable {source : List Char} {commands : List Command} {c : Command}

theorem commandsOf_of_toOption (h : (commandsOf source).toOption = some commands) :
    commandsOf source = .ok commands := by
  rcases hc : commandsOf source with f | found <;> rw [hc] at h <;> cases h
  rfl

/-- Every command comes from a function. -/
theorem exists_function (h : commandsOf source = .ok commands) (hc : c ∈ commands) :
    ∃ f, c = .ofFunction f := by
  unfold commandsOf at h
  split at h
  · cases h
  · split at h
    · cases h
      obtain ⟨f, _, rfl⟩ := List.mem_map.mp hc
      exact ⟨f, rfl⟩
    · cases h

theorem isUppercase_of_exported (h : commandsOf source = .ok commands) (hc : c ∈ commands)
    (he : c.exported = true) : c.name.toList.head?.any Text.isUppercase = true := by
  obtain ⟨f, rfl⟩ := exists_function h hc
  exact he

theorem newline_not_mem_docLines {docs : List (List Char)} {l : List Char} (h : l ∈ docLines docs) :
    '\n' ∉ l := by
  obtain ⟨text, _, hl⟩ := List.mem_flatMap.mp h
  obtain ⟨line, hline, rfl⟩ := List.mem_map.mp hl
  exact fun hn => Text.not_mem_of_mem_splitOn hline (Text.mem_of_mem_cutEnd hn)

/-- A summary is one line, also when the documentation has an escaped line feed in it. -/
theorem newline_not_mem_summary (h : commandsOf source = .ok commands) (hc : c ∈ commands) :
    '\n' ∉ c.summary.toList := by
  obtain ⟨f, rfl⟩ := exists_function h hc
  have hline : '\n' ∉ (docLines f.docs).headD [] := by
    cases hl : docLines f.docs with
    | nil => exact List.not_mem_nil
    | cons l ls =>
      have hm : l ∈ docLines f.docs := by rw [hl]; exact .head _
      exact newline_not_mem_docLines hm
  rw [Command.ofFunction, String.toList_ofList]
  exact fun hn => hline ((List.dropWhile_sublist _).mem hn)

/-- Only one keyword starts with an upper-case letter, and it cannot be made a plain name. -/
theorem not_mem_keywords_of_isUppercase {w : Word} (hn : w.isName = true)
    (hu : w.name.toList.head?.any Text.isUppercase = true) : w.name ∉ keywords := by
  intro hk
  have hself : ∀ k ∈ keywords, k.toList.head?.any Text.isUppercase = true → k ∈ neverRaw := by
    decide
  have hr : w.raw = true := by simpa [Word.isName, hk] using hn
  exact w.allowed hr (hself _ hk hu)

theorem isWord_of_mem (h : commandsOf source = .ok commands) (hc : c ∈ commands) :
    IsWord c.name.toList := by
  obtain ⟨f, rfl⟩ := exists_function h hc
  exact f.name.word.isWord

/-- The name of an exported command is no keyword, even without the mark that may make it raw. -/
theorem not_mem_keywords_of_exported (h : commandsOf source = .ok commands) (hc : c ∈ commands)
    (he : c.exported = true) : c.name ∉ keywords := by
  obtain ⟨f, rfl⟩ := exists_function h hc
  exact not_mem_keywords_of_isUppercase f.name.isName he

end Definition
end TaskDriver
