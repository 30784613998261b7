import TaskDriver.Task.Work

/-! Work that is noted from outside. Notes stand in the journal between the entries of the work, and
the work runs as it does without them. -/
namespace TaskDriver.Task

variable {ε κ α : Type}

/-- The same work with other entries in the journal. -/
def Work.relabel {κ : Type} (f : ε → κ) : Work ε α → Work κ α
  | .done a => .done a
  | .panic t => .panic t
  | .note e r => .note (f e) (r.relabel f)
  | .cancel r => .cancel (r.relabel f)
  | .check r => .check fun x => (r x).relabel f
  | .untilCancelled r => .untilCancelled (r.relabel f)
  | .pass t r => .pass t (r.relabel f)

/-- The world without the notes. -/
def World.plain (w : World (κ ⊕ ε)) : World ε :=
  ⟨w.now, w.cancelled, w.journal.filterMap Sum.getRight?⟩

/-- A world with no notes so far. -/
def World.unnoted (w : World ε) : World (κ ⊕ ε) :=
  ⟨w.now, w.cancelled, w.journal.map .inr⟩

def World.notes (w : World (κ ⊕ ε)) : List κ :=
  w.journal.filterMap Sum.getLeft?

theorem World.plain_unnoted (w : World ε) : (w.unnoted : World (κ ⊕ ε)).plain = w := by
  simp [plain, unnoted, List.filterMap_map, Function.comp_def]

theorem World.notes_unnoted (w : World ε) : (w.unnoted : World (κ ⊕ ε)).notes = [] := by
  simp [notes, unnoted, List.filterMap_map, Function.comp_def]

/-- Work runs as before, and nothing is noted by it. -/
theorem Work.run_relabel_inr (x : Work ε α) (c : Context) (w : World (κ ⊕ ε)) :
    ∃ w', (x.relabel .inr).run c w = ((x.run c w.plain).1, w') ∧
      w'.plain = (x.run c w.plain).2 ∧ w'.notes = w.notes := by
  induction x generalizing w with
  | done a => exact ⟨w, rfl, rfl, rfl⟩
  | panic t => exact ⟨w, rfl, rfl, rfl⟩
  | note e r ih =>
    obtain ⟨w', hrun, hw, he⟩ := ih (w.note (.inr e))
    have hn : (w.note (.inr e)).plain = w.plain.note e := by
      simp [World.plain, World.note]
    rw [hn] at hrun hw
    refine ⟨w', hrun, hw, he.trans ?_⟩
    simp [World.notes, World.note]
  | cancel r ih => exact ih w.cancel
  | check r ih => exact ih (c.refusal w.plain) w
  | untilCancelled r ih =>
    by_cases hc : w.cancelled = true
    · obtain ⟨w', hrun, hw, he⟩ := ih w
      have hc' : w.plain.cancelled = true := hc
      refine ⟨w', ?_, ?_, he⟩ <;> simp only [relabel, run, hc, hc', ↓reduceIte, hrun, hw]
    · have hc' : ¬ w.plain.cancelled = true := hc
      refine ⟨w, ?_, ?_, rfl⟩ <;> simp only [relabel, run, hc, hc', ↓reduceIte, Bool.false_eq_true]
  | pass t r ih => exact ih (w.pass t)

/-- Work that is noted before it runs. -/
theorem Work.run_note_relabel (x : Work ε α) (v : κ) (c : Context) (w : World (κ ⊕ ε)) :
    ∃ w', (Work.note (.inl v) (x.relabel .inr)).run c w = ((x.run c w.plain).1, w') ∧
      w'.plain = (x.run c w.plain).2 ∧ w'.notes = w.notes ++ [v] := by
  obtain ⟨w', hrun, hw, he⟩ := x.run_relabel_inr c (w.note (.inl v))
  have hn : (w.note (.inl v)).plain = w.plain := by
    simp [World.plain, World.note]
  rw [hn] at hrun hw
  refine ⟨w', hrun, hw, he.trans ?_⟩
  simp [World.notes, World.note]

end TaskDriver.Task
