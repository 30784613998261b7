import Mathlib.Data.List.Range
import TaskDriver.Proofs.Task.Noted

/-! Handlers one after the other. A run of them starts the handlers from the first one on, each after a
check that the run may go on, and stops at the first check or handler that fails; so that a run of two
lists is a run of the first one and, if that succeeds, one of the second. A handler may be any work, a
run of further handlers too. -/
namespace TaskDriver.Task

variable {ε : Type}

/-! ## How a run of handlers can end -/

/-- Handlers that may all go on and all succeed lead from one world to another. -/
inductive Passes (c : Context) : List (Handler ε) → World ε → World ε → Prop
  | nil {w} : Passes c [] w w
  | cons {h hs w w₁ w'} : c.isCancelled w = false → (h c).run c w = (.value (.ok ()), w₁) →
      Passes c hs w₁ w' → Passes c (h :: hs) w w'

/-- How a run of handlers ends at one of them: it is not started, or it does not succeed. -/
inductive Stops (c : Context) (h : Handler ε) (w : World ε) :
    Ending (Except Fault Unit) → World ε → Prop
  | cancelled : w.cancelled = true → Stops c h w (.value (.error (.of "run cancelled"))) w
  | late : w.cancelled = false → c.expired w = true →
      Stops c h w (.value (.error (.of "deadline exceeded"))) w
  | ended {ending w'} : c.isCancelled w = false → (h c).run c w = (ending, w') →
      ending ≠ .value (.ok ()) → Stops c h w ending w'

/-- What comes of the world that work leaves if it succeeds, or else `stop`. -/
def afterOk {β : Type} (x : Ending (Except Fault Unit) × World ε) (next : World ε → β) (stop : β) : β :=
  match x with
  | (.value (.ok _), w) => next w
  | _ => stop

section

variable {β : Type} {c : Context} {h : Handler ε} {hs : List (Handler ε)} {w w' w₁ : World ε}
  {ending : Ending (Except Fault Unit)}

theorem Context.refusal_eq_none_iff : c.refusal w = none ↔ c.isCancelled w = false := by
  unfold refusal isCancelled
  split
  · next hc => simp [hc]
  · next hc => split <;> next he => simp [hc, he]

theorem Context.isCancelled_of_refusal {f : Fault} (hr : c.refusal w = some f) :
    c.isCancelled w = true := by
  by_contra hc
  rw [refusal_eq_none_iff.mpr (by simpa using hc)] at hr
  cases hr

theorem afterOk_of_ne (hne : ending ≠ .value (.ok ())) (next : World ε → β) (stop : β) :
    afterOk (ending, w) next stop = stop := by
  rcases ending with (f | _) | t | _
  · rfl
  · exact absurd rfl hne
  · rfl
  · rfl

theorem passes_cons_iff : Passes c (h :: hs) w w' ↔ c.isCancelled w = false ∧
    ∃ w₁, (h c).run c w = (.value (.ok ()), w₁) ∧ Passes c hs w₁ w' := by
  constructor
  · rintro (_ | ⟨hactive, hrun, hp⟩)
    exact ⟨hactive, _, hrun, hp⟩
  · rintro ⟨hactive, w₁, hrun, hp⟩
    exact .cons hactive hrun hp

/-- The first handler is started after a check, and the others after it. -/
theorem run_dependencies_cons (c : Context) (h : Handler ε) (hs : List (Handler ε)) (w : World ε) :
    (dependencies c (h :: hs)).run c w = (c.refusal w).elim
      (afterOk ((h c).run c w) ((dependencies c hs).run c) ((h c).run c w))
      fun f => (.value (.error f), w) := by
  rw [dependencies, Work.run_bind]
  rcases hr : c.refusal w with _ | f
  · simp only [ensureActive, Work.run, hr, Work.run_bind, Option.elim_none]
    rcases (h c).run c w with ⟨(f | _) | t | _, w₁⟩ <;> rfl
  · simp only [ensureActive, Work.run, hr, Option.elim_some]

theorem run_dependencies_of_passes (hp : Passes c hs w w₁) (ks : List (Handler ε)) :
    (dependencies c (hs ++ ks)).run c w = (dependencies c ks).run c w₁ := by
  induction hp with
  | nil => rfl
  | cons hactive hrun _ ih =>
    rw [List.cons_append, run_dependencies_cons, Context.refusal_eq_none_iff.mpr hactive, hrun]
    exact ih

theorem run_dependencies_of_stops (hs : Stops c h w ending w') (ks : List (Handler ε)) :
    (dependencies c (h :: ks)).run c w = (ending, w') := by
  rw [run_dependencies_cons]
  cases hs with
  | cancelled hc => simp [Context.refusal, hc]
  | late hc he => simp [Context.refusal, hc, he]
  | ended hactive hrun hne =>
    rw [Context.refusal_eq_none_iff.mpr hactive, Option.elim_none, hrun, afterOk_of_ne hne]

theorem stops_of_refusal {f : Fault} (hr : c.refusal w = some f) :
    Stops c h w (.value (.error f)) w := by
  unfold Context.refusal at hr
  split at hr
  · next hc =>
    cases hr
    exact .cancelled hc
  · next hc =>
    split at hr
    · next he =>
      cases hr
      exact .late (by simpa using hc) he
    · cases hr

/-- All handlers pass, or there is a first one at which the run stops. -/
theorem passes_or_stops (c : Context) (hs : List (Handler ε)) (w : World ε) :
    (∃ w', Passes c hs w w') ∨ ∃ before h after w₁ ending w', hs = before ++ h :: after ∧
      Passes c before w w₁ ∧ Stops c h w₁ ending w' := by
  induction hs generalizing w with
  | nil => exact .inl ⟨w, .nil⟩
  | cons h hs ih =>
    rcases hr : c.refusal w with _ | f
    · have hactive := Context.refusal_eq_none_iff.mp hr
      rcases hrun : (h c).run c w with ⟨ending, w₁⟩
      by_cases hok : ending = .value (.ok ())
      · subst hok
        rcases ih w₁ with ⟨w', hp⟩ | ⟨before, k, after, w₂, ending, w', rfl, hp, hstop⟩
        · exact .inl ⟨w', .cons hactive hrun hp⟩
        · exact .inr ⟨h :: before, k, after, w₂, ending, w', rfl, .cons hactive hrun hp, hstop⟩
      · exact .inr ⟨[], h, hs, w, ending, w₁, rfl, .nil, .ended hactive hrun hok⟩
    · exact .inr ⟨[], h, hs, w, _, w, rfl, .nil, stops_of_refusal hr⟩

theorem run_dependencies_iff : (dependencies c hs).run c w = (ending, w') ↔
    (ending = .value (.ok ()) ∧ Passes c hs w w') ∨ ∃ before h after w₁,
      hs = before ++ h :: after ∧ Passes c before w w₁ ∧ Stops c h w₁ ending w' := by
  constructor
  · intro hrun
    rcases passes_or_stops c hs w with ⟨w₂, hp⟩ | ⟨before, h, after, w₁, e, w₂, rfl, hp, hstop⟩
    · have hall := run_dependencies_of_passes hp []
      rw [List.append_nil, hrun] at hall
      cases hall
      exact .inl ⟨rfl, hp⟩
    · rw [run_dependencies_of_passes hp, run_dependencies_of_stops hstop] at hrun
      cases hrun
      exact .inr ⟨before, h, after, w₁, rfl, hp, hstop⟩
  · rintro (⟨rfl, hp⟩ | ⟨before, h, after, w₁, rfl, hp, hstop⟩)
    · have hall := run_dependencies_of_passes hp []
      rwa [List.append_nil] at hall
    · rw [run_dependencies_of_passes hp, run_dependencies_of_stops hstop]

/-- Two lists are run one after the other. -/
theorem run_dependencies_append (c : Context) (hs ks : List (Handler ε)) (w : World ε) :
    (dependencies c (hs ++ ks)).run c w = afterOk ((dependencies c hs).run c w)
      ((dependencies c ks).run c) ((dependencies c hs).run c w) := by
  induction hs generalizing w with
  | nil => rfl
  | cons h hs ih =>
    rw [List.cons_append, run_dependencies_cons, run_dependencies_cons]
    rcases c.refusal w with _ | f
    · simp only [Option.elim_none]
      rcases (h c).run c w with ⟨(f | _) | t | _, w₁⟩
      · rfl
      · exact ih w₁
      · rfl
      · rfl
    · rfl

end

/-! ## Which handlers are started -/

/-- The handlers, each of which notes its place in the list when it is started. -/
def numbered (first : Nat) : List (Handler ε) → List (Handler (Nat ⊕ ε))
  | [] => []
  | h :: hs => (fun c => .note (.inl first) ((h c).relabel .inr)) :: numbered (first + 1) hs

/-- The places of the handlers that a run starts, in the order in which it starts them. -/
def started (c : Context) (hs : List (Handler ε)) (w : World ε) : List Nat :=
  ((dependencies c (numbered 0 hs)).run c w.unnoted).2.notes

/-- The same, told from the runs of the handlers themselves. -/
def turns (c : Context) (first : Nat) : List (Handler ε) → World ε → List Nat
  | [], _ => []
  | h :: hs, w =>
    if c.isCancelled w then []
    else first :: afterOk ((h c).run c w) (turns c (first + 1) hs) []

section

variable {c : Context} {h : Handler ε} {hs : List (Handler ε)} {first i : Nat} {w : World ε}

/-- Handlers that are numbered run as before. -/
theorem run_numbered (c : Context) (first : Nat) (hs : List (Handler ε)) (w : World (Nat ⊕ ε)) :
    ∃ w', (dependencies c (numbered first hs)).run c w =
        (((dependencies c hs).run c w.plain).1, w') ∧
      w'.plain = ((dependencies c hs).run c w.plain).2 ∧
      w'.notes = w.notes ++ turns c first hs w.plain := by
  induction hs generalizing first w with
  | nil => exact ⟨w, rfl, rfl, (List.append_nil _).symm⟩
  | cons h hs ih =>
    have hplain : c.refusal w = c.refusal w.plain := rfl
    rw [numbered, run_dependencies_cons, run_dependencies_cons, turns, hplain]
    rcases hr : c.refusal w.plain with _ | f
    · have hactive := Context.refusal_eq_none_iff.mp hr
      obtain ⟨w₁, hrun, hw₁, hn₁⟩ := (h c).run_note_relabel first c w
      rw [if_neg (by simp [hactive])]
      simp only [Option.elim_none, hrun]
      rcases hh : (h c).run c w.plain with ⟨ending, w₂⟩
      rw [hh] at hw₁
      obtain rfl : w₁.plain = w₂ := hw₁
      by_cases hok : ending = .value (.ok ())
      · subst hok
        obtain ⟨w', hrest, hw', hn'⟩ := ih (first + 1) w₁
        refine ⟨w', hrest, hw', hn'.trans ?_⟩
        rw [hn₁, List.append_assoc]
        rfl
      · rw [afterOk_of_ne hok, afterOk_of_ne hok, afterOk_of_ne hok]
        exact ⟨w₁, rfl, rfl, hn₁⟩
    · rw [if_pos (Context.isCancelled_of_refusal hr)]
      exact ⟨w, rfl, rfl, (List.append_nil _).symm⟩

theorem started_eq_turns (c : Context) (hs : List (Handler ε)) (w : World ε) :
    started c hs w = turns c 0 hs w := by
  obtain ⟨w', hrun, _, hn⟩ := run_numbered c 0 hs w.unnoted
  rw [started, hrun, hn, w.plain_unnoted, w.notes_unnoted, List.nil_append]

/-- The handlers that are started are the first ones of the list. -/
theorem exists_turns_eq (c : Context) (first : Nat) (hs : List (Handler ε)) (w : World ε) :
    ∃ n ≤ hs.length, turns c first hs w = List.range' first n := by
  induction hs generalizing first w with
  | nil => exact ⟨0, Nat.le_refl _, rfl⟩
  | cons h hs ih =>
    rw [turns]
    split
    · exact ⟨0, Nat.zero_le _, rfl⟩
    · rcases (h c).run c w with ⟨ending, w₁⟩
      by_cases hok : ending = .value (.ok ())
      · subst hok
        obtain ⟨n, hn, hturns⟩ := ih (first + 1) w₁
        refine ⟨n + 1, Nat.succ_le_succ hn, ?_⟩
        rw [List.range'_succ, ← hturns]
        rfl
      · rw [afterOk_of_ne hok]
        exact ⟨1, Nat.succ_le_succ (Nat.zero_le _), rfl⟩

theorem turns_of_cancelled (hc : c.isCancelled w = true) : turns c first hs w = [] := by
  cases hs with
  | nil => rfl
  | cons h hs => rw [turns, if_pos hc]

/-- A handler is started just if all before it have succeeded and the run may go on. -/
theorem mem_turns_iff : i ∈ turns c first hs w ↔ ∃ j < hs.length, i = first + j ∧
    ∃ w₁, Passes c (hs.take j) w w₁ ∧ c.isCancelled w₁ = false := by
  induction hs generalizing first w with
  | nil => simp [turns]
  | cons h hs ih =>
    rcases hc : c.isCancelled w with _ | _
    case true =>
      rw [turns_of_cancelled hc]
      refine ⟨nofun, ?_⟩
      rintro ⟨_ | j, _, _, w₁, hp, hactive⟩
      · cases hp
        rw [hc] at hactive
        cases hactive
      · rw [List.take_succ_cons, passes_cons_iff, hc] at hp
        cases hp.1
    case false =>
      rw [turns, if_neg (by simp [hc]), List.mem_cons]
      constructor
      · rintro (rfl | hi)
        · exact ⟨0, Nat.succ_pos _, rfl, w, .nil, hc⟩
        · rcases hrun : (h c).run c w with ⟨ending, w₁⟩
          by_cases hok : ending = .value (.ok ())
          · subst hok
            rw [hrun] at hi
            obtain ⟨j, hj, rfl, w₂, hp, hactive⟩ := ih.mp hi
            exact ⟨j + 1, Nat.succ_lt_succ hj, by omega, w₂, .cons hc hrun hp, hactive⟩
          · rw [hrun, afterOk_of_ne hok] at hi
            cases hi
      · rintro ⟨_ | j, hj, rfl, w₂, hp, hactive⟩
        · exact .inl rfl
        · obtain ⟨_, w₁, hrun, hp⟩ := passes_cons_iff.mp hp
          rw [hrun]
          exact .inr (ih.mpr ⟨j, Nat.lt_of_succ_lt_succ hj, by omega, w₂, hp, hactive⟩)

theorem turns_add (c : Context) (n first : Nat) (hs : List (Handler ε)) (w : World ε) :
    turns c (n + first) hs w = (turns c first hs w).map (n + ·) := by
  induction hs generalizing first w with
  | nil => rfl
  | cons h hs ih =>
    rw [turns, turns]
    split
    · rfl
    · rw [List.map_cons, Nat.add_assoc]
      rcases (h c).run c w with ⟨(f | _) | t | _, w₁⟩
      · rfl
      · exact congrArg _ (ih (first + 1) w₁)
      · rfl
      · rfl

theorem turns_append (c : Context) (first : Nat) (hs ks : List (Handler ε)) (w : World ε) :
    turns c first (hs ++ ks) w = turns c first hs w ++
      afterOk ((dependencies c hs).run c w) (turns c (first + hs.length) ks) [] := by
  induction hs generalizing first w with
  | nil => rfl
  | cons h hs ih =>
    rw [List.cons_append, turns, turns, run_dependencies_cons]
    rcases hr : c.refusal w with _ | f
    · have hactive := Context.refusal_eq_none_iff.mp hr
      rw [if_neg (by simp [hactive]), if_neg (by simp [hactive]), Option.elim_none,
        List.cons_append]
      rcases (h c).run c w with ⟨(f | _) | t | _, w₁⟩
      · rfl
      · refine congrArg _ ((ih (first + 1) w₁).trans ?_)
        rw [List.length_cons, Nat.add_assoc, Nat.add_comm 1]
        rfl
      · rfl
      · rfl
    · have hlate := Context.isCancelled_of_refusal hr
      rw [if_pos hlate, if_pos hlate]
      rfl

end

/-- **A run of handlers runs the right ones.** It starts the first handlers of the list, in order and
each once; it starts a handler just if all before it have been started and have succeeded and the run is
then neither cancelled nor late. It succeeds just if all are started and succeed, and ends otherwise as
the first check or handler that does not let it go on. Handlers behind others are run after these, if
these have succeeded. -/
theorem dependencies_prefix (c : Context) (hs : List (Handler ε)) (w : World ε) :
    (∃ w', (dependencies c (numbered 0 hs)).run c w.unnoted =
        (((dependencies c hs).run c w).1, w') ∧ w'.plain = ((dependencies c hs).run c w).2) ∧
    (∃ n ≤ hs.length, started c hs w = List.range n) ∧
    (∀ i, i ∈ started c hs w ↔ i < hs.length ∧
      ∃ w₁, Passes c (hs.take i) w w₁ ∧ c.isCancelled w₁ = false) ∧
    (∀ ending w', (dependencies c hs).run c w = (ending, w') ↔
      (ending = .value (.ok ()) ∧ Passes c hs w w') ∨ ∃ before h after w₁,
        hs = before ++ h :: after ∧ Passes c before w w₁ ∧ Stops c h w₁ ending w') ∧
    ∀ ks, (dependencies c (hs ++ ks)).run c w = afterOk ((dependencies c hs).run c w)
        ((dependencies c ks).run c) ((dependencies c hs).run c w) ∧
      started c (hs ++ ks) w = started c hs w ++ afterOk ((dependencies c hs).run c w)
        (fun w' => (started c ks w').map (hs.length + ·)) [] := by
  refine ⟨?_, ?_, fun i => ?_, fun ending w' => run_dependencies_iff, fun ks =>
    ⟨run_dependencies_append c hs ks w, ?_⟩⟩
  · obtain ⟨w', hrun, hw, _⟩ := run_numbered c 0 hs w.unnoted
    rw [w.plain_unnoted] at hrun hw
    exact ⟨w', hrun, hw⟩
  · obtain ⟨n, hn, hturns⟩ := exists_turns_eq c 0 hs w
    exact ⟨n, hn, by rw [started_eq_turns, hturns, List.range_eq_range']⟩
  · rw [started_eq_turns, mem_turns_iff]
    constructor
    · rintro ⟨j, hj, rfl, hstart⟩
      rw [Nat.zero_add]
      exact ⟨hj, hstart⟩
    · rintro ⟨hi, hstart⟩
      exact ⟨i, hi, (Nat.zero_add i).symm, hstart⟩
  · simp only [started_eq_turns, turns_append, Nat.zero_add, ← turns_add, Nat.add_zero]

/-- A handler that cancels the run is the last one that is started. -/
example : started ⟨[], none⟩ [fun _ => .done (.ok ()), fun _ => .cancel (.done (.ok ())),
    fun _ => .done (.ok ())] (.quiet 0 false : World Empty) = [0, 1] := by
  decide

end TaskDriver.Task
