import TaskDriver.Proofs.Task.History

/-! The state in which a run leaves the registry. A panic of the handler is caught, and the run comes to
rest all the same. A panic of the exit hook is not: it passes through the run before the state is
recorded, and the registry keeps the state of a run whose handler is still at work. -/
namespace TaskDriver.Task

variable {ε : Type}

/-! ## How a run can end -/

/-- The task that a command line calls, the context that its handler is given, and what the handler
comes to. -/
inductive Calls (r : Registry ε) (c : Context) (args : List String) (w : World ε) :
    Entry ε → Context → Ending (Except Fault Unit) → World ε → Prop
  | mk {e residual ending w₁} : Selects r args e residual →
      (e.handler { c with args := residual }).run { c with args := residual } w = (ending, w₁) →
      Calls r c args w e { c with args := residual } ending w₁

/-- The handler of the task ends, and the exit hook, which is told how, panics. -/
inductive HookPanics (r : Registry ε) (c : Context) (args : List String) (w : World ε) :
    Entry ε → Option String → Prop
  | mk {e c' ending w₁ fault success result hook t w₂} : Calls r c args w e c' ending w₁ →
      Ends e.name ending fault success result → r.hook = some hook →
      (hook c' fault).run c' w₁ = (.panicked t, w₂) → HookPanics r c args w e t

/-- Where a run comes to rest: idle if it calls no task, and else completed for the task that it calls,
successful just if the handler is. -/
inductive RestsAt (r : Registry ε) (c : Context) (args : List String) (w : World ε) : Progress → Prop
  | idle : (¬ ∃ e residual, Selects r args e residual) → RestsAt r c args w .idle
  | completed {e c' ending w₁ success} : Calls r c args w e c' ending w₁ →
      (success = true ↔ ending = .value (.ok ())) → RestsAt r c args w (.completed e.name success)

section

variable {r : Registry ε} {c c' : Context} {args : List String} {e : Entry ε} {w w₁ : World ε}
  {ending : Ending (Except Fault Unit)} {fault : Option Fault} {success : Bool}
  {result : Except DispatchError Dispatch} {t : Option String}

theorem Ends.success_iff (h : Ends e.name ending fault success result) :
    success = true ↔ ending = .value (.ok ()) := by
  cases h <;> simp

theorem Calls.run_of_waiting (hr : r.names.Nodup) (h : Calls r c args w e c' .waiting w₁) :
    (r.run c args w).1 = .unfinished := by
  cases h with
  | mk hsel hrun => rw [Registry.run_of_selects hr hsel, Registry.call_of_waiting hrun]

theorem Calls.run_of_ends (hr : r.names.Nodup) (h : Calls r c args w e c' ending w₁)
    (hends : Ends e.name ending fault success result) :
    r.run c args w = { r with progress := .idle }.concluded e.name success result
      (r.runHook c' fault w₁) := by
  cases h with
  | mk hsel hrun =>
    rw [Registry.run_of_selects hr hsel, Registry.call_of_ends hrun hends]
    rfl

theorem Registry.runHook_eq_panicked_iff {w' : World ε} : r.runHook c fault w = (.panicked t, w') ↔
    ∃ hook, r.hook = some hook ∧ (hook c fault).run c w = (.panicked t, w') := by
  unfold runHook
  rcases r.hook with _ | hook
  · simp
  · simp only [Option.some.injEq, exists_eq_left']

/-- A panic of the exit hook is the end of the run. -/
theorem HookPanics.run (hr : r.names.Nodup) (h : HookPanics r c args w e t) :
    (r.run c args w).1 = .unwound t ∧ (r.run c args w).2.1.progress = .dispatching e.name := by
  cases h with
  | mk hcalls hends hh hpanic =>
    rw [hcalls.run_of_ends hr hends, Registry.runHook_eq_panicked_iff.mpr ⟨_, hh, hpanic⟩]
    exact ⟨rfl, rfl⟩

/-- A run that ends comes to rest, or the exit hook panics. -/
theorem Registry.rests_or_hookPanics (hr : r.names.Nodup)
    (hended : (r.run c args w).1 ≠ .unfinished) :
    ((∃ result, (r.run c args w).1 = .returned result) ∧
      RestsAt r c args w (r.run c args w).2.1.progress) ∨ ∃ e t, HookPanics r c args w e t := by
  by_cases hsel : ∃ e residual, Selects r args e residual
  case neg =>
    obtain ⟨result, href⟩ := (selects_or_refused r args).resolve_left hsel
    obtain ⟨out, err, hrun⟩ := run_of_refused hr href c w
    rw [hrun]
    exact .inl ⟨⟨result, rfl⟩, .idle hsel⟩
  case pos =>
    obtain ⟨e, residual, hsel⟩ := hsel
    rcases hhandler : (e.handler { c with args := residual }).run { c with args := residual } w
      with ⟨ending, w₁⟩
    have hcalls := Calls.mk hsel hhandler
    rcases ends_or_waiting e.name ending with rfl | ⟨fault, success, result, hends⟩
    · exact absurd (hcalls.run_of_waiting hr) hended
    have hrun := hcalls.run_of_ends hr hends
    -- Only a hook that returns lets the run go on to record its state.
    rcases hhook : r.runHook { c with args := residual } fault w₁ with ⟨_ | t | _, w₂⟩
    · rw [hrun, hhook]
      exact .inl ⟨⟨result, rfl⟩, .completed hcalls hends.success_iff⟩
    · obtain ⟨hook, hh, hpanic⟩ := runHook_eq_panicked_iff.mp hhook
      exact .inr ⟨e, t, .mk hcalls hends hh hpanic⟩
    · rw [hrun, hhook] at hended
      exact absurd rfl hended

end

/-! ## Between two runs -/

def Operation.isRun : Operation ε → Bool
  | .run .. => true
  | _ => false

theorem Operation.progress_apply {o : Operation ε} (h : o.isRun = false) (r : Registry ε) :
    (o.apply r).progress = r.progress := by
  cases o with
  | handle e => rfl
  | onExit hook => rfl
  | withPolicy p => rfl
  | run c args w => cases h

theorem Registry.progress_after {later : List (Operation ε)} (h : ∀ o ∈ later, o.isRun = false)
    (r : Registry ε) : (r.after later).progress = r.progress := by
  induction later generalizing r with
  | nil => rfl
  | cons o later ih =>
    obtain ⟨ho, hlater⟩ := List.forall_mem_cons.mp h
    exact (ih hlater (o.apply r)).trans (o.progress_apply ho r)

/-- **A run comes to rest unless the exit hook panics.** A run that has ended, on a registry with any
history, leaves it idle if no task was called, and else completed for the task that was called, with
success just if the handler succeeded; and so the registry stays until the next run. If the hook
panics, the panic ends the run, and the registry stays in the state of a handler at work. -/
theorem run_rests {r : Registry ε} (hr : Reachable r) (c : Context) (args : List String) (w : World ε)
    (hended : (r.run c args w).1 ≠ .unfinished) (later : List (Operation ε))
    (hlater : ∀ o ∈ later, o.isRun = false) :
    ((¬ ∃ e t, HookPanics r c args w e t) → (∃ result, (r.run c args w).1 = .returned result) ∧
      RestsAt r c args w ((r.run c args w).2.1.after later).progress) ∧
    ∀ e t, HookPanics r c args w e t → (r.run c args w).1 = .unwound t ∧
      ((r.run c args w).2.1.after later).progress = .dispatching e.name := by
  rw [Registry.progress_after hlater]
  constructor
  · exact (Registry.rests_or_hookPanics hr.nodup hended).resolve_right
  · intro e t h
    exact h.run hr.nodup

/-! ## A handler that panics, and a hook that does -/

def stumbling : Entry Unit :=
  ⟨"deploy", "", "", fun _ => .panic (some "lost connection")⟩

def stumblingRegistry : Registry Unit :=
  ((Registry.new ⟨false, ""⟩ ⟨false, ""⟩).handle stumbling).onExit fun _ _ => .done ()

/-- The panic of a handler is caught, and the task is completed without success. -/
theorem run_rests_stumbling :
    (stumblingRegistry.run ⟨[], none⟩ ["deploy"] (.quiet 0 false)).1 ≠ .unfinished ∧
    (¬ ∃ e t, HookPanics stumblingRegistry ⟨[], none⟩ ["deploy"] (.quiet 0 false) e t) ∧
    RestsAt stumblingRegistry ⟨[], none⟩ ["deploy"] (.quiet 0 false)
      ((stumblingRegistry.run ⟨[], none⟩ ["deploy"] (.quiet 0 false)).2.1.after
        [.withPolicy .fallback]).progress ∧
    ((stumblingRegistry.run ⟨[], none⟩ ["deploy"] (.quiet 0 false)).2.1.after
      [.withPolicy .fallback]).progress = .completed "deploy" false := by
  have hended : (stumblingRegistry.run ⟨[], none⟩ ["deploy"] (.quiet 0 false)).1 ≠ .unfinished :=
    nofun
  have hhook : ¬ ∃ e t, HookPanics stumblingRegistry ⟨[], none⟩ ["deploy"] (.quiet 0 false) e t := by
    rintro ⟨e, t, ⟨-, -, hh, hpanic⟩⟩
    cases hh
    cases hpanic
  have hlater : ∀ o ∈ [(.withPolicy .fallback : Operation Unit)], o.isRun = false := by
    simp [Operation.isRun]
  have hr : Reachable stumblingRegistry := .onExit _ (.handle _ (.new _ _))
  exact ⟨hended, hhook, ((run_rests hr _ _ _ hended _ hlater).1 hhook).2, rfl⟩

def greeting : Entry Unit :=
  ⟨"t", "", "", fun _ => .done (.ok ())⟩

def unwindingRegistry : Registry Unit :=
  ((Registry.new ⟨false, ""⟩ ⟨false, ""⟩).handle greeting).onExit fun _ _ =>
    .panic (some "hook panicked")

/-- The handler has returned, and the run has ended, but the registry is left as if the handler were at
work. -/
theorem run_unwinding : Reachable unwindingRegistry ∧
    Calls unwindingRegistry ⟨[], none⟩ ["t"] (.quiet 0 false) greeting ⟨[], none⟩ (.value (.ok ()))
      (.quiet 0 false) ∧
    (unwindingRegistry.run ⟨[], none⟩ ["t"] (.quiet 0 false)).1 = .unwound (some "hook panicked") ∧
    (unwindingRegistry.run ⟨[], none⟩ ["t"] (.quiet 0 false)).2.1.progress = .dispatching "t" :=
  ⟨.onExit _ (.handle _ (.new _ _)), .mk (.exact (by decide) ⟨.head _, rfl⟩) rfl, rfl, rfl⟩

end TaskDriver.Task
