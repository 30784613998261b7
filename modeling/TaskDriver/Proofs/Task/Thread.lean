import Mathlib.Logic.Relation
import TaskDriver.Proofs.Task.Selection

/-! The thread of a run in single steps, between which others may act on the world that it shares with
them. Left to itself the thread does what the run does as a whole. -/
namespace TaskDriver.Task

variable {ε α : Type}

open Relation (ReflTransGen)

/-! ## Work in steps -/

/-- One step of work. Work that waits for the run to be cancelled makes none before that. -/
def Work.step? (c : Context) : Work ε α → World ε → Option (Work ε α × World ε)
  | .done _, _ => none
  | .panic _, _ => none
  | .note e x, w => some (x, w.note e)
  | .cancel x, w => some (x, w.cancel)
  | .check x, w => some (x (c.refusal w), w)
  | .untilCancelled x, w => if w.cancelled then some (x, w) else none
  | .pass t x, w => some (x, w.pass t)

/-- How work has ended, if there is nothing left of it. -/
def Work.ending? : Work ε α → Option (Ending α)
  | .done a => some (.value a)
  | .panic t => some (.panicked t)
  | _ => none

section

variable {c : Context} {x y : Work ε α} {w w' : World ε} {ending : Ending α}

theorem Work.run_of_step (h : x.step? c w = some (y, w')) : x.run c w = y.run c w' := by
  cases x with
  | done | panic => cases h
  | untilCancelled x =>
    rw [step?] at h
    split at h
    · next hc =>
      cases h
      rw [run, if_pos hc]
    · cases h
  | _ =>
    cases h
    rfl

theorem Work.run_of_ending (h : x.ending? = some ending) (w : World ε) :
    x.run c w = (ending, w) := by
  cases x with
  | done | panic =>
    cases h
    rfl
  | _ => cases h

/-- Steps of work that nothing disturbs. -/
def Work.Steps (c : Context) : Work ε α × World ε → Work ε α × World ε → Prop :=
  ReflTransGen fun p q => p.1.step? c p.2 = some q

/-- Work comes to its end in steps, or to a point where it waits. -/
theorem Work.steps_run (x : Work ε α) (c : Context) (w : World ε) :
    ∃ y, Steps c (x, w) (y, (x.run c w).2) ∧
      ((x.run c w).1 = .waiting ∧ y.ending? = none ∧ y.step? c (x.run c w).2 = none ∨
        y.ending? = some (x.run c w).1) := by
  induction x generalizing w with
  | done a => exact ⟨.done a, .refl, .inr rfl⟩
  | panic t => exact ⟨.panic t, .refl, .inr rfl⟩
  | untilCancelled x ih =>
    -- Outside a cancelled run this is where the work stays.
    by_cases hc : w.cancelled = true
    · obtain ⟨y, hy, he⟩ := ih w
      rw [run, if_pos hc]
      exact ⟨y, .head (if_pos hc) hy, he⟩
    · rw [run, if_neg hc]
      exact ⟨.untilCancelled x, .refl, .inl ⟨rfl, rfl, if_neg hc⟩⟩
  | note e x ih =>
    obtain ⟨y, hy, he⟩ := ih (w.note e)
    exact ⟨y, .head rfl hy, he⟩
  | cancel x ih =>
    obtain ⟨y, hy, he⟩ := ih w.cancel
    exact ⟨y, .head rfl hy, he⟩
  | check x ih =>
    obtain ⟨y, hy, he⟩ := ih (c.refusal w) w
    exact ⟨y, .head rfl hy, he⟩
  | pass t x ih =>
    obtain ⟨y, hy, he⟩ := ih (w.pass t)
    exact ⟨y, .head rfl hy, he⟩

end

/-! ## The thread of a run -/

/-- How far a thread has come: what is left of the work of the task, or of the hook after it. -/
inductive Thread (ε : Type)
  | ready
  | task (e : Entry ε) (c : Context) (rest : Work ε (Except Fault Unit))
  | hook (task : String) (c : Context) (success : Bool) (result : Except DispatchError Dispatch)
      (rest : Work ε Unit)
  | ended (conclusion : Conclusion)

/-- A thread with the registry that it has taken over, and with the world. -/
structure Worker (ε : Type) where
  thread : Thread ε
  registry : Registry ε
  world : World ε

/-- The words of the command line are looked at first. If they call for a task, its work is done step
by step, and after it that of the hook. -/
inductive Worker.Step (c : Context) (args : List String) : Worker ε → Worker ε → Prop
  | answer {r w} : (∀ e residual, r.request args ≠ .call e residual) →
      Step c args ⟨.ready, r, w⟩ ⟨.ended (r.run c args w).1, (r.run c args w).2.1, w⟩
  | call {r w e residual} : r.request args = .call e residual →
      Step c args ⟨.ready, r, w⟩
        ⟨.task e { c with args := residual } (e.handler { c with args := residual }),
          { r with progress := .dispatching e.name }, w⟩
  | task {e b x y r w w'} : x.step? b w = some (y, w') →
      Step c args ⟨.task e b x, r, w⟩ ⟨.task e b y, r, w'⟩
  | conclude {e b x r w ending fault success result} : x.ending? = some ending →
      Ends e.name ending fault success result → r.hook = none →
      Step c args ⟨.task e b x, r, w⟩
        ⟨.ended (.returned result), { r with progress := .completed e.name success }, w⟩
  | callHook {e b x r w ending fault success result hook} : x.ending? = some ending →
      Ends e.name ending fault success result → r.hook = some hook →
      Step c args ⟨.task e b x, r, w⟩ ⟨.hook e.name b success result (hook b fault), r, w⟩
  | hook {task b success result x y r w w'} : x.step? b w = some (y, w') →
      Step c args ⟨.hook task b success result x, r, w⟩ ⟨.hook task b success result y, r, w'⟩
  | hookDone {task b success result r w} :
      Step c args ⟨.hook task b success result (.done ()), r, w⟩
        ⟨.ended (.returned result), { r with progress := .completed task success }, w⟩
  | hookUnwound {task b success result t r w} :
      Step c args ⟨.hook task b success result (.panic t), r, w⟩ ⟨.ended (.unwound t), r, w⟩

/-- Steps of a thread that nothing disturbs. -/
def Worker.Steps (c : Context) (args : List String) : Worker ε → Worker ε → Prop :=
  ReflTransGen (Worker.Step c args)

/-! ## A thread that is left to itself -/

/-- What the run comes to from the end of the hook on. -/
def Registry.afterHook (r : Registry ε) (task : String) (success : Bool)
    (result : Except DispatchError Dispatch) :
    Ending Unit × World ε → Conclusion × Registry ε × World ε
  | (.value _, w) => (.returned result, { r with progress := .completed task success }, w)
  | (.panicked t, w) => (.unwound t, r, w)
  | (.waiting, w) => (.unfinished, r, w)

/-- What the run comes to from the end of the task on. -/
def Registry.afterTask (r : Registry ε) (c : Context) (task : String)
    (x : Ending (Except Fault Unit) × World ε) : Conclusion × Registry ε × World ε :=
  match outcomeOf task x.1 with
  | none => (.unfinished, r, x.2)
  | some (fault, result) => r.afterHook task fault.isNone result (r.runHook c fault x.2)

/-- What is left of a run. -/
def Worker.rest (c : Context) (args : List String) : Worker ε → Conclusion × Registry ε × World ε
  | ⟨.ready, r, w⟩ => r.run c args w
  | ⟨.task e b x, r, w⟩ => r.afterTask b e.name (x.run b w)
  | ⟨.hook task b success result x, r, w⟩ => r.afterHook task success result (x.run b w)
  | ⟨.ended k, r, w⟩ => (k, r, w)

section

variable {c : Context} {args : List String} {r : Registry ε} {u v : Worker ε} {w : World ε}
  {task : String} {ending : Ending (Except Fault Unit)} {fault : Option Fault} {success : Bool}
  {result : Except DispatchError Dispatch}

theorem Ends.outcomeOf (h : Ends task ending fault success result) :
    outcomeOf task ending = some (fault, result) ∧ fault.isNone = success := by
  cases h <;> exact ⟨rfl, rfl⟩

theorem Registry.call_eq_afterTask (r : Registry ε) (c : Context) (e : Entry ε) (w : World ε) :
    r.call c e w =
      { r with progress := .dispatching e.name }.afterTask c e.name ((e.handler c).run c w) := by
  rw [call, afterTask]
  rcases (e.handler c).run c w with ⟨ending, w₁⟩
  simp only [runHook]
  rcases Task.outcomeOf e.name ending with _ | ⟨fault, result⟩
  · rfl
  rcases r.hook with _ | hook
  · rfl
  · simp only
    rcases (hook c fault).run c w₁ with ⟨_ | _ | _, w₂⟩ <;> rfl

theorem Registry.run_of_request {e : Entry ε} {residual : List String}
    (h : r.request args = .call e residual) (c : Context) (w : World ε) :
    r.run c args w = { r with progress := .dispatching e.name }.afterTask { c with args := residual }
      e.name ((e.handler { c with args := residual }).run { c with args := residual } w) := by
  simp only [run, request_idle, h]
  rw [call_eq_afterTask]

/-- A run without a call leaves the world as it is. -/
theorem Registry.run_world (h : ∀ e residual, r.request args ≠ .call e residual) (c : Context)
    (w : World ε) : (r.run c args w).2.2 = w := by
  rcases hr : r.request args <;> simp only [run, request_idle, hr]
  case call e residual => exact absurd hr (h e residual)

theorem Worker.Step.rest_eq (h : Step c args u v) : u.rest c args = v.rest c args := by
  cases h with
  | @answer r w hr =>
    have hw := Registry.run_world hr c w
    rcases hrun : r.run c args w with ⟨k, r', w'⟩
    rw [hrun] at hw
    subst hw
    exact hrun
  | call hr => exact Registry.run_of_request hr c _
  | task hx =>
    simp only [rest]
    rw [Work.run_of_step hx]
  | conclude hx hends hh =>
    obtain ⟨hout, rfl⟩ := hends.outcomeOf
    simp only [rest, Registry.afterTask, Work.run_of_ending hx, hout, Registry.runHook, hh,
      Registry.afterHook]
  | callHook hx hends hh =>
    obtain ⟨hout, rfl⟩ := hends.outcomeOf
    simp only [rest, Registry.afterTask, Work.run_of_ending hx, hout, Registry.runHook, hh]
  | hook hx =>
    simp only [rest]
    rw [Work.run_of_step hx]
  | hookDone | hookUnwound => rfl

/-- A thread that has ended on its own has done what the run does as a whole. -/
theorem Worker.Steps.run_eq {k : Conclusion} {r' : Registry ε} {w' : World ε}
    (h : Steps c args ⟨.ready, r, w⟩ ⟨.ended k, r', w'⟩) : r.run c args w = (k, r', w') := by
  have hrest : ∀ v, Steps c args ⟨.ready, r, w⟩ v → r.run c args w = v.rest c args := by
    intro v hv
    induction hv with
    | refl => rfl
    | tail _ hs ih => exact ih.trans hs.rest_eq
  exact hrest _ h

/-! ## Every run in steps -/

theorem Worker.steps_task (e : Entry ε) (b : Context) (r : Registry ε) {x y : Work ε _}
    {w w' : World ε} (h : Work.Steps b (x, w) (y, w')) :
    Steps c args ⟨.task e b x, r, w⟩ ⟨.task e b y, r, w'⟩ :=
  ReflTransGen.lift (fun p : Work ε _ × World ε => (⟨.task e b p.1, r, p.2⟩ : Worker ε))
    (fun _ _ hs => Step.task hs) _ _ h

theorem Worker.steps_hook (task : String) (b : Context) (success : Bool)
    (result : Except DispatchError Dispatch) (r : Registry ε) {x y : Work ε Unit} {w w' : World ε}
    (h : Work.Steps b (x, w) (y, w')) :
    Steps c args ⟨.hook task b success result x, r, w⟩ ⟨.hook task b success result y, r, w'⟩ :=
  ReflTransGen.lift
    (fun p : Work ε Unit × World ε => (⟨.hook task b success result p.1, r, p.2⟩ : Worker ε))
    (fun _ _ hs => Step.hook hs) _ _ h

/-- The worker gets to the end of what is left, or to a point where it waits. -/
def Worker.Finishes (c : Context) (args : List String) (u : Worker ε) : Prop :=
  ∃ thread, Steps c args u ⟨thread, (u.rest c args).2.1, (u.rest c args).2.2⟩ ∧
    (thread = .ended (u.rest c args).1 ∨ (u.rest c args).1 = .unfinished ∧
      ∀ v, ¬ Step c args ⟨thread, (u.rest c args).2.1, (u.rest c args).2.2⟩ v)

theorem Worker.Finishes.head (h : Steps c args u v) (hv : v.Finishes c args) :
    u.Finishes c args := by
  have hrest : u.rest c args = v.rest c args := by
    clear hv
    induction h with
    | refl => rfl
    | tail _ hs ih => exact ih.trans hs.rest_eq
  obtain ⟨thread, hsteps, hend⟩ := hv
  rw [Finishes, hrest]
  exact ⟨thread, h.trans hsteps, hend⟩

theorem Worker.finishes_ended (k : Conclusion) (r : Registry ε) (w : World ε) :
    Finishes c args ⟨.ended k, r, w⟩ :=
  ⟨.ended k, .refl, .inl rfl⟩

theorem Worker.finishes_hook (task : String) (b : Context) (success : Bool)
    (result : Except DispatchError Dispatch) (x : Work ε Unit) (r : Registry ε) (w : World ε) :
    Finishes c args ⟨.hook task b success result x, r, w⟩ := by
  -- Work that waits is where the thread stays; after work that has ended there is one more step.
  obtain ⟨y, hy, hend⟩ := x.steps_run b w
  have hsteps : Steps c args _ _ := steps_hook task b success result r hy
  rcases hend with ⟨hwait, hnone, hstep⟩ | hend
  · have hrest : rest c args ⟨.hook task b success result x, r, w⟩ =
        (.unfinished, r, (x.run b w).2) := by
      rw [rest]
      rcases hrun : x.run b w with ⟨ending, w₁⟩
      rw [hrun] at hwait
      subst hwait
      rfl
    refine ⟨.hook task b success result y, by rw [hrest]; exact hsteps, .inr ⟨by rw [hrest], ?_⟩⟩
    rw [hrest]
    intro v hv
    cases hv with
    | hook hs => rw [hstep] at hs; cases hs
    | hookDone | hookUnwound => cases hnone
  · refine .head hsteps ?_
    cases y with
    | done a => exact .head (.single .hookDone) (finishes_ended _ _ _)
    | panic t => exact .head (.single .hookUnwound) (finishes_ended _ _ _)
    | _ => cases hend

theorem Worker.finishes_task (e : Entry ε) (b : Context) (x : Work ε (Except Fault Unit))
    (r : Registry ε) (w : World ε) : Finishes c args ⟨.task e b x, r, w⟩ := by
  obtain ⟨y, hy, hend⟩ := x.steps_run b w
  have hsteps : Steps c args _ _ := steps_task e b r hy
  rcases hend with ⟨hwait, hnone, hstep⟩ | hend
  · have hrest : rest c args ⟨.task e b x, r, w⟩ = (.unfinished, r, (x.run b w).2) := by
      simp only [rest, Registry.afterTask, hwait, Task.outcomeOf]
    refine ⟨.task e b y, by rw [hrest]; exact hsteps, .inr ⟨by rw [hrest], ?_⟩⟩
    rw [hrest]
    intro v hv
    cases hv with
    | task hs => rw [hstep] at hs; cases hs
    | conclude hx _ _ => rw [hnone] at hx; cases hx
    | callHook hx _ _ => rw [hnone] at hx; cases hx
  · refine .head hsteps ?_
    rcases ends_or_waiting e.name (x.run b w).1 with hwait | ⟨fault, success, result, hends⟩
    · rw [hwait] at hend
      cases y <;> cases hend
    · rcases hh : r.hook with _ | hook
      · exact .head (.single (.conclude hend hends hh)) (finishes_ended _ _ _)
      · exact .head (.single (.callHook hend hends hh)) (finishes_hook _ _ _ _ _ _ _)

/-- Each run is done by a thread in steps. One that does not end comes to a point where the thread
waits. -/
theorem Registry.steps_run (r : Registry ε) (c : Context) (args : List String) (w : World ε) :
    ∃ thread, Worker.Steps c args ⟨.ready, r, w⟩ ⟨thread, (r.run c args w).2.1, (r.run c args w).2.2⟩ ∧
      (thread = .ended (r.run c args w).1 ∨ (r.run c args w).1 = .unfinished ∧
        ∀ v, ¬ Worker.Step c args ⟨thread, (r.run c args w).2.1, (r.run c args w).2.2⟩ v) := by
  have h : Worker.Finishes c args ⟨.ready, r, w⟩ := by
    by_cases hr : ∃ e residual, r.request args = .call e residual
    · obtain ⟨e, residual, hr⟩ := hr
      exact .head (.single (.call hr)) (Worker.finishes_task e _ _ _ w)
    · simp only [not_exists] at hr
      exact .head (.single (.answer hr)) (Worker.finishes_ended _ _ w)
  exact h

end

end TaskDriver.Task
