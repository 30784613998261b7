import TaskDriver.Proofs.Task.Thread

/-! What an abandoned task can still do. A dependency is started right after a check, so that once the
run has been cancelled none is started but one whose check has been passed before. -/
namespace TaskDriver.Task

variable {ε α β : Type} {starts : ε → Bool}

/-! ## Starts behind checks -/

/-- A handler that is run as a dependency, with what is noted when it is started. -/
structure Dependency (ε : Type) where
  mark : ε
  handler : Handler ε

def Dependency.start (d : Dependency ε) : Handler ε := fun c =>
  .note d.mark (d.handler c)

/-- Work in which dependencies are run one after the other, and started in no other way. -/
inductive Orderly (starts : ε → Bool) : {α : Type} → Work ε α → Prop
  | done {α : Type} (a : α) : Orderly starts (.done a)
  | panic {α : Type} (t : Option String) : Orderly starts (.panic t : Work ε α)
  | note {α : Type} {e : ε} {x : Work ε α} : starts e = false → Orderly starts x →
      Orderly starts (.note e x)
  | cancel {α : Type} {x : Work ε α} : Orderly starts x → Orderly starts (.cancel x)
  | check {α : Type} {x : Option Fault → Work ε α} : (∀ f, Orderly starts (x f)) →
      Orderly starts (.check x)
  | untilCancelled {α : Type} {x : Work ε α} : Orderly starts x → Orderly starts (.untilCancelled x)
  | pass {α : Type} {t : Nat} {x : Work ε α} : Orderly starts x → Orderly starts (.pass t x)
  | dependencies {α : Type} {c : Context} {ds : List (Dependency ε)}
      {f : Except Fault Unit → Work ε α} :
      (∀ d ∈ ds, ∀ c, Orderly starts (d.handler c)) → (∀ a, Orderly starts (f a)) →
      Orderly starts ((dependencies c (ds.map Dependency.start)).bind f)

/-- Work in which something is started only right after a check that is passed. -/
inductive Guarded (starts : ε → Bool) : Work ε α → Prop
  | done (a : α) : Guarded starts (.done a)
  | panic (t : Option String) : Guarded starts (.panic t)
  | note {e x} : starts e = false → Guarded starts x → Guarded starts (.note e x)
  | cancel {x} : Guarded starts x → Guarded starts (.cancel x)
  | check {x} : (∀ f, Guarded starts (x f)) → Guarded starts (.check x)
  | guard {x e y} : (∀ f, Guarded starts (x (some f))) → x none = .note e y → Guarded starts y →
      Guarded starts (.check x)
  | untilCancelled {x} : Guarded starts x → Guarded starts (.untilCancelled x)
  | pass {t x} : Guarded starts x → Guarded starts (.pass t x)

theorem Guarded.bind {x : Work ε α} {f : α → Work ε β} (h : Guarded starts x)
    (hf : ∀ a, Guarded starts (f a)) : Guarded starts (x.bind f) := by
  induction h with
  | done a => exact hf a
  | panic t => exact .panic t
  | note he _ ih => exact .note he ih
  | cancel _ ih => exact .cancel ih
  | check _ ih => exact .check ih
  | @guard x e y _ hy _ ih ih' =>
    have hy : (x none).bind f = .note e (y.bind f) := by
      rw [hy]
      rfl
    exact .guard ih hy ih'
  | untilCancelled _ ih => exact .untilCancelled ih
  | pass _ ih => exact .pass ih

theorem guarded_dependencies (c : Context) {ds : List (Dependency ε)}
    (h : ∀ d ∈ ds, ∀ c, Guarded starts (d.handler c)) :
    Guarded starts (dependencies c (ds.map Dependency.start)) := by
  induction ds with
  | nil => exact .done _
  | cons d ds ih =>
    have hrest := ih fun d' hd => h d' (.tail _ hd)
    -- Only the branch of a check that is passed goes on to the next dependency.
    refine .guard (fun f => .done _) rfl ((h d (.head _) c).bind fun a => ?_)
    cases a with
    | error f => exact .done _
    | ok _ => exact hrest

theorem Orderly.guarded {x : Work ε α} (h : Orderly starts x) : Guarded starts x := by
  induction h with
  | done a => exact .done a
  | panic t => exact .panic t
  | note he _ ih => exact .note he ih
  | cancel _ ih => exact .cancel ih
  | check _ ih => exact .check ih
  | untilCancelled _ ih => exact .untilCancelled ih
  | pass _ ih => exact .pass ih
  | dependencies _ _ ihd ihf => exact (guarded_dependencies _ ihd).bind ihf

/-! ## One step -/

/-- What is started by the next step, its check having been passed. -/
def Work.pending (starts : ε → Bool) : Work ε α → List ε
  | .note e _ => [e].filter starts
  | _ => []

/-- Guarded work, or such work after one start. -/
def Admitted (starts : ε → Bool) (x : Work ε α) : Prop :=
  Guarded starts x ∨ ∃ e y, x = .note e y ∧ Guarded starts y

section

variable {c : Context} {x y : Work ε α} {w w' : World ε}

theorem Guarded.pending (h : Guarded starts x) : x.pending starts = [] := by
  cases h with
  | note he _ => simp [Work.pending, he]
  | _ => rfl

/-- A step notes just what was pending, and leaves admitted work. -/
theorem Admitted.step (h : Admitted starts x) (hs : x.step? c w = some (y, w')) :
    Admitted starts y ∧
      ∃ l, w'.journal = w.journal ++ l ∧ l.filter starts = x.pending starts := by
  rcases h with h | ⟨e, x, rfl, hx⟩
  · cases h with
    | done | panic => cases hs
    | @note e _ _ hx =>
      cases hs
      exact ⟨.inl hx, [e], rfl, rfl⟩
    | cancel hx | pass hx =>
      cases hs
      exact ⟨.inl hx, [], (List.append_nil _).symm, rfl⟩
    | check hx =>
      cases hs
      exact ⟨.inl (hx _), [], (List.append_nil _).symm, rfl⟩
    | guard hx hnone hy =>
      cases hs
      refine ⟨?_, [], (List.append_nil _).symm, rfl⟩
      rcases c.refusal w with _ | f
      · exact .inr ⟨_, _, hnone, hy⟩
      · exact .inl (hx f)
    | untilCancelled hx =>
      rw [Work.step?] at hs
      split at hs
      · cases hs
        exact ⟨.inl hx, [], (List.append_nil _).symm, rfl⟩
      · cases hs
  · cases hs
    exact ⟨.inl hx, [e], rfl, rfl⟩

theorem refusal_of_cancelled (c : Context) (h : w.cancelled = true) :
    c.refusal w = some (.of "run cancelled") :=
  if_pos h

/-- In a cancelled run no check is passed, so that nothing is pending after a step. -/
theorem Admitted.step_of_cancelled (h : Admitted starts x) (hw : w.cancelled = true)
    (hs : x.step? c w = some (y, w')) : y.pending starts = [] := by
  rcases h with h | ⟨e, x, rfl, hx⟩
  · cases h with
    | done | panic => cases hs
    | note _ hx | cancel hx | pass hx =>
      cases hs
      exact hx.pending
    | check hx =>
      cases hs
      exact (hx _).pending
    | guard hx _ _ =>
      cases hs
      rw [refusal_of_cancelled c hw]
      exact (hx _).pending
    | untilCancelled hx =>
      rw [Work.step?, if_pos hw] at hs
      cases hs
      exact hx.pending
  · cases hs
    exact hx.pending

theorem Work.cancelled_of_step (hw : w.cancelled = true) (hs : x.step? c w = some (y, w')) :
    w'.cancelled = true := by
  cases x with
  | done | panic => cases hs
  | untilCancelled x =>
    rw [step?, if_pos hw] at hs
    cases hs
    exact hw
  | cancel x =>
    cases hs
    rfl
  | _ =>
    cases hs
    exact hw

end

/-! ## The thread -/

def Thread.pending (starts : ε → Bool) : Thread ε → List ε
  | .task _ _ x => x.pending starts
  | .hook _ _ _ _ x => x.pending starts
  | _ => []

/-- All that a registry can call is orderly work. -/
structure Registry.Orderly (starts : ε → Bool) (r : Registry ε) : Prop where
  tasks : ∀ e ∈ r.entries, ∀ c, Task.Orderly starts (e.handler c)
  hook : ∀ hook, r.hook = some hook → ∀ c fault, Task.Orderly starts (hook c fault)

/-- All that the worker has still to do is admitted. -/
def Worker.Admitted (starts : ε → Bool) (u : Worker ε) : Prop :=
  match u.thread with
  | .ready => u.registry.Orderly starts
  | .task _ _ x => Task.Admitted starts x ∧
      ∀ hook, u.registry.hook = some hook → ∀ c fault, Task.Orderly starts (hook c fault)
  | .hook _ _ _ _ x => Task.Admitted starts x
  | .ended _ => True

section

variable {c : Context} {args : List String} {r : Registry ε} {u v : Worker ε}

theorem Registry.mem_of_request {e : Entry ε} {residual : List String}
    (h : r.request args = .call e residual) : e ∈ r.entries := by
  rcases args with _ | ⟨first, rest⟩
  · cases h
  simp only [request] at h
  split at h
  · cases rest <;> cases h
  split at h
  · cases h
  split at h
  · next hg =>
    cases h
    exact List.mem_of_find?_eq_some hg
  · split at h
    · cases h
    · split at h
      · next hg =>
        cases h
        exact List.mem_of_find?_eq_some hg
      · cases h

theorem Worker.Admitted.step (h : u.Admitted starts) (hs : Step c args u v) :
    v.Admitted starts ∧ ∃ l, v.world.journal = u.world.journal ++ l ∧
      l.filter starts = u.thread.pending starts := by
  cases hs with
  | answer _ => exact ⟨trivial, [], (List.append_nil _).symm, rfl⟩
  | call hr =>
    have horderly : Registry.Orderly starts _ := h
    exact ⟨⟨.inl (horderly.tasks _ (Registry.mem_of_request hr) _).guarded, horderly.hook⟩, [],
      (List.append_nil _).symm, rfl⟩
  | task hx =>
    obtain ⟨hy, hl⟩ := Task.Admitted.step h.1 hx
    exact ⟨⟨hy, h.2⟩, hl⟩
  | @conclude e b x _ _ _ _ _ _ hx _ _ =>
    have hp : x.pending starts = [] := by cases x <;> first | rfl | cases hx
    exact ⟨trivial, [], (List.append_nil _).symm, hp.symm⟩
  | @callHook e b x _ _ _ _ _ _ _ hx _ hh =>
    have hp : x.pending starts = [] := by cases x <;> first | rfl | cases hx
    exact ⟨.inl (h.2 _ hh _ _).guarded, [], (List.append_nil _).symm, hp.symm⟩
  | hook hx => exact Task.Admitted.step h hx
  | hookDone | hookUnwound => exact ⟨trivial, [], (List.append_nil _).symm, rfl⟩

/-- After the step of a worker in a cancelled run nothing is pending. -/
theorem Worker.Admitted.step_of_cancelled (h : u.Admitted starts) (hw : u.world.cancelled = true)
    (hs : Step c args u v) : v.thread.pending starts = [] := by
  cases hs with
  | answer _ | conclude _ _ _ | hookDone | hookUnwound => rfl
  | call hr =>
    have horderly : Registry.Orderly starts _ := h
    exact (horderly.tasks _ (Registry.mem_of_request hr) _).guarded.pending
  | task hx => exact Task.Admitted.step_of_cancelled h.1 hw hx
  | callHook _ _ hh => exact (h.2 _ hh _ _).guarded.pending
  | hook hx => exact Task.Admitted.step_of_cancelled h hw hx

theorem Worker.Step.cancelled (h : Step c args u v) (hw : u.world.cancelled = true) :
    v.world.cancelled = true := by
  cases h with
  | task hx => exact Work.cancelled_of_step hw hx
  | hook hx => exact Work.cancelled_of_step hw hx
  | _ => exact hw

end

end TaskDriver.Task
