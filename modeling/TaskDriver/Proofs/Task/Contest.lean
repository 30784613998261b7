import TaskDriver.Proofs.Task.Abandoned
import TaskDriver.Proofs.Task.Deadline

/-! A race in single steps: those of the thread of the run, of the clock, of the timer and of whoever
asks for the end, in any order, and those of the race itself, which takes any of the events that are
there. The race returns one outcome, and what it says of these events is so. If it says that the run
was abandoned, the run has been cancelled before, so that the abandoned task starts no dependency any
more. -/
namespace TaskDriver.Task

variable {ε : Type}

open Relation (ReflTransGen)

/-! ## The steps -/

/-- How far the race itself has come. -/
inductive Arm
  | selecting
  | taken (f : Finish)
  | leaving (o : Outcome)
  | returned (o : Outcome)

structure Contest (ε : Type) where
  worker : Worker ε
  /-- The timer has fired. -/
  fired : Bool
  /-- The end has been asked for. -/
  asked : Bool
  arm : Arm
  /-- The race itself has cancelled the run. -/
  stopped : Bool

namespace Contest

def start (r : Registry ε) (w : World ε) : Contest ε :=
  ⟨⟨.ready, r, w⟩, false, false, .selecting, false⟩

abbrev world (s : Contest ε) : World ε :=
  s.worker.world

def withWorld (s : Contest ε) (w : World ε) : Contest ε :=
  { s with worker := { s.worker with world := w } }

/-- The events that are there to be taken. -/
inductive Ready (s : Contest ε) : Finish → Prop
  | worker {result} : s.worker.thread = .ended (.returned result) → Ready s (.worker result)
  | unwound {text} : s.worker.thread = .ended (.unwound text) →
      Ready s (.workerUnwound (unwoundText text))
  | timer : s.fired = true → Ready s .timer
  | shutdown : s.asked = true → Ready s .shutdown

/-- A step of the race itself. -/
inductive Moves : Contest ε → Contest ε → Prop
  | select {s f} : s.arm = .selecting → s.Ready f → Moves s { s with arm := .taken f }
  | cancel {s f} : s.arm = .taken f → f.cancels = true →
      Moves s { s.withWorld s.world.cancel with arm := .leaving f.outcome, stopped := true }
  | keep {s f} : s.arm = .taken f → f.cancels = false →
      Moves s { s with arm := .leaving f.outcome }
  | «return» {s o} : s.arm = .leaving o → Moves s { s with arm := .returned o }

/-- The timer cannot fire before the deadline. -/
inductive Step (args : List String) (deadline : Nat) : Contest ε → Contest ε → Prop
  | worker {s u} : s.worker.Step ⟨[], some deadline⟩ args u →
      Step args deadline s { s with worker := u }
  | tick {s} (t : Nat) : Step args deadline s (s.withWorld (s.world.pass t))
  | fire {s} : deadline ≤ s.world.now → Step args deadline s { s with fired := true }
  | ask {s} : Step args deadline s { s with asked := true }
  | move {s t} : Moves s t → Step args deadline s t

def Steps (args : List String) (deadline : Nat) : Contest ε → Contest ε → Prop :=
  ReflTransGen (Step args deadline)

/-! ## What every step keeps -/

section

variable {args : List String} {deadline : Nat} {s t : Contest ε} {f : Finish}

/-- A thread that has ended makes no step. -/
theorem Step.ended {k : Conclusion} (h : Step args deadline s t)
    (hk : s.worker.thread = .ended k) : t.worker.thread = .ended k := by
  cases h with
  | worker hw =>
    rcases s with ⟨⟨thread, r, w⟩, _⟩
    simp only at hk
    subst hk
    cases hw
  | tick _ | fire _ | ask => exact hk
  | move hm => cases hm <;> exact hk

theorem Step.fired (h : Step args deadline s t) (hf : s.fired = true) : t.fired = true := by
  cases h with
  | worker _ | tick _ | ask => exact hf
  | fire _ => rfl
  | move hm => cases hm <;> exact hf

theorem Step.asked (h : Step args deadline s t) (ha : s.asked = true) : t.asked = true := by
  cases h with
  | worker _ | tick _ | fire _ => exact ha
  | ask => rfl
  | move hm => cases hm <;> exact ha

/-- An event that is there stays there. -/
theorem Ready.step (h : s.Ready f) (hs : Step args deadline s t) : t.Ready f := by
  cases h with
  | worker hk => exact .worker (hs.ended hk)
  | unwound hk => exact .unwound (hs.ended hk)
  | timer hf => exact .timer (hs.fired hf)
  | shutdown ha => exact .shutdown (hs.asked ha)

/-- What the race has come to rests on an event that was there. -/
inductive Founded (s : Contest ε) : Prop
  | selecting : s.arm = .selecting → s.stopped = false → Founded s
  | taken {f : Finish} : s.Ready f → s.arm = .taken f → s.stopped = false → Founded s
  | leaving {f : Finish} : s.Ready f → s.arm = .leaving f.outcome → s.stopped = f.cancels →
      Founded s
  | returned {f : Finish} : s.Ready f → s.arm = .returned f.outcome → s.stopped = f.cancels →
      Founded s

theorem Founded.of_arm_eq (h : Founded s) (hs : Step args deadline s t) (ha : t.arm = s.arm)
    (hst : t.stopped = s.stopped) : Founded t := by
  cases h with
  | selecting h hstop => exact .selecting (ha.trans h) (hst.trans hstop)
  | taken hr h hstop => exact .taken (hr.step hs) (ha.trans h) (hst.trans hstop)
  | leaving hr h hstop => exact .leaving (hr.step hs) (ha.trans h) (hst.trans hstop)
  | returned hr h hstop => exact .returned (hr.step hs) (ha.trans h) (hst.trans hstop)

theorem Founded.move (h : Founded s) (hm : Moves s t) (hs : Step args deadline s t) :
    Founded t := by
  cases hm with
  | select harm hr =>
    cases h with
    | selecting _ hstop => exact .taken (hr.step hs) rfl hstop
    | taken _ h _ | leaving _ h _ | returned _ h _ => rw [harm] at h; cases h
  | cancel harm hc =>
    cases h with
    | taken hr h _ =>
      rw [harm] at h
      cases h
      exact .leaving (hr.step hs) rfl hc.symm
    | selecting h _ | leaving _ h _ | returned _ h _ => rw [harm] at h; cases h
  | keep harm hc =>
    cases h with
    | taken hr h hstop =>
      rw [harm] at h
      cases h
      exact .leaving (hr.step hs) rfl (hstop.trans hc.symm)
    | selecting h _ | leaving _ h _ | returned _ h _ => rw [harm] at h; cases h
  | «return» harm =>
    cases h with
    | leaving hr h hstop =>
      rw [harm] at h
      cases h
      exact .returned (hr.step hs) rfl hstop
    | selecting h _ | taken _ h _ | returned _ h _ => rw [harm] at h; cases h

end

end Contest

theorem Work.now_le_of_step {α : Type} {c : Context} {x y : Work ε α} {w w' : World ε}
    (h : x.step? c w = some (y, w')) : w.now ≤ w'.now := by
  cases x with
  | done | panic => cases h
  | untilCancelled x =>
    rw [step?] at h
    split at h
    · cases h
      exact Nat.le_refl _
    · cases h
  | pass t x =>
    cases h
    exact Nat.le_add_right _ _
  | _ =>
    cases h
    exact Nat.le_refl _

theorem Worker.Step.now_le {c : Context} {args : List String} {u v : Worker ε}
    (h : Step c args u v) : u.world.now ≤ v.world.now := by
  cases h with
  | task hx => exact Work.now_le_of_step hx
  | hook hx => exact Work.now_le_of_step hx
  | _ => exact Nat.le_refl _

namespace Contest

section

variable {args : List String} {deadline : Nat} {s t : Contest ε} {f : Finish}

theorem Step.now_le (h : Step args deadline s t) : s.world.now ≤ t.world.now := by
  cases h with
  | worker hw => exact hw.now_le
  | tick t => exact Nat.le_add_right _ _
  | fire _ | ask => exact Nat.le_refl _
  | move hm => cases hm <;> exact Nat.le_refl _

theorem Step.cancelled (h : Step args deadline s t) (hw : s.world.cancelled = true) :
    t.world.cancelled = true := by
  cases h with
  | worker hs => exact hs.cancelled hw
  | tick _ | fire _ | ask => exact hw
  | move hm =>
    cases hm with
    | cancel _ _ => rfl
    | select _ _ | keep _ _ | «return» _ => exact hw

theorem Steps.cancelled (h : Steps args deadline s t) (hw : s.world.cancelled = true) :
    t.world.cancelled = true := by
  induction h with
  | refl => exact hw
  | tail _ hs ih => exact hs.cancelled ih

/-- What holds of a race at every moment. -/
structure Sound (deadline : Nat) (s : Contest ε) : Prop where
  founded : s.Founded
  stopped : s.stopped = true → s.world.cancelled = true
  fired : s.fired = true → deadline ≤ s.world.now

theorem sound_start (r : Registry ε) (w : World ε) : (start r w).Sound deadline :=
  ⟨.selecting rfl rfl, Bool.noConfusion, Bool.noConfusion⟩

theorem Sound.step (h : s.Sound deadline) (hs : Step args deadline s t) : t.Sound deadline := by
  have hstopped := fun hst : s.stopped = true => hs.cancelled (h.stopped hst)
  have hfired := fun hf : s.fired = true => Nat.le_trans (h.fired hf) hs.now_le
  cases id hs with
  | worker _ => exact ⟨h.founded.of_arm_eq hs rfl rfl, hstopped, hfired⟩
  | tick _ => exact ⟨h.founded.of_arm_eq hs rfl rfl, hstopped, hfired⟩
  | ask => exact ⟨h.founded.of_arm_eq hs rfl rfl, hstopped, hfired⟩
  | fire hd => exact ⟨h.founded.of_arm_eq hs rfl rfl, hstopped, fun _ => hd⟩
  | move hm =>
    refine ⟨h.founded.move hm hs, ?_, ?_⟩
    · cases hm with
      | cancel _ _ => exact fun _ => rfl
      | select _ _ | keep _ _ | «return» _ => exact hstopped
    · cases hm <;> exact hfired

theorem Sound.steps (h : s.Sound deadline) (hs : Steps args deadline s t) : t.Sound deadline := by
  induction hs with
  | refl => exact h
  | tail _ hs ih => exact ih.step hs

/-- Nothing moves a race that has returned. -/
theorem not_moves_of_returned {o : Outcome} (h : s.arm = .returned o) : ¬ Moves s t := by
  intro hm
  cases hm with
  | select ha _ | cancel ha _ | keep ha _ | «return» ha => rw [h] at ha; cases ha

theorem Step.arm_eq_or_moves (h : Step args deadline s t) : t.arm = s.arm ∨ Moves s t := by
  cases h with
  | worker _ | tick _ | fire _ | ask => exact .inl rfl
  | move hm => exact .inr hm

theorem Steps.returned {o : Outcome} (hs : Steps args deadline s t) (h : s.arm = .returned o) :
    t.arm = .returned o := by
  induction hs with
  | refl => exact h
  | tail _ hs ih =>
    rcases hs.arm_eq_or_moves with ha | hm
    · exact ha.trans ih
    · exact absurd hm (not_moves_of_returned ih)

/-! ## After the run has been cancelled -/

/-- The worker is left alone, or its step is the step of the race. -/
theorem Step.worker_cases (h : Step args deadline s t) :
    s.worker.Step ⟨[], some deadline⟩ args t.worker ∨
      t.worker.thread = s.worker.thread ∧ t.worker.registry = s.worker.registry ∧
        t.world.journal = s.world.journal := by
  cases h with
  | worker hw => exact .inl hw
  | tick _ | fire _ | ask => exact .inr ⟨rfl, rfl, rfl⟩
  | move hm => cases hm <;> exact .inr ⟨rfl, rfl, rfl⟩

variable {starts : ε → Bool}

theorem admitted_congr {u v : Worker ε} (h : u.Admitted starts) (ht : v.thread = u.thread)
    (hr : v.registry = u.registry) : v.Admitted starts := by
  obtain ⟨thread, r, w⟩ := u
  obtain ⟨thread', r', w'⟩ := v
  cases ht
  cases hr
  exact h

theorem admitted_steps (h : s.worker.Admitted starts) (hs : Steps args deadline s t) :
    t.worker.Admitted starts := by
  induction hs with
  | refl => exact h
  | tail _ hs ih =>
    rcases hs.worker_cases with hw | ⟨ht, hr, _⟩
    · exact (ih.step hw).1
    · exact admitted_congr ih ht hr

/-- Once the run is cancelled, what is started and what is still pending is what was pending then. -/
theorem journal_of_cancelled (h : s.worker.Admitted starts) (hc : s.world.cancelled = true)
    (hs : Steps args deadline s t) :
    ∃ l, t.world.journal = s.world.journal ++ l ∧
      l.filter starts ++ t.worker.thread.pending starts = s.worker.thread.pending starts := by
  induction hs with
  | refl => exact ⟨[], (List.append_nil _).symm, rfl⟩
  | @tail t u hs hstep ih =>
    -- A step in a cancelled run leaves nothing pending, so that no more is started than was pending.
    obtain ⟨l, hl, hp⟩ := ih
    rcases hstep.worker_cases with hw | ⟨ht, _, hj⟩
    · have hadm := admitted_steps h hs
      obtain ⟨_, m, hm, hpm⟩ := hadm.step hw
      have hnone := hadm.step_of_cancelled (Steps.cancelled hs hc) hw
      refine ⟨l ++ m, ?_, ?_⟩
      · rw [← List.append_assoc, ← hl]
        exact hm
      · rw [hnone, List.append_nil, List.filter_append, hpm, hp]
    · exact ⟨l, hj.trans hl, by rw [ht]; exact hp⟩

end

/-! ## Every race returns -/

/-- A race without end, or one that stands still from some moment on. Time passes without bound, the
timer fires once its time has come, and the race makes a step some time after it can. -/
structure Fair (args : List String) (deadline : Nat) (σ : Nat → Contest ε) : Prop where
  next : ∀ n, σ (n + 1) = σ n ∨ Step args deadline (σ n) (σ (n + 1))
  clock : ∀ m, ∃ n, m ≤ (σ n).world.now
  timer : (∃ n, deadline ≤ (σ n).world.now) → ∃ n, (σ n).fired = true
  moves : ∀ n, (∃ t, Moves (σ n) t) → ∃ m, n ≤ m ∧ Moves (σ m) (σ (m + 1))

/-- The number of steps that the race itself has to make. -/
def Arm.rank : Arm → Nat
  | .selecting => 3
  | .taken _ => 2
  | .leaving _ => 1
  | .returned _ => 0

section

variable {args : List String} {deadline : Nat} {s t : Contest ε} {σ : Nat → Contest ε}

theorem Moves.rank_lt (h : Moves s t) : Arm.rank t.arm < Arm.rank s.arm := by
  cases h with
  | select ha _ | cancel ha _ | keep ha _ | «return» ha =>
    rw [ha]
    simp [Arm.rank]

theorem Step.rank_le (h : Step args deadline s t) : Arm.rank t.arm ≤ Arm.rank s.arm := by
  rcases h.arm_eq_or_moves with ha | hm
  · exact Nat.le_of_eq (congrArg Arm.rank ha)
  · exact Nat.le_of_lt hm.rank_lt

/-- With an event to take a race that has not returned can make a step. -/
theorem exists_moves {f : Finish} (hr : s.Ready f) (h : ∀ o, s.arm ≠ .returned o) :
    ∃ t, Moves s t := by
  rcases ha : s.arm with _ | f' | o | o
  · exact ⟨_, .select ha hr⟩
  · rcases hc : f'.cancels with _ | _
    · exact ⟨_, .keep ha hc⟩
    · exact ⟨_, .cancel ha hc⟩
  · exact ⟨_, .return ha⟩
  · exact absurd ha (h o)

theorem Fair.steps (h : Fair args deadline σ) {m n : Nat} (hmn : m ≤ n) :
    Steps args deadline (σ m) (σ n) := by
  induction hmn with
  | refl => exact .refl
  | @step k _ ih =>
    rcases h.next k with he | hs
    · rw [he]
      exact ih
    · exact .tail ih hs

theorem Steps.rank_le (h : Steps args deadline s t) : Arm.rank t.arm ≤ Arm.rank s.arm := by
  induction h with
  | refl => exact Nat.le_refl _
  | tail _ hs ih => exact Nat.le_trans hs.rank_le ih

theorem Ready.steps {f : Finish} (h : s.Ready f) (hs : Steps args deadline s t) : t.Ready f := by
  induction hs with
  | refl => exact h
  | tail _ hs ih => exact ih.step hs

/-- From an event on, the steps that the race has to make are made one by one. -/
theorem Fair.returns_of_ready (h : Fair args deadline σ) {n : Nat} {f : Finish}
    (hr : (σ n).Ready f) : ∃ m o, (σ m).arm = .returned o := by
  -- The induction is on the steps that the race has still to make; the event stays there for them.
  induction hk : Arm.rank (σ n).arm using Nat.strongRecOn generalizing n with
  | ind k ih =>
    by_cases hret : ∃ o, (σ n).arm = .returned o
    · obtain ⟨o, ho⟩ := hret
      exact ⟨n, o, ho⟩
    · obtain ⟨m, hnm, hm⟩ := h.moves n (exists_moves hr (not_exists.mp hret))
      have hrank := Nat.lt_of_lt_of_le hm.rank_lt (h.steps hnm).rank_le
      rw [hk] at hrank
      exact ih _ hrank (hr.steps (h.steps (Nat.le_succ_of_le hnm))) rfl

theorem Fair.returns (h : Fair args deadline σ) : ∃! o, ∃ n, (σ n).arm = .returned o := by
  obtain ⟨n, hn⟩ := h.timer (h.clock deadline)
  obtain ⟨m, o, ho⟩ := h.returns_of_ready (.timer hn)
  refine ⟨o, ⟨m, ho⟩, ?_⟩
  rintro o' ⟨m', ho'⟩
  rcases Nat.le_total m m' with hle | hle
  · have := (h.steps hle).returned ho
    rw [ho'] at this
    cases this
    rfl
  · have := (h.steps hle).returned ho'
    rw [ho] at this
    cases this
    rfl

end

end Contest

end TaskDriver.Task
