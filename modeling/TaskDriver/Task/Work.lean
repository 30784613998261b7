/-! What a task does when it runs, as far as the run of tasks can tell. A piece of work reads
whether it should go on, asks for the run to end, waits for that, leaves entries in a journal, and
lets time pass; it ends with a value or in a panic. -/
namespace TaskDriver.Task

/-- A failure, with the remarks that were added to it on the way out, the last one first. -/
structure Fault where
  remarks : List String
  root : String
  deriving DecidableEq, Repr

def Fault.of (root : String) : Fault :=
  ⟨[], root⟩

def Fault.remark (f : Fault) (text : String) : Fault :=
  { f with remarks := text :: f.remarks }

/-- The last remark, or the failure itself. -/
def Fault.outer (f : Fault) : String :=
  f.remarks.headD f.root

/-- All remarks and the failure. -/
def Fault.full (f : Fault) : String :=
  String.intercalate ": " (f.remarks ++ [f.root])

/-- What a run hands to its task. Times are in nanoseconds. -/
structure Context where
  args : List String
  deadline : Option Nat
  deriving DecidableEq, Repr

/-- The surroundings of a run. -/
structure World (ε : Type) where
  now : Nat
  cancelled : Bool
  journal : List ε

def World.quiet {ε : Type} (now : Nat) (cancelled : Bool) : World ε :=
  ⟨now, cancelled, []⟩

def World.cancel {ε : Type} (w : World ε) : World ε :=
  { w with cancelled := true }

def World.note {ε : Type} (w : World ε) (entry : ε) : World ε :=
  { w with journal := w.journal ++ [entry] }

def World.pass {ε : Type} (w : World ε) (time : Nat) : World ε :=
  { w with now := w.now + time }

def Context.expired {ε : Type} (c : Context) (w : World ε) : Bool :=
  c.deadline.any (· ≤ w.now)

/-- Time left, or none without a deadline. -/
def Context.remaining {ε : Type} (c : Context) (w : World ε) : Option Nat :=
  c.deadline.map (· - w.now)

def Context.isCancelled {ε : Type} (c : Context) (w : World ε) : Bool :=
  w.cancelled || c.expired w

/-- Why the run should stop; a cancelled run that is also late counts as cancelled. -/
def Context.refusal {ε : Type} (c : Context) (w : World ε) : Option Fault :=
  if w.cancelled then some (.of "run cancelled")
  else if c.expired w then some (.of "deadline exceeded")
  else none

/-- Work that leaves entries of type `ε` and ends with a value of type `α`. A panic carries its
text if it has one. -/
inductive Work (ε α : Type) where
  | done (value : α)
  | panic (text : Option String)
  | note (entry : ε) (rest : Work ε α)
  | cancel (rest : Work ε α)
  | check (rest : Option Fault → Work ε α)
  | untilCancelled (rest : Work ε α)
  | pass (time : Nat) (rest : Work ε α)

def Work.bind {ε α β : Type} : Work ε α → (α → Work ε β) → Work ε β
  | .done a, f => f a
  | .panic t, _ => .panic t
  | .note e r, f => .note e (r.bind f)
  | .cancel r, f => .cancel (r.bind f)
  | .check r, f => .check fun x => (r x).bind f
  | .untilCancelled r, f => .untilCancelled (r.bind f)
  | .pass t r, f => .pass t (r.bind f)

instance {ε : Type} : Monad (Work ε) where
  pure := .done
  bind := .bind

/-- How work ends: with a value, in a panic, or not at all, because it waits. -/
inductive Ending (α : Type) where
  | value (value : α)
  | panicked (text : Option String)
  | waiting
  deriving DecidableEq, Repr

def Work.run {ε α : Type} (c : Context) : Work ε α → World ε → Ending α × World ε
  | .done a, w => (.value a, w)
  | .panic t, w => (.panicked t, w)
  | .note e r, w => r.run c (w.note e)
  | .cancel r, w => r.run c w.cancel
  | .check r, w => (r (c.refusal w)).run c w
  | .untilCancelled r, w => if w.cancelled then r.run c w else (.waiting, w)
  | .pass t r, w => r.run c (w.pass t)

theorem Work.run_bind {ε α β : Type} (c : Context) (x : Work ε α) (f : α → Work ε β)
    (w : World ε) :
    (x.bind f).run c w =
      match x.run c w with
      | (.value a, w) => (f a).run c w
      | (.panicked t, w) => (.panicked t, w)
      | (.waiting, w) => (.waiting, w) := by
  induction x generalizing w with
  | done a => rfl
  | panic t => rfl
  | note e r ih => exact ih _
  | cancel r ih => exact ih _
  | check r ih => exact ih _ _
  | untilCancelled r ih =>
    simp only [bind, run]
    split
    · exact ih _
    · rfl
  | pass t r ih => exact ih _

/-- The function behind a task. -/
abbrev Handler (ε : Type) := Context → Work ε (Except Fault Unit)

/-- Goes on only if the run has neither been cancelled nor passed its deadline. -/
def ensureActive {ε : Type} : Work ε (Except Fault Unit) :=
  .check fun
    | some f => .done (.error f)
    | none => .done (.ok ())

/-- Handlers one after the other, each after a check that the run goes on, up to the first
failure. -/
def dependencies {ε : Type} (c : Context) : List (Handler ε) → Work ε (Except Fault Unit)
  | [] => .done (.ok ())
  | h :: hs => ensureActive.bind fun
    | .error f => .done (.error f)
    | .ok _ => (h c).bind fun
      | .error f => .done (.error f)
      | .ok _ => dependencies c hs

end TaskDriver.Task
