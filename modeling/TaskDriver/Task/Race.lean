import TaskDriver.Task.Registry

/-! A run against its deadline and against a request to shut down. What comes first decides. -/
namespace TaskDriver.Task

inductive Outcome
  | completed (result : Except DispatchError Dispatch)
  | timedOut
  | interrupted

def Outcome.exitCode : Outcome → Nat
  | .completed (.ok _) => 0
  | .completed (.error _) => 1
  | .timedOut => 124
  | .interrupted => 130

/-- The line that says how the run ended, if it did not end well. -/
def Outcome.report : Outcome → String
  | .completed (.ok _) => ""
  | .completed (.error e) => "ERROR: " ++ e.message ++ "\n"
  | .timedOut => "ERROR: Context timed out\n"
  | .interrupted => "INFO: Received signal, shutting down\n"

/-- A clock counts its seconds in 63 bits. -/
def clockEnd : Nat := 0x8000000000000000 * 1000000000

/-- The moment `timeout` nanoseconds after `now`, unless no clock shows it. -/
def deadlineAfter (now timeout : Nat) : Option Nat :=
  if now + timeout < clockEnd then some (now + timeout) else none

/-- What can end a race. A worker that was unwound leaves the text that its thread gives for it. -/
inductive Finish
  | worker (result : Except DispatchError Dispatch)
  | workerUnwound (text : String)
  | timer
  | shutdown

def Finish.outcome : Finish → Outcome
  | .worker result => .completed result
  | .workerUnwound text => .completed (.error (.panicked text))
  | .timer => .timedOut
  | .shutdown => .interrupted

/-- Whether the run is cancelled when it is left to itself. -/
def Finish.cancels : Finish → Bool
  | .timer | .shutdown => true
  | _ => false

/-- The text that a thread leaves when a panic ends it. -/
def unwoundText (text : Option String) : String :=
  match text with
  | some t => "task panicked with message \"" ++ t ++ "\""
  | none => "task panicked"

/-- What comes first when a worker that need not wait is done before any other event. -/
def firstFinish (shutdown : Bool) : Conclusion → Finish
  | .returned result => .worker result
  | .unwound text => .workerUnwound (unwoundText text)
  | .unfinished => if shutdown then .shutdown else .timer

structure Raced (ε : Type) where
  outcome : Outcome
  registry : Registry ε
  world : World ε

/-- None if the deadline lies beyond the end of the clock. -/
def race {ε : Type} (r : Registry ε) (args : List String) (timeout : Nat) (shutdown : Bool)
    (w : World ε) : Option (Raced ε) :=
  (deadlineAfter w.now timeout).map fun deadline =>
    let (conclusion, r, w) := r.run ⟨[], some deadline⟩ args w
    let finish := firstFinish shutdown conclusion
    ⟨finish.outcome, r, if finish.cancels then w.cancel else w⟩

end TaskDriver.Task
