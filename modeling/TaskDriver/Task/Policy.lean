/-! What is done with a task name under which nothing is registered. -/
namespace TaskDriver.Task

inductive Policy
  /-- Say that there is no such task and list those there are. -/
  | strict
  /-- Run the task `default`. -/
  | fallback
  deriving DecidableEq, Repr, Inhabited

/-- The word for a policy in a configuration file. -/
def Policy.word : Policy → String
  | .strict => "strict"
  | .fallback => "fallback"

def Policy.ofWord? (s : String) : Option Policy :=
  if s = "strict" then some .strict
  else if s = "fallback" then some .fallback
  else none

/-- The name of a policy in the text of a driver. -/
def Policy.variant : Policy → String
  | .strict => "Strict"
  | .fallback => "FallbackToDefault"

theorem Policy.variant_inj {p q : Policy} (h : p.variant = q.variant) : p = q := by
  cases p <;> cases q <;> first | rfl | exact absurd h (by decide)

end TaskDriver.Task
