import TaskDriver.Task.Registry
import TaskDriver.Text.Quoted

/-! Tasks and registries as texts for a reader who looks for a mistake, on one line or with one
field to a line. -/
namespace TaskDriver.Task

def Entry.shown {ε : Type} (e : Entry ε) : String :=
  "Task \x7b name: " ++ Text.quote e.name ++ ", summary: " ++ Text.quote e.summary ++ ", .. \x7d"

def Progress.shown : Progress → String
  | .idle => "Idle"
  | .dispatching task => "Dispatching(" ++ Text.quote task ++ ")"
  | .completed task success =>
    "Completed \x7b task: " ++ Text.quote task ++ ", success: " ++ toString success ++ " \x7d"

def Registry.shown {ε : Type} (r : Registry ε) : String :=
  "Registry \x7b tasks: " ++ Text.quoteList r.names ++ ", policy: " ++ r.policy.variant ++
    ", state: " ++ r.progress.shown ++ ", .. \x7d"

/-- A line inside the registry's braces. -/
private def inner (s : String) : String :=
  "    " ++ s ++ "\n"

def Progress.shownInLines : Progress → String
  | .idle => inner "state: Idle,"
  | .dispatching task =>
    inner "state: Dispatching(" ++ inner ("    " ++ Text.quote task ++ ",") ++ inner "),"
  | .completed task success =>
    inner "state: Completed \x7b" ++ inner ("    task: " ++ Text.quote task ++ ",") ++
      inner ("    success: " ++ toString success ++ ",") ++ inner "\x7d,"

def Registry.shownInLines {ε : Type} (r : Registry ε) : String :=
  let tasks :=
    if r.names = [] then inner "tasks: [],"
    else inner "tasks: [" ++
      String.join (r.names.map fun n => inner ("    " ++ Text.quote n ++ ",")) ++ inner "],"
  "Registry \x7b\n" ++ tasks ++ inner ("policy: " ++ r.policy.variant ++ ",") ++
    r.progress.shownInLines ++ inner ".." ++ "\x7d"

end TaskDriver.Task
