import TaskDriver.Configuration.Basic
import TaskDriver.Definition.Command
import TaskDriver.Task.Name
import TaskDriver.Text.Quoted

/-! The text of the driver: the program that includes the definition file, registers its exported
functions as tasks and runs the one that is asked for. -/
namespace TaskDriver.Build

/-- The name under which the driver includes the definition file. -/
def includedName : String := "Matrfile.rs"

structure DriverOptions where
  policy : Task.Policy
  timeoutSecs : Nat

def DriverOptions.ofConfiguration (c : Configuration) : DriverOptions :=
  ⟨c.policy, c.timeoutSecs⟩

def generatedBy : String :=
  "Code generated by matr v" ++ version ++ ". DO NOT EDIT."

def trimmed (s : String) : String :=
  String.ofList (Text.trim s.toList)

/-- The statement that registers one function. Texts stand in quotes, so that nothing in them can
be taken for code; the comment before it holds the summary as it is. -/
def registration (c : Definition.Command) : String :=
  "\n    // " ++ (if c.summary = "" then c.name else c.summary) ++ "\n" ++
  "    registry.handle(\n" ++
  "        matr::Task::new(" ++ Text.quote (Task.name c.name) ++ ", " ++ c.name ++ ")\n" ++
  "            .summary(" ++ Text.quote (trimmed c.summary) ++ ")\n" ++
  "            .doc(" ++ Text.quote (trimmed c.doc) ++ "),\n" ++
  "    );\n"

def opening (policy : Task.Policy) : String :=
  "// " ++ generatedBy ++ "\n" ++
  "#![allow(non_snake_case, dead_code, unused_imports)]\n\n" ++
  "include!(" ++ Text.quote includedName ++ ");\n" ++
  "\nfn main() \x7b\n" ++
  "    matr::init_logging();\n\n" ++
  "    let mut registry = matr::Registry::new().with_policy(matr::DispatchPolicy::" ++
  policy.variant ++ ");\n"

def closing (timeoutSecs : Nat) : String :=
  "\n    let args: Vec<String> = std::env::args().skip(1).collect();\n" ++
  "    let timeout = std::time::Duration::from_secs(" ++ toString timeoutSecs ++ ");\n" ++
  "\n    let outcome = match matr::supervise(registry, args, timeout) \x7b\n" ++
  "        Ok(outcome) => outcome,\n" ++
  "        Err(e) => \x7b\n" ++
  "            eprintln!(\"ERROR: \x7b\x7d\", e);\n" ++
  "            std::process::exit(1);\n" ++
  "        \x7d\n" ++
  "    \x7d;\n" ++
  "    let _ = outcome.report(&mut std::io::stderr());\n" ++
  "    std::process::exit(outcome.exit_code());\n" ++
  "\x7d\n"

def driverText (commands : List Definition.Command) (o : DriverOptions) : String :=
  opening o.policy ++ String.join ((commands.filter (·.exported)).map registration) ++
    closing o.timeoutSecs

end TaskDriver.Build
