import TaskDriver.Configuration.Basic
import TaskDriver.Exit.Status
import TaskDriver.Files.Fault
import TaskDriver.Text.Position

/-! What can go wrong before a task runs, in words, and the exit code for it. -/
namespace TaskDriver

inductive ConfigurationFault
  | notFound (path : String)
  | objection (o : Configuration.Objection)
  | yaml
  | toml (position : Text.Position)
  | file (f : Files.Fault)
  deriving DecidableEq, Repr

namespace Build

inductive Fault
  | definitionNotFound (path : String)
  | marker (path : String)
  | grammar (path : String) (place : Text.Position) (detail : String)
  | compilation (status : Exit.Status)
  | compilerNotFound (program : String)
  | artifactMissing (path : String)
  | configuration (f : ConfigurationFault)
  | file (f : Files.Fault)
  deriving DecidableEq, Repr

end Build

def ConfigurationFault.message : ConfigurationFault → String
  | .notFound path => "Configuration file not found at " ++ path
  | .objection o => "Invalid configuration: " ++ o.field ++ " - " ++ o.reason
  | .yaml => "YAML parsing error"
  | .toml p => "TOML parsing error at line " ++ toString p.line ++ ", column " ++ toString p.column
  | .file f => "IO error reading config: " ++ f.text

namespace Build

def Fault.message : Fault → String
  | .definitionNotFound path => "unable to find Matrfile: " ++ path
  | .marker path => "invalid Matrfile " ++ path ++ ": matr build marker missing or incorrect"
  | .grammar path place detail =>
    "failed to parse " ++ path ++ ":" ++ toString place.line ++ ":" ++ toString place.column ++
      ": " ++ detail
  | .compilation status =>
    "compiling the matr driver failed (" ++ status.text ++
      "); if matr-runtime could not be resolved, point runtime.path in matr.toml or " ++
      "MATR_RUNTIME_PATH at a local checkout"
  | .compilerNotFound program => "compiler not found: " ++ program
  | .artifactMissing path => "matr binary not found at " ++ path ++ "; rebuild with --no-cache"
  | .configuration f => f.message
  | .file f => "IO error: " ++ f.text

/-- The text of the fault that this one was made from, if there is one. -/
def Fault.cause : Fault → Option String
  | .configuration (.file f) => some f.text
  | .file f => some f.text
  | _ => none

/-- The message and after it that of its cause. -/
def Fault.fullMessage (f : Fault) : String :=
  match f.cause with
  | some cause => f.message ++ ": " ++ cause
  | none => f.message

/-- Settings that cannot be used give 2, a driver that cannot be built 3, all else 1. -/
def Fault.exitCode : Fault → Nat
  | .configuration _ => 2
  | .marker _ => 3
  | .grammar _ _ _ => 3
  | .compilation _ => 3
  | .compilerNotFound _ => 3
  | _ => 1

end Build

end TaskDriver
