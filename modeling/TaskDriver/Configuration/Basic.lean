import TaskDriver.Task.Policy
import TaskDriver.Text.Blank
import TaskDriver.Toml.Value

/-! The settings of a set of tasks: how long a run may take, what happens to unknown names, and how
the driver is built. -/
namespace TaskDriver

/-- Where the driver takes its runtime library from; a path wins over a version. -/
structure RuntimeSource where
  version : String
  path : Option String

structure CompilerSettings where
  cargo : String
  release : Bool
  args : List String

structure Configuration where
  timeoutSecs : Nat
  dispatch : String
  runtime : RuntimeSource
  compiler : CompilerSettings
  /-- In the order of the names. -/
  dependencies : Toml.Table

/-- The version of this program and of the runtime library that belongs to it. -/
def version : String := "0.2.0"

namespace Configuration

def standard : Configuration :=
  { timeoutSecs := 300
    dispatch := Task.Policy.strict.word
    runtime := ⟨version, none⟩
    compiler := ⟨"cargo", false, []⟩
    dependencies := [] }

/-- How long a run may take, in nanoseconds. -/
def timeout (c : Configuration) : Nat :=
  c.timeoutSecs * 1000000000

/-- Unknown words count as strict. -/
def policy (c : Configuration) : Task.Policy :=
  (Task.Policy.ofWord? c.dispatch).getD .strict

/-- A setting that cannot be used, and why. -/
structure Objection where
  field : String
  reason : String
  deriving DecidableEq, Repr

/-- The dependency that every driver has. -/
def runtimeName : String := "matr"

def isBlankText (s : String) : Bool :=
  s.toList.all Text.isBlank

/-- The first objection to a configuration. -/
def objection (c : Configuration) : Option Objection :=
  if c.timeoutSecs = 0 then some ⟨"timeout_secs", "must be greater than zero"⟩
  else if (Task.Policy.ofWord? c.dispatch).isNone then
    some ⟨"dispatch", "must be one of: strict, fallback"⟩
  else if isBlankText c.compiler.cargo then some ⟨"compiler.cargo", "cannot be empty"⟩
  else if c.runtime.path.isNone && isBlankText c.runtime.version then
    some ⟨"runtime.version", "required when runtime.path is not set"⟩
  else if c.dependencies.contains runtimeName then
    some ⟨"dependencies.matr", "name is reserved for the runtime crate"⟩
  else none

/-- What the environment says about the settings; an empty variable says nothing. -/
structure Overrides where
  cargo : Option String
  runtimePath : Option String

def said (v : Option String) : Option String :=
  v.filter (· ≠ "")

def override (c : Configuration) (o : Overrides) : Configuration :=
  { c with
    compiler := { c.compiler with cargo := (said o.cargo).getD c.compiler.cargo }
    runtime := { c.runtime with path := (said o.runtimePath).or c.runtime.path } }

def cargoVariable : String := "MATR_CARGO"

def runtimePathVariable : String := "MATR_RUNTIME_PATH"

/-- Reads the overrides from an environment. -/
def overridesOf (environment : String → Option String) : Overrides :=
  ⟨environment cargoVariable, environment runtimePathVariable⟩

end Configuration

end TaskDriver
