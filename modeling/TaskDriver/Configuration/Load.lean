import TaskDriver.Configuration.Toml
import TaskDriver.Configuration.Yaml
import TaskDriver.Files.Tree

/-! The configuration that holds for a directory: the nearest file of settings on the way up to the
root, or the standard one if there is none. A file that cannot be used is a fault and is never
passed over. -/
namespace TaskDriver.Configuration

open Files (Path Tree)

/-- The names of files of settings, the first choice first. -/
def fileNames : List String :=
  ["matr.toml", "matr.yaml", ".matr.toml"]

/-- The files of settings that a directory may have. -/
def candidates (directory : Path) : List Path :=
  fileNames.map directory.child

def find? (t : Tree) (start : Path) : Option Path :=
  (start.ancestors.flatMap candidates).find? t.isFile

/-- The configuration that a text says, by the format that the name of its file stands for. -/
def ofText (p : Path) (s : String) : Except ConfigurationFault Configuration :=
  if p.extension? = some "toml" then (ofToml s.toList).mapError .toml
  else
    match ofYaml? s.toList with
    | some c => .ok c
    | none => .error .yaml

def accepted (c : Configuration) : Except ConfigurationFault Configuration :=
  match c.objection with
  | some o => .error (.objection o)
  | none => .ok c

def load (t : Tree) (p : Path) : Except ConfigurationFault Configuration := do
  let s ← (t.readText p).mapError .file
  accepted (← ofText p s)

/-- A configuration and the file that it comes from. -/
def loadFrom (t : Tree) (directory : Path) : Except ConfigurationFault (Configuration × Path) := do
  match find? t directory with
  | none => .error (.notFound directory.text)
  | some p => pure (← load t p, p)

/-- The environment has the last word. -/
def loadOrStandard (t : Tree) (directory : Path) (o : Overrides) :
    Except ConfigurationFault (Configuration × Option Path) := do
  let (c, p) ← match find? t directory with
    | none => pure (standard, none)
    | some p => do pure (← load t p, some p)
  pure (← accepted (c.override o), p)

end TaskDriver.Configuration
