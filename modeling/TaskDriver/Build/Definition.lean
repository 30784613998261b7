import TaskDriver.Build.Site
import TaskDriver.Definition.Command

/-! Finding and reading the definition file. -/
namespace TaskDriver.Build

open Files (Path Tree)

/-- The names that a definition file has in its directory, the first choice first. -/
def definitionNames : List String :=
  ["Matrfile.rs", "Matrfile"]

/-- The definition file that a path names, by itself or by its directory. -/
def locateDefinition (t : Tree) (p : Path) : Except Fault Path :=
  let p := t.workingPath.join p
  if t.isFile p then .ok p
  else
    match (definitionNames.map p.child).find? t.isFile with
    | some q => .ok q
    | none => .error (.definitionNotFound p.text)

/-- What is said of every mistake in a definition. -/
def grammarDetail : String := "expected `:`"

def readDefinition (t : Tree) (p : Path) : Except Fault (List Definition.Command) := do
  let s ← (t.readText p).mapError .file
  match Definition.commandsOf s.toList with
  | .ok commands => pure commands
  | .error .marker => .error (.marker p.text)
  | .error (.grammar place) => .error (.grammar p.text place grammarDetail)

end TaskDriver.Build
