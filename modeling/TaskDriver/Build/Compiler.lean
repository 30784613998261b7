import TaskDriver.Build.Manifest
import TaskDriver.Build.Site

/-! Compiling a driver, and running it. -/
namespace TaskDriver.Build

open Files (Path)

/-- Something that makes the artifact of a job. -/
abbrev Compiler := Job → Building Unit

def releaseOption : String := "--release"

/-- The arguments for the compiler. Further arguments come last and are passed on as they are. -/
def Job.arguments (j : Job) : List String :=
  ["build", "--manifest-path", j.manifest.text, "--target-dir", j.targetDirectory.text] ++
    (if j.release then [releaseOption] else []) ++ j.args

/-- Where the compiler leaves the driver. -/
def Job.built (j : Job) : Path :=
  (j.targetDirectory.child (if j.release then "release" else "debug")).child artifactName

/-- Puts the compiled driver in its place. -/
def Job.install (j : Job) : Building Unit := do
  let s ← Procedure.state
  if s.files.isFile j.built then onFiles (.change (Files.Tree.copy j.built j.artifact))
  else Procedure.fail (.artifactMissing j.built.text)

/-- Compiles by running a program of this name. -/
def compileWith (ps : Programs) (program : String) : Compiler := fun j => do
  let s ← Procedure.state
  match ps.find? s.files program with
  | none => Procedure.fail (.compilerNotFound program)
  | some p =>
    let status ← ps.run p j.arguments (some j.cacheDirectory)
    if status.success then j.install else Procedure.fail (.compilation status)

/-- Runs the driver in a cache directory. A driver that is missing is not built. -/
def runDriver (ps : Programs) (cacheDirectory : Path) (args : List String) :
    Building Exit.Status := do
  let artifact := cacheDirectory.child artifactName
  let s ← Procedure.state
  if s.files.isFile artifact then ps.run artifact args none
  else Procedure.fail (.artifactMissing artifact.text)

end TaskDriver.Build
