import TaskDriver.Build.Fault
import TaskDriver.Files.Change

/-! Where drivers are built and run: the files, what running programs do to them, and what the
programs print. -/
namespace TaskDriver.Build

open Files (Path Tree Change)

/-- What a compiler needs to make the driver of one cache. -/
structure Job where
  cacheDirectory : Path
  manifest : Path
  targetDirectory : Path
  artifact : Path
  release : Bool
  /-- Further arguments for the compiler. -/
  args : List String
  deriving DecidableEq

structure Site where
  files : Tree
  printed : String
  /-- The jobs that were given to the compiler, in order. -/
  jobs : List Job

def Site.of (t : Tree) : Site :=
  ⟨t, "", []⟩

abbrev Building (α : Type) := Procedure Site Fault α

/-- A change of the files of a site. -/
def onFiles {α : Type} (c : Change α) : Building α :=
  c.within Site.files (fun s t => { s with files := t }) .file

/-! ## Programs -/

/-- How a program ends, what it prints, and the files after it. -/
structure Ending where
  status : Exit.Status
  printed : String
  files : Tree

structure Programs where
  /-- The directories in which a program is looked for by its name. -/
  searchPath : List Path
  /-- What a file with this content does when it is run with arguments in the working directory;
  nothing if it cannot be run. -/
  behaviour : ByteArray → Option (List String → Tree → Ending)

def isProgram (t : Tree) (p : Path) : Bool :=
  match t.entry true p with
  | .ok (.file _ executable) => executable
  | _ => false

namespace Programs

/-- The first program with a name on the search path. -/
def named? (ps : Programs) (t : Tree) (name : Path) : Option Path :=
  (ps.searchPath.map (·.join name)).find? (isProgram t)

/-- A program by its name, or by its path if more than a name is given. -/
def find? (ps : Programs) (t : Tree) (program : String) : Option Path :=
  let p := Path.ofText program
  if (if p.absolute then 1 else 0) + p.parts.length ≤ 1 then ps.named? t p
  else (some (t.workingPath.join p)).filter (isProgram t)

/-- The working directory for a program, by default the present one. -/
def startDirectory (t : Tree) : Option Path → Except Files.Fault Files.Location
  | none => .ok t.workingDirectory
  | some p => do
    match ← t.reach true p with
    | (l, .directory _) => pure l
    | _ => .error .notDirectory

/-- The behaviour of the program at a path. One name alone is looked for on the search path. -/
def loaded (ps : Programs) (t : Tree) (p : Path) :
    Except Files.Fault (List String → Tree → Ending) := do
  let p ← if p.absolute || 1 < p.names.length then pure p
    else
      match ps.named? t p with
      | some q => pure q
      | none => .error .missing
  match ← t.entry true p with
  | .file content true =>
    match ps.behaviour content with
    | some b => pure b
    | none => .error .notProgram
  | _ => .error .denied

/-- Runs a program and waits for its end. -/
def run (ps : Programs) (p : Path) (args : List String) (directory : Option Path) :
    Building Exit.Status := fun s =>
  let started : Except Files.Fault Ending := do
    let l ← startDirectory s.files directory
    let t := { s.files with workingDirectory := l }
    pure ((← ps.loaded t p) args t)
  match started with
  | .error e => (.error (.file e), s)
  | .ok e =>
    (.ok e.status, { s with
      files := { e.files with workingDirectory := s.files.workingDirectory }
      printed := s.printed ++ e.printed })

end Programs

end TaskDriver.Build
