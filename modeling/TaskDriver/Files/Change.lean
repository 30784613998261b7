import TaskDriver.Files.Tree
import TaskDriver.Procedure

/-! Changes of a tree of files. A change that fails leaves the tree as it is. -/
namespace TaskDriver.Files

abbrev Change (α : Type) := Procedure Tree Fault α

namespace Tree

def put (t : Tree) (l : Location) (e : Entry) : Tree :=
  { t with root := t.root.put l e }

def remove (t : Tree) (l : Location) : Tree :=
  { t with root := t.root.remove l }

/-- A file that is there keeps its permissions, unless new ones are given. -/
def write (p : Path) (content : ByteArray) (executable : Option Bool) (t : Tree) :
    Except Fault Tree := do
  let s ← t.spot true p
  match s.entry with
  | none =>
    if s.slash then .error .isDirectory
    else pure (t.put s.location (.file content (executable.getD false)))
  | some (.file _ x) => pure (t.put s.location (.file content (executable.getD x)))
  | some _ => .error .isDirectory

def makeDirectory (p : Path) (t : Tree) : Except Fault Tree := do
  let s ← t.spot false p
  match s.entry with
  | none => pure (t.put s.location .empty)
  | some _ => .error .alreadyThere

/-- Makes a link; what it leads to need not be there. -/
def makeLink (target p : Path) (t : Tree) : Except Fault Tree := do
  let s ← t.spot false p
  match s.entry with
  | none =>
    if s.slash then .error .missing
    else if target = ⟨false, []⟩ then .error .missing
    else pure (t.put s.location (.link target))
  | some _ => .error .alreadyThere

/-- Removes a file or a link. -/
def removeFile (p : Path) (t : Tree) : Except Fault Tree := do
  let (l, e) ← t.reach false p
  match e with
  | .directory _ => .error .isDirectory
  | _ => pure (t.remove l)

/-- Removes a directory with all that is in it, or a link, but not what the link leads to. -/
def removeAll (p : Path) (t : Tree) : Except Fault Tree := do
  let (l, e) ← t.reach false p
  match e with
  | .file _ _ => .error .notDirectory
  | _ => pure (t.remove l)

/-- Copies a file with its permissions. The target is emptied first, so that nothing is left of a
file that is copied to itself. -/
def copy (source target : Path) (t : Tree) : Except Fault Tree := do
  match ← t.reach true source with
  | (l, .file content x) =>
    let s ← t.spot true target
    t.write target (if s.location = l then .empty else content) (some x)
  | _ => .error (.other "the source path is neither a regular file nor a symlink to a regular file")

end Tree

def write (p : Path) (content : ByteArray) : Change Unit :=
  .change (Tree.write p content none)

def writeText (p : Path) (s : String) : Change Unit :=
  write p s.toUTF8

/-- Makes a directory, and above it what is missing; one that is there already will do. -/
def makeDirectories (p : Path) : Change Unit := fun t =>
  match t.makeDirectory p with
  | .ok t => (.ok (), t)
  | .error e =>
    if e = .missing then
      if p.names = [] then (.ok (), t)
      else
        match h : p.parent? with
        | none => (.error (.other "failed to create whole tree"), t)
        | some q =>
          have := Path.length_parent? h
          match makeDirectories q t with
          | (.error e, t) => (.error e, t)
          | (.ok _, t) =>
            match t.makeDirectory p with
            | .ok t => (.ok (), t)
            | .error e => (if t.isDirectory p then .ok () else .error e, t)
    else (if t.isDirectory p then .ok () else .error e, t)
termination_by p.names.length

/-- Removes a file; one that is not there will do. -/
def dropFile (p : Path) : Change Unit :=
  .change fun t =>
    match t.removeFile p with
    | .error .missing => .ok t
    | r => r

end TaskDriver.Files
