import TaskDriver.Files.Fault
import TaskDriver.Files.Path
import TaskDriver.Keyed

/-! Trees of files, with the rules by which a path leads to an entry. -/
namespace TaskDriver.Files

inductive Entry
  | file (content : ByteArray) (executable : Bool)
  /-- A symbolic link. -/
  | link (target : Path)
  | directory (entries : List (String × Entry))

/-- The names from the root down to an entry. -/
abbrev Location := List String

namespace Entry

def empty : Entry :=
  .directory []

/-- The entry at a location; links are not followed. -/
def find? : Entry → Location → Option Entry
  | e, [] => some e
  | .directory es, n :: ns => (Keyed.get? n es).bind (·.find? ns)
  | _, _ :: _ => none

/-- Puts an entry in a place, in directories that are made if they are missing. -/
def put : Entry → Location → Entry → Entry
  | _, [], e => e
  | .directory es, n :: ns, e =>
    .directory (Keyed.insert n (put ((Keyed.get? n es).getD empty) ns e) es)
  | other, _ :: _, _ => other

def remove : Entry → Location → Entry
  | e, [] => e
  | .directory es, [n] => .directory (Keyed.erase n es)
  | .directory es, n :: ns =>
    match Keyed.get? n es with
    | some e => .directory (Keyed.insert n (remove e ns) es)
    | none => .directory es
  | other, _ :: _ => other

mutual

/-- The number of bytes in the files of an entry. Links are not followed and count for nothing. -/
def size : Entry → Nat
  | .file content _ => content.size
  | .link _ => 0
  | .directory es => sizeOfAll es

def sizeOfAll : List (String × Entry) → Nat
  | [] => 0
  | (_, e) :: es => size e + sizeOfAll es

end

mutual

/-- An entry and everything below it, each with its location. -/
def listed (above : Location) : Entry → List (Location × Entry)
  | .file content x => [(above, .file content x)]
  | .link target => [(above, .link target)]
  | .directory es => (above, .directory es) :: listedAll above es

def listedAll (above : Location) : List (String × Entry) → List (Location × Entry)
  | [] => []
  | (n, e) :: es => listed (above ++ [n]) e ++ listedAll above es

end

end Entry

structure Tree where
  root : Entry
  workingDirectory : Location

/-- Where a path leads. -/
structure Spot where
  location : Location
  /-- Nothing if only the last name is missing. -/
  entry : Option Entry
  /-- A slash follows the name that is missing, so that it can only become a directory. -/
  slash : Bool := false
  deriving Inhabited

/-- How many links a path may lead over. -/
def linkLimit : Nat := 40

def nameLimit : Nat := 255

/-- Goes along names from a directory. A link is followed unless it is the last name and the walk
does not `follow`. -/
def Entry.walk (root : Entry) (follow : Bool) (links : Nat) (start : Location)
    (names : List String) : Except Fault Spot :=
  match names with
  | [] => .ok { location := start, entry := root.find? start }
  | n :: ns =>
    match root.find? start with
    | some (.directory es) =>
      if n = "" || n = "." then root.walk follow links start ns
      else if n = ".." then root.walk follow links start.dropLast ns
      else if nameLimit < n.utf8ByteSize then .error .nameTooLong
      else
        match Keyed.get? n es with
        | none => if ns.all (· = "") then .ok ⟨start ++ [n], none, ns ≠ []⟩ else .error .missing
        | some (.link target) =>
          if ns = [] && !follow then .ok { location := start ++ [n], entry := some (.link target) }
          else
            match links with
            | 0 => .error .tooManyLinks
            | links + 1 =>
              root.walk follow links (if target.absolute then [] else start) (target.names ++ ns)
        | some _ => root.walk follow links (start ++ [n]) ns
    | _ => .error .notDirectory
termination_by (links, names.length)

namespace Tree

def pathOf (l : Location) : Path :=
  ⟨true, l⟩

def workingPath (t : Tree) : Path :=
  pathOf t.workingDirectory

/-- Where a path leads from the working directory. The empty path leads nowhere. -/
def spot (t : Tree) (follow : Bool) (p : Path) : Except Fault Spot :=
  if p = ⟨false, []⟩ then .error .missing
  else if p.names.any (·.toList.contains '\x00') then .error .zeroInPath
  else t.root.walk follow linkLimit (if p.absolute then [] else t.workingDirectory) p.names

/-- The entry that a path leads to, and its location. -/
def reach (t : Tree) (follow : Bool) (p : Path) : Except Fault (Location × Entry) := do
  let s ← t.spot follow p
  match s.entry with
  | some e => pure (s.location, e)
  | none => .error .missing

def entry (t : Tree) (follow : Bool) (p : Path) : Except Fault Entry :=
  (t.reach follow p).map (·.2)

def isFile (t : Tree) (p : Path) : Bool :=
  match t.entry true p with
  | .ok (.file _ _) => true
  | _ => false

def isDirectory (t : Tree) (p : Path) : Bool :=
  match t.entry true p with
  | .ok (.directory _) => true
  | _ => false

/-- Something is there, and links lead to something. -/
def exists? (t : Tree) (follow : Bool) (p : Path) : Bool :=
  match t.entry follow p with
  | .ok _ => true
  | .error _ => false

def read (t : Tree) (p : Path) : Except Fault ByteArray := do
  match ← t.entry true p with
  | .file content _ => pure content
  | _ => .error .isDirectory

def readText (t : Tree) (p : Path) : Except Fault String := do
  match String.fromUTF8? (← t.read p) with
  | some s => pure s
  | none => .error .notText

def readLink (t : Tree) (p : Path) : Except Fault Path := do
  match ← t.entry false p with
  | .link target => pure target
  | _ => .error .notLink

/-- The number of bytes in the files below a directory. -/
def directorySize (t : Tree) (p : Path) : Except Fault Nat := do
  match ← t.entry true p with
  | .directory es => pure (Entry.sizeOfAll es)
  | _ => .error .notDirectory

end Tree

end TaskDriver.Files
