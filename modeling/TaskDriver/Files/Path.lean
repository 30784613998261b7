import TaskDriver.Text.Blank

/-! Paths as they are written: names between slashes. Empty names and the name `.` lead nowhere, but
they are kept, since a path is shown as it was written. -/
namespace TaskDriver.Files

structure Path where
  absolute : Bool
  /-- No names for an empty text; never one empty name alone. -/
  names : List String
  deriving DecidableEq, Repr

namespace Path

def namesOf (s : List Char) : List String :=
  if s = [] then [] else (Text.splitOn '/' s).map String.ofList

def ofText (s : String) : Path :=
  match s.toList with
  | '/' :: r => ⟨true, namesOf r⟩
  | r => ⟨false, namesOf r⟩

def text (p : Path) : String :=
  (if p.absolute then "/" else "") ++ String.intercalate "/" p.names

/-- Starts a relative path at `p`; an absolute one stays as it is. -/
def join (p q : Path) : Path :=
  if q.absolute then q
  else if p.names = [] then ⟨p.absolute, q.names⟩
  else
    let start := if p.names.getLast? = some "" then p.names.dropLast else p.names
    ⟨p.absolute, start ++ (if q.names = [] then [""] else q.names)⟩

/-- The path of an entry of a directory. -/
def child (p : Path) (name : String) : Path :=
  p.join (ofText name)

/-- The names that count; `.` counts at the start of a relative path. -/
def parts (p : Path) : List String :=
  let kept := fun names : List String => names.filter fun n => n ≠ "" && n ≠ "."
  match p.names with
  | [] => []
  | n :: ns => if n = "." && !p.absolute then n :: kept ns else kept (n :: ns)

/-- Both paths have the same names that count. -/
def same (p q : Path) : Bool :=
  p.absolute = q.absolute && p.parts = q.parts

/-- Cuts the names that do not count off the end; the last name comes first. -/
def cut (absolute : Bool) : List String → List String
  | [] => []
  | n :: ns =>
    if n = "" || (n = "." && (absolute || ns ≠ [])) then cut absolute ns else n :: ns

theorem length_cut_le (absolute : Bool) (ns : List String) : (cut absolute ns).length ≤ ns.length := by
  induction ns with
  | nil => simp [cut]
  | cons n ns ih =>
    simp only [cut]
    split
    · exact Nat.le_succ_of_le ih
    · simp

/-- The path without its last name that counts, if it has one. -/
def parent? (p : Path) : Option Path :=
  match cut p.absolute p.names.reverse with
  | [] => none
  | _ :: ns => some ⟨p.absolute, (cut p.absolute ns).reverse⟩

theorem length_parent? {p q : Path} (h : p.parent? = some q) : q.names.length < p.names.length := by
  unfold parent? at h
  split at h
  · contradiction
  · next n ns hc =>
    cases h
    have h₁ := length_cut_le p.absolute p.names.reverse
    have h₂ := length_cut_le p.absolute ns
    simp only [hc, List.length_cons, List.length_reverse] at h₁
    simp only [List.length_reverse]
    omega

/-- The directory of a file; the working directory if the path has no parent. -/
def directory (p : Path) : Path :=
  p.parent?.getD ⟨false, ["."]⟩

/-- The path and the paths above it, the nearest first. -/
def ancestors (p : Path) : List Path :=
  match h : p.parent? with
  | none => [p]
  | some q =>
    have := length_parent? h
    p :: ancestors q
termination_by p.names.length

/-- The last name, if it names an entry. -/
def fileName? (p : Path) : Option String :=
  p.parts.getLast?.filter fun n => n ≠ "." && n ≠ ".."

/-- What follows the last point of the file name, unless the name starts with this point. -/
def extension? (p : Path) : Option String :=
  p.fileName?.bind fun name =>
    let r := name.toList.reverse
    match r.dropWhile (· ≠ '.') with
    | [] => none
    | _ :: start =>
      if start = [] then none else some (String.ofList (r.takeWhile (· ≠ '.')).reverse)

end Path

end TaskDriver.Files
