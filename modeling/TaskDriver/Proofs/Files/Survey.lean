import TaskDriver.Proofs.Files.Listing

/-! The size of a directory as it is found by a walk along paths: the entries of the directory are
looked at one after the other, in whatever order the system lists them, and the walk goes down into
each that is a directory itself. A link is looked at but not followed, so that links that lead up
again cannot keep the walk from its end: it opens each directory below once and comes back with the
sum of the lengths of the files. -/
namespace TaskDriver.Files

/-! ## The walk -/

/-- What a walk has found: the sum of the lengths, as a number of 64 bits, and where the directories
are that it opened. -/
structure Survey where
  total : UInt64
  opened : List Location

namespace Survey

def append (s r : Survey) : Survey :=
  ⟨s.total + r.total, s.opened ++ r.opened⟩

/-- The survey of entries of this size, with these directories in some order. -/
structure Finds (s : Survey) (size : Nat) (directories : List Location) : Prop where
  total : s.total = .ofNat size
  opened : s.opened.Perm directories

theorem Finds.append {s r : Survey} {a b : Nat} {ls ms : List Location} (h : s.Finds a ls)
    (h' : r.Finds b ms) : (s.append r).Finds (a + b) (ls ++ ms) where
  total := by rw [Survey.append, h.total, h'.total, UInt64.ofNat_add]
  opened := h.opened.append h'.opened

theorem append_assoc (s r q : Survey) : (s.append r).append q = s.append (r.append q) := by
  simp [append, UInt64.add_assoc]

end Survey

/-- The result of a walk; nothing if it went too deep. -/
abbrev Walked := ExceptT Fault Option

def Walked.of {α : Type} (r : Except Fault α) : Walked α :=
  ExceptT.mk (some r)

namespace Entry

variable {e x : Entry} {es : List (String × Entry)} {l m : Location}

def isDirectory : Entry → Bool
  | .directory _ => true
  | _ => false

/-- The locations of the directories in an entry, with its own. -/
def directories (e : Entry) (above : Location) : List Location :=
  ((e.listed above).filter (·.2.isDirectory)).map (·.1)

end Entry

variable {t : Tree} {list : Lister} {p : Path} {d : Location} {n : String} {e : Entry}
  {es : List (String × Entry)}

end TaskDriver.Files
