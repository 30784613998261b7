import Mathlib
import TaskDriver.Proofs.Files.Lead
import TaskDriver.Proofs.Keyed

/-! The list of everything below an entry. It holds each location once, with what is found there,
and the size of the entry is the sum of the lengths of the files in it. -/
namespace TaskDriver.Files

namespace Entry

/-- The entry is as a system of files keeps it: each name stands once in its directory, and is a
path of its own. -/
def Sound (e : Entry) : Prop :=
  ∀ l es, e.find? l = some (.directory es) → Keyed.Distinct es ∧ ∀ y ∈ es, Path.Literal y.1

variable {e x : Entry} {es : List (String × Entry)} {above l m : Location}

theorem Sound.below (h : e.Sound) (hl : e.find? l = some x) : x.Sound := by
  intro m es hm
  refine h (l ++ m) es ?_
  rw [find?_append, hl, Option.bind_some, hm]

theorem find?_of_mem (h : Keyed.Distinct es) {y : String × Entry} (hy : y ∈ es) (l : Location) :
    (directory es).find? (y.1 :: l) = y.2.find? l := by
  rw [find?_directory_cons, Keyed.get?_of_mem h hy, Option.bind_some]

theorem Sound.entry (h : (directory es).Sound) {y : String × Entry} (hy : y ∈ es) : y.2.Sound := by
  have hd := (h [] es (find?_nil _)).1
  exact h.below (l := [y.1]) (by rw [find?_of_mem hd hy, find?_nil])

/-- The number of bytes in a file. Links and directories have none of their own. -/
def length : Entry → Nat
  | .file content _ => content.size
  | .link _ => 0
  | .directory _ => 0

end Entry

end TaskDriver.Files
