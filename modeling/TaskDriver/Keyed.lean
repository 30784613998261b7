/-! Lists with a name for every entry, in the order of the names and each name once. -/
namespace TaskDriver

abbrev Keyed (α : Type) := List (String × α)

namespace Keyed

variable {α : Type}

/-- In the order of the names, in the place of an entry with the same name. -/
def insert (k : String) (v : α) : Keyed α → Keyed α
  | [] => [(k, v)]
  | (l, u) :: t =>
    if k = l then (k, v) :: t
    else if k < l then (k, v) :: (l, u) :: t
    else (l, u) :: insert k v t

def ofList (entries : List (String × α)) : Keyed α :=
  entries.foldl (fun t (k, v) => insert k v t) []

def get? (k : String) : Keyed α → Option α
  | [] => none
  | (l, v) :: t => if k = l then some v else get? k t

def contains (k : String) (t : Keyed α) : Bool :=
  (get? k t).isSome

def erase (k : String) (t : Keyed α) : Keyed α :=
  t.filter (·.1 ≠ k)

theorem get?_insert_self (k : String) (v : α) (t : Keyed α) : get? k (insert k v t) = some v := by
  induction t with
  | nil => simp [insert, get?]
  | cons e t ih =>
    obtain ⟨l, u⟩ := e
    simp only [insert]
    split
    · simp [get?]
    · next h =>
      split
      · simp [get?]
      · simp [get?, h, ih]

theorem get?_insert_of_ne {k l : String} (v : α) (t : Keyed α) (h : l ≠ k) :
    get? l (insert k v t) = get? l t := by
  induction t with
  | nil => simp [insert, get?, h]
  | cons e t ih =>
    obtain ⟨m, u⟩ := e
    simp only [insert]
    split
    · next e => subst e; simp [get?, h]
    · split
      · simp [get?, h]
      · simp only [get?, ih]

theorem get?_erase_self (k : String) (t : Keyed α) : get? k (erase k t) = none := by
  induction t with
  | nil => rfl
  | cons e t ih =>
    obtain ⟨l, u⟩ := e
    by_cases h : l = k
    · simpa [erase, h] using ih
    · simpa [erase, h, get?, Ne.symm h] using ih

theorem get?_erase_of_ne {k l : String} (t : Keyed α) (h : l ≠ k) :
    get? l (erase k t) = get? l t := by
  induction t with
  | nil => rfl
  | cons e t ih =>
    obtain ⟨m, u⟩ := e
    by_cases hm : m = k
    · simpa [erase, hm, get?, h] using ih
    · by_cases hl : l = m
      · simp [erase, hm, get?, hl]
      · simpa [erase, hm, get?, hl] using ih

end Keyed

end TaskDriver
