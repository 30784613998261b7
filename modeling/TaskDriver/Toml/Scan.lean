/-! Reading a text from its start. A reading that fails tells where; some failures are settled,
which means that nothing else can have been meant, and no other reading is tried. -/
namespace TaskDriver.Toml

inductive Scanned (α : Type)
  | read (value : α) (rest : List Char)
  /-- Keeps the text from the place of the failure on. -/
  | failed (settled : Bool) (place : List Char)

def Scan (α : Type) := List Char → Scanned α

namespace Scan

variable {α β : Type}

instance : Monad Scan where
  pure a := fun s => .read a s
  bind p f := fun s =>
    match p s with
    | .read a r => f a r
    | .failed b r => .failed b r

def fail : Scan α := fun s => .failed false s

/-- Fails at a place that lies behind. -/
def failAt (place : List Char) : Scan α := fun _ => .failed false place

/-- The text ahead. -/
def ahead : Scan (List Char) := fun s => .read s s

/-- Settles every failure. -/
def settle (p : Scan α) : Scan α := fun s =>
  match p s with
  | .failed _ r => .failed true r
  | x => x

def orElse (p q : Scan α) : Scan α := fun s =>
  match p s with
  | .failed false _ => q s
  | x => x

/-- An unsettled failure reads nothing. -/
def optional (p : Scan α) : Scan (Option α) := fun s =>
  match p s with
  | .read a r => .read (some a) r
  | .failed false _ => .read none s
  | .failed true r => .failed true r

/-- A failure to make something of what was read lies where the reading began. -/
def mapped (p : Scan α) (f : α → Option β) : Scan β := fun s =>
  match p s with
  | .read a r =>
    match f a with
    | some b => .read b r
    | none => .failed false s
  | .failed b r => .failed b r

/-- Failures lie where the reading began. -/
def whole (p : Scan α) : Scan α := fun s =>
  match p s with
  | .failed b _ => .failed b s
  | x => x

def skipWhile (p : Char → Bool) : Scan Unit := fun s =>
  .read () (s.dropWhile p)

def takeWhile (p : Char → Bool) : Scan (List Char) := fun s =>
  .read (s.takeWhile p) (s.dropWhile p)

/-- At least one character of a class. -/
def takeSome (p : Char → Bool) : Scan (List Char) := fun s =>
  if s.head?.any p then .read (s.takeWhile p) (s.dropWhile p) else .failed false s

def oneOf (p : Char → Bool) : Scan Char := fun s =>
  match s with
  | c :: r => if p c then .read c r else .failed false s
  | [] => .failed false s

def mark (c : Char) : Scan Unit := do
  let _ ← oneOf (· = c)
  pure ()

/-- A given text. -/
def exactly (t : List Char) : Scan Unit := fun s =>
  if t.isPrefixOf s then .read () (s.drop t.length) else .failed false s

/-- Exactly `n` characters of a class; more may follow. -/
def count (n : Nat) (p : Char → Bool) : Scan (List Char) := fun s =>
  let t := s.take n
  if t.length = n ∧ t.all p then .read t (s.drop n) else .failed false s

/-- As often as possible, up to the first unsettled failure. -/
def many (p : Scan α) (s : List Char) : Scanned (List α) :=
  match p s with
  | .read a r =>
    if _h : r.length < s.length then
      match many p r with
      | .read as r => .read (a :: as) r
      | .failed b r => .failed b r
    else .read [a] r
  | .failed false _ => .read [] s
  | .failed true r => .failed true r
termination_by s.length

/-- One or more, with a separator between two. A separator with nothing after it is left unread. -/
def separated (p : Scan α) (separator : Char) : Scan (List α) := do
  let a ← p
  let as ← many (do mark separator; p)
  pure (a :: as)

end Scan

end TaskDriver.Toml
