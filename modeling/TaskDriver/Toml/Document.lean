import TaskDriver.Text.Position
import TaskDriver.Toml.Item
import TaskDriver.Toml.Numbers

/-! Reading a file of settings, or the position where it cannot go on. -/
namespace TaskDriver.Toml

open Number

/-- Values in brackets or braces are not nested deeper than this, and a key has no more parts. The
readers take such a limit as an argument. -/
def depthLimit : Nat := 79

def simpleKey : Scan Key := fun s =>
  match (match s with
    | '\x22' :: _ => basicString s
    | '\x27' :: _ => literalString s
    | _ => Scan.takeSome isBareChar s : Scanned (List Char)) with
  | .read name r => .read ⟨String.ofList name, s.length⟩ r
  | .failed b r => .failed b r
where
  isBareChar (c : Char) : Bool := c.isAlphanum || c = '_' || c = '-'

/-- A key of one part or more, with points between them. -/
def key (limit : Nat) : Scan (List Key) :=
  .mapped (.separated (do blanks; let k ← simpleKey; blanks; pure k) '.') fun ks =>
    if ks.length ≤ limit then some ks else none

def leafAt (f : List Char → Scanned Leaf) : Scan Item := fun s =>
  match f s with
  | .read v r => .read (.leaf v s.length) r
  | .failed b r => .failed b r

def word (t : String) (v : Leaf) : Scan Leaf := do
  .exactly t.toList
  pure v

def number : Scan Leaf :=
  .orElse (do pure (.datetime (← datetime)))
    (.orElse (do pure (.float (← float))) (do pure (.integer (← integer))))

/-- A value without other values in it, chosen by its first character. -/
def leaf : Scan Leaf := fun s =>
  match s with
  | [] => .failed false s
  | c :: _ =>
    if c = '\x22' ∨ c = '\x27' then (do pure (.string (String.ofList (← string))) : Scan Leaf) s
    else if c = '+' ∨ c = '-' ∨ c.isDigit then number s
    else if c = 't' then Scan.settle (word "true" (.boolean true)) s
    else if c = 'f' then Scan.settle (word "false" (.boolean false)) s
    else if c = 'i' then word "inf" (.float (.infinite false)) s
    else if c = 'n' then word "nan" (.float .nan) s
    else .failed false s

/-- Values with commas between them, and perhaps one after the last. -/
def arrayItems (value : Scan Item) : Scan (List Item) := do
  let first ← Scan.ahead
  if first.head? = some ']' then pure []
  else
    let items ← Scan.optional (Scan.separated (do space; let v ← value; space; pure v) ',')
    match items with
    | some items =>
      let _ ← Scan.optional (Scan.mark ',')
      space
      pure items
    | none =>
      space
      pure []

def array (value : Scan Item) : Scan Item := do
  let start ← Scan.ahead
  .mark '['
  Scan.settle do
    let items ← arrayItems value
    .mark ']'
    pure (.array items start.length)

/-- A key without its last part, that part, and its value. -/
def entryOf (ks : List Key) (v : Item) : Option (List Key × Key × Item) :=
  ks.getLast?.map fun k => (ks.dropLast, k, v)

/-- An entry of a table; after the key it can be nothing else. -/
def entry (limit : Nat) (value : Scan Item) (after : Scan Unit) :
    Scan (List Key × Key × Item) :=
  .mapped (do
    let ks ← key limit
    Scan.settle do
      .mark '='
      blanks
      let v ← value
      after
      pure (ks, v)) fun (ks, v) => entryOf ks v

def bracesEntries (limit : Nat) (value : Scan Item) : Scan (List (List Key × Key × Item)) := do
  let es ← Scan.optional (Scan.separated (entry limit value blanks) ',')
  blanks
  pure (es.getD [])

def braces (limit : Nat) (value : Scan Item) : Scan Item := do
  let start ← Scan.ahead
  .mark '\x7b'
  Scan.settle do
    let t ← Scan.mapped (bracesEntries limit value) fun es => bracesTable es start.length
    .mark '\x7d'
    pure t

/-- A value in which brackets and braces are nested `depth` deep at most. -/
def value (limit : Nat) : Nat → Scan Item
  | 0 => fun s =>
    match s with
    | '[' :: _ => .failed true s
    | '\x7b' :: _ => .failed true s
    | _ => leafAt leaf s
  | depth + 1 => fun s =>
    match s with
    | '[' :: _ => array (value limit depth) s
    | '\x7b' :: _ => braces limit (value limit depth) s
    | _ => leafAt leaf s

/-- The settled failure of a step that makes nothing of what it read. -/
def step (p : Scan (Option Draft)) : Scan Draft :=
  .settle (.mapped p id)

def entryStep (limit : Nat) (d : Draft) : Scan Draft :=
  step do
    let (path, k, v) ← entry limit (value limit limit) lineRest
    pure (d.add path k v)

/-- A bracket that ends the file is a fault by itself. -/
def headerStep (limit : Nat) (d : Draft) : Scan Draft :=
  step do
    let start ← Scan.ahead
    if start.length < 2 then .fail
    else if ['[', '['].isPrefixOf start then
      .exactly ['[', '[']
      let ks ← key limit
      .exactly [']', ']']
      lineRest
      pure (d.openArrayTable ks start.length)
    else
      .mark '['
      let ks ← key limit
      .mark ']'
      lineRest
      pure (d.openTable ks start.length)

/-- One line, or as many as its value takes. -/
def line (limit : Nat) (d : Draft) : Scan Draft := do
  let d ← (fun s =>
    match s with
    | '#' :: _ => Scan.settle (do comment; lineEnd; pure d) s
    | '[' :: _ => headerStep limit d s
    | '\n' :: _ => (do newline; pure d : Scan Draft) s
    | '\r' :: _ => (do newline; pure d : Scan Draft) s
    | _ => entryStep limit d s)
  blanks
  pure d

/-- All lines; every line takes something away. -/
def lines (limit : Nat) (d : Draft) (s : List Char) : Scanned Draft :=
  if s.isEmpty then .read d []
  else match line limit d s with
    | .read d r => if _h : r.length < s.length then lines limit d r else .failed true r
    | .failed b r => .failed b r
termination_by s.length

/-- The position of a character that is not ASCII is counted in bytes of the text before it. -/
def positionAt (s : List Char) (offset : Nat) : Text.Position :=
  let before := s.take offset
  let p := Text.Position.ofOffset s offset
  match s.drop offset with
  | c :: _ =>
    if isNonAscii c then
      let start := before.reverse.takeWhile (· ≠ '\n')
      ⟨p.line, start.foldl (fun n c => n + c.utf8Size) 1⟩
    else p
  | [] =>
    match before.getLast? with
    | none => p
    | some _ =>
      let last := Text.Position.ofOffset s (s.length - 1)
      ⟨last.line, last.column + 1⟩

/-- A position from a count of characters up to the end. -/
def positionOf (s : List Char) (place : Nat) : Text.Position :=
  positionAt s (s.length - place)

/-- A byte order mark at the start does not count. -/
def skipOrderMark (s : List Char) : List Char :=
  match s with
  | c :: r => if c.toNat = 0xFEFF then r else s
  | [] => []

/-- The entries of a file, or the place of the first fault, with this limit for what is nested. -/
def entriesWithin (limit : Nat) (s : List Char) : Except Nat Entries :=
  match lines limit .start ((skipOrderMark s).dropWhile isBlankChar) with
  | .read d _ =>
    match d.complete with
    | some es => .ok es
    | none => .error 0
  | .failed _ r => .error r.length

def entriesOf (s : List Char) : Except Nat Entries :=
  entriesWithin depthLimit s

end TaskDriver.Toml
