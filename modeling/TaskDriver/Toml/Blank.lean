import TaskDriver.Toml.Scan

/-! What stands between the parts of a file of settings: blanks, comments and ends of lines. -/
namespace TaskDriver.Toml

def isBlankChar (c : Char) : Bool :=
  c = ' ' || c = '\t'

def isNonAscii (c : Char) : Bool :=
  0x80 ≤ c.toNat

/-- Characters of a comment. -/
def isText (c : Char) : Bool :=
  c = '\t' || (0x20 ≤ c.toNat && c.toNat ≤ 0x7E) || isNonAscii c

def blanks : Scan Unit :=
  .skipWhile isBlankChar

def newline : Scan Unit := fun s =>
  match s with
  | '\n' :: r => .read () r
  | '\r' :: '\n' :: r => .read () r
  | _ => .failed false s

def comment : Scan Unit := do
  .mark '#'
  .skipWhile isText

/-- The end of a line or of the file. -/
def lineEnd : Scan Unit := fun s =>
  match s with
  | [] => .read () []
  | _ => newline s

/-- The rest of a line after what it holds. -/
def lineRest : Scan Unit := do
  blanks
  let _ ← Scan.optional comment
  lineEnd

/-- The failure to find a line end lies behind the character that stands in its place. -/
def brokenLine : Scan Unit := fun s =>
  .failed false s.tail

/-- Blanks and line ends in any order, and comments, each up to a line end. -/
def space : Scan Unit := do
  let _ ← Scan.many do
    blanks
    let _ ← Scan.optional comment
    newline
  blanks
  if (← Scan.ahead).head?.any fun c => c = '#' ∨ c = '\r' then
    let _ ← Scan.optional comment
    brokenLine

end TaskDriver.Toml
