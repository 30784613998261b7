import TaskDriver.Toml.Blank

/-! Texts in quotes: on one line or several, with escapes or without. -/
namespace TaskDriver.Toml

def isHexDigit (c : Char) : Bool :=
  c.isDigit || ('a' ≤ c && c ≤ 'f') || ('A' ≤ c && c ≤ 'F')

def hexDigitValue (c : Char) : Nat :=
  if c.isDigit then c.toNat - 48 else if 'a' ≤ c then c.toNat - 87 else c.toNat - 55

def hexNumber (ds : List Char) : Nat :=
  ds.foldl (fun n c => 16 * n + hexDigitValue c) 0

/-- The character with a code point; none for a surrogate or a number beyond the last one. -/
def charOfCode (n : Nat) : Option Char :=
  if n < 0xD800 ∨ (0xDFFF < n ∧ n < 0x110000) then some (Char.ofNat n) else none

def hexEscape (digits : Nat) : Scan Char :=
  .mapped (.count digits isHexDigit) fun ds => charOfCode (hexNumber ds)

/-- What a letter after a backslash stands for. -/
def shortEscape (c : Char) : Option Char :=
  match c with
  | 'b' => some '\x08'
  | 'f' => some '\x0c'
  | 'n' => some '\n'
  | 'r' => some '\r'
  | 't' => some '\t'
  | '\\' => some '\\'
  | '\x22' => some '\x22'
  | _ => none

/-- A backslash and what belongs to it. An unknown letter is a mistake just after it. -/
def escape : Scan Char := fun s =>
  match s with
  | '\\' :: 'u' :: r => Scan.settle (hexEscape 4) r
  | '\\' :: 'U' :: r => Scan.settle (hexEscape 8) r
  | '\\' :: c :: r =>
    match shortEscape c with
    | some d => .read d r
    | none => .failed true (if isNonAscii c then c :: r else r)
  | _ => .failed false s

def isPlain (c : Char) : Bool :=
  isText c && c ≠ '\x22' && c ≠ '\\'

def isLiteral (c : Char) : Bool :=
  isText c && c ≠ '\x27'

/-- Characters and escapes between double quotes. -/
def basicBody : Scan (List Char) :=
  .many (.orElse (.oneOf isPlain) escape)

def basicString : Scan (List Char) := do
  .mark '\x22'
  let s ← basicBody
  Scan.settle (.mark '\x22')
  pure s

def literalString : Scan (List Char) := do
  .mark '\x27'
  let s ← Scan.takeWhile isLiteral
  Scan.settle (.mark '\x27')
  pure s

/-- A backslash at the end of a line, which takes away all blanks and line ends that follow. -/
def lineJoin : Scan Unit := do
  .mark '\\'
  blanks
  newline
  let _ ← Scan.many (Scan.orElse newline (do let _ ← Scan.takeSome isBlankChar))

/-- A piece of a text of several lines, quotes aside. -/
def linesPiece : Scan (List Char) :=
  .orElse (do pure [← Scan.oneOf isPlain])
    (.orElse (do lineJoin; pure [])
      (.orElse (do pure [← escape]) (do newline; pure ['\n'])))

def literalPiece : Scan (List Char) :=
  .orElse (do pure [← Scan.oneOf isLiteral]) (do newline; pure ['\n'])

/-- One or two quotes before something that is not one. -/
def fewQuotes (q : Char) : Scan (List Char) := fun s =>
  match s with
  | a :: b :: c :: r =>
    if a = q ∧ b = q ∧ c ≠ q then .read [q, q] (c :: r)
    else if a = q ∧ b ≠ q then .read [q] (b :: c :: r)
    else .failed false s
  | [a, b] => if a = q ∧ b ≠ q then .read [q] [b] else .failed false s
  | _ => .failed false s

/-- One or two quotes just before the closing ones. -/
def lastQuotes (q : Char) : Scan (List Char) := fun s =>
  if [q, q, q, q, q].isPrefixOf s then .read [q, q] (s.drop 2)
  else if [q, q, q, q].isPrefixOf s then .read [q] (s.drop 1)
  else .failed false s

/-- The text up to triple quotes, which may follow one or two that belong to it. -/
def linesString (q : Char) (piece quoted : Scan (List Char)) : Scan (List Char) := do
  .exactly [q, q, q]
  let _ ← Scan.optional newline
  Scan.settle do
    let body ← Scan.many (Scan.orElse piece quoted)
    let last ← Scan.optional (lastQuotes q)
    .exactly [q, q, q]
    pure (body.flatten ++ last.getD [])

def basicLines : Scan (List Char) :=
  linesString '\x22' linesPiece (fewQuotes '\x22')

/-- Quotes inside a literal text are read with what follows them. -/
def literalLines : Scan (List Char) :=
  linesString '\x27' literalPiece do
    let qs ← fewQuotes '\x27'
    let t ← literalPiece
    pure (qs ++ t)

def string : Scan (List Char) :=
  .orElse basicLines (.orElse basicString (.orElse literalLines literalString))

end TaskDriver.Toml
