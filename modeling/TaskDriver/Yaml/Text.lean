import TaskDriver.Text.Blank

/-! The characters of a document, and the places in it. -/
namespace TaskDriver.Yaml

/-- Control characters, the tab and the line breaks apart, have no place in a document. -/
def isAllowed (c : Char) : Bool :=
  let n := c.toNat
  n = 9 ∨ n = 10 ∨ n = 13 ∨ (0x20 ≤ n ∧ n ≤ 0x7E) ∨ n = 0x85 ∨ (0xA0 ≤ n ∧ n ≤ 0xD7FF) ∨
    (0xE000 ≤ n ∧ n ≤ 0xFFFD) ∨ 0x10000 ≤ n

/-- The line separator and the paragraph separator stay what they are; every other line break is
read as a line feed. -/
def isBreak (c : Char) : Bool :=
  c = '\n' || c = '\u2028' || c = '\u2029'

def isBlank (c : Char) : Bool :=
  c = ' ' || c = '\t'

def isGap (c : Char) : Bool :=
  isBlank c || isBreak c

def isWordChar (c : Char) : Bool :=
  c.isAlphanum || c = '_' || c = '-'

def normalizedBreaks : List Char → List Char
  | '\r' :: '\n' :: r => '\n' :: normalizedBreaks r
  | '\r' :: r => '\n' :: normalizedBreaks r
  | '\u0085' :: r => '\n' :: normalizedBreaks r
  | c :: r => c :: normalizedBreaks r
  | [] => []

/-- The end of the text or a break. -/
def endsLine (s : List Char) : Bool :=
  s.head?.all isBreak

/-- The end of the text, a blank or a break. -/
def endsWord (s : List Char) : Bool :=
  s.head?.all isGap

def startsWith (c : Char) (s : List Char) : Bool :=
  s.head? = some c

/-- What follows on a line that may only have a comment left. -/
def restOfLine? (s : List Char) : Option (List Char) :=
  let s := s.dropWhile isBlank
  let s := if startsWith '#' s then s.dropWhile (!isBreak ·) else s
  if endsLine s then some (s.drop 1) else none

/-- The text of a line that starts or ends a document. -/
def isDocumentMark : List Char → Bool
  | '-' :: '-' :: '-' :: r => endsWord r
  | '.' :: '.' :: '.' :: r => endsWord r
  | _ => false

/-- A place in a document and the text from there on. -/
structure Cursor where
  rest : List Char
  line : Nat
  column : Nat

namespace Cursor

/-- A byte order mark takes up the first column. -/
def start (s : List Char) : Cursor :=
  match normalizedBreaks s with
  | '\ufeff' :: r => ⟨r, 0, 1⟩
  | r => ⟨r, 0, 0⟩

def next (c : Cursor) : Cursor :=
  match c.rest with
  | [] => c
  | a :: r => if isBreak a then ⟨r, c.line + 1, 0⟩ else ⟨r, c.line, c.column + 1⟩

def skip : Nat → Cursor → Cursor
  | 0, c => c
  | n + 1, c => skip n c.next

/-- Moves on to where only `r` is left. -/
def upTo (r : List Char) (c : Cursor) : Cursor :=
  c.skip (c.rest.length - r.length)

def isAtDocumentMark (c : Cursor) : Bool :=
  c.column = 0 && isDocumentMark c.rest

end Cursor

/-! ## What stands between two words -/

/-- Blanks stay as they are. One line feed is a space, and of more the first is left out. -/
def foldedGap (gap : List Char) : List Char :=
  match gap.filter isBreak with
  | [] => gap
  | ['\n'] => [' ']
  | '\n' :: more => more
  | breaks => breaks

def isBroken (gap : List Char) : Bool :=
  gap.any isBreak

/-- The number of blanks after the last break. -/
def indentationAfter (gap : List Char) : Nat :=
  (gap.reverse.takeWhile (!isBreak ·)).length

/-- A tab before column `indent` of a line that starts in the gap. -/
def hasEarlyTab (indent : Nat) : Option Nat → List Char → Bool
  | _, [] => false
  | column, c :: r =>
    if isBreak c then hasEarlyTab indent (some 0) r
    else (c = '\t' && column.any (· < indent)) || hasEarlyTab indent (column.map (· + 1)) r

end TaskDriver.Yaml
