import TaskDriver.Yaml.Block
import TaskDriver.Yaml.Plain
import TaskDriver.Yaml.Tag

/-! From the text of a document to its tokens. A key is known for one only by the colon after it,
so that the place where a key may have begun is kept until the colon comes or can come no more. -/
namespace TaskDriver.Yaml

/-- A place where a key may have begun. -/
structure PossibleKey where
  /-- Nothing but a key may begin here. -/
  required : Bool
  /-- The number of tokens before it. -/
  place : Nat
  line : Nat
  column : Nat

structure Layout where
  cursor : Cursor
  /-- The columns of the open blocks, the innermost first. -/
  columns : List Nat
  /-- The key that may have begun in the innermost brackets. -/
  possible : Option PossibleKey
  /-- The same for the brackets around, the innermost first. -/
  outer : List (Option PossibleKey)
  /-- A key may begin. -/
  keyAllowed : Bool
  /-- The last one first. -/
  tokens : List Token

namespace Layout

def start (s : List Char) : Layout :=
  ⟨.start s, [], none, [], true, []⟩

/-- Between brackets, columns have no meaning. -/
def inFlow (l : Layout) : Bool :=
  !l.outer.isEmpty

def rest (l : Layout) : List Char :=
  l.cursor.rest

def emit (t : Token) (l : Layout) : Layout :=
  { l with tokens := t :: l.tokens }

/-- The least column of a text inside the innermost block. -/
def leastColumn (l : Layout) : Nat :=
  match l.columns with
  | [] => 0
  | n :: _ => n + 1

/-- Puts tokens after the first `n` ones. -/
def splice (n : Nat) (new : List Token) (l : Layout) : Layout :=
  let later := l.tokens.length - n
  { l with tokens := l.tokens.take later ++ new.reverse ++ l.tokens.drop later }

/-- Closes the blocks that are indented deeper than a column, all if there is none. -/
def closeBlocks (column : Option Nat) (l : Layout) : Layout :=
  if l.inFlow then l
  else
    let closed := l.columns.takeWhile (fun n => column.all (· < n))
    { l with
      columns := l.columns.drop closed.length
      tokens := List.replicate closed.length .blockEnd ++ l.tokens }

/-- Opens a block at a column, unless the innermost one is indented as deep. -/
def openBlock (column place : Nat) (t : Token) (l : Layout) : Layout :=
  if l.inFlow || column < l.leastColumn then l
  else { l.splice place [t] with columns := column :: l.columns }

def openBlockHere (t : Token) (l : Layout) : Layout :=
  l.openBlock l.cursor.column l.tokens.length t

/-- Gives up a possible key, which fails if it was required. -/
def forgetKey? (l : Layout) : Option Layout :=
  if l.possible.any (·.required) then none else some { l with possible := none }

def saveKey? (l : Layout) : Option Layout :=
  if l.keyAllowed then do
    let l ← l.forgetKey?
    pure { l with
      possible := some
        { required := !l.inFlow && l.columns.head? = some l.cursor.column
          place := l.tokens.length
          line := l.cursor.line
          column := l.cursor.column } }
  else some l

/-- A key ends on the line where it begins, and is not longer than 1024 characters. -/
def isStale (c : Cursor) (k : PossibleKey) : Bool :=
  k.line < c.line || k.column + 1024 < c.column

def freshKey? (c : Cursor) : Option PossibleKey → Option (Option PossibleKey)
  | none => some none
  | some k => if isStale c k then (if k.required then none else some none) else some (some k)

def dropStaleKeys? (l : Layout) : Option Layout := do
  let possible ← freshKey? l.cursor l.possible
  let outer ← l.outer.mapM (freshKey? l.cursor)
  pure { l with possible, outer }

/-- The blanks, comments and breaks before the next token; the fuel is the length of the text. A tab
is no blank where a key may begin. -/
def toNextToken : Nat → Layout → Layout
  | 0, l => l
  | n + 1, l =>
    let tabs := l.inFlow || !l.keyAllowed
    let r := l.rest.dropWhile (fun c => c = ' ' || (tabs && c = '\t'))
    let r := if startsWith '#' r then r.dropWhile (!isBreak ·) else r
    let l := { l with cursor := l.cursor.upTo r }
    if r.head?.any isBreak then
      toNextToken n { l with cursor := l.cursor.next, keyAllowed := l.keyAllowed || !l.inFlow }
    else l

def skip (n : Nat) (l : Layout) : Layout :=
  { l with cursor := l.cursor.skip n }

def upTo (r : List Char) (l : Layout) : Layout :=
  { l with cursor := l.cursor.upTo r }

def allowKey (allowed : Bool) (l : Layout) : Layout :=
  { l with keyAllowed := allowed }

/-! ## Tokens -/

def finish? (l : Layout) : Option Layout :=
  (l.closeBlocks none).forgetKey?

def documentMark? (t : Token) (l : Layout) : Option Layout := do
  let l ← (l.closeBlocks none).forgetKey?
  pure (((l.allowKey false).skip 3).emit t)

def directiveLine? (l : Layout) : Option Layout := do
  let l ← (l.closeBlocks none).forgetKey?
  let (t, r) ← directive? (l.rest.drop 1)
  let r ← restOfLine? r
  pure (((l.allowKey false).upTo r).emit t)

def openFlow? (t : Token) (l : Layout) : Option Layout := do
  let l ← l.saveKey?
  let l := { l with outer := l.possible :: l.outer, possible := none, keyAllowed := true }
  pure ((l.skip 1).emit t)

def closeFlow? (t : Token) (l : Layout) : Option Layout := do
  let l ← l.forgetKey?
  let l := match l.outer with
    | [] => l
    | k :: outer => { l with possible := k, outer }
  pure (((l.allowKey false).skip 1).emit t)

def flowEntry? (l : Layout) : Option Layout := do
  let l ← l.forgetKey?
  pure (((l.allowKey true).skip 1).emit .flowEntry)

def entry? (l : Layout) : Option Layout :=
  if !l.inFlow && !l.keyAllowed then none
  else do
    let l ← (l.openBlockHere .blockSequenceStart).forgetKey?
    pure (((l.allowKey true).skip 1).emit .entry)

def explicitKey? (l : Layout) : Option Layout :=
  if !l.inFlow && !l.keyAllowed then none
  else do
    let l ← (l.openBlockHere .blockMappingStart).forgetKey?
    pure (((l.allowKey (!l.inFlow)).skip 1).emit .key)

/-- A colon makes a key of the possible key. -/
def value? (l : Layout) : Option Layout :=
  match l.possible with
  | some k =>
    let l := (l.splice k.place [.key]).openBlock k.column k.place .blockMappingStart
    some ((({ l with possible := none }.allowKey false).skip 1).emit .value)
  | none =>
    if !l.inFlow && !l.keyAllowed then none
    else
      let l := l.openBlockHere .blockMappingStart
      some (((l.allowKey (!l.inFlow)).skip 1).emit .value)

def named? (make : List Char → Token) (l : Layout) : Option Layout := do
  let l ← l.saveKey?
  let r := l.rest.drop 1
  let name := r.takeWhile isWordChar
  let r := r.dropWhile isWordChar
  if name ≠ [] ∧ (endsWord r || r.head?.any (· ∈ ['?', ':', ',', ']', '\x7d', '%', '@', '\x60'])) then
    pure (((l.allowKey false).upTo r).emit (make name))
  else none

def tagged? (l : Layout) : Option Layout := do
  let l ← l.saveKey?
  let (t, r) ← tag? l.rest
  if endsWord r || (l.inFlow && startsWith ',' r) then
    pure (((l.allowKey false).upTo r).emit t)
  else none

def block? (literal : Bool) (l : Layout) : Option Layout := do
  let l ← l.forgetKey?
  let (t, r) ← blockText? literal l.leastColumn (l.rest.drop 1)
  pure (((l.allowKey true).upTo r).emit (.scalar (if literal then .literal else .folded) t))

def quoted? (read : List Char → Option (List Char × List Char)) (l : Layout) : Option Layout := do
  let l ← l.saveKey?
  let (t, r) ← read (l.rest.drop 1)
  pure (((l.allowKey false).upTo r).emit (.scalar .quoted t))

def plain? (l : Layout) : Option Layout := do
  let l ← l.saveKey?
  let p ← plainText? l.inFlow l.leastColumn l.rest
  pure (((l.allowKey p.broken).upTo p.rest).emit (.scalar .plain p.text))

/-- The token that begins with a character `c`, which has `r` after it. -/
def token? (c : Char) (r : List Char) (l : Layout) : Option Layout :=
  match c with
  | '[' => l.openFlow? .flowSequenceStart
  | '\x7b' => l.openFlow? .flowMappingStart
  | ']' => l.closeFlow? .flowSequenceEnd
  | '\x7d' => l.closeFlow? .flowMappingEnd
  | ',' => l.flowEntry?
  | '-' =>
    if endsWord r then l.entry? else l.plain?
  | '?' =>
    if l.inFlow || endsWord r then l.explicitKey? else l.plain?
  | ':' =>
    if l.inFlow || endsWord r then l.value? else l.plain?
  | '*' => l.named? .alias
  | '&' => l.named? .anchor
  | '!' => l.tagged?
  | '|' => if l.inFlow then none else l.block? true
  | '>' => if l.inFlow then none else l.block? false
  | '\x27' => l.quoted? singleQuoted
  | '\x22' => l.quoted? doubleQuoted
  | '#' => none
  | '%' => none
  | '@' => none
  | '\x60' => none
  | _ => if isGap c then none else l.plain?

/-- Reads the next token, with the ends of the blocks before it. -/
def step? (l : Layout) : Option Layout := do
  let l ← (l.toNextToken (l.rest.length + 1)).dropStaleKeys?
  let l := l.closeBlocks (some l.cursor.column)
  match l.rest with
  | [] => l.finish?
  | c :: r =>
    if c = '%' ∧ l.cursor.column = 0 then l.directiveLine?
    else if l.cursor.isAtDocumentMark then
      l.documentMark? (if c = '-' then .documentStart else .documentEnd)
    else l.token? c r

/-- Every step takes away a part of the text; the fuel is its length. -/
def run? : Nat → Layout → Option Layout
  | 0, l => some l
  | n + 1, l => do
    let l ← l.step?
    if l.rest = [] then l.step? else run? n l

end Layout

/-- The tokens of a text, in order. -/
def tokens? (s : List Char) : Option (List Token) :=
  if s.all isAllowed then do
    let l ← (Layout.start s).run? (s.length + 1)
    pure l.tokens.reverse
  else none

end TaskDriver.Yaml
