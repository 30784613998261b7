import TaskDriver.Definition.Lexer

/-! Reading a token stream. A reader runs inside one bracketed group and fails at the first token
that it cannot accept, or at the closing bracket. Tokens left over at the end of a group are no
failure by themselves: the first of them is kept, and spoils a reading that succeeds otherwise. -/
namespace TaskDriver.Definition

structure Stream where
  tokens : List Token
  /-- Where a failure at the end of the tokens is reported. -/
  closing : Place
  /-- The first token left over in a group that has been read. -/
  stray : Option Place

/-- The place of the next token. -/
def Stream.here (s : Stream) : Place :=
  match s.tokens with
  | t :: _ => .char t.offset
  | [] => s.closing

abbrev Reader := StateT Stream (Except Place)

namespace Reader

def fail {α : Type} : Reader α := fun s => .error s.here

def failAt {α : Type} (p : Place) : Reader α := fun _ => .error p

def here : Reader Place := fun s => .ok (s.here, s)

def tokens : Reader (List Token) := fun s => .ok (s.tokens, s)

def atEnd : Reader Bool := fun s => .ok (s.tokens.isEmpty, s)

def skip (n : Nat) : Reader Unit := fun s => .ok ((), { s with tokens := s.tokens.drop n })

/-- Whether the tokens ahead pass a test. -/
def ahead (test : List Token → Bool) : Reader Bool := fun s => .ok (test s.tokens, s)

/-- Runs a reader; if it fails nothing has been read. -/
def attempt {α : Type} (r : Reader α) : Reader (Option α) := fun s =>
  match r s with
  | .ok (a, s') => .ok (some a, s')
  | .error _ => .ok (none, s)

/-- What a reader gives here and the tokens it would leave, with nothing read. -/
def preview {α : Type} (r : Reader α) : Reader (α × List Token) := fun s =>
  match r s with
  | .ok (a, s') => .ok ((a, s'.tokens), s)
  | .error p => .error p

/-- Fails at the first of some later tokens of this group. -/
def failBefore {α : Type} (ts : List Token) : Reader α := fun s =>
  .error { s with tokens := ts }.here

/-- Repeats a step until it says to stop. A step that goes on reads a token. -/
def loop (step : Reader Bool) : Reader Unit := fun s => go (s.tokens.length + 1) s
where
  go : Nat → Stream → Except Place (Unit × Stream)
    | 0, s => .ok ((), s)
    | n + 1, s =>
      match step s with
      | .ok (true, s') => go n s'
      | .ok (false, s') => .ok ((), s')
      | .error p => .error p

/-- Repeats a reader until the end of the group. -/
def all {α : Type} (r : Reader α) : Reader (List α) := fun s => go (s.tokens.length + 1) s
where
  go : Nat → Stream → Except Place (List α × Stream)
    | 0, s => .ok ([], s)
    | n + 1, s =>
      if s.tokens.isEmpty then .ok ([], s)
      else match r s with
        | .ok (a, s') =>
          match go n s' with
          | .ok (as, s'') => .ok (a :: as, s'')
          | .error p => .error p
        | .error p => .error p

/-- Runs a reader inside the group of the given bracket that stands here, and then another one
after the group. A token left over in the group counts as later than those that the second reader
leaves over. -/
def groupThen {α β : Type} (d : Delimiter) (r : Reader α) (next : α → Reader β) : Reader β := fun s =>
  match s.tokens with
  | .group d' inner _ closing :: rest =>
    if d' = d then
      match r ⟨inner, .char closing, s.stray⟩ with
      | .ok (a, i) =>
        match next a { s with tokens := rest, stray := i.stray } with
        | .ok (b, s') =>
          .ok (b, { s' with stray := s'.stray.or (i.tokens.head?.map fun t => .char t.offset) })
        | .error p => .error p
      | .error p => .error p
    else .error s.here
  | _ => .error s.here

/-- Runs a reader inside the group of the given bracket that stands here. -/
def group {α : Type} (d : Delimiter) (r : Reader α) : Reader α :=
  groupThen d r pure

/-- Steps over a group of any bracket. -/
def anyGroup : Reader Delimiter := fun s =>
  match s.tokens with
  | .group d _ _ _ :: rest => .ok (d, { s with tokens := rest })
  | _ => .error s.here

end Reader

/-! Tests on the tokens ahead. -/

def atWord (w : String) : List Token → Bool
  | .word v _ :: _ => !v.raw && v.name == w
  | _ => false

/-- Any word, keywords included. -/
def atAnyWord : List Token → Bool
  | .word _ _ :: _ => true
  | _ => false

/-- A word that can name something. -/
def atName : List Token → Bool
  | .word w _ :: _ => w.isName
  | _ => false

/-- Punctuation of one or more marks, all but the last joined to the next. The last one may be
joined to a mark that follows. -/
def atMarks : List Char → List Token → Bool
  | [m], .punct c _ _ :: _ => c == m
  | m :: ms, .punct c joint _ :: ts => c == m && joint && atMarks ms ts
  | _, _ => false

def atPunct (marks : String) (ts : List Token) : Bool :=
  atMarks marks.toList ts

def atLifetime : List Token → Bool
  | .punct '\x27' true _ :: .word _ _ :: _ => true
  | _ => false

def atGroup (d : Delimiter) : List Token → Bool
  | .group d' _ _ _ :: _ => d' == d
  | _ => false

def isNumber (s : List Char) : Bool :=
  (readInteger s).isSome || isFraction s

/-- A literal, a truth value, or a number with a minus sign. -/
def atLiteral : List Token → Bool
  | .literal _ _ :: _ => true
  | .word w _ :: _ => !w.raw && (w.name == "true" || w.name == "false")
  | .punct '-' _ _ :: .literal (.spelled s) _ :: _ => s.head?.any Char.isDigit && isNumber s
  | _ => false

def atString : List Token → Bool
  | .literal v _ :: _ => v.string?.isSome
  | _ => false

/-- The tokens after the next one, a lifetime counting as one. -/
def after : List Token → List Token
  | .punct '\x27' true _ :: .word _ _ :: ts => ts
  | _ :: ts => ts
  | [] => []

def after2 (ts : List Token) : List Token :=
  after (after ts)

namespace Reader

def word (w : String) : Reader Unit := fun s =>
  if atWord w s.tokens then .ok ((), { s with tokens := s.tokens.drop 1 }) else .error s.here

/-- Reads a keyword if it stands here. -/
def word? (w : String) : Reader Bool := fun s =>
  if atWord w s.tokens then .ok (true, { s with tokens := s.tokens.drop 1 }) else .ok (false, s)

def punct (marks : String) : Reader Unit := fun s =>
  if atPunct marks s.tokens then .ok ((), { s with tokens := s.tokens.drop marks.length })
  else .error s.here

def punct? (marks : String) : Reader Bool := fun s =>
  if atPunct marks s.tokens then .ok (true, { s with tokens := s.tokens.drop marks.length })
  else .ok (false, s)

/-- Any word, keywords included. -/
def anyWord : Reader Word := fun s =>
  match s.tokens with
  | .word w _ :: rest => .ok (w, { s with tokens := rest })
  | _ => .error s.here

def name : Reader Name := fun s =>
  match s.tokens with
  | .word w _ :: rest =>
    if h : w.isName = true then .ok (⟨w, h⟩, { s with tokens := rest }) else .error s.here
  | _ => .error s.here

def lifetime : Reader Unit := fun s =>
  if atLifetime s.tokens then .ok ((), { s with tokens := s.tokens.drop 2 }) else .error s.here

def lifetime? : Reader Bool := fun s =>
  if atLifetime s.tokens then .ok (true, { s with tokens := s.tokens.drop 2 }) else .ok (false, s)

def literal : Reader Unit := fun s =>
  if atLiteral s.tokens then
    .ok ((), { s with tokens := s.tokens.drop (if atPunct "-" s.tokens then 2 else 1) })
  else .error s.here

/-- Reads `r` separated by commas until the end of the group; a comma may end the list. -/
def commaSeparated {α : Type} (r : Reader α) : Reader Unit :=
  loop do
    if ← atEnd then return false
    let _ ← r
    if ← atEnd then return false
    punct ","
    return true

end Reader

end TaskDriver.Definition
