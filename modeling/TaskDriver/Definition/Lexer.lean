import TaskDriver.Text.Blank
import TaskDriver.Definition.Literal

/-! The tokens of a definition file. A documentation comment becomes the attribute it stands for;
other comments and white space are dropped. The first fault in the text is reported: a token that
does not read, a closing bracket without its partner, or at the end of the file the innermost
bracket still open. -/
namespace TaskDriver.Definition

/-- Directional marks also separate tokens. -/
def isSpace (c : Char) : Bool :=
  Text.isBlank c || c.toNat == 0x200E || c.toNat == 0x200F

/-- The text of a comment that ends with its line, and the number of its characters; a carriage
return before the line feed is no part of the text. -/
def lineText : List Char → List Char × Nat
  | [] => ([], 0)
  | '\n' :: _ => ([], 0)
  | '\r' :: '\n' :: _ => ([], 1)
  | c :: r => let (t, n) := lineText r; (c :: t, n + 1)

/-- Characters of a nested comment up to the mark that closes its `depth` openings, after which
nothing of it is open. -/
def nestedLength (depth : Nat) : List Char → Option Nat
  | [] => none
  | '/' :: '*' :: r => (nestedLength (depth + 1) r).map (· + 2)
  | '*' :: '/' :: r =>
    if depth ≤ 1 then some 2 else (nestedLength (depth - 1) r).map (· + 2)
  | _ :: r => (nestedLength depth r).map (· + 1)

def isDocStart : List Char → Bool
  | '/' :: '/' :: '!' :: _ => true
  | '/' :: '/' :: '/' :: '/' :: _ => false
  | '/' :: '/' :: '/' :: _ => true
  | '/' :: '*' :: '!' :: _ => true
  | '/' :: '*' :: '*' :: '*' :: _ => false
  | '/' :: '*' :: '*' :: '/' :: _ => false
  | '/' :: '*' :: '*' :: _ => true
  | _ => false

/-- The characters of white space and plain comments before the next token. -/
def gapLength (s : List Char) : Nat :=
  match s with
  | '/' :: '/' :: r =>
    if isDocStart s then 0
    else
      let n := (lineText r).2
      n + 2 + gapLength (r.drop n)
  | '/' :: '*' :: r =>
    if isDocStart s then 0
    else match nestedLength 1 r with
      | some n => n + 2 + gapLength (r.drop n)
      | none => 0
  | c :: r => if isSpace c then gapLength r + 1 else 0
  | [] => 0
termination_by s.length
decreasing_by all_goals simp; all_goals omega

/-- A documentation comment. -/
structure DocComment where
  inner : Bool
  text : List Char
  length : Nat

/-- A carriage return may stand only before a line feed. -/
def hasBareReturn : List Char → Bool
  | [] => false
  | '\r' :: '\n' :: r => hasBareReturn r
  | '\r' :: _ => true
  | _ :: r => hasBareReturn r

def docComment? (s : List Char) : Option DocComment :=
  if isDocStart s then
    let inner := (s.drop 2).head? == some '!'
    let body := s.drop 3
    let found := match s with
      | _ :: '*' :: _ => (nestedLength 1 (s.drop 2)).map fun n => (body.take (n - 3), n - 1)
      | _ => some (lineText body)
    match found with
    | some (text, n) => if hasBareReturn text then none else some ⟨inner, text, n + 3⟩
    | none => none
  else none

/-- The word that names documentation. -/
def docWord : Word :=
  ⟨false, "doc", by decide, nofun⟩

/-- The attribute that a documentation comment stands for, last token first. -/
def DocComment.tokens (d : DocComment) (offset : Nat) : List Token :=
  let group := Token.group .bracket
    [.word docWord offset, .punct '=' false offset, .literal (.comment d.text) offset]
    offset offset
  if d.inner then [group, .punct '!' false offset, .punct '#' false offset]
  else [group, .punct '#' false offset]

def punctMarks : List Char :=
  "~!@#$%^&*-=+|;:,<.>/?'".toList

/-- Whether a punctuation mark stands here; the slash of a comment is none. -/
def isMark : List Char → Bool
  | '/' :: '/' :: _ => false
  | '/' :: '*' :: _ => false
  | c :: _ => c ∈ punctMarks
  | [] => false

/-- A word, which the mark `r#` makes raw, and its length. -/
def scanWord (s : List Char) : Option (Word × Nat) :=
  match s with
  | 'r' :: '#' :: r => (Word.atStart true r).map fun (w, n) => (w, n + 2)
  | _ => Word.atStart false s

/-- Openings of quoted literals, which are no words even when the literal does not read. -/
def opensQuoted : List Char → Bool
  | 'r' :: '\x22' :: _ | 'r' :: '#' :: '\x22' :: _ | 'r' :: '#' :: '#' :: _ => true
  | 'b' :: '\x22' :: _ | 'b' :: '\x27' :: _ | 'b' :: 'r' :: '\x22' :: _ => true
  | 'b' :: 'r' :: '#' :: _ | 'c' :: '\x22' :: _ | 'c' :: 'r' :: '\x22' :: _ => true
  | 'c' :: 'r' :: '#' :: _ => true
  | _ => false

/-- A quote mark starts a lifetime unless a quote, or a number sign after a plain word, ends it. -/
def startsLifetime (s : List Char) : Bool :=
  match scanWord s with
  | none => false
  | some (w, n) =>
    match (s.drop n).head? with
    | some '\x27' => false
    | some '#' => w.raw
    | _ => true

/-- The stand-in for a faulty expression, which counts as a literal. -/
def faultMark : List Char :=
  "(/*ERROR*/)".toList

/-- A token other than a bracket, and its length. -/
def scanLeaf (s : List Char) (offset : Nat) : Option (Token × Nat) :=
  match literalLength s with
  | some n => some (.literal (.spelled (s.take n)) offset, n)
  | none =>
    if isMark s then
      match s with
      | '\x27' :: r => if startsLifetime r then some (.punct '\x27' true offset, 1) else none
      | c :: r => some (.punct c (isMark r) offset, 1)
      | [] => none
    else if opensQuoted s then none
    else match scanWord s with
      | some (w, n) => some (.word w offset, n)
      | none =>
        if s.take faultMark.length == faultMark then
          some (.literal (.spelled faultMark) offset, faultMark.length)
        else none

/-- A bracket that is open, and the tokens before it, last one first. -/
structure Frame where
  delimiter : Delimiter
  opening : Nat
  before : List Token

def opens? (c : Char) (r : List Char) : Option Delimiter :=
  if c = '(' then (if (c :: r).take faultMark.length == faultMark then none else some .paren)
  else if c = '[' then some .bracket
  else if c = '\x7b' then some .brace
  else none

def closes? (c : Char) : Option Delimiter :=
  if c = ')' then some .paren
  else if c = ']' then some .bracket
  else if c = '\x7d' then some .brace
  else none

/-- Reads from `offset` on, inside the open brackets `frames`; `done` holds the tokens of the
innermost one so far, last one first. -/
def scanTokens (s : List Char) (offset : Nat) (frames : List Frame) (done : List Token) :
    Except Place (List Token) :=
  let gap := gapLength s
  match _h : s.drop gap with
  | [] =>
    match frames with
    | [] => .ok done.reverse
    | f :: _ => .error (.char f.opening)
  | c :: r =>
    let offset := offset + gap
    match docComment? (c :: r) with
    | some d => scanTokens (r.drop (d.length - 1)) (offset + d.length) frames
        (d.tokens offset ++ done)
    | none =>
      match opens? c r with
      | some d => scanTokens r (offset + 1) (⟨d, offset, done⟩ :: frames) []
      | none =>
        match closes? c with
        | some d =>
          match frames with
          | [] => .error (.char offset)
          | f :: frames =>
            if f.delimiter = d then
              scanTokens r (offset + 1) frames
                (.group d done.reverse f.opening offset :: f.before)
            else .error (.char offset)
        | none =>
          match scanLeaf (c :: r) offset with
          | some (t, n) => scanTokens (r.drop (n - 1)) (offset + n) frames (t :: done)
          | none => .error (.char offset)
termination_by s.length
decreasing_by
  all_goals
    have := congrArg List.length _h
    simp at this ⊢
    omega

def tokenize (source : List Char) : Except Place (List Token) :=
  scanTokens source 0 [] []

end TaskDriver.Definition
