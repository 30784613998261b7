import TaskDriver.Definition.Grammar.Pattern

/-! Binary operators, which bind more or less tightly, and ranges and casts, which take their place
among them. Comparisons do not chain, and a range is no operand on the left. -/
namespace TaskDriver.Definition.Grammar
open Reader

/-! Levels of binding, loosest first. -/

def assignLevel : Nat := 1
def rangeLevel : Nat := 2
def compareLevel : Nat := 6
def castLevel : Nat := 13

/-- Operators with their levels; one stands before those that it starts with. -/
def binaryOperators : List (String × Nat) :=
  [("+=", 1), ("-=", 1), ("*=", 1), ("/=", 1), ("%=", 1), ("^=", 1), ("&=", 1), ("|=", 1),
   ("<<=", 1), (">>=", 1), ("&&", 4), ("||", 3), ("<<", 10), (">>", 10), ("==", 6), ("<=", 6),
   ("!=", 6), (">=", 6), ("+", 11), ("-", 11), ("*", 12), ("/", 12), ("%", 12), ("^", 8), ("&", 9),
   ("|", 7), ("<", 6), (">", 6)]

def binaryOperator? (ts : List Token) : Option (String × Nat) :=
  binaryOperators.find? fun (marks, _) => atPunct marks ts

def atAssign (ts : List Token) : Bool :=
  atPunct "=" ts && !atPunct "=>" ts

/-- The level of the operator ahead; 0 if there is none. -/
def levelAhead (ts : List Token) : Nat :=
  match binaryOperator? ts with
  | some (_, level) => level
  | none =>
    if atAssign ts then assignLevel
    else if atPunct ".." ts then rangeLevel
    else if atWord "as" ts then castLevel
    else 0

/-- The operand on the right of an operator, with the tighter operators after it. -/
def rightOperand (self : Rules) (braces : Bool) (level : Nat) : Reader ExprShape := do
  let first ← self (.operand braces)
  fun s => go (s.tokens.length + 1) first s
where
  go : Nat → ExprShape → Reader ExprShape
    | 0, e => pure e
    | n + 1, e => do
      let next := levelAhead (← tokens)
      if level < next || (next = level && level = assignLevel) then
        let before := (← tokens).length
        let e ← self (.operators e braces next)
        if (← tokens).length = before then return e else go n e
      else return e

/-- Tokens before which a range has no second limit. -/
def endsOpenRange (braces : Bool) (ts : List Token) : Bool :=
  ts.isEmpty || (atPunct "." ts && !atPunct ".." ts) || (!braces && atGroup .brace ts) ||
    atWord "as" ts ||
    [",", ";", "?", "=>", "=", "+", "/", "%", "^", ">", "<=", "!=", "-=", "*=", "&=", "|=",
      "<<="].any fun marks => atPunct marks ts

/-- A range from its dots on. -/
def rangeFromDots (self : Rules) (braces : Bool) : Reader ExprShape := do
  let dots ← here
  let closed ← rangeDots false
  if !closed && (← ahead (endsOpenRange braces)) then return ⟨.range dots, false⟩
  let e ← rightOperand self braces rangeLevel
  return ⟨.range dots, e.braceEnd⟩

/-- What may not follow a cast without parentheses. -/
def followsCast (ts : List Token) : Bool :=
  (atPunct "." ts && !atPunct ".." ts) || atPunct "?" ts || atGroup .bracket ts ||
    atGroup .paren ts

/-- The operators after `left` that bind at least as tightly as `level`. -/
def operatorsPhrase (self : Rules) (left : ExprShape) (braces : Bool) (level : Nat) :
    Reader ExprShape := fun s =>
  go (s.tokens.length + 1) left s
where
  isRange (e : ExprShape) : Bool :=
    match e.kind with
    | .range _ => true
    | _ => false
  go : Nat → ExprShape → Reader ExprShape
    | 0, e => pure e
    | n + 1, e => do
      if isRange e then return e
      let ts ← tokens
      match binaryOperator? ts with
      | some (marks, found) =>
        if found < level then return e
        if found = compareLevel && e.kind = .comparison then fail
        punct marks
        let r ← rightOperand self braces found
        go n ⟨if found = compareLevel then .comparison else .other, r.braceEnd⟩
      | none =>
        if level ≤ assignLevel && atAssign ts then
          punct "="
          let r ← rightOperand self braces assignLevel
          go n ⟨.other, r.braceEnd⟩
        else if level ≤ rangeLevel && atPunct ".." ts then
          go n (← rangeFromDots self braces)
        else if level ≤ castLevel && atWord "as" ts then
          word "as"
          let t ← self (.type false)
          if ← ahead followsCast then fail
          go n ⟨.other, t.braceEnd⟩
        else return e

/-- An expression; `braces` says whether a path may go on as a structure in braces. -/
def exprPhrase (self : Rules) (braces : Bool) : Reader ExprShape := do
  let e ← self (.operand braces)
  self (.operators e braces 0)

end TaskDriver.Definition.Grammar
