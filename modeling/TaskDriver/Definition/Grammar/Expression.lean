import TaskDriver.Definition.Grammar.Operator

/-! Operands: what expressions are made of. -/
namespace TaskDriver.Definition.Grammar
open Reader

def blockShape : ExprShape := ⟨.blockLike, true⟩

/-- Whether an expression can start here. -/
def atExpression (ts : List Token) : Bool :=
  (atAnyWord ts && !atWord "as" ts) || atGroup .paren ts || atGroup .bracket ts ||
    atGroup .brace ts || atLiteral ts || (atPunct "!" ts && !atPunct "!=" ts) ||
    (atPunct "-" ts && !atPunct "-=" ts && !atPunct "->" ts) ||
    (atPunct "*" ts && !atPunct "*=" ts) || (atPunct "|" ts && !atPunct "|=" ts) ||
    (atPunct "&" ts && !atPunct "&=" ts) || atPunct ".." ts ||
    (atPunct "<" ts && !atPunct "<=" ts && !atPunct "<<=" ts) || atPunct "::" ts ||
    atLifetime ts || atPunct "#" ts

def fieldValue (self : Rules) : Reader Unit := do
  let _ ← outerAttributes self
  let named ← memberName
  if !named || (← ahead (atPunct ":")) then
    punct ":"
    let _ ← self (.expr true)

def fieldValues (self : Rules) : Reader Unit :=
  loop do
    if ← atEnd then return false
    if ← punct? ".." then
      if !(← atEnd) then let _ ← self (.expr true)
      return false
    fieldValue self
    if ← atEnd then return false
    punct ","
    return true

/-- A path, the macro that it names, or the structure in braces that it starts. -/
def pathExpression (self : Rules) (braces : Bool) : Reader ExprShape := do
  let p ← qualifiedPath self true
  let ts ← tokens
  if !p.qualified && p.plain && atPunct "!" ts && !atPunct "!=" ts then
    punct "!"
    let d ← anyGroup
    return ⟨.invocation d, d = .brace⟩
  if braces && atGroup .brace ts then
    group .brace (fieldValues self)
    return ⟨.other, true⟩
  return ExprShape.plain

/-- Expressions separated by commas. -/
def expressions (self : Rules) : Reader Unit :=
  commaSeparated (self (.expr true))

def arrayContent (self : Rules) : Reader Unit := do
  if ← atEnd then return
  let _ ← self (.expr true)
  if ← atEnd then return
  if ← punct? "," then expressions self
  else if ← punct? ";" then let _ ← self (.expr true)
  else fail

def parenExprContent (self : Rules) : Reader Unit := do
  if ← atEnd then return
  let _ ← self (.expr true)
  if ← atEnd then return
  punct ","
  expressions self

def closureParameter (self : Rules) : Reader Unit := do
  let _ ← outerAttributes self
  let _ ← self .pattern
  if ← punct? ":" then let _ ← self (.type true)

def closure (self : Rules) (braces : Bool) : Reader ExprShape := do
  let _ ← binder? self
  let _ ← word? "const"
  let _ ← word? "static"
  let _ ← word? "async"
  let _ ← word? "move"
  punct "|"
  loop do
    if ← ahead (atPunct "|") then return false
    closureParameter self
    if ← ahead (atPunct "|") then return false
    punct ","
    return true
  punct "|"
  if ← punct? "->" then
    let _ ← self (.type true)
    plainBlock self
    return ⟨.other, true⟩
  else
    let e ← self (.expr braces)
    return ⟨.other, e.braceEnd⟩

/-- Condition of a branch or loop, in which a brace opens the block. -/
def condition (self : Rules) : Reader Unit := do
  let _ ← self (.expr false)

def attributedBlock (self : Rules) : Reader Unit := do
  let _ ← group .brace (attributedStatements self)

def branches (self : Rules) : Reader Unit :=
  loop do
    word "if"
    condition self
    plainBlock self
    if ← word? "else" then
      if ← ahead (atWord "if") then return true
      plainBlock self
      return false
    else return false

def whileLoop (self : Rules) : Reader Unit := do
  word "while"
  condition self
  attributedBlock self

def forLoop (self : Rules) : Reader Unit := do
  word "for"
  let _ ← fullPattern self
  word "in"
  condition self
  attributedBlock self

def endlessLoop (self : Rules) : Reader Unit := do
  word "loop"
  attributedBlock self

/-- A loop or block with a label. -/
def labelled (self : Rules) : Reader ExprShape := do
  lifetime
  punct ":"
  let ts ← tokens
  if atWord "while" ts then whileLoop self
  else if atWord "for" ts then forLoop self
  else if atWord "loop" ts then endlessLoop self
  else if atGroup .brace ts then attributedBlock self
  else fail
  return blockShape

/-- Parts after an operand: calls, fields, methods, indices and question marks. -/
def trailers (self : Rules) (e : ExprShape) : Reader ExprShape := fun s =>
  go (s.tokens.length + 1) e s
where
  /-- A number with a point names two fields; with a point at its end, one more is to come. -/
  fields (s : List Char) : Option Bool :=
    let dotEnd := s.getLast? == some '.'
    let parts := Text.splitOn '.' (if dotEnd then s.dropLast else s)
    if parts.all fun p => p.head?.any Char.isDigit && integerLength p == some p.length &&
        (match readInteger p with
          | some (v, suffix) => suffix.isEmpty && v < indexLimit
          | none => false)
    then some dotEnd else none
  member : Reader ExprShape := do
    if ← word? "await" then return ExprShape.plain
    let named ← memberName
    let turbofish ← ahead fun ts => named && atPunct "::" ts
    if turbofish then
      punct "::"
      angleArguments self
    if named && (turbofish || (← ahead (atGroup .paren))) then
      group .paren (expressions self)
    return ExprShape.plain
  go : Nat → ExprShape → Reader ExprShape
    | 0, e => pure e
    | n + 1, e => do
      let isRange := match e.kind with
        | .range _ => true
        | _ => false
      let ts ← tokens
      if atGroup .paren ts then
        group .paren (expressions self)
        go n ExprShape.plain
      else if atPunct "." ts && !atPunct ".." ts && !isRange then
        punct "."
        match ← tokens with
        | .literal (.spelled f) _ :: _ =>
          if isFraction f then
            match fields f with
            | some dotEnd =>
              skip 1
              if dotEnd then go n (← member) else go n ExprShape.plain
            | none => fail
          else go n (← member)
        | _ => go n (← member)
      else if atGroup .bracket ts then
        group .bracket do let _ ← self (.expr true)
        go n ExprShape.plain
      else if atPunct "?" ts && !isRange then
        punct "?"
        go n ExprShape.plain
      else return e

/-- One arm of a match. -/
def arm (self : Rules) : Reader Unit := do
  let _ ← outerAttributes self
  let _ ← fullPattern self
  if ← word? "if" then let _ ← self (.expr true)
  punct "=>"
  let e ← self .body
  if e.kind = .blockLike then
    let _ ← punct? ","
  else if !(← atEnd) then punct ","

/-- A match. -/
def matchExpression (self : Rules) : Reader Unit := do
  word "match"
  condition self
  group .brace do
    let _ ← innerAttributes self
    let _ ← all (arm self)

def tryBlock (self : Rules) : Reader ExprShape := do
  word "try"
  plainBlock self
  return blockShape

def unsafeBlock (self : Rules) : Reader ExprShape := do
  word "unsafe"
  attributedBlock self
  return blockShape

def atBinderClosure (ts : List Token) : Bool :=
  atWord "for" ts && opensGenerics (after ts)

/-- A break, whose value may be a block only where a structure may stand; in that value one may
always stand. -/
def breakExpression (self : Rules) (braces : Bool) : Reader ExprShape := do
  word "break"
  if ← ahead fun ts => atLifetime ts && atPunct ":" (after ts) then
    let label ← here
    let _ ← self (.expr true)
    failAt label
  let _ ← lifetime?
  if ← ahead fun ts => atExpression ts && (braces || !atGroup .brace ts) then
    let e ← self (.expr true)
    return ⟨.other, e.braceEnd⟩
  else return ExprShape.plain

/-- A value that may follow a keyword. A path in it may go on as a structure, even in a condition. -/
def optionalValue (self : Rules) : Reader ExprShape := do
  if ← ahead atExpression then
    let e ← self (.expr true)
    return ⟨.other, e.braceEnd⟩
  else return ExprShape.plain

def letCondition (self : Rules) (braces : Bool) : Reader ExprShape := do
  word "let"
  let _ ← fullPattern self
  punct "="
  let e ← self (.operand braces)
  let e ← self (.operators e braces compareLevel)
  return ⟨.other, e.braceEnd⟩

/-- An operand that starts with a word of the language. -/
def keywordOperand (self : Rules) (braces : Bool) : Reader ExprShape := do
  let ts ← tokens
  if atWord "break" ts then breakExpression self braces
  else if atWord "continue" ts then
    word "continue"
    let _ ← lifetime?
    return ExprShape.plain
  else if atWord "return" ts then
    word "return"
    optionalValue self
  else if atWord "become" ts then
    word "become"
    let e ← self (.expr true)
    return ⟨.other, e.braceEnd⟩
  else if atWord "let" ts then letCondition self braces
  else if atWord "if" ts then
    branches self
    return blockShape
  else if atWord "while" ts then
    whileLoop self
    return blockShape
  else if atWord "for" ts then
    forLoop self
    return blockShape
  else if atWord "loop" ts then
    endlessLoop self
    return blockShape
  else if atWord "match" ts then
    matchExpression self
    return blockShape
  else if atWord "yield" ts then
    word "yield"
    optionalValue self
  else if atWord "unsafe" ts then unsafeBlock self
  else if atWord "const" ts then
    constBlock self
    return blockShape
  else if atWord "_" ts then
    word "_"
    return ExprShape.plain
  else fail

/-- An operand before its trailers. -/
def atom (self : Rules) (braces : Bool) : Reader ExprShape := do
  let ts ← tokens
  let two := after ts
  if atLiteral ts then
    literal
    return ExprShape.plain
  else if atWord "async" ts &&
      (atGroup .brace two || (atWord "move" two && atGroup .brace (after2 ts))) then
    word "async"
    let _ ← word? "move"
    plainBlock self
    return ⟨.other, true⟩
  else if atWord "try" ts && atGroup .brace two then tryBlock self
  else if atPunct "|" ts || atWord "move" ts || atBinderClosure ts ||
      (atWord "const" ts && !atGroup .brace two) || atWord "static" ts ||
      (atWord "async" ts && (atPunct "|" two || atWord "move" two)) then
    closure self braces
  else if atBuiltin ts then
    builtin
    return ExprShape.plain
  else if atName ts || atPunct "::" ts || atPunct "<" ts || atWord "self" ts || atWord "Self" ts ||
      atWord "super" ts || atWord "crate" ts ||
      (atWord "try" ts && (atPunct "!" two || atPunct "::" two)) then
    pathExpression self braces
  else if atGroup .paren ts then
    group .paren (parenExprContent self)
    return ExprShape.plain
  else if atGroup .bracket ts then
    group .bracket (arrayContent self)
    return ExprShape.plain
  else if atGroup .brace ts then
    attributedBlock self
    return blockShape
  else if atPunct ".." ts then rangeFromDots self braces
  else if atLifetime ts then labelled self
  else keywordOperand self braces

/-- An operand with the operators before it and the trailers after it. -/
def operandPhrase (self : Rules) (braces : Bool) : Reader ExprShape := do
  let attributed ← ahead (atPunct "#")
  let _ ← outerAttributes self
  let ts ← tokens
  if atPunct "&" ts then
    punct "&"
    let raw ← ahead fun ts => atWord "raw" ts &&
      (atWord "mut" (after ts) || atWord "const" (after ts))
    if raw then word "raw"
    let mutable ← word? "mut"
    if raw && !mutable then word "const"
    let e ← self (.operand braces)
    return ⟨.other, e.braceEnd⟩
  else if atPunct "*" ts || atPunct "!" ts || atPunct "-" ts then
    skip 1
    let e ← self (.operand braces)
    return ⟨.other, e.braceEnd⟩
  else
    let e ← trailers self (← atom self braces)
    match e.kind with
    | .range dots => if attributed then failAt dots else return e
    | _ => return e

/-- An expression at the start of a statement or as the value of an arm: one that ends in a block
goes on only with a point or a question mark. -/
def bodyPhrase (self : Rules) : Reader ExprShape := do
  let _ ← outerAttributes self
  let ts ← tokens
  let two := after ts
  let blockStart := atWord "if" ts || atWord "while" ts ||
    (atWord "for" ts && !atBinderClosure ts) || atWord "loop" ts || atWord "match" ts ||
    (atWord "try" ts && atGroup .brace two) || atWord "unsafe" ts ||
    (atWord "const" ts && atGroup .brace two) || atGroup .brace ts || atLifetime ts
  if blockStart then
    let e ← blockOperand ts
    if ← ahead fun ts => (atPunct "." ts && !atPunct ".." ts) || atPunct "?" ts then
      self (.operators (← trailers self e) true 0)
    else return e
  else
    let e ← self (.operand true)
    self (.operators e true 0)
where
  blockOperand (ts : List Token) : Reader ExprShape :=
    if atLifetime ts then labelled self
    else if atGroup .brace ts then do
      attributedBlock self
      return blockShape
    else if atWord "try" ts then tryBlock self
    else keywordOperand self true

end TaskDriver.Definition.Grammar
