import TaskDriver.Definition.Grammar.Types

/-! Patterns. -/
namespace TaskDriver.Definition.Grammar
open Reader

def PatternShape.closed : PatternShape := ⟨none⟩

def atOr (ts : List Token) : Bool :=
  atPunct "|" ts && !atPunct "||" ts && !atPunct "|=" ts

/-- Alternatives after a first pattern. -/
def alternatives (self : Rules) (first : PatternShape) (lead : Bool) : Reader PatternShape := do
  if lead || (← ahead atOr) then
    loop do
      if ← ahead atOr then
        punct "|"
        let _ ← self .pattern
        return true
      else return false
    return PatternShape.closed
  else return first

/-- A pattern that may start with a bar and have alternatives. -/
def fullPattern (self : Rules) : Reader PatternShape := do
  let lead ← punct? "|"
  alternatives self (← self .pattern) lead

/-- The dots of a range: whether the limit after them belongs to it. Three dots are the old
spelling, good in patterns only. -/
def rangeDots (old : Bool) : Reader Bool := do
  if ← punct? "..=" then return true
  if ← ahead (atPunct "...") then
    if old then
      punct "..."
      return true
    else fail
  punct ".."
  return false

def constBlock (self : Rules) : Reader Unit := do
  word "const"
  let _ ← group .brace (attributedStatements self)

def endsRange (ts : List Token) : Bool :=
  ts.isEmpty || atPunct "|" ts || atPunct "=" ts || (atPunct ":" ts && !atPunct "::" ts) ||
    atPunct "," ts || atPunct ";" ts || atWord "if" ts

/-- A limit of a range pattern, if there is one. -/
def rangeLimit? (self : Rules) : Reader Bool := do
  let ts ← tokens
  if endsRange ts then return false
  if atLiteral ts then literal
  else if atName ts || atPunct "::" ts || atPunct "<" ts || atWord "self" ts || atWord "Self" ts ||
      atWord "super" ts || atWord "crate" ts then
    let _ ← qualifiedPath self true
  else if atWord "const" ts then constBlock self
  else fail
  return true

/-- A range after its first limit. -/
def rangePattern (self : Rules) : Reader PatternShape := do
  let dots ← here
  let closed ← rangeDots true
  let limit ← rangeLimit? self
  if closed && !limit then fail
  return ⟨if limit then none else some dots⟩

/-- Dots that start a pattern: a range without a first limit, or the rest of a list. -/
def openPattern (self : Rules) : Reader PatternShape := do
  let dots ← here
  let closed ← rangeDots false
  let limit ← rangeLimit? self
  if closed && !limit then fail
  return ⟨if limit then some dots else none⟩

def memberName : Reader Bool := do
  let ts ← tokens
  if atName ts then
    let _ ← anyWord
    return true
  else match ts with
    | .literal (.spelled s) _ :: _ =>
      match readInteger s with
      | some (v, []) => if s.head?.any Char.isDigit && v < indexLimit then skip 1 else fail
      | _ => fail
      return false
    | _ => fail

def fieldPattern (self : Rules) : Reader Unit := do
  let boxed ← word? "box"
  let byRef ← word? "ref"
  let mutable ← word? "mut"
  if boxed || byRef || mutable then
    let _ ← name
  else
    let named ← memberName
    if !named || (← ahead (atPunct ":")) then
      punct ":"
      let _ ← fullPattern self

def fieldPatterns (self : Rules) : Reader Unit :=
  loop do
    if ← atEnd then return false
    let _ ← outerAttributes self
    if ← punct? ".." then return false
    fieldPattern self
    if ← atEnd then return false
    punct ","
    return true

/-- A pattern that starts with a path. -/
def pathPattern (self : Rules) : Reader PatternShape := do
  let p ← qualifiedPath self true
  let ts ← tokens
  if !p.qualified && p.plain && atPunct "!" ts && !atPunct "!=" ts then
    punct "!"
    let _ ← anyGroup
    return PatternShape.closed
  if atGroup .brace ts then
    group .brace (fieldPatterns self)
    return PatternShape.closed
  if atGroup .paren ts then
    group .paren (commaSeparated (fullPattern self))
    return PatternShape.closed
  if atPunct ".." ts then rangePattern self else return PatternShape.closed

def nameThenPath (ts : List Token) : Bool :=
  let two := after ts
  atName ts && (atPunct "::" two || atPunct "!" two || atGroup .brace two || atGroup .paren two ||
    atPunct ".." two)

/-- A name to bind, perhaps with a pattern for its value. -/
def bindingPattern (self : Rules) : Reader Unit := do
  let _ ← word? "ref"
  let _ ← word? "mut"
  if ← ahead (atWord "self") then word "self" else let _ ← name
  if ← punct? "@" then let _ ← self .pattern

/-- In a list an open range needs parentheses. -/
def listElement (self : Rules) : Reader Unit := do
  let p ← fullPattern self
  match p.openRange with
  | some place => failAt place
  | none => return

def patternPhrase (self : Rules) : Reader PatternShape := do
  let ts ← tokens
  if nameThenPath ts || (atWord "self" ts && atPunct "::" (after ts)) || atPunct "::" ts ||
      atPunct "<" ts || atWord "Self" ts || atWord "super" ts || atWord "crate" ts then
    pathPattern self
  else if atWord "_" ts then
    word "_"
    return PatternShape.closed
  else if atWord "box" ts then
    word "box"
    let _ ← self .pattern
    return PatternShape.closed
  else if atPunct "-" ts || atLiteral ts || atWord "const" ts then
    let _ ← rangeLimit? self
    if ← ahead (atPunct "..") then rangePattern self else return PatternShape.closed
  else if atWord "ref" ts || atWord "mut" ts || atWord "self" ts || atName ts then
    bindingPattern self
    return PatternShape.closed
  else if atPunct "&" ts then
    punct "&"
    let _ ← word? "mut"
    let _ ← self .pattern
    return PatternShape.closed
  else if atGroup .paren ts then
    group .paren (commaSeparated (fullPattern self))
    return PatternShape.closed
  else if atGroup .bracket ts then
    group .bracket (commaSeparated (listElement self))
    return PatternShape.closed
  else if atPunct ".." ts && !atPunct "..." ts then openPattern self
  else fail

end TaskDriver.Definition.Grammar
