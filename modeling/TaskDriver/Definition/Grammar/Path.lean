import TaskDriver.Definition.Grammar.Phrase

/-! Attributes, paths with their arguments, visibility and macro invocations. -/
namespace TaskDriver.Definition.Grammar
open Reader

/-- A path of names without arguments. -/
def plainPath : Reader Unit := do
  let _ ← punct? "::"
  loop do
    let ts ← tokens
    if atName ts || atWord "super" ts || atWord "self" ts || atWord "Self" ts ||
        atWord "crate" ts then
      let _ ← anyWord
      punct? "::"
    else fail

/-- The name `doc` alone. -/
def atDocPath (ts : List Token) : Bool :=
  atWord "doc" ts && !atPunct "::" (after ts)

/-- The content of an attribute; gives the text of one that documents. -/
def attributeContent (self : Rules) : Reader (Option (List Char)) := do
  let isDoc ← ahead atDocPath
  if !(← word? "unsafe") then plainPath
  if ← ahead fun ts => atGroup .paren ts || atGroup .bracket ts || atGroup .brace ts then
    let _ ← anyGroup
    return none
  else if ← ahead fun ts => atPunct "=" ts && !atPunct "==" ts && !atPunct "=>" ts then
    punct "="
    match ← tokens with
    | [.literal v _] =>
      literal
      return if isDoc then v.string? else none
    | ts =>
      if atPunct "#" ts && atGroup .bracket (after ts) then fail
      let _ ← self (.expr true)
      return none
  else return none

def outerAttribute (self : Rules) : Reader (Option (List Char)) := do
  punct "#"
  group .bracket (attributeContent self)

def outerAttributes (self : Rules) : Reader (List (List Char)) := fun s =>
  go (s.tokens.length + 1) s
where
  go : Nat → Reader (List (List Char))
    | 0 => pure []
    | n + 1 => do
      if ← ahead (atPunct "#") then
        let d ← outerAttribute self
        let ds ← go n
        return d.toList ++ ds
      else return []

def innerAttributes (self : Rules) : Reader (List (List Char)) := fun s =>
  go (s.tokens.length + 1) s
where
  go : Nat → Reader (List (List Char))
    | 0 => pure []
    | n + 1 => do
      if ← ahead fun ts => atPunct "#" ts && atPunct "!" (after ts) then
        punct "#"
        punct "!"
        let d ← group .bracket (attributeContent self)
        let ds ← go n
        return d.toList ++ ds
      else return []

/-- The content of a block that may start with attributes. -/
def attributedStatements (self : Rules) : Reader (List (List Char)) := do
  let docs ← innerAttributes self
  self .statements
  return docs

/-- A block with braces and no attributes inside. -/
def plainBlock (self : Rules) : Reader Unit :=
  group .brace (self .statements)

/-- An argument for a constant parameter. -/
def constArgument (self : Rules) : Reader Unit := do
  let ts ← tokens
  if atLiteral ts then literal
  else if atName ts then let _ ← anyWord
  else if atGroup .brace ts then
    let _ ← group .brace (attributedStatements self)
  else fail

/-- Bounds separated by plus signs until one of the tokens that `stop` tests for. -/
def boundsUntil (self : Rules) (stop : List Token → Bool) : Reader Unit :=
  loop do
    if ← ahead stop then return false
    let _ ← self (.bound false true)
    punct? "+"

/-- Bounds with a plus sign between two of them, up to a token that `stop` tests for. -/
def strictBounds (self : Rules) (stop : List Token → Bool) : Reader Unit :=
  loop do
    if ← ahead stop then return false
    let _ ← self (.bound false true)
    if ← ahead stop then return false
    punct "+"
    return true

def genericArgument (self : Rules) : Reader Unit := do
  let ts ← tokens
  if atLifetime ts && !atPunct "+" (after ts) then lifetime
  else if atLiteral ts || atGroup .brace ts then constArgument self
  else
    let t ← self (.type true)
    if t.kind = .oneName then
      if ← punct? "=" then
        if ← ahead fun ts => atLiteral ts || atGroup .brace ts then constArgument self
        else let _ ← self (.type true)
      else if ← punct? ":" then
        boundsUntil self fun ts => atPunct "," ts || atPunct ">" ts

/-- Arguments in angle brackets. -/
def angleArguments (self : Rules) : Reader Unit := do
  punct "<"
  loop do
    if ← ahead (atPunct ">") then return false
    genericArgument self
    if ← ahead (atPunct ">") then return false
    punct ","
    return true
  punct ">"

/-- A type after an arrow, if there is one. -/
def returnType? (self : Rules) (plus : Bool) : Reader (Option TypeShape) := do
  if ← punct? "->" then return some (← self (.type plus)) else return none

/-- What follows the last name of a path. -/
inductive PathEnd
  | bare
  /-- Angle brackets with nothing in them. -/
  | vacant
  | angle
  deriving DecidableEq

/-- One name of a path with its arguments. In an expression a less-than sign is an operator, so
arguments need two colons before them. -/
def pathSegment (self : Rules) (inExpr : Bool) : Reader PathEnd := do
  let ts ← tokens
  if atWord "super" ts || atWord "self" ts || atWord "crate" ts || atWord "try" ts then
    let _ ← anyWord
    return .bare
  if atWord "Self" ts then let _ ← anyWord
  else let _ ← name
  let ts ← tokens
  if (!inExpr && atPunct "<" ts && !atPunct "<=" ts && !atPunct "<<=" ts) ||
      (atPunct "::" ts && atPunct "<" (after2 ts)) then
    let _ ← punct? "::"
    let vacant ← ahead fun ts => atPunct ">" (after ts)
    angleArguments self
    return if vacant then .vacant else .angle
  else return .bare

/-- A path read so far. -/
structure PathShape where
  last : PathEnd
  segments : Nat
  leading : Bool
  /-- Whether no name has arguments. -/
  plain : Bool
  qualified : Bool

/-- Further names of a path. Two colons before a parenthesis belong to what follows. -/
def pathRest (self : Rules) (inExpr : Bool) (p : PathShape) : Reader PathShape := fun s =>
  go (s.tokens.length + 1) p s
where
  go : Nat → PathShape → Reader PathShape
    | 0, p => pure p
    | n + 1, p => do
      if ← ahead fun ts => atPunct "::" ts && !atGroup .paren (after2 ts) then
        punct "::"
        let last ← pathSegment self inExpr
        go n { p with last, segments := p.segments + 1, plain := p.plain && last = .bare }
      else return p

def path (self : Rules) (inExpr : Bool) : Reader PathShape := do
  let leading ← punct? "::"
  let last ← pathSegment self inExpr
  pathRest self inExpr ⟨last, 1, leading, last = .bare, false⟩

/-- Names after a qualified type. -/
def qualifiedRest (self : Rules) (inExpr : Bool) (p : PathShape) : Reader PathShape := fun s =>
  go (s.tokens.length + 1) p s
where
  go : Nat → PathShape → Reader PathShape
    | 0, p => pure p
    | n + 1, p => do
      let last ← pathSegment self inExpr
      if ← punct? "::" then go n { p with last } else return { p with last }

/-- A path that may start with a type in angle brackets. -/
def qualifiedPath (self : Rules) (inExpr : Bool) : Reader PathShape := do
  if ← punct? "<" then
    let _ ← self (.type true)
    if ← word? "as" then let _ ← path self false
    punct ">"
    punct "::"
    qualifiedRest self inExpr ⟨.bare, 0, false, false, true⟩
  else path self inExpr

/-- Arguments in parentheses, as of a function trait. -/
def parenArguments (self : Rules) : Reader (Option TypeShape) := do
  group .paren (commaSeparated (self (.type true)))
  returnType? self false

/-- Visibility; gives whether it is written. -/
def visibility : Reader Bool := do
  if ← word? "pub" then
    match ← tokens with
    | .group .paren inner _ _ :: _ =>
      if (atWord "crate" inner || atWord "self" inner || atWord "super" inner) &&
          inner.length == 1 then
        skip 1
      else if atWord "in" inner then
        group .paren (do word "in"; plainPath)
      return true
    | _ => return true
  else return false

/-- Whether a form that the compiler knows by name starts here. -/
def atBuiltin (ts : List Token) : Bool :=
  atWord "builtin" ts && atPunct "#" (after ts)

/-- A form that the compiler knows by name, with any tokens in parentheses. -/
def builtin : Reader Unit := do
  word "builtin"
  punct "#"
  let _ ← name
  if ← ahead (atGroup .paren) then let _ ← anyGroup
  else fail

/-- A path, an exclamation mark and a bracketed group. -/
def invocation : Reader Delimiter := do
  plainPath
  punct "!"
  anyGroup

end TaskDriver.Definition.Grammar
