import TaskDriver.Definition.Grammar.Item

/-! Statements, and the grammar as a whole. -/
namespace TaskDriver.Definition.Grammar
open Reader

/-- A macro invocation in braces that is a statement of its own: it does not go on with a point or
a question mark. -/
def bracedInvocation : Reader Unit := do
  plainPath
  punct "!"
  if ← ahead fun ts => atGroup .brace ts &&
      !((atPunct "." (after ts) && !atPunct ".." (after ts)) || atPunct "?" (after ts)) then
    let _ ← anyGroup
    let _ ← punct? ";"
  else fail

/-- A macro invocation that names what it defines. -/
def namedInvocation : Reader Unit := do
  plainPath
  punct "!"
  if !(← ahead fun ts => atName ts || atWord "try" ts) then fail

def startsConstItem (ts : List Token) : Bool :=
  let two := after ts
  let three := after2 ts
  atWord "const" ts && !(atGroup .brace two || atWord "static" two ||
    (atWord "async" two && !(atWord "unsafe" three || atWord "extern" three || atWord "fn" three)) ||
    atWord "move" two || atPunct "|" two)

/-- Whether an item starts here rather than an expression. -/
def startsItem (ts : List Token) : Bool :=
  let two := after ts
  atWord "pub" ts || (atWord "crate" ts && !atPunct "::" two) || atWord "extern" ts ||
    atWord "use" ts || (atWord "static" ts && (atWord "mut" two || atName two)) ||
    startsConstItem ts || (atWord "unsafe" ts && !atGroup .brace two) ||
    (atWord "async" ts && (atWord "unsafe" two || atWord "extern" two || atWord "fn" two)) ||
    ["fn", "mod", "type", "struct", "enum", "trait", "impl", "macro"].any (atWord · ts) ||
    (atWord "union" ts && atName two) || (atWord "auto" ts && atWord "trait" two) ||
    (atWord "default" ts && (atWord "unsafe" two || atWord "impl" two))

/-- A binding with its value, which may come with a block for the case that it does not match. -/
def binding (self : Rules) : Reader Unit := do
  word "let"
  let _ ← self .pattern
  if ← punct? ":" then let _ ← self (.type true)
  if ← punct? "=" then
    let e ← self (.expr true)
    if !e.braceEnd then
      if ← word? "else" then plainBlock self
  punct ";"

/-- One statement; gives whether a semicolon has to follow before the next one. -/
def statement (self : Rules) : Reader Bool := do
  let docs ← outerAttributes self
  if (← attempt bracedInvocation).isSome then return false
  let ts ← tokens
  if atWord "let" ts then
    binding self
    return false
  if startsItem ts || (← attempt (preview namedInvocation)).isSome then
    let _ ← itemRest self docs
    return false
  let e ← self .body
  if ← punct? ";" then return false
  match e.kind with
  | .blockLike => return false
  | .invocation d => return d != .brace
  | _ => return true

def statementsPhrase (self : Rules) : Reader Unit := do
  semicolons
  loop do
    if ← atEnd then return false
    let pending ← statement self
    if ← atEnd then return false
    if pending then fail
    semicolons
    return true
where
  semicolons : Reader Unit := loop (punct? ";")

/-- Phrases nested no deeper than `depth`. -/
def rules : Nat → Rules
  | 0, _ => fail
  | depth + 1, .type plus => typePhrase (rules depth) plus
  | depth + 1, .bound captures const => boundPhrase (rules depth) captures const
  | depth + 1, .pattern => patternPhrase (rules depth)
  | depth + 1, .expr braces => exprPhrase (rules depth) braces
  | depth + 1, .operand braces => operandPhrase (rules depth) braces
  | depth + 1, .operators left braces level => operatorsPhrase (rules depth) left braces level
  | depth + 1, .body => bodyPhrase (rules depth)
  | depth + 1, .statements => statementsPhrase (rules depth)
  | depth + 1, .item => itemPhrase (rules depth)

/-- The functions among the items of a file. A phrase inside another one starts after it or is one
of a few that start together, so the number of tokens bounds the depth. -/
def file (ts : List Token) : Except Place (List FunctionItem) :=
  let self := rules (16 * (tokenCount ts + 1))
  let items : Reader (List (Option FunctionItem)) := do
    let _ ← innerAttributes self
    all (self .item)
  match items ⟨ts, .wholeFile, none⟩ with
  | .ok (found, s) =>
    match s.stray with
    | some p => .error p
    | none => .ok (found.filterMap id)
  | .error p => .error p

end TaskDriver.Definition.Grammar
