import TaskDriver.Definition.Grammar.Path

/-! Bounds, generic parameters and `where` clauses. -/
namespace TaskDriver.Definition.Grammar
open Reader

/-- Whether a less-than sign opens generic parameters rather than a qualified path. -/
def opensGenerics (ts : List Token) : Bool :=
  let two := after ts
  let three := after2 ts
  atPunct "<" ts &&
    (atPunct ">" two || atPunct "#" two ||
      ((atName two || atLifetime two) &&
        (atPunct ">" three || atPunct "," three ||
          (atPunct ":" three && !atPunct "::" three) || atPunct "=" three)) ||
      atWord "const" two)

/-- Lifetimes joined by plus signs. -/
def lifetimesUntil (stop : List Token → Bool) : Reader Unit :=
  loop do
    if ← ahead stop then return false
    lifetime
    punct? "+"

def lifetimeParameter (self : Rules) : Reader Unit := do
  let _ ← outerAttributes self
  lifetime
  if ← punct? ":" then
    lifetimesUntil fun ts => ts.isEmpty || atPunct "," ts || atPunct ">" ts

def typeParameter (self : Rules) : Reader Unit := do
  let _ ← outerAttributes self
  let _ ← name
  if ← punct? ":" then
    boundsUntil self fun ts => ts.isEmpty || atPunct "," ts || atPunct ">" ts || atPunct "=" ts
  if ← punct? "=" then let _ ← self (.type true)

def constParameter (self : Rules) : Reader Unit := do
  let _ ← outerAttributes self
  word "const"
  let _ ← name
  punct ":"
  let _ ← self (.type true)
  if ← punct? "=" then constArgument self

/-- Parameters in angle brackets. Only those of an item may leave a name out. -/
def parameters (self : Rules) (anonymous : Bool) : Reader Unit := do
  punct "<"
  loop do
    if ← ahead (atPunct ">") then return false
    let _ ← outerAttributes self
    let ts ← tokens
    if atLifetime ts then lifetimeParameter self
    else if atName ts then typeParameter self
    else if atWord "const" ts then constParameter self
    else if anonymous && atWord "_" ts then let _ ← anyWord
    else fail
    if ← ahead (atPunct ">") then return false
    punct ","
    return true
  punct ">"

def generics? (self : Rules) : Reader Unit := do
  if ← ahead (atPunct "<") then parameters self true

/-- Lifetimes that a type or bound is generic over. -/
def binder? (self : Rules) : Reader Bool := do
  if ← word? "for" then
    parameters self false
    return true
  else return false

/-- The captured parameters of an opaque type. -/
def capture : Reader Unit := do
  word "use"
  punct "<"
  loop do
    let ts ← tokens
    if atLifetime ts then lifetime
    else if atName ts || atWord "Self" ts then let _ ← anyWord
    else if atPunct ">" ts then return false
    else fail
    if ← ahead (atPunct ">") then return false
    punct ","
    return true
  punct ">"

/-- A trait as a bound, with what may stand before it. -/
def traitBound (self : Rules) (const : Bool) : Reader BoundShape := do
  let bound ← binder? self
  let start ← here
  let conditional ← ahead (atGroup .bracket)
  let constant ← ahead (atWord "const")
  if conditional then
    group .bracket (word "const")
    if !const then failAt start
  else if constant then
    word "const"
    if !const then failAt start
  let mark ← here
  let maybe ← punct? "?"
  let bound ← if !bound && maybe then binder? self else pure bound
  let p ← path self false
  let mut braceEnd := false
  if p.last ≠ .angle then
    if ← ahead fun ts => atGroup .paren ts || (atPunct "::" ts && atGroup .paren (after2 ts)) then
      let _ ← punct? "::"
      let out ← parenArguments self
      braceEnd := out.any (·.braceEnd)
  if bound && maybe then failAt mark
  return ⟨if conditional || constant then .constTrait else .trait, braceEnd⟩

/-- One bound. -/
def boundPhrase (self : Rules) (captures const : Bool) : Reader BoundShape := do
  if ← ahead atLifetime then
    lifetime
    return ⟨.lifetime, false⟩
  if ← ahead (atWord "use") then
    let start ← here
    capture
    if captures then return ⟨.capture, false⟩ else failAt start
  if ← ahead (atGroup .paren) then group .paren (traitBound self const)
  else traitBound self const

/-- Bounds of a trait object or an opaque type. -/
def boundList (self : Rules) (plus captures const : Bool) : Reader (List BoundShape) := fun s =>
  go (s.tokens.length + 1) s
where
  go : Nat → Reader (List BoundShape)
    | 0 => pure []
    | n + 1 => do
      let b ← self (.bound captures const)
      if !plus then return [b]
      else if ← punct? "+" then
        let more ← ahead fun ts => atAnyWord ts || atPunct "::" ts || atPunct "?" ts ||
          atLifetime ts || atGroup .paren ts || (const && atGroup .bracket ts)
        if more then return b :: (← go n) else return [b]
      else return [b]

def endsPredicates (ts : List Token) : Bool :=
  ts.isEmpty || atGroup .brace ts || atPunct "," ts || atPunct ";" ts ||
    (atPunct ":" ts && !atPunct "::" ts) || atPunct "=" ts

def wherePredicate (self : Rules) : Reader Unit := do
  if ← ahead fun ts => atLifetime ts && atPunct ":" (after ts) then
    lifetime
    punct ":"
    lifetimesUntil fun ts => ts.isEmpty || atGroup .brace ts || atPunct "," ts ||
      atPunct ";" ts || atPunct ":" ts || atPunct "=" ts
  else
    let _ ← binder? self
    let _ ← self (.type true)
    punct ":"
    boundsUntil self endsPredicates

def whereClause? (self : Rules) : Reader Bool := do
  if ← word? "where" then
    if ← ahead opensGenerics then fail
    loop do
      if ← ahead endsPredicates then return false
      wherePredicate self
      punct? ","
    return true
  else return false

end TaskDriver.Definition.Grammar
