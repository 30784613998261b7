import TaskDriver.Definition.Grammar.Generics

/-! Types. -/
namespace TaskDriver.Definition.Grammar
open Reader

def TypeShape.simple : TypeShape := ⟨.other, false⟩

/-- An interface name of a function: `extern`, with or without a string. -/
def interface? : Reader Unit := do
  if ← word? "extern" then
    if ← ahead atString then literal

def atMutSelf (ts : List Token) : Bool :=
  atWord "mut" ts && atWord "self" (after ts)

/-- A parameter of a function type; only the first one may be the receiver. -/
def functionTypeParameter (self : Rules) (first : Bool) : Reader Unit := do
  let _ ← outerAttributes self
  let mutSelf ← ahead fun ts => first && atMutSelf ts
  if mutSelf then word "mut"
  let ts ← tokens
  let receiver := first && atWord "self" ts
  let named := (atName ts || atWord "_" ts || receiver) &&
    atPunct ":" (after ts) && !atPunct "::" (after ts)
  if named then
    let _ ← anyWord
    punct ":"
  if mutSelf && !named then word "self"
  else if ← ahead fun ts => first && named && !receiver && atMutSelf ts then skip 2
  else let _ ← self (.type true)

def functionType (self : Rules) : Reader TypeShape := do
  let _ ← binder? self
  let _ ← word? "unsafe"
  interface?
  word "fn"
  groupThen .paren (parameterList true) fun _ => do
    match ← returnType? self false with
    | some t => return ⟨.other, t.braceEnd⟩
    | none => return TypeShape.simple
where
  parameterList (first : Bool) : Reader Unit := fun s => go (s.tokens.length + 1) first s
  go : Nat → Bool → Reader Unit
    | 0, _ => pure ()
    | n + 1, first => do
      if ← atEnd then return
      let _ ← outerAttributes self
      let ts ← tokens
      if atPunct "..." ts || ((atName ts || atWord "_" ts) && atPunct ":" (after ts) &&
          atPunct "..." (after2 ts)) then
        if !atPunct "..." ts then
          let _ ← anyWord
          punct ":"
        punct "..."
        let _ ← punct? ","
      else
        functionTypeParameter self first
        if ← atEnd then return
        punct ","
        go n false

/-- Bounds after a first one, each with a plus sign before it. -/
def plusBounds (self : Rules) (last : BoundShape) : Reader BoundShape := fun s =>
  go (s.tokens.length + 1) last s
where
  go : Nat → BoundShape → Reader BoundShape
    | 0, b => pure b
    | n + 1, b => do
      if ← punct? "+" then go n (← self (.bound false false)) else return b

def lastBrace (bs : List BoundShape) : Bool :=
  bs.getLast?.any (·.braceEnd)

/-- Bounds of a trait object, among which a trait must be. -/
def objectBounds (self : Rules) (start : Place) (plus : Bool) : Reader (List BoundShape) := do
  let bs ← boundList self plus false false
  if bs.all (·.kind = .lifetime) then failAt start
  return bs

/-- A group in parentheses: a tuple, a trait object, or a type put in parentheses. -/
inductive ParenContent
  | closed
  | maybeBound (b : BoundShape)
  | single (t : TypeShape)

def parenContent (self : Rules) : Reader ParenContent := do
  let ts ← tokens
  if ts.isEmpty then return .closed
  if atLifetime ts then
    let _ ← objectBounds self (← here) true
    return .closed
  if atPunct "?" ts then return .maybeBound (← traitBound self false)
  let t ← self (.type true)
  if ← ahead (atPunct ",") then
    punct ","
    commaSeparated (self (.type true))
    return .closed
  return .single t

def parenType (self : Rules) (plus : Bool) : Reader TypeShape := do
  groupThen .paren (parenContent self) fun content => do
    match content with
    | .closed => return TypeShape.simple
    | .maybeBound b =>
      let alone ← ahead fun ts => !atPunct "+" ts
      let last ← plusBounds self b
      return ⟨if alone then .soloBound else .other, last.braceEnd⟩
    | .single t =>
      if plus && (← ahead (atPunct "+")) &&
          (t.kind = .oneName || t.kind = .plainPath || t.kind = .soloBound) then
        let last ← plusBounds self ⟨.trait, false⟩
        return ⟨.other, last.braceEnd⟩
      else return TypeShape.simple

/-- A path as a type. Arguments in parentheses are for bounds alone. -/
def pathType (self : Rules) : Reader (PathShape × TypeKind) := do
  let p ← qualifiedPath self false
  if p.qualified then return (p, .other)
  return (p, if p.segments = 1 && !p.leading then .oneName else .plainPath)

/-- Whether a bound can start here. -/
def atBound (ts : List Token) : Bool :=
  atAnyWord ts || atPunct "::" ts || atPunct "?" ts || atLifetime ts || atGroup .paren ts

/-- Bounds after the path of a trait object; a plus sign may end them. Gives whether the last token
is a brace. -/
def objectRest (self : Rules) : Reader Bool := fun s => go (s.tokens.length + 1) false s
where
  go : Nat → Bool → Reader Bool
    | 0, brace => pure brace
    | n + 1, brace => do
      if ← punct? "+" then
        if ← ahead atBound then go n (← self (.bound false false)).braceEnd
        else return brace
      else return brace

/-- A type that starts with a path: the path, a macro invocation, or a trait object. -/
def pathOrObjectType (self : Rules) (bound plus : Bool) : Reader TypeShape := do
  let (p, kind) ← pathType self
  if p.qualified then return ⟨kind, false⟩
  if p.plain && (← ahead fun ts => atPunct "!" ts && !atPunct "!=" ts) then
    punct "!"
    let d ← anyGroup
    return ⟨.other, d = .brace⟩
  if plus && (← ahead (atPunct "+")) then return ⟨.other, ← objectRest self⟩
  return ⟨if bound then .soloBound else kind, false⟩

def arrayOrSlice (self : Rules) : Reader Unit :=
  group .bracket do
    let _ ← self (.type true)
    if ← punct? ";" then let _ ← self (.expr true)

def typePhrase (self : Rules) (plus : Bool) : Reader TypeShape := do
  let bound ← binder? self
  if bound then
    let ts ← tokens
    if !(atName ts || atWord "fn" ts || atWord "unsafe" ts || atWord "extern" ts ||
        atWord "super" ts || atWord "self" ts || atWord "Self" ts || atWord "crate" ts) then fail
  let start ← here
  let ts ← tokens
  if atGroup .paren ts then parenType self plus
  else if atWord "fn" ts || atWord "unsafe" ts || atWord "extern" ts then functionType self
  else if atBuiltin ts then
    builtin
    return TypeShape.simple
  else if atName ts || atWord "super" ts || atWord "self" ts || atWord "Self" ts ||
      atWord "crate" ts || atPunct "::" ts || atPunct "<" ts then
    pathOrObjectType self bound plus
  else if atWord "dyn" ts then
    word "dyn"
    let _ ← punct? "*"
    let bs ← objectBounds self start plus
    return ⟨.other, lastBrace bs⟩
  else if atGroup .bracket ts then
    arrayOrSlice self
    return TypeShape.simple
  else if atPunct "*" ts then
    punct "*"
    if !(← word? "const") then word "mut"
    let t ← self (.type false)
    return ⟨.other, t.braceEnd⟩
  else if atPunct "&" ts then
    punct "&"
    let _ ← lifetime?
    let _ ← word? "mut"
    let t ← self (.type false)
    return ⟨.other, t.braceEnd⟩
  else if atPunct "!" ts then
    punct "!"
    return TypeShape.simple
  else if atWord "impl" ts then
    word "impl"
    let bs ← boundList self plus true true
    if bs.all fun b => b.kind = .lifetime || b.kind = .capture then failAt start
    return ⟨.other, lastBrace bs⟩
  else if atWord "_" ts then
    word "_"
    return TypeShape.simple
  else if atLifetime ts then
    let bs ← objectBounds self start true
    return ⟨.other, lastBrace bs⟩
  else fail

end TaskDriver.Definition.Grammar
