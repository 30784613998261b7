import TaskDriver.Definition.Grammar.Expression

/-! Items: functions, types, traits, implementations, modules and imports. Only a function with a
body is given back; all else is checked and dropped. -/
namespace TaskDriver.Definition.Grammar
open Reader

/-- Whether a function starts here, after what may qualify it. -/
def startsFunction (safe : Bool) (ts : List Token) : Bool :=
  let ts := dropWord "const" ts
  let ts := dropWord "async" ts
  let ts := if safe && atWord "safe" ts then after ts else dropWord "unsafe" ts
  let ts :=
    if atWord "extern" ts then
      let ts := after ts
      if atString ts then after ts else ts
    else ts
  atWord "fn" ts
where
  dropWord (w : String) (ts : List Token) : List Token :=
    if atWord w ts then after ts else ts

/-- The receiver of a method up to its type; gives its place and whether it is a reference. A word
with two colons after it starts a path. -/
def receiver : Reader (Place × Bool) := do
  let reference ← punct? "&"
  if reference then let _ ← lifetime?
  let _ ← word? "mut"
  let place ← here
  word "self"
  if ← ahead (atPunct "::") then fail
  return (place, reference)

/-- What a parameter turns out to be. -/
inductive Parameter
  | receiver (place : Place)
  | typed
  | variadic

def parameter (self : Rules) : Reader Parameter := do
  match ← attempt receiver with
  | some (place, reference) =>
    if !reference then
      if ← punct? ":" then let _ ← self (.type true)
    return .receiver place
  | none =>
    if ← ahead fun ts => atName ts && atPunct "<" (after ts) then
      let _ ← self (.type true)
      return .typed
    let _ ← self .pattern
    punct ":"
    if ← punct? "..." then return .variadic
    let _ ← self (.type true)
    return .typed

/-- The parameters of a function. A receiver stands first and alone; three dots end the list. -/
def functionParameters (self : Rules) : Reader Unit := fun s => go (s.tokens.length + 1) true s
where
  dots : Reader Unit := do
    if !(← atEnd) then punct ","
  go : Nat → Bool → Reader Unit
    | 0, _ => pure ()
    | n + 1, first => do
      if ← atEnd then return
      let _ ← outerAttributes self
      if ← punct? "..." then dots
      else
        match ← parameter self with
        | .variadic => dots
        | p =>
          match p with
          | .receiver place => if !first then failAt place
          | _ => pure ()
          if ← atEnd then return
          punct ","
          go n false

/-- A function up to its body; gives its name. -/
def signature (self : Rules) (safe : Bool) : Reader Name := do
  let _ ← word? "const"
  let _ ← word? "async"
  if !(← word? "unsafe") && safe then let _ ← word? "safe"
  interface?
  word "fn"
  let n ← name
  generics? self
  groupThen .paren (functionParameters self) fun _ => do
    let _ ← returnType? self true
    let _ ← whereClause? self
    return n

/-- A type after an equals sign, if there is one. -/
def definition? (self : Rules) : Reader Unit := do
  if ← punct? "=" then let _ ← self (.type true)

def valueOf? (self : Rules) : Reader Unit := do
  if ← punct? "=" then let _ ← self (.expr true)

/-- Where the `where` clause of an associated type may stand. -/
inductive WherePlace
  | beforeType
  | afterType
  | either
  deriving DecidableEq

/-- A type alias or associated type. -/
def typeItem (self : Rules) (default : Bool) (place : WherePlace) : Reader Unit := do
  let _ ← visibility
  if default then let _ ← word? "default"
  word "type"
  let _ ← name
  generics? self
  if ← punct? ":" then
    strictBounds self fun ts => atWord "where" ts || atPunct "=" ts || atPunct ";" ts
  let clause ← if place = .afterType then pure false else whereClause? self
  definition? self
  if !clause && place ≠ .beforeType then let _ ← whereClause? self
  punct ";"

/-- A constant from its name on. -/
def constItem (self : Rules) : Reader Unit := do
  if ← ahead fun ts => atName ts || atWord "_" ts then let _ ← anyWord
  else fail
  generics? self
  punct ":"
  let _ ← self (.type true)
  valueOf? self
  let _ ← whereClause? self
  punct ";"

def staticItem (self : Rules) : Reader Unit := do
  let _ ← visibility
  word "static"
  let _ ← word? "mut"
  let _ ← name
  if ← punct? "=" then
    let _ ← self (.expr true)
    punct ";"
  else
    punct ":"
    let _ ← self (.type true)
    if !(← punct? ";") then
      punct "="
      let _ ← self (.expr true)
      punct ";"

/-- One tree of an import; `root` says whether a path in braces may start with two colons. -/
def useTree (root : Bool) : Nat → Reader Unit
  | 0 => fail
  | n + 1 => do
    let ts ← tokens
    if atName ts || atWord "self" ts || atWord "super" ts || atWord "crate" ts ||
        atWord "try" ts then
      let _ ← anyWord
      if ← punct? "::" then useTree false n
      else if ← word? "as" then
        if ← ahead fun ts => atName ts || atWord "_" ts then let _ ← anyWord
        else fail
    else if atPunct "*" ts then punct "*"
    else if atGroup .brace ts then
      group .brace (commaSeparated do
        let rooted ← if root then punct? "::" else pure false
        useTree (root && !rooted) n)
    else fail

def tokenCount : List Token → Nat
  | [] => 0
  | .group _ inner _ _ :: ts => tokenCount inner + tokenCount ts + 1
  | _ :: ts => tokenCount ts + 1

def useItem : Reader Unit := do
  let _ ← visibility
  word "use"
  let rooted ← punct? "::"
  useTree (!rooted) (tokenCount (← tokens) + 1)
  punct ";"

def externCrate : Reader Unit := do
  let _ ← visibility
  word "extern"
  word "crate"
  if ← ahead (atWord "self") then word "self" else let _ ← name
  if ← word? "as" then
    if ← ahead (atWord "_") then word "_" else let _ ← name
  punct ";"

def macroCall : Reader Unit := do
  let d ← invocation
  if d ≠ .brace then punct ";"

/-- A macro invocation as an item, which may name what it defines. -/
def macroItem : Reader Unit := do
  plainPath
  punct "!"
  if ← ahead fun ts => atName ts || atWord "try" ts then let _ ← anyWord
  let d ← anyGroup
  if d ≠ .brace then punct ";"

def atMacroPath (ts : List Token) : Bool :=
  atName ts || atWord "self" ts || atWord "super" ts || atWord "crate" ts || atPunct "::" ts

/-- A block with attributes inside, as the body of a function. -/
def body (self : Rules) : Reader (List (List Char)) :=
  group .brace (attributedStatements self)

/-- Items in braces, after inner attributes. -/
def itemBlock (self : Rules) (one : Reader Unit) : Reader Unit :=
  group .brace do
    let _ ← innerAttributes self
    let _ ← all one

def foreignItem (self : Rules) : Reader Unit := do
  let _ ← outerAttributes self
  let (written, ts) ← preview visibility
  if startsFunction true ts then
    let _ ← visibility
    let _ ← signature self true
    if ← ahead (atGroup .brace) then let _ ← body self
    else punct ";"
  else if atWord "static" ts ||
      ((atWord "unsafe" ts || atWord "safe" ts) && atWord "static" (after ts)) then
    let _ ← visibility
    if !(← word? "unsafe") then let _ ← word? "safe"
    word "static"
    let _ ← word? "mut"
    let _ ← name
    punct ":"
    let _ ← self (.type true)
    valueOf? self
    punct ";"
  else if atWord "type" ts then typeItem self false .either
  else if !written && atMacroPath ts then macroCall
  else failBefore ts

def foreignBlock (self : Rules) : Reader Unit := do
  let _ ← word? "unsafe"
  if !(← ahead (atWord "extern")) then fail
  interface?
  itemBlock self (foreignItem self)

/-- A method of a trait, whose body may be left out. -/
def traitMethod (self : Rules) : Reader Unit := do
  let _ ← signature self false
  if ← ahead (atGroup .brace) then let _ ← body self
  else punct ";"

def traitItem (self : Rules) : Reader Unit := do
  let _ ← outerAttributes self
  let written ← visibility
  let default ← word? "default"
  let ts ← tokens
  if startsFunction false ts then traitMethod self
  else if atWord "const" ts then
    let two := after ts
    if atName two || atWord "_" two then
      word "const"
      constItem self
    else if atWord "async" two || atWord "unsafe" two || atWord "extern" two then traitMethod self
    else failBefore two
  else if atWord "type" ts then typeItem self false .afterType
  else if !written && !default && atMacroPath ts then macroCall
  else fail

def implMethod (self : Rules) : Reader Unit := do
  let _ ← visibility
  let _ ← word? "default"
  let _ ← signature self false
  if !(← punct? ";") then let _ ← body self

def implItem (self : Rules) : Reader Unit := do
  let _ ← outerAttributes self
  let (written, ts) ← preview visibility
  let default := atWord "default" ts && !atPunct "!" (after ts)
  let ts := if default then after ts else ts
  if startsFunction false ts then implMethod self
  else if atWord "const" ts then
    let _ ← visibility
    if default then word "default"
    word "const"
    constItem self
  else if atWord "type" ts then typeItem self true .afterType
  else if !written && !default && atMacroPath ts then macroCall
  else failBefore ts

def implementation (self : Rules) : Reader Unit := do
  let _ ← visibility
  let _ ← word? "default"
  let _ ← word? "unsafe"
  word "impl"
  if ← ahead opensGenerics then generics? self
  if ← ahead fun ts => atWord "const" ts || (atPunct "?" ts && atWord "const" (after ts)) then
    let _ ← punct? "?"
    word "const"
  if ← ahead fun ts => atPunct "!" ts && !atGroup .brace (after ts) then punct "!"
  let _ ← self (.type true)
  if ← word? "for" then let _ ← self (.type true)
  let _ ← whereClause? self
  itemBlock self (implItem self)

/-- A trait after its name and parameters. -/
def traitRest (self : Rules) : Reader Unit := do
  if ← punct? ":" then
    strictBounds self fun ts => atWord "where" ts || atGroup .brace ts
  let _ ← whereClause? self
  itemBlock self (traitItem self)

def traitItemOf (self : Rules) : Reader Unit := do
  let _ ← visibility
  let _ ← word? "unsafe"
  let _ ← word? "auto"
  word "trait"
  let _ ← name
  generics? self
  traitRest self

def traitOrAlias (self : Rules) : Reader Unit := do
  let _ ← visibility
  word "trait"
  let _ ← name
  generics? self
  let ts ← tokens
  if atGroup .brace ts || atPunct ":" ts || atWord "where" ts then traitRest self
  else if ← punct? "=" then
    strictBounds self fun ts => atWord "where" ts || atPunct ";" ts
    let _ ← whereClause? self
    punct ";"
  else fail

/-- A field with a name, which may be a nested structure if the name is left out. -/
def namedField (self : Rules) : Nat → Reader Unit
  | 0 => fail
  | n + 1 => do
    let _ ← outerAttributes self
    let _ ← visibility
    let anonymous ← ahead (atWord "_")
    if anonymous then word "_" else let _ ← name
    punct ":"
    if ← ahead fun ts => anonymous &&
        (atWord "struct" ts || (atWord "union" ts && atGroup .brace (after ts))) then
      let _ ← anyWord
      group .brace (commaSeparated (namedField self n))
    else let _ ← self (.type true)

def namedFields (self : Rules) : Reader Unit := do
  let depth := tokenCount (← tokens) + 1
  group .brace (commaSeparated (namedField self depth))

def plainField (self : Rules) : Reader Unit := do
  let _ ← outerAttributes self
  let _ ← visibility
  let _ ← self (.type true)

def plainFields (self : Rules) : Reader Unit :=
  group .paren (commaSeparated (plainField self))

def structItem (self : Rules) : Reader Unit := do
  let _ ← visibility
  word "struct"
  let _ ← name
  generics? self
  let clause ← whereClause? self
  let ts ← tokens
  if !clause && atGroup .paren ts then
    plainFields self
    let _ ← whereClause? self
    punct ";"
  else if atGroup .brace ts then namedFields self
  else punct ";"

def variant (self : Rules) : Reader Unit := do
  let _ ← outerAttributes self
  let _ ← visibility
  let _ ← name
  let ts ← tokens
  if atGroup .brace ts then namedFields self
  else if atGroup .paren ts then plainFields self
  valueOf? self

def enumItem (self : Rules) : Reader Unit := do
  let _ ← visibility
  word "enum"
  let _ ← name
  generics? self
  let _ ← whereClause? self
  group .brace (commaSeparated (variant self))

def unionItem (self : Rules) : Reader Unit := do
  let _ ← visibility
  word "union"
  let _ ← name
  generics? self
  let _ ← whereClause? self
  namedFields self

def moduleItem (self : Rules) : Reader Unit := do
  let _ ← visibility
  let _ ← word? "unsafe"
  word "mod"
  if ← ahead (atWord "try") then word "try" else let _ ← name
  if ← ahead (atGroup .brace) then itemBlock self do let _ ← self .item
  else punct ";"

/-- A macro defined by the keyword: its parameters and its body are any tokens. -/
def macroDefinition : Reader Unit := do
  let _ ← visibility
  word "macro"
  let _ ← name
  if ← ahead (atGroup .paren) then let _ ← anyGroup
  if ← ahead (atGroup .brace) then let _ ← anyGroup
  else fail

def functionItem (self : Rules) (docs : List (List Char)) : Reader (Option FunctionItem) := do
  let _ ← visibility
  let n ← signature self false
  if ← punct? ";" then return none
  let inner ← body self
  return some ⟨n, docs ++ inner⟩

/-- An item other than a function. -/
def otherItem (self : Rules) (written : Bool) (ts : List Token) : Reader Unit := do
  let two := after ts
  if atWord "extern" ts then
    if atWord "crate" two then externCrate
    else if atGroup .brace two then foreignBlock self
    else if atString two && atGroup .brace (after two) then foreignBlock self
    else failBefore (if atString two then after two else two)
  else if atWord "use" ts then useItem
  else if atWord "static" ts then staticItem self
  else if atWord "const" ts then
    let _ ← visibility
    word "const"
    constItem self
  else if atWord "unsafe" ts then
    if atWord "trait" two || (atWord "auto" two && atWord "trait" (after two)) then
      traitItemOf self
    else if atWord "impl" two then implementation self
    else if atWord "extern" two then foreignBlock self
    else if atWord "mod" two then moduleItem self
    else failBefore two
  else if atWord "mod" ts then moduleItem self
  else if atWord "type" ts then typeItem self false .beforeType
  else if atWord "struct" ts then structItem self
  else if atWord "enum" ts then enumItem self
  else if atWord "union" ts && atName two then unionItem self
  else if atWord "trait" ts then traitOrAlias self
  else if atWord "auto" ts && atWord "trait" two then traitItemOf self
  else if atWord "impl" ts || (atWord "default" ts && !atPunct "!" two) then implementation self
  else if atWord "macro" ts then macroDefinition
  else if !written && atMacroPath ts then macroItem
  else failBefore ts

/-- An item after its attributes. -/
def itemRest (self : Rules) (docs : List (List Char)) : Reader (Option FunctionItem) := do
  let (written, ts) ← preview visibility
  if startsFunction false ts then functionItem self docs
  else
    otherItem self written ts
    return none

def itemPhrase (self : Rules) : Reader (Option FunctionItem) := do
  itemRest self (← outerAttributes self)

end TaskDriver.Definition.Grammar
