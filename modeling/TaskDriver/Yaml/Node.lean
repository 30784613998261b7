import TaskDriver.Yaml.Layout

/-! Documents as trees. An alias stands for the node that has its number. -/
namespace TaskDriver.Yaml

structure Marks where
  anchor : Option Nat
  tag : Option Octets

def Marks.none : Marks :=
  ⟨.none, .none⟩

inductive Node
  | scalar (marks : Marks) (style : Style) (text : List Char)
  | sequence (marks : Marks) (items : List Node)
  | mapping (marks : Marks) (entries : List (Node × Node))
  | alias (number : Nat)

namespace Node

def empty : Node :=
  .scalar .none .plain []

def marks : Node → Marks
  | .scalar m _ _ => m
  | .sequence m _ => m
  | .mapping m _ => m
  | .alias _ => .none

mutual

/-- The number of scalars, aliases and brackets. -/
def size : Node → Nat
  | .scalar _ _ _ => 1
  | .alias _ => 1
  | .sequence _ items => 2 + sizeOfItems items
  | .mapping _ entries => 2 + sizeOfEntries entries

def sizeOfItems : List Node → Nat
  | [] => 0
  | n :: ns => size n + sizeOfItems ns

def sizeOfEntries : List (Node × Node) → Nat
  | [] => 0
  | (k, v) :: es => size k + size v + sizeOfEntries es

end

mutual

/-- A node and the nodes in it, in the order of their first tokens. -/
def nodes : Node → List Node
  | .scalar m s t => [.scalar m s t]
  | .alias n => [.alias n]
  | .sequence m items => .sequence m items :: nodesOfItems items
  | .mapping m entries => .mapping m entries :: nodesOfEntries entries

def nodesOfItems : List Node → List Node
  | [] => []
  | n :: ns => nodes n ++ nodesOfItems ns

def nodesOfEntries : List (Node × Node) → List Node
  | [] => []
  | (k, v) :: es => nodes k ++ nodes v ++ nodesOfEntries es

end

/-- The last node with a number. -/
def anchored? (root : Node) (number : Nat) : Option Node :=
  root.nodes.reverse.find? (·.marks.anchor = some number)

end Node

/-! ## From tokens to nodes -/

/-- What the directives said, the numbers of the anchors so far, and the tokens ahead. -/
structure Ahead where
  handles : List (List Char × Octets)
  anchors : List (List Char × Nat)
  tokens : List Token

abbrev Reading (α : Type) := StateT Ahead Option α

def ahead : Reading (Option Token) := fun a =>
  some (a.tokens.head?, a)

/-- One of the tokens is ahead. -/
def nears (ts : List Token) : Reading Bool := fun a =>
  some (a.tokens.head?.any (· ∈ ts), a)

def drop : Reading Unit := fun a =>
  some ((), { a with tokens := a.tokens.drop 1 })

def demand (t : Token) : Reading Unit := fun a =>
  if a.tokens.head? = some t then some ((), { a with tokens := a.tokens.drop 1 }) else none

/-- Reads the token if it is ahead. -/
def takes (t : Token) : Reading Bool := fun a =>
  if a.tokens.head? = some t then some (true, { a with tokens := a.tokens.drop 1 })
  else some (false, a)

/-- The number of an anchor is the count of the names before it. A name used again takes a new
number, which the next new name shares. -/
def anchorNumber (name : List Char) : Reading Nat := fun a =>
  let number := a.anchors.length
  let others := a.anchors.filter (·.1 ≠ name)
  some (number, { a with anchors := (name, number) :: others })

def aliasNumber (name : List Char) : Reading Nat := fun a =>
  (a.anchors.find? (·.1 = name)).map (·.2, a)

def fullTag (handle : List Char) (suffix : Octets) : Reading Octets := fun a =>
  if handle = [] then some (suffix, a)
  else (a.handles.find? (·.1 = handle)).map (·.2 ++ suffix, a)

/-- An anchor and a tag, in either order. -/
def readMarks : Reading (Option (List Char) × Option Octets) := do
  match ← ahead with
  | some (.anchor name) =>
    drop
    match ← ahead with
    | some (.tag h s) =>
      drop
      return (some name, some (← fullTag h s))
    | _ => return (some name, none)
  | some (.tag h s) =>
    drop
    match ← ahead with
    | some (.anchor name) =>
      drop
      return (some name, some (← fullTag h s))
    | _ => return (none, some (← fullTag h s))
  | _ => return (none, none)

/-- A scalar with the tag of one exclamation mark has no tag. -/
def scalarTag (tag : Option Octets) : Option Octets :=
  tag.filter (· ≠ octetsOf ['!'])

/-- Where a node may stand: between brackets, in a block, or in a block where the entries of a
sequence need no indentation. -/
inductive Spot
  | flow
  | block
  | unindented
  deriving DecidableEq

mutual

def readNode (n : Nat) (spot : Spot) : Reading Node :=
  match n with
  | 0 => failure
  | n + 1 => do
    match ← ahead with
    | some (.alias name) =>
      drop
      return .alias (← aliasNumber name)
    | _ =>
      let (name, tag) ← readMarks
      let isMarked := name.isSome || tag.isSome
      let anchor ← name.mapM anchorNumber
      let marks : Marks := ⟨anchor, tag⟩
      match ← ahead with
      | some .entry =>
        if spot = .unindented then return .sequence marks (← readOpenItems n)
        else if isMarked then return .scalar marks .plain []
        else failure
      | some (.scalar style text) =>
        drop
        return .scalar ⟨anchor, scalarTag tag⟩ style text
      | some .flowSequenceStart =>
        drop
        return .sequence marks (← readFlowItems n true)
      | some .flowMappingStart =>
        drop
        return .mapping marks (← readFlowEntries n true)
      | some .blockSequenceStart =>
        if spot = .flow then (if isMarked then return .scalar marks .plain [] else failure)
        else
          drop
          return .sequence marks (← readItems n)
      | some .blockMappingStart =>
        if spot = .flow then (if isMarked then return .scalar marks .plain [] else failure)
        else
          drop
          return .mapping marks (← readEntries n)
      | _ => if isMarked then return .scalar marks .plain [] else failure

/-- A node, or an empty one if one of the tokens is ahead. -/
def readNodeUnless (n : Nat) (spot : Spot) (ts : List Token) : Reading Node :=
  match n with
  | 0 => failure
  | n + 1 => do
    if ← nears ts then return .empty else readNode n spot

def readItems (n : Nat) : Reading (List Node) :=
  match n with
  | 0 => failure
  | n + 1 => do
    if ← takes .entry then
      let item ← readNodeUnless n .block [.entry, .blockEnd]
      return item :: (← readItems n)
    else
      demand .blockEnd
      return []

def readOpenItems (n : Nat) : Reading (List Node) :=
  match n with
  | 0 => failure
  | n + 1 => do
    if ← takes .entry then
      let item ← readNodeUnless n .block [.entry, .key, .value, .blockEnd]
      return item :: (← readOpenItems n)
    else return []

def readEntries (n : Nat) : Reading (List (Node × Node)) :=
  match n with
  | 0 => failure
  | n + 1 => do
    if ← takes .key then
      let key ← readNodeUnless n .unindented [.key, .value, .blockEnd]
      let value ←
        if ← takes .value then readNodeUnless n .unindented [.key, .value, .blockEnd]
        else pure .empty
      return (key, value) :: (← readEntries n)
    else
      demand .blockEnd
      return []

/-- An entry that stands alone between the brackets of a sequence is a mapping. A key that is left
out takes the token after it with it. -/
def readFlowItem (n : Nat) : Reading Node :=
  match n with
  | 0 => failure
  | n + 1 => do
    if ← takes .key then
      let key ←
        if ← nears [.value, .flowEntry, .flowSequenceEnd] then do
          drop
          pure .empty
        else readNode n .flow
      let value ←
        if ← takes .value then readNodeUnless n .flow [.flowEntry, .flowSequenceEnd]
        else pure .empty
      return .mapping .none [(key, value)]
    else readNode n .flow

def readFlowItems (n : Nat) (first : Bool) : Reading (List Node) :=
  match n with
  | 0 => failure
  | n + 1 => do
    if ← takes .flowSequenceEnd then return []
    else
      if !first then demand .flowEntry
      if ← takes .flowSequenceEnd then return []
      else
        let item ← readFlowItem n
        return item :: (← readFlowItems n false)

def readFlowEntry (n : Nat) : Reading (Node × Node) :=
  match n with
  | 0 => failure
  | n + 1 => do
    if ← takes .key then
      let key ← readNodeUnless n .flow [.value, .flowEntry, .flowMappingEnd]
      let value ←
        if ← takes .value then readNodeUnless n .flow [.flowEntry, .flowMappingEnd]
        else pure .empty
      return (key, value)
    else return (← readNode n .flow, .empty)

def readFlowEntries (n : Nat) (first : Bool) : Reading (List (Node × Node)) :=
  match n with
  | 0 => failure
  | n + 1 => do
    if ← takes .flowMappingEnd then return []
    else
      if !first then demand .flowEntry
      if ← takes .flowMappingEnd then return []
      else
        let entry ← readFlowEntry n
        return entry :: (← readFlowEntries n false)

end

/-! ## Documents -/

/-- What the directives before a document say. -/
structure Directives where
  version : Bool
  handles : List (List Char × Octets)

/-- Version 1.1 or 1.2, once; a handle has one meaning. -/
def readDirectives (d : Directives) : List Token → Option (Directives × List Token)
  | .version major minor :: ts =>
    if d.version || major ≠ 1 || (minor ≠ 1 && minor ≠ 2) then none
    else readDirectives { d with version := true } ts
  | .handle name stem :: ts =>
    if d.handles.any (·.1 = name) then none
    else readDirectives { d with handles := d.handles ++ [(name, stem)] } ts
  | ts => some (d, ts)

/-- The meanings of the two handles that need no directive. -/
def standardHandles : List (List Char × Octets) :=
  [(['!'], octetsOf ['!']), ("!!".toList, octetsOf "tag:yaml.org,2002:".toList)]

/-- The node of a document, which may be left out after its first line. -/
def readRoot (isExplicit : Bool) (ts : List Token) : Reading Node := do
  if isExplicit && (ts.head?.all fun t => t = .documentStart || t = .documentEnd || isDirective t)
  then return .empty
  else readNode (4 * ts.length + 4) .block
where
  isDirective : Token → Bool
    | .version _ _ => true
    | .handle _ _ => true
    | _ => false

/-- The one document of a text; `some none` if it has none. -/
def document? (s : List Char) : Option (Option Node) := do
  let ts ← tokens? s
  if ts = [] then return none
  let (d, body) ← readDirectives ⟨false, []⟩ ts
  let isExplicit := body.head? = some .documentStart
  if body.length < ts.length ∧ !isExplicit then failure
  let body := if isExplicit then body.drop 1 else body
  let (root, a) ← (readRoot isExplicit body).run ⟨d.handles ++ standardHandles, [], body⟩
  if a.tokens.all (· = .documentEnd) then return some root else failure

end TaskDriver.Yaml
