import TaskDriver.Configuration.Basic
import TaskDriver.Yaml.Node
import TaskDriver.Yaml.Scalar

/-! A configuration from a document of settings. Entries with unknown names are passed over. A
group, a list or a table that is left empty is empty; anything else that does not fit is a
mistake. -/
namespace TaskDriver.Configuration.Document

open Yaml
open Toml (Value Table Datetime datetimeKey)

/-- The whole document, and how many aliases may still be followed. -/
abbrev Fitting (α : Type) := ReaderT Node (StateT Nat Option) α

def misfit {α : Type} : Fitting α :=
  failure

/-- The node that an alias stands for, any other node itself. -/
def resolve : Node → Fitting Node
  | .alias number => do
    match ← get with
    | 0 => misfit
    | n + 1 =>
      set n
      match (← read).anchored? number with
      | some node => pure node
      | none => misfit
  | node => pure node

/-- Documents may use each alias about a hundred times. -/
def aliasLimit (root : Node) : Nat :=
  100 * root.size

/-- How many lists and tables may stand in one another. -/
def depthLimit : Nat := 128

def isEmptyNode : Node → Bool
  | .scalar _ .plain [] => true
  | _ => false

/-- Any scalar is a string. -/
def stringOf (n : Node) : Fitting String := do
  match ← resolve n with
  | .scalar _ _ s => pure (String.ofList s)
  | _ => misfit

/-- A truth value or a number stands without quotes, or in a literal block with its tag. -/
def bareText (tag : String) (n : Node) : Fitting (List Char) := do
  match ← resolve n with
  | .scalar _ .plain s => pure s
  | .scalar m .literal s => if m.tag = some (coreTag tag) then pure s else misfit
  | _ => misfit

def booleanOf (n : Node) : Fitting Bool := do
  match boolean? (← bareText "bool" n) with
  | some b => pure b
  | none => misfit

def naturalOf (n : Node) : Fitting Nat := do
  match natural? wordLimit (← bareText "int" n) with
  | some i => pure i
  | none => misfit

/-- A text that may be left out. -/
def optionalOf (n : Node) : Fitting (Option String) := do
  match ← resolve n with
  | .scalar m .plain s =>
    if m.tag = some (coreTag "null") then (if isNull s then pure none else misfit)
    else if m.tag.isNone && (s = [] || isNull s) then pure none
    else pure (some (String.ofList s))
  | .scalar _ _ s => pure (some (String.ofList s))
  | _ => misfit

def itemsOf (n : Node) : Fitting (List Node) := do
  match ← resolve n with
  | .sequence _ items => pure items
  | n => if isEmptyNode n then pure [] else misfit

def entriesOf (n : Node) : Fitting (List (Node × Node)) := do
  match ← resolve n with
  | .mapping _ entries => pure entries
  | n => if isEmptyNode n then pure [] else misfit

def stringsOf (n : Node) : Fitting (List String) := do
  (← itemsOf n).mapM stringOf

/-- One entry of a group; a known name must not be used twice. -/
def entryOf {α : Type} (known : List (String × (α → Node → Fitting α)))
    (state : α × List String) (entry : Node × Node) : Fitting (α × List String) := do
  let (value, seen) := state
  let name ← stringOf entry.1
  match known.find? (·.1 = name) with
  | none => pure state
  | some (_, step) =>
    if name ∈ seen then misfit else pure (← step value entry.2, name :: seen)

/-- Reads a group of settings. -/
def groupOf {α : Type} (known : List (String × (α → Node → Fitting α))) (start : α) (n : Node) :
    Fitting α := do
  let entries ← entriesOf n
  let (value, _) ← entries.foldlM (entryOf known) (start, [])
  pure value

def runtimeOf (start : RuntimeSource) : Node → Fitting RuntimeSource :=
  groupOf
    [("version", fun r v => do pure { r with version := ← stringOf v }),
      ("path", fun r v => do pure { r with path := ← optionalOf v })]
    start

def compilerOf (start : CompilerSettings) : Node → Fitting CompilerSettings :=
  groupOf
    [("cargo", fun c v => do pure { c with cargo := ← stringOf v }),
      ("release", fun c v => do pure { c with release := ← booleanOf v }),
      ("args", fun c v => do pure { c with args := ← stringsOf v })]
    start

/-! ## Values -/

/-- A value needs a signed number of 64 bits for a whole number. -/
def scalarValue (m : Marks) (style : Style) (s : List Char) : Fitting Value :=
  match scalar? m.tag style s with
  | some (.text t) => pure (.string (String.ofList t))
  | some (.boolean b) => pure (.boolean b)
  | some (.integer i) => if i < signedLimit then pure (.integer i) else misfit
  | some (.float x) => pure (.float x)
  | _ => misfit

def datetimeOf (n : Node) : Fitting Value := do
  match Datetime.ofText? (← stringOf n).toList with
  | some d => pure (.datetime d)
  | none => misfit

/-- The first key of a table is a text by its value too. -/
def firstKey (n : Node) : Fitting String := do
  match ← resolve n with
  | .scalar m style s =>
    if m.tag.any isOwnTag then misfit
    else
      match scalar? m.tag style s with
      | some (.text t) => pure (String.ofList t)
      | _ => misfit
  | _ => misfit

/-- A table from its entries, each key once. A first key that stands for dates stands alone. -/
def tableOf (value : Node → Fitting Value) : List (Node × Node) → Fitting Value
  | [] => pure (.table [])
  | (k, v) :: es => do
    let name ← firstKey k
    if name = datetimeKey then
      let d ← datetimeOf v
      if es.isEmpty then pure d else misfit
    else
      let start : Table := [(name, ← value v)]
      let t ← es.foldlM (fun (t : Table) (k, v) => do
        let name ← stringOf k
        if t.contains name then misfit else pure (t.insert name (← value v))) start
      pure (.table t)

/-- The value of a node with fewer than `depth` levels of lists and tables in it. -/
def valueOf : Nat → Node → Fitting Value
  | 0, _ => misfit
  | depth + 1, n => do
    let n ← resolve n
    if n.marks.tag.any isOwnTag then misfit
    else
      match n with
      | .scalar m style s => scalarValue m style s
      | .sequence _ items =>
        if depth = 0 then misfit else pure (.array (← items.mapM (valueOf depth)))
      | .mapping _ entries =>
        if depth = 0 then misfit else tableOf (valueOf depth) entries
      | .alias _ => misfit

/-- The dependencies stand two levels deep; of two with one name the later one counts. -/
def dependenciesOf (n : Node) : Fitting Table := do
  (← entriesOf n).foldlM (fun (t : Table) (k, v) => do
    let name ← stringOf k
    pure (t.insert name (← valueOf (depthLimit - 1) v))) []

def configurationOf : Node → Fitting Configuration :=
  groupOf
    [("timeout_secs", fun c v => do pure { c with timeoutSecs := ← naturalOf v }),
      ("dispatch", fun c v => do pure { c with dispatch := ← stringOf v }),
      ("runtime", fun c v => do pure { c with runtime := ← runtimeOf c.runtime v }),
      ("compiler", fun c v => do pure { c with compiler := ← compilerOf c.compiler v }),
      ("dependencies", fun c v => do pure { c with dependencies := ← dependenciesOf v })]
    standard

end Document

/-- A configuration from the text of a document; a text without a document says nothing. -/
def ofYaml? (s : List Char) : Option Configuration :=
  match Yaml.document? s with
  | none => none
  | some none => some standard
  | some (some root) =>
    ((Document.configurationOf root).run root |>.run (Document.aliasLimit root)).map (·.1)

end TaskDriver.Configuration
