import TaskDriver.Build.Fault
import TaskDriver.Toml.Document

/-! A configuration from a file of settings. Entries with unknown names are passed over; the first
entry that does not fit is the fault. A list in the place of a group of settings gives them in
order. -/
namespace TaskDriver.Configuration

open Toml

/-- Where a mistake in an item is reported; a table without a place has that of its key. -/
def placeOf (k : Key) : Item → Nat
  | .leaf _ p => p
  | .array _ p => p
  | .table _ (some p) _ => p
  | .tables (.table _ (some p) _ :: _) => p
  | _ => k.place

abbrev Fitted (α : Type) := Except Nat α

def misfit {α : Type} (k : Key) (v : Item) : Fitted α :=
  .error (placeOf k v)

def stringOf (k : Key) : Item → Fitted String
  | .leaf (.string s) _ => .ok s
  | v => misfit k v

def booleanOf (k : Key) : Item → Fitted Bool
  | .leaf (.boolean b) _ => .ok b
  | v => misfit k v

def naturalOf (k : Key) : Item → Fitted Nat
  | .leaf (.integer i) p => if 0 ≤ i then .ok i.toNat else .error p
  | v => misfit k v

def stringsOf (k : Key) : Item → Fitted (List String)
  | .array items _ => items.mapM (stringOf k)
  | .tables items => items.mapM (stringOf k)
  | v => misfit k v

/-- What an array gives to the settings of a group, one after the other. -/
def inOrder {α : Type} (steps : List (α → Item → Fitted α)) (start : α) (items : List Item) :
    Fitted α :=
  (steps.zip items).foldlM (fun a (step, v) => step a v) start

def byName {α : Type} (step : α → Key → Item → Fitted α) (start : α) (es : Entries) : Fitted α :=
  es.foldlM (fun a (k, v) => step a k v) start

/-- A group of settings, by name or in order. A date has no names that are known. -/
def groupOf {α : Type} (named : α → Key → Item → Fitted α) (ordered : List (α → Item → Fitted α))
    (start : α) (k : Key) : Item → Fitted α
  | .table _ _ es => byName named start es
  | .array items _ => inOrder ordered start items
  | .tables items => inOrder ordered start items
  | .leaf (.datetime _) _ => .ok start
  | v => misfit k v

def runtimeOf (start : RuntimeSource) (k : Key) : Item → Fitted RuntimeSource :=
  groupOf
    (fun r k v =>
      if k.name = "version" then do pure { r with version := ← stringOf k v }
      else if k.name = "path" then do pure { r with path := some (← stringOf k v) }
      else pure r)
    [fun r v => do pure { r with version := ← stringOf k v },
      fun r v => do pure { r with path := some (← stringOf k v) }]
    start k

def compilerOf (start : CompilerSettings) (k : Key) : Item → Fitted CompilerSettings :=
  groupOf
    (fun c k v =>
      if k.name = "cargo" then do pure { c with cargo := ← stringOf k v }
      else if k.name = "release" then do pure { c with release := ← booleanOf k v }
      else if k.name = "args" then do pure { c with args := ← stringsOf k v }
      else pure c)
    [fun c v => do pure { c with cargo := ← stringOf k v },
      fun c v => do pure { c with release := ← booleanOf k v },
      fun c v => do pure { c with args := ← stringsOf k v }]
    start k

def leafValue : Leaf → Value
  | .string s => .string s
  | .integer i => .integer i
  | .float x => .float x
  | .boolean b => .boolean b
  | .datetime d => .datetime d

/-- The date that a table stands for, by its first key. -/
def datetimeOf (k : Key) : Item → Fitted Value
  | .leaf (.string s) p =>
    match Datetime.ofText? s.toList with
    | some d => .ok (.datetime d)
    | none => .error p
  | v => misfit k v

mutual

/-- The value that an item stands for. -/
def valueOf : Item → Fitted Value
  | .leaf v _ => .ok (leafValue v)
  | .array items _ => do pure (.array (← valuesOf items))
  | .tables items => do pure (.array (← valuesOf items))
  | .table _ _ es => tableValue es

def valuesOf : List Item → Fitted (List Value)
  | [] => .ok []
  | v :: vs => do
    let a ← valueOf v
    let as ← valuesOf vs
    pure (a :: as)

def tableValue : Entries → Fitted Value
  | [] => .ok (.table [])
  | (k, v) :: es =>
    if k.name = datetimeKey then datetimeOf k v
    else do
      let a ← valueOf v
      let t ← restValue [] es
      pure (.table (Keyed.insert k.name a t))

def restValue (t : Table) : Entries → Fitted Table
  | [] => .ok t
  | (k, v) :: es => do
    let a ← valueOf v
    restValue (Keyed.insert k.name a t) es

end

/-- The dependencies, by name. A date alone is taken for a table with the entry that stands for
dates. -/
def dependenciesOf (k : Key) : Item → Fitted Table
  | .table _ _ es => restValue [] es
  | .leaf (.datetime d) _ => .ok [(datetimeKey, .string (String.ofList d.text))]
  | v => misfit k v

def setting (c : Configuration) (k : Key) (v : Item) : Fitted Configuration :=
  if k.name = "timeout_secs" then do pure { c with timeoutSecs := ← naturalOf k v }
  else if k.name = "dispatch" then do pure { c with dispatch := ← stringOf k v }
  else if k.name = "runtime" then do pure { c with runtime := ← runtimeOf c.runtime k v }
  else if k.name = "compiler" then do pure { c with compiler := ← compilerOf c.compiler k v }
  else if k.name = "dependencies" then do pure { c with dependencies := ← dependenciesOf k v }
  else pure c

/-- A configuration from the text of a file, or the position of the first fault. -/
def ofToml (s : List Char) : Except Text.Position Configuration :=
  match (do byName setting standard (← entriesOf s) : Fitted Configuration) with
  | .ok c => .ok c
  | .error place => .error (positionOf s place)

end TaskDriver.Configuration
