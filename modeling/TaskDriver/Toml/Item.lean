import TaskDriver.Toml.Value

/-! What a file of settings says, with the places where it says it. A place is the number of
characters from there to the end of the file. -/
namespace TaskDriver.Toml

structure Key where
  name : String
  place : Nat
  deriving DecidableEq, Repr

/-- How a table came to be, which decides who may still add to it. -/
inductive Origin
  /-- By a header of its own, or as the whole file. -/
  | header
  /-- On the way to the table of a longer header. -/
  | path
  /-- On the way of a dotted key. -/
  | dotted
  /-- In braces. -/
  | braces
  /-- On the way of a dotted key in braces. -/
  | dottedInBraces
  deriving DecidableEq, Repr

inductive Leaf
  | string (s : String)
  | integer (i : Int)
  | float (x : Number.Binary64)
  | boolean (b : Bool)
  | datetime (d : Datetime)

inductive Item
  | leaf (v : Leaf) (place : Nat)
  | array (items : List Item) (place : Nat)
  | table (origin : Origin) (place : Option Nat) (entries : List (Key × Item))
  /-- The tables of one array header, each from a header of its own. -/
  | tables (items : List Item)
  deriving Inhabited

abbrev Entries := List (Key × Item)

def Entries.find? (name : String) : Entries → Option Item
  | [] => none
  | (k, v) :: es => if k.name = name then some v else find? name es

def Entries.remove (name : String) (es : Entries) : Entries :=
  es.filter fun (k, _) => k.name ≠ name

/-- Puts another item in the place of that of a given name. -/
def Entries.replace (name : String) (v : Item) : Entries → Entries
  | [] => []
  | (k, u) :: es => if k.name = name then (k, v) :: es else (k, u) :: replace name v es

/-- What leads to a place in a table. -/
inductive Way
  | header
  | dottedKey
  | dottedKeyInBraces
  deriving DecidableEq, Repr

/-- The origin of tables made on the way. -/
def Way.origin : Way → Origin
  | .header => .path
  | .dottedKey => .dotted
  | .dottedKeyInBraces => .dottedInBraces

/-- Whether the way may lead through a table. -/
def Way.enters : Way → Origin → Bool
  | .header, o => o = .header ∨ o = .path ∨ o = .dotted
  | .dottedKey, o => o = .path ∨ o = .dotted
  | .dottedKeyInBraces, o => o = .dottedInBraces

/-- Changes the table at the end of a path, which is made where it is missing. Of an array of tables
the last one is meant. None if the path leads to something else, or the change cannot be made. -/
def descend (w : Way) (change : Origin → Entries → Option Entries) (origin : Origin) (es : Entries) :
    List Key → Option Entries
  | [] => change origin es
  | k :: ks =>
    match Entries.find? k.name es with
    | none => do
      let inner ← descend w change w.origin [] ks
      pure (es ++ [(k, .table w.origin none inner)])
    | some (.table o place inner) =>
      if w.enters o then do
        let inner ← descend w change o inner ks
        pure (Entries.replace k.name (.table o place inner) es)
      else none
    | some (.tables items) =>
      if w = .dottedKeyInBraces then none
      else match items.getLast? with
        | some (.table o place inner) => do
          let inner ← descend w change o inner ks
          pure (Entries.replace k.name (.tables (items.dropLast ++ [.table o place inner])) es)
        | _ => none
    | some _ => none

def Origin.isDotted (o : Origin) : Bool :=
  o = .dotted ∨ o = .dottedInBraces

/-- A new entry. A table that a dotted key made takes entries of dotted keys only, and any other
table only plain ones. -/
def addEntry (dotted : Bool) (k : Key) (v : Item) (origin : Origin) (es : Entries) : Option Entries :=
  if origin.isDotted ≠ dotted then none
  else if (Entries.find? k.name es).isSome then none
  else some (es ++ [(k, v)])

/-- Adds an entry under a dotted key, given by its path and its last part. -/
def addAt (w : Way) (path : List Key) (k : Key) (v : Item) (origin : Origin) (es : Entries) :
    Option Entries :=
  descend w (addEntry (!path.isEmpty) k v) origin es path

/-- A table in braces, from its entries in order. -/
def bracesTable (pairs : List (List Key × Key × Item)) (place : Nat) : Option Item := do
  let es ← pairs.foldlM (fun es (path, k, v) => addAt .dottedKeyInBraces path k v .braces es) []
  pure (.table .braces (some place) es)

/-- A file read so far: the table whose entries are being read is kept apart until it is complete. -/
structure Draft where
  root : Entries
  /-- Where the current table belongs; empty for the root itself. -/
  path : List Key
  inArray : Bool
  place : Option Nat
  current : Entries

def Draft.start : Draft :=
  ⟨[], [], false, none, []⟩

def Draft.add (d : Draft) (path : List Key) (k : Key) (v : Item) : Option Draft := do
  pure { d with current := ← addAt .dottedKey path k v .header d.current }

def appendTable (k : Key) (t : Item) (es : Entries) : Option Entries :=
  match Entries.find? k.name es with
  | none => some (es ++ [(k, .tables [t])])
  | some (.tables items) => some (Entries.replace k.name (.tables (items ++ [t])) es)
  | some _ => none

/-- The root with the current table in its place. -/
def Draft.complete (d : Draft) : Option Entries :=
  match d.path.getLast? with
  | none => some d.current
  | some k =>
    let t : Item := .table .header d.place d.current
    descend .header (fun _ es => if d.inArray then appendTable k t es else some (es ++ [(k, t)]))
      .header d.root d.path.dropLast

/-- What a header finds in its place: a table that was only passed through goes on. -/
def claim (k : Key) (es : Entries) : Option (Entries × Entries) :=
  match Entries.find? k.name es with
  | none => some ([], es)
  | some (.table .path _ inner) => some (inner, Entries.remove k.name es)
  | some _ => none

/-- Starts a table with a header. -/
def Draft.openTable (d : Draft) (path : List Key) (place : Nat) : Option Draft := do
  let root ← d.complete
  let k ← path.getLast?
  let found ← (do
    let es ← lookIn root path.dropLast
    (claim k es).map (·.1))
  let root ← descend .header (fun _ es => (claim k es).map (·.2)) .header root path.dropLast
  pure ⟨root, path, false, some place, found⟩
where
  /-- The entries of the table at the end of a path, none of them if it is missing. -/
  lookIn (es : Entries) : List Key → Option Entries
    | [] => some es
    | k :: ks =>
      match Entries.find? k.name es with
      | none => lookIn [] ks
      | some (.table _ _ inner) => lookIn inner ks
      | some (.tables items) =>
        match items.getLast? with
        | some (.table _ _ inner) => lookIn inner ks
        | _ => none
      | some _ => none

def isTableArray? (k : Key) (es : Entries) : Bool :=
  match Entries.find? k.name es with
  | none => true
  | some (.tables _) => true
  | some _ => false

/-- Starts a table of an array of tables. -/
def Draft.openArrayTable (d : Draft) (path : List Key) (place : Nat) : Option Draft := do
  let root ← d.complete
  let k ← path.getLast?
  let root ← descend .header (fun _ es => if isTableArray? k es then some es else none) .header root
    path.dropLast
  pure ⟨root, path, true, some place, []⟩

end TaskDriver.Toml
