import TaskDriver.Toml.Value
import TaskDriver.Toml.Quoting

/-! Tables as text. Under the header of a table stand its plain entries; tables in it, and arrays
of nothing but tables, have headers of their own. Each of the two kinds, and the entries of a table in
braces, keep the order of the table. -/
namespace TaskDriver.Toml

def keyString (k : String) : List Char :=
  keyText k.toList

mutual

def Value.inline : Value → List Char
  | .string s => stringText s.toList
  | .integer i => (toString i).toList
  | .float x => x.positional.toList
  | .boolean b => (toString b).toList
  | .datetime d => d.text
  | .array items => '[' :: (inlineItems items ++ [']'])
  | .table [] => ['\x7b', '\x7d']
  | .table entries => '\x7b' :: ' ' :: (inlineEntries entries ++ [' ', '\x7d'])

def inlineItems : List Value → List Char
  | [] => []
  | [v] => v.inline
  | v :: vs => v.inline ++ ',' :: ' ' :: inlineItems vs

def inlineEntries : Table → List Char
  | [] => []
  | [(k, v)] => keyString k ++ " = ".toList ++ v.inline
  | (k, v) :: t => keyString k ++ " = ".toList ++ v.inline ++ ',' :: ' ' :: inlineEntries t

end

/-- Whether a value is an array written with one header for each of its tables. -/
def Value.isTableArray : Value → Bool
  | .array items => !items.isEmpty && items.all Value.isTable
  | _ => false

def Value.hasHeader (v : Value) : Bool :=
  v.isTable || v.isTableArray

def bodyText : Table → List Char
  | [] => []
  | (k, v) :: t =>
    (if v.hasHeader then [] else keyString k ++ " = ".toList ++ v.inline ++ ['\n']) ++ bodyText t

def pathText : List String → List Char
  | [] => []
  | [k] => keyString k
  | k :: ks => keyString k ++ '.' :: pathText ks

def header (path : List String) : List Char :=
  "\n[".toList ++ pathText path ++ "]\n".toList

def arrayHeader (path : List String) : List Char :=
  "\n[[".toList ++ pathText path ++ "]]\n".toList

/-- A table with nothing but tables in it needs no header. -/
def needsHeader (t : Table) : Bool :=
  t.isEmpty || t.any fun (_, v) => !v.hasHeader

mutual

/-- The tables in a table at `path`, each below an empty line. -/
def nestedText (path : List String) : Table → List Char
  | [] => []
  | (k, .table t) :: r =>
    (if needsHeader t then header (path ++ [k]) else []) ++ bodyText t ++
      nestedText (path ++ [k]) t ++ nestedText path r
  | (k, .array items) :: r =>
    (if (Value.array items).isTableArray then tablesText (path ++ [k]) items else []) ++
      nestedText path r
  | _ :: r => nestedText path r

def tablesText (path : List String) : List Value → List Char
  | [] => []
  | .table t :: vs =>
    arrayHeader path ++ bodyText t ++ nestedText path t ++ tablesText path vs
  | _ :: vs => tablesText path vs

end

/-- No empty line stands at the top. -/
def tableText (t : Table) : List Char :=
  if t.any fun (_, v) => !v.hasHeader then bodyText t ++ nestedText [] t
  else (nestedText [] t).drop 1

end TaskDriver.Toml
