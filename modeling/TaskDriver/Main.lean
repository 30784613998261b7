import TaskDriver.CommandLine.Commands

/-! The program. What the options can lead to is taken from the disk into a tree, the commands act on
the tree, and the cache is then brought back to the disk. Other programs may not be started here: a
driver that is not current is written out and left to be compiled, and the link to the definition
file is made as a second name of the file. -/
namespace TaskDriver.Program

open CommandLine (Options Stop)
open Files (Entry Location Path Tree)

/-- What stands at a path, with everything below it. -/
partial def entryAt (p : Path) : IO Entry := do
  let place : IO.FS.DirEntry := ⟨p.directory.text, p.fileName?.getD "."⟩
  match (← place.path.symlinkMetadata).type with
  | .dir =>
    let names := (← place.path.readDir).toList.map (·.fileName)
    return .directory (Keyed.ofList (← names.mapM fun n => return (n, ← entryAt (p.child n))))
  | .symlink => return .link (Path.ofText (← IO.FS.realPath p.text).toString)
  | _ => return .file (← IO.FS.readBinFile p.text) false

/-- The place that a path leads to. -/
def placeOf (p : Path) : IO Location := do
  let real ← IO.FS.realPath p.text
  return (Path.ofText real.toString).parts

/-- The tree with what stands at a path; what cannot be read is left out. -/
def withEntry (t : Tree) (p : Path) : IO Tree := do
  try
    let l ← placeOf p.directory
    let e ← entryAt p
    return t.put (l ++ p.fileName?.toList) e
  catch _ => return t

/-- The tree with the directory that a path leads to. -/
def withDirectory (t : Tree) (p : Path) : IO Tree := do
  try
    let l ← placeOf p
    return if (t.root.find? l).isSome then t else t.put l .empty
  catch _ => return t

def isDirectory (p : Path) : IO Bool := do
  let place : IO.FS.DirEntry := ⟨p.text, "."⟩
  place.path.isDir

/-- The caches, the definitions and the settings that the options can lead to, and the cache. -/
def filesFor (o : Options) : IO (Tree × Location) := do
  let here := Path.ofText (← IO.currentDir).toString
  let p := here.join (Path.ofText o.matrfile)
  let directory := if ← isDirectory p then p else p.directory
  let definitions := (Build.definitionNames ++ p.fileName?.toList).map directory.child
  let cache := directory.child Build.cacheName
  let mut t : Tree := ⟨.empty, here.parts⟩
  for q in directory.ancestors.reverse do
    t ← withDirectory t q
    for settings in Configuration.candidates q do
      t ← withEntry t settings
  for q in cache :: definitions do
    t ← withEntry t q
  try
    return (t, (← placeOf directory) ++ [Build.cacheName])
  catch _ => return (t, cache.parts)

def removeFromDisk (l : Location) (e : Entry) : IO Unit :=
  let text := (Tree.pathOf l).text
  match e with
  | .directory _ => IO.FS.removeDirAll text
  | _ => IO.FS.removeFile text

/-- Makes an entry on the disk, unless it was there before. -/
def makeOnDisk (before : Tree) (l : Location) (e : Entry) : IO Unit :=
  let text := (Tree.pathOf l).text
  match e, before.root.find? l with
  | .directory _, _ => IO.FS.createDirAll text
  | .file new _, some (.file old _) => if old.data = new.data then pure () else IO.FS.writeBinFile text new
  | .file new _, _ => IO.FS.writeBinFile text new
  | .link _, some (.link _) => pure ()
  | .link target, _ => IO.FS.hardLink target.text text

/-- Brings what changed below a location back to the disk. -/
def bringBack (before after : Tree) (l : Location) : IO Unit := do
  let listed := fun t : Tree => ((t.root.find? l).map (·.listed l)).getD []
  for (m, e) in (listed before).reverse do
    if (after.root.find? m).isNone then removeFromDisk m e
  for (m, e) in listed after do
    makeOnDisk before m e

def usage : String :=
  "Usage: matr [OPTIONS] [TASK]...\n\n" ++
  "  --matrfile PATH  the definition file, or a directory that has one\n" ++
  "  --clean          remove the cache\n" ++
  "  --no-cache       make the driver anew even if it is current\n" ++
  "  --status         show the cache\n" ++
  "  -v, --verbose    say more\n" ++
  "  -h, --help       show this text\n" ++
  "  -V, --version    show the version\n"

def mistake : Stop → String
  | .conflict => "options that exclude each other, or one that is given twice"
  | .invalidValue => "--matrfile needs a path"
  | .tooManyValues => "a value for an option that takes none"
  | .help | .version => ""

def stop (s : Stop) : IO UInt32 := do
  match s with
  | .help => IO.print usage
  | .version => IO.println ("matr " ++ version)
  | _ => IO.eprintln ("error: " ++ mistake s)
  return UInt32.ofNat s.exitCode

def act (o : Options) : IO UInt32 := do
  let (before, cache) ← filesFor o
  let overrides : Configuration.Overrides :=
    ⟨← IO.getEnv Configuration.cargoVariable, ← IO.getEnv Configuration.runtimePathVariable⟩
  let (report, after) := CommandLine.perform ⟨[], fun _ => none⟩ overrides o before
  bringBack before after cache
  IO.print report.out
  IO.eprint report.err
  return UInt32.ofNat report.code

end TaskDriver.Program

def main (words : List String) : IO UInt32 :=
  match TaskDriver.CommandLine.Options.ofWords words with
  | .ok o => TaskDriver.Program.act o
  | .error s => TaskDriver.Program.stop s
