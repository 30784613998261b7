import TaskDriver.Build.Build
import TaskDriver.CommandLine.Options
import TaskDriver.Configuration.Load

/-! What the program does with its options: it removes the cache, shows it, or brings the driver up
to date and runs it. -/
namespace TaskDriver.CommandLine

open Build (Building Cache CacheStatus Programs Site)
open Files (Path)

/-- The exit code and the texts for the two outputs. -/
structure Report where
  code : Nat
  out : String
  err : String

def say (line : String) : Building Unit :=
  Procedure.change fun s => .ok { s with printed := s.printed ++ line ++ "\n" }

def success (text : String) : Building Unit :=
  say ("✓ " ++ text)

def information (text : String) : Building Unit :=
  say ("→ " ++ text)

def property (name value : String) : Building Unit :=
  say ("  " ++ name ++ ": " ++ value)

def yesNo (b : Bool) : String :=
  if b then "yes" else "no"

/-- The definition file that the options name. -/
def definitionOf (o : Options) : Building Path :=
  Procedure.look fun s => Build.locateDefinition s.files (Path.ofText o.matrfile)

def clean (o : Options) : Building Nat := do
  let cache : Cache := ⟨← definitionOf o, none⟩
  if ← Build.onFiles cache.clean then success ("Removed " ++ cache.directory.text)
  else information ("Nothing to clean at " ++ cache.directory.text)
  pure 0

def showStatus (definition : Path) (s : CacheStatus) : Building Unit := do
  say "matr cache"
  property "Matrfile" definition.text
  property "Directory" s.directory.text
  if s.isThere then
    property "Stored hash" (s.storedHash.getD "none")
    property "Up to date" (yesNo s.upToDate)
    property "Driver built" (yesNo s.artifactPresent)
    property "Size" s.formattedSize
  else information "Not built yet"

def status (o : Options) : Building Nat := do
  let definition ← definitionOf o
  let s ← Procedure.look fun s => (Cache.status ⟨definition, none⟩ s.files).mapError .file
  showStatus definition s
  pure 0

/-- Ends with the exit code of the driver. -/
def run (ps : Programs) (overrides : Configuration.Overrides) (o : Options) : Building Nat := do
  let definition ← definitionOf o
  let (c, _) ← Procedure.look fun s =>
    (Configuration.loadOrStandard s.files definition.directory overrides).mapError .configuration
  let built ← Build.build (Build.compileWith ps c.compiler.cargo) definition c o.noCache
  let ending ← Build.runDriver ps built.cacheDirectory o.args
  pure ending.exitCode

def execute (ps : Programs) (overrides : Configuration.Overrides) (o : Options) : Building Nat :=
  if o.clean then clean o
  else if o.status then status o
  else run ps overrides o

/-- Acts on the options and tells of a fault, which decides the exit code then. -/
def perform (ps : Programs) (overrides : Configuration.Overrides) (o : Options) (t : Files.Tree) :
    Report × Files.Tree :=
  match execute ps overrides o (.of t) with
  | (.ok code, s) => (⟨code, s.printed, ""⟩, s.files)
  | (.error f, s) => (⟨f.exitCode, s.printed, "✗ " ++ f.fullMessage ++ "\n"⟩, s.files)

end TaskDriver.CommandLine
