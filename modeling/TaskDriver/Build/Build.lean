import TaskDriver.Build.Cache
import TaskDriver.Build.Compiler
import TaskDriver.Build.Definition

/-! Bringing the driver of a definition file up to date. -/
namespace TaskDriver.Build

open Files (Path)

/-- A relative path of the runtime library starts at the directory of the definition file. -/
def anchored (definition : Path) (r : RuntimeSource) : RuntimeSource :=
  { r with
    path := r.path.map fun s =>
      let p := Path.ofText s
      if p.absolute then s else (definition.directory.join p).text }

/-- Everything besides the definition that a driver is made from. -/
def settingsText (c : Configuration) (manifest : String) : String :=
  "policy=" ++ c.policy.variant ++ "\n" ++
  "timeout=" ++ toString c.timeoutSecs ++ "\n" ++
  "release=" ++ toString c.compiler.release ++ "\n" ++
  "args=" ++ Text.quoteList c.compiler.args ++ "\n" ++
  manifest

def fingerprint (c : Configuration) (manifest : String) : String :=
  Digest.sha256Hex (settingsText c manifest).toUTF8

structure Outcome where
  cacheDirectory : Path
  artifact : Path
  /-- The driver was made anew. -/
  rebuilt : Bool

def Cache.job (cache : Cache) (c : CompilerSettings) : Job :=
  { cacheDirectory := cache.directory
    manifest := cache.manifestPath
    targetDirectory := cache.targetPath
    artifact := cache.artifactPath
    release := c.release
    args := c.args }

/-- Gives a job to the compiler. -/
def handOver (compiler : Compiler) (j : Job) : Building Unit := do
  Procedure.change fun s => .ok { s with jobs := s.jobs ++ [j] }
  compiler j

def build (compiler : Compiler) (definition : Path) (c : Configuration) (bypass : Bool) :
    Building Outcome := do
  let manifest := manifestText (anchored definition c.runtime) c.dependencies
  let cache : Cache := ⟨definition, some (fingerprint c manifest)⟩
  match ← onFiles (cache.resolve bypass) with
  | .hit => pure ⟨cache.directory, cache.artifactPath, false⟩
  | .miss =>
    let commands ← Procedure.look fun s => readDefinition s.files definition
    onFiles (Files.writeText cache.sourcePath (driverText commands (.ofConfiguration c)))
    onFiles (Files.writeText cache.manifestPath manifest)
    handOver compiler (cache.job c.compiler)
    pure ⟨cache.directory, cache.artifactPath, true⟩

end TaskDriver.Build
