import TaskDriver.Build.Manifest
import TaskDriver.Digest.Sha256
import TaskDriver.Files.Change
import TaskDriver.Number.ByteSize

/-! The cache beside a definition file: the driver, what it was made from, and the digests that tell
whether it is still current. -/
namespace TaskDriver.Build

open Files (Path Tree Change)

/-- The cache of a definition file. Settings, if there are any, are known by their fingerprint. -/
structure Cache where
  definition : Path
  settings : Option String

/-- The name of the directory of a cache. -/
def cacheName : String := ".matr"

namespace Cache

def directory (c : Cache) : Path :=
  c.definition.directory.child cacheName

def hashPath (c : Cache) : Path :=
  c.directory.child "matrfile.sha256"

def settingsPath (c : Cache) : Path :=
  c.directory.child "matrfile.config"

/-- The link to the definition file, under the name by which the driver includes it. -/
def linkPath (c : Cache) : Path :=
  c.directory.child includedName

def sourcePath (c : Cache) : Path :=
  c.directory.child driverSourceName

def manifestPath (c : Cache) : Path :=
  c.directory.child "Cargo.toml"

def targetPath (c : Cache) : Path :=
  c.directory.child "target"

def artifactPath (c : Cache) : Path :=
  c.directory.child artifactName

end Cache

def fileHash (t : Tree) (p : Path) : Except Files.Fault String :=
  (t.read p).map Digest.sha256Hex

/-- The text of a file without the white space around it; nothing if it cannot be read. -/
def trimmedText? (t : Tree) (p : Path) : Option String :=
  match t.readText p with
  | .ok s => some (trimmed s)
  | .error _ => none

inductive Resolution
  | hit
  | miss
  deriving DecidableEq, Repr

namespace Cache

def storedHash? (c : Cache) (t : Tree) : Option String :=
  trimmedText? t c.hashPath

def storedSettings? (c : Cache) (t : Tree) : Option String :=
  trimmedText? t c.settingsPath

/-- The cache holds what was made from a definition with this hash and from these settings. -/
def isCurrent (c : Cache) (t : Tree) (hash : String) : Bool :=
  (c.settings.isNone || c.storedSettings? t = c.settings) && c.storedHash? t = some hash

/-- The link leads to something, and it is the link to this definition. -/
def isLinked (c : Cache) (t : Tree) : Bool :=
  t.exists? true c.linkPath &&
    match t.readLink c.linkPath with
    | .ok target => target.same c.definition
    | .error _ => false

/-- Takes away what is in the place of the link. -/
def unlink (c : Cache) (t : Tree) : Except Files.Fault Tree :=
  if c.isLinked t || !t.exists? false c.linkPath then .ok t else t.removeFile c.linkPath

def link (c : Cache) (t : Tree) : Except Files.Fault Tree :=
  if c.isLinked t then .ok t else t.makeLink c.definition c.linkPath

/-- What is done when the driver has to be made anew, one change after the other. The driver of
another definition is gone before anything else is made. -/
def renewal (c : Cache) (hash : String) : List (Change Unit) :=
  [Files.makeDirectories c.directory,
    Files.writeText c.hashPath hash,
    match c.settings with
    | some s => Files.writeText c.settingsPath s
    | none => pure (),
    Files.dropFile c.artifactPath,
    .change c.unlink,
    .change c.link]

/-- Decides whether the driver has to be made anew, and if so prepares the cache for it. -/
def resolve (c : Cache) (bypass : Bool) : Change Resolution := do
  let t ← Procedure.state
  let hash ← Procedure.look fun t => fileHash t c.definition
  if !bypass && c.isCurrent t hash then pure .hit
  else
    Procedure.inOrder (c.renewal hash)
    pure .miss

/-- Removes the cache; tells whether there was one. -/
def clean (c : Cache) : Change Bool := fun t =>
  match t.removeAll c.directory with
  | .ok t => (.ok true, t)
  | .error .missing => (.ok false, t)
  | .error e => (.error e, t)

end Cache

structure CacheStatus where
  directory : Path
  isThere : Bool
  storedHash : Option String
  upToDate : Bool
  artifactPresent : Bool
  totalSize : Nat

def CacheStatus.formattedSize (s : CacheStatus) : String :=
  Number.byteSize s.totalSize

/-- What is in the cache now. -/
def Cache.status (c : Cache) (t : Tree) : Except Files.Fault CacheStatus :=
  if t.isDirectory c.directory then do
    let stored := c.storedHash? t
    let upToDate ← match stored with
      | some hash =>
        if t.isFile c.definition then do pure (decide ((← fileHash t c.definition) = hash))
        else pure false
      | none => pure false
    let totalSize ← t.directorySize c.directory
    pure ⟨c.directory, true, stored, upToDate, t.isFile c.artifactPath, totalSize⟩
  else pure ⟨c.directory, false, none, false, false, 0⟩

end TaskDriver.Build
