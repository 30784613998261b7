import TaskDriver.Build.Driver
import TaskDriver.Toml.Writer

/-! The manifest that the driver is built by: its name, its one program, and what it depends on. -/
namespace TaskDriver.Build

/-- The name of the compiled driver. -/
def artifactName : String := "matr"

def driverSourceName : String := "main.rs"

def runtimeEntry (r : RuntimeSource) : Toml.Value :=
  .table [("package", .string "matr-runtime"),
    match r.path with
    | some path => ("path", .string path)
    | none => ("version", .string r.version)]

/-- The runtime library and the dependencies of the definition file, which win. -/
def dependencyTable (r : RuntimeSource) (dependencies : Toml.Table) : Toml.Table :=
  dependencies.foldl (fun t (k, v) => t.insert k v) [(Configuration.runtimeName, runtimeEntry r)]

def manifest (r : RuntimeSource) (dependencies : Toml.Table) : Toml.Table :=
  [("package", .table [("name", .string "matr-driver"), ("version", .string "0.0.0"),
      ("edition", .string "2021"), ("publish", .boolean false)]),
    ("bin", .array [.table [("name", .string artifactName), ("path", .string driverSourceName)]]),
    ("workspace", .table []),
    ("dependencies", .table (dependencyTable r dependencies))]

def manifestText (r : RuntimeSource) (dependencies : Toml.Table) : String :=
  "# " ++ generatedBy ++ "\n\n" ++ String.ofList (Toml.tableText (manifest r dependencies))

end TaskDriver.Build
