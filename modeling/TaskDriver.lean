import TaskDriver.Text.LetterCase
import TaskDriver.Text.Identifier
import TaskDriver.Text.Blank
import TaskDriver.Text.Quoted
import TaskDriver.Digest.Sha256
import TaskDriver.Task.Name
import TaskDriver.Definition.Literal
import TaskDriver.Definition.Lexer
import TaskDriver.Definition.Stream
import TaskDriver.Definition.Grammar.Path
import TaskDriver.Definition.Grammar.Generics
import TaskDriver.Definition.Grammar.Types
import TaskDriver.Definition.Grammar.Pattern
import TaskDriver.Definition.Grammar.Expression
import TaskDriver.Definition.Grammar.Item
import TaskDriver.Definition.Command
import TaskDriver.Task.Policy
import TaskDriver.Task.Race
import TaskDriver.Task.Shown
import TaskDriver.Number.Binary64
import TaskDriver.Number.ByteSize
import TaskDriver.Exit.Status
import TaskDriver.Toml.Datetime
import TaskDriver.Toml.Quoting
import TaskDriver.Toml.Value
import TaskDriver.Toml.Writer
import TaskDriver.Build.Driver
import TaskDriver.Build.Fault
import TaskDriver.Build.Manifest
import TaskDriver.CommandLine.Options
import TaskDriver.Toml.Blank
import TaskDriver.Toml.Numbers
import TaskDriver.Toml.Document
import TaskDriver.Configuration.Toml
import TaskDriver.Yaml.Block
import TaskDriver.Yaml.Layout
import TaskDriver.Yaml.Node
import TaskDriver.Configuration.Yaml
import TaskDriver.Files.Change
import TaskDriver.Build.Build
import TaskDriver.Main
import TaskDriver.Proofs.Files.Node
import TaskDriver.Proofs.Files.Walk
import TaskDriver.Proofs.Files.Lead
import TaskDriver.Proofs.Files.Followed
import TaskDriver.Proofs.Files.Ancestors
import TaskDriver.Proofs.Files.Written
import TaskDriver.Proofs.Files.Change
import TaskDriver.Proofs.Text.Quoted
import TaskDriver.Proofs.Configuration.Search
import TaskDriver.Proofs.Build.Settings
import TaskDriver.Proofs.Build.CacheFiles
import TaskDriver.Proofs.Build.Usable
import TaskDriver.Proofs.Build.Held
import TaskDriver.Proofs.Build.Current
import TaskDriver.Proofs.Build.Fingerprint
import TaskDriver.Proofs.Build.Rebuild
import TaskDriver.Proofs.Build.Interrupted
import TaskDriver.Proofs.Build.Resolved
import TaskDriver.Proofs.Build.Installed
import TaskDriver.Proofs.Task.Naming
import TaskDriver.Proofs.Task.Words
import TaskDriver.Proofs.Task.Registry
import TaskDriver.Proofs.Task.Reachable
import TaskDriver.Proofs.Task.Selection
import TaskDriver.Proofs.Task.Dispatch
import TaskDriver.Proofs.Task.History
import TaskDriver.Proofs.Task.Listing
import TaskDriver.Proofs.Task.Deadline
import TaskDriver.Proofs.Task.Thread
import TaskDriver.Proofs.Task.Abandoned
import TaskDriver.Proofs.Task.Contest
import TaskDriver.Proofs.Task.Protocol
import TaskDriver.Proofs.Definition.Word
import TaskDriver.Proofs.Definition.Literal
import TaskDriver.Proofs.Definition.Scan
import TaskDriver.Proofs.Definition.Layout
import TaskDriver.Proofs.Definition.Reading
import TaskDriver.Proofs.Definition.Statements
import TaskDriver.Proofs.Definition.Commands
import TaskDriver.Proofs.Build.Layout
import TaskDriver.Proofs.Build.ReadBack
import TaskDriver.Proofs.Definition.Documented
import TaskDriver.Proofs.Build.Decoded
import TaskDriver.Proofs.CommandLine.Forwarded
import TaskDriver.Proofs.CommandLine.UpToDate
import TaskDriver.Proofs.Build.Confined
import TaskDriver.Proofs.Build.Undone
import TaskDriver.Proofs.Keyed
import TaskDriver.Proofs.Configuration.Loading
import TaskDriver.Proofs.Number.Digits
import TaskDriver.Proofs.Number.Nearest
import TaskDriver.Proofs.Number.Shortest
import TaskDriver.Proofs.Toml.Scan
import TaskDriver.Proofs.Toml.Quoted
import TaskDriver.Proofs.Toml.Numbers
import TaskDriver.Proofs.Toml.Datetime
import TaskDriver.Proofs.Toml.Meaning
import TaskDriver.Proofs.Toml.Draft
import TaskDriver.Proofs.Toml.Inline
import TaskDriver.Proofs.Toml.Line
import TaskDriver.Proofs.Toml.Written
import TaskDriver.Proofs.Build.Manifest
import TaskDriver.Proofs.Text.LetterCase
import TaskDriver.Proofs.Task.Renamed
import TaskDriver.Proofs.Definition.Summary
import TaskDriver.Proofs.Task.Dependencies
import TaskDriver.Proofs.Task.Unwound
import TaskDriver.Proofs.Number.ByteSize
import TaskDriver.Proofs.Files.Listing
import TaskDriver.Proofs.Files.Survey
import TaskDriver.Proofs.Build.CacheSize
