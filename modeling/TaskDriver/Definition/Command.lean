import TaskDriver.Definition.Grammar.Statement
import TaskDriver.Text.LetterCase

/-! The commands of a definition file: its functions with a body, at the top level, with their
documentation. Those whose name starts with an upper-case letter are run as tasks. -/
namespace TaskDriver.Definition

structure Command where
  name : String
  /-- First line of the documentation. -/
  summary : String
  doc : String
  exported : Bool
  deriving DecidableEq

/-- The comment that opens every definition file. -/
def marker : String := "// matr:build"

/-- The first line of a text, without the carriage return that may end it. -/
def firstLine (s : List Char) : List Char :=
  let line := s.takeWhile (· != '\n')
  if s.contains '\n' && line.getLast? == some '\r' then line.dropLast else line

/-- Documentation, one entry for each line of the source. -/
def docLines (docs : List (List Char)) : List (List Char) :=
  docs.flatMap fun text => (Text.splitLines text).map (Text.cutEnd (· == '\r'))

def Command.ofFunction (f : FunctionItem) : Command :=
  let lines := docLines f.docs
  { name := f.name.word.name
    summary := String.ofList (Text.trimStart (lines.headD []))
    doc := String.ofList (Text.trimStart (Text.joinLines lines))
    exported := f.name.word.name.toList.head?.any Text.isUppercase }

inductive SourceFault
  | marker
  | grammar (position : Text.Position)
  deriving DecidableEq

def commandsOf (source : List Char) : Except SourceFault (List Command) :=
  if firstLine source ≠ marker.toList then .error .marker
  else match tokenize source >>= Grammar.file with
    | .ok functions => .ok (functions.map Command.ofFunction)
    | .error place => .error (.grammar (place.position source))

end TaskDriver.Definition
