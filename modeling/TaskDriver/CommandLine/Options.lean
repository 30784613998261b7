/-! The words after the program's name. Options of the program come first; the first word that is
none of them starts the words for the driver, which are passed on as they are. -/
namespace TaskDriver.CommandLine

structure Options where
  matrfile : String
  clean : Bool
  noCache : Bool
  status : Bool
  verbose : Bool
  args : List String
  deriving DecidableEq, Repr

/-- Why there are no options to act on; help and version are asked for, the rest are mistakes. -/
inductive Stop
  | conflict
  | invalidValue
  | tooManyValues
  | help
  | version
  deriving DecidableEq, Repr

def Stop.exitCode : Stop → Nat
  | .help | .version => 0
  | _ => 2

inductive Flag
  | clean
  | noCache
  | status
  | verbose
  deriving DecidableEq, Repr

/-- What the next word can still be: the value of an option that was named without one. -/
inductive Pending
  | nothing
  | wanted
  | given (value : String)
  deriving DecidableEq, Repr

structure Reading where
  flags : List Flag
  path : Option String
  pending : Pending
  deriving DecidableEq, Repr

def Reading.start : Reading :=
  ⟨[], none, .nothing⟩

def Reading.setPath (r : Reading) (value : String) : Except Stop Reading :=
  if r.path.isSome then .error .conflict
  else if value = "" then .error .invalidValue
  else .ok { r with path := some value, pending := .nothing }

/-- Before anything else is taken, an option that was named gets its value. -/
def Reading.settle (r : Reading) : Except Stop Reading :=
  match r.pending with
  | .nothing => .ok r
  | .wanted => .error .invalidValue
  | .given value => r.setPath value

/-- No flag is given twice. -/
def Reading.raise (r : Reading) (f : Flag) : Except Stop Reading := do
  let r ← r.settle
  if f ∈ r.flags then .error .conflict else .ok { r with flags := f :: r.flags }

def Reading.stop (r : Reading) (s : Stop) : Except Stop Reading := do
  let _ ← r.settle
  .error s

def flagNamed : String → Option Flag
  | "clean" => some .clean
  | "no-cache" => some .noCache
  | "status" => some .status
  | "verbose" => some .verbose
  | _ => none

def stopNamed : String → Option Stop
  | "help" => some .help
  | "version" => some .version
  | _ => none

/-- The name in a long option and its value after an equals sign. -/
def splitValue (s : List Char) : String × Option String :=
  match s.dropWhile (· ≠ '=') with
  | _ :: v => (String.ofList (s.takeWhile (· ≠ '=')), some (String.ofList v))
  | [] => (String.ofList s, none)

/-- None if no option has this name. -/
def Reading.long (r : Reading) (name : String) (value : Option String) :
    Option (Except Stop Reading) :=
  if name = "matrfile" then
    some do
      match value with
      | some v => (← r.settle).setPath v
      | none => pure { ← r.settle with pending := .wanted }
  else match flagNamed name, stopNamed name, value with
    | none, none, _ => none
    | _, _, some _ => some (.error .tooManyValues)
    | some f, _, none => some (r.raise f)
    | none, some s, none => some (r.stop s)

def Reading.letters (r : Reading) : List Char → Except Stop Reading
  | [] => .ok r
  | c :: s =>
    if c = 'h' then r.stop .help
    else if c = 'V' then r.stop .version
    else do (← r.raise .verbose).letters s

/-- None if a letter stands for no option. -/
def Reading.short (r : Reading) (letters : List Char) : Option (Except Stop Reading) :=
  if letters.all fun c => c = 'v' ∨ c = 'h' ∨ c = 'V' then some (r.letters letters) else none

/-- None if the word is no option. -/
def Reading.option (r : Reading) (word : String) : Option (Except Stop Reading) :=
  match word.toList with
  | '-' :: '-' :: s => let (name, value) := splitValue s; r.long name value
  | '-' :: c :: s => r.short (c :: s)
  | _ => none

def Reading.finish (r : Reading) (args : List String) : Except Stop Options := do
  let r ← r.settle
  let has f := decide (f ∈ r.flags)
  if has .clean && has .status then .error .conflict
  else .ok ⟨r.path.getD ".", has .clean, has .noCache, has .status, has .verbose, args⟩

def Reading.words (r : Reading) : List String → Except Stop Options
  | [] => r.finish []
  | w :: ws =>
    if w = "--" then r.finish ws
    else match r.option w with
      | some (.ok r) => r.words ws
      | some (.error s) => .error s
      | none =>
        if r.pending = .wanted then { r with pending := .given w }.words ws
        else r.finish (w :: ws)

def Options.ofWords (words : List String) : Except Stop Options :=
  Reading.start.words words

end TaskDriver.CommandLine
