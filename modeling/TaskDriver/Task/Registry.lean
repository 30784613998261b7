import TaskDriver.Task.Policy
import TaskDriver.Task.Work
import TaskDriver.Text.Blank

/-! The tasks of a program and how a command line picks one of them. Tasks are kept in the order in
which their names were first registered; a name registered again takes the new task. -/
namespace TaskDriver.Task

structure Entry (ε : Type) where
  name : String
  summary : String
  doc : String
  handler : Handler ε

/-- Called after each run of a handler, with the failure if there was one. -/
abbrev ExitHook (ε : Type) := Context → Option Fault → Work ε Unit

/-- How far the current run has come. -/
inductive Progress
  | idle
  | dispatching (task : String)
  | completed (task : String) (success : Bool)
  deriving DecidableEq, Repr

/-- A stream that takes text, or refuses all of it. -/
structure Sink where
  broken : Bool
  text : String
  deriving DecidableEq, Repr

def Sink.write (s : Sink) (t : String) : Sink :=
  if s.broken then s else { s with text := s.text ++ t }

structure Registry (ε : Type) where
  entries : List (Entry ε)
  policy : Policy
  hook : Option (ExitHook ε)
  progress : Progress
  out : Sink
  err : Sink

def Registry.empty {ε : Type} (broken : Bool) : Registry ε :=
  ⟨[], .strict, none, .idle, ⟨broken, ""⟩, ⟨broken, ""⟩⟩

/-- The name of the task that is run for want of another. -/
def defaultName : String := "default"

def Registry.get? {ε : Type} (r : Registry ε) (name : String) : Option (Entry ε) :=
  r.entries.find? (·.name = name)

def Registry.names {ε : Type} (r : Registry ε) : List String :=
  r.entries.map (·.name)

/-- In the place of the entry of the same name, or last. -/
def place {ε : Type} (e : Entry ε) : List (Entry ε) → List (Entry ε)
  | [] => [e]
  | d :: ds => if d.name = e.name then e :: ds else d :: place e ds

def Entry.named {ε : Type} (e : Entry ε) : Entry ε :=
  if e.name = "" then { e with name := defaultName } else e

def Registry.handle {ε : Type} (r : Registry ε) (e : Entry ε) : Registry ε :=
  { r with entries := place e.named r.entries }

def Registry.onExit {ε : Type} (r : Registry ε) (hook : ExitHook ε) : Registry ε :=
  { r with hook := some hook }

def Registry.withPolicy {ε : Type} (r : Registry ε) (p : Policy) : Registry ε :=
  { r with policy := p }

/-- Padded with spaces at the end to `width` characters. -/
def padRight (width : Nat) (s : List Char) : List Char :=
  s ++ List.replicate (width - s.length) ' '

def listingLine {ε : Type} (width : Nat) (e : Entry ε) : String :=
  String.ofList (Text.trimEnd
    ("  ".toList ++ padRight width e.name.toList ++ "   ".toList ++ e.summary.toList) ++ ['\n'])

/-- The column of summaries stands after the longest name in bytes. -/
def Registry.usage {ε : Type} (r : Registry ε) : String :=
  let shown := r.entries.filter (·.name ≠ defaultName)
  let width := (shown.map (·.name.utf8ByteSize)).foldl max 0
  "\nRun Task: matr <opts> [target] args...\n\nTargets:\n" ++
    String.join (shown.map (listingLine width)) ++ "\n"

def Registry.printUsage {ε : Type} (r : Registry ε) : Registry ε :=
  { r with out := r.out.write r.usage }

/-- The documentation of a task, or its summary if there is none. -/
def Entry.usage {ε : Type} (e : Entry ε) : String :=
  "matr " ++ e.name ++ " :\n\n" ++ (if e.doc = "" then e.summary else e.doc) ++ "\n\n"

/-- What a run did. -/
inductive Dispatch
  | usage
  | taskUsage (name : String)
  | noHandler (name : String)
  | completed (task : String)
  deriving DecidableEq, Repr

inductive DispatchError
  | noDefault (name : String)
  | failed (task : String) (fault : Fault)
  | panicked (text : String)
  deriving DecidableEq, Repr

def noHandlerText (name : String) : String :=
  "no handler found for target \"" ++ name ++ "\""

def DispatchError.message : DispatchError → String
  | .noDefault name => noHandlerText name ++ " and no default task is registered"
  | .failed _ fault => fault.full
  | .panicked text => "task panicked: " ++ text

def DispatchError.fault? : DispatchError → Option Fault
  | .failed _ fault => some fault
  | _ => none

/-- How a run ends: it returns, a panic of the exit hook passes through it, or it goes on. -/
inductive Conclusion
  | returned (result : Except DispatchError Dispatch)
  | unwound (text : Option String)
  | unfinished

def isHelpFlag (arg : String) : Bool :=
  arg = "-h" || arg = "--help"

/-- What a command line asks for. -/
inductive Request (ε : Type)
  | usage
  | taskUsage (name : String)
  | noHandler (name : String)
  | noDefault (name : String)
  | call (task : Entry ε) (args : List String)

/-- The first word names the task, unless it or the second one asks for help. -/
def Registry.request {ε : Type} (r : Registry ε) : List String → Request ε
  | [] => .usage
  | first :: rest =>
    if isHelpFlag first then
      match rest with
      | [] => .usage
      | name :: _ => .taskUsage name
    else if rest.head?.any isHelpFlag then .taskUsage first
    else match r.get? first with
      | some e => .call e rest
      | none =>
        match r.policy with
        | .strict => .noHandler first
        | .fallback =>
          match r.get? defaultName with
          | some e => .call e (first :: rest)
          | none => .noDefault first

def Registry.printNoHandler {ε : Type} (r : Registry ε) (name : String) : Registry ε :=
  { r with err := r.err.write ("ERROR: " ++ noHandlerText name ++ "\n") }.printUsage

def Registry.printTaskUsage {ε : Type} (r : Registry ε) (name : String) : Dispatch × Registry ε :=
  match r.get? name with
  | some e => (.taskUsage name, { r with out := r.out.write e.usage })
  | none => (.noHandler name, r.printNoHandler name)

/-- The text of a panic that has none. -/
def panicText (text : Option String) : String :=
  text.getD "unknown panic"

/-- What the hook and the caller are told of a handler's end. -/
def outcomeOf (task : String) : Ending (Except Fault Unit) → Option (Option Fault × Except DispatchError Dispatch)
  | .value (.ok _) => some (none, .ok (.completed task))
  | .value (.error f) => some (some f, .error (.failed task f))
  | .panicked t => some (some (.of ("task panicked: " ++ panicText t)), .error (.panicked (panicText t)))
  | .waiting => none

/-- The handler, then the hook. The run counts as completed once the hook has returned. -/
def Registry.call {ε : Type} (r : Registry ε) (c : Context) (e : Entry ε) (w : World ε) :
    Conclusion × Registry ε × World ε :=
  let r := { r with progress := .dispatching e.name }
  let (ending, w) := (e.handler c).run c w
  match outcomeOf e.name ending with
  | none => (.unfinished, r, w)
  | some (fault, result) =>
    let (ending, w) := match r.hook with
      | some hook => (hook c fault).run c w
      | none => (.value (), w)
    match ending with
    | .value _ => (.returned result, { r with progress := .completed e.name fault.isNone }, w)
    | .panicked t => (.unwound t, r, w)
    | .waiting => (.unfinished, r, w)

def Registry.run {ε : Type} (r : Registry ε) (c : Context) (args : List String) (w : World ε) :
    Conclusion × Registry ε × World ε :=
  let r := { r with progress := .idle }
  match r.request args with
  | .usage => (.returned (.ok .usage), r.printUsage, w)
  | .taskUsage name =>
    let (d, r) := r.printTaskUsage name
    (.returned (.ok d), r, w)
  | .noHandler name => (.returned (.ok (.noHandler name)), r.printNoHandler name, w)
  | .noDefault name => (.returned (.error (.noDefault name)), r, w)
  | .call e residual => r.call { c with args := residual } e w

end TaskDriver.Task
