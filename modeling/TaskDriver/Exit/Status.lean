/-! How a process ended, read from the status word that its parent receives. -/
namespace TaskDriver.Exit

inductive Status
  | exited (code : Nat)
  | killed (signal : Nat) (coreDumped : Bool)
  | stopped (signal : Nat)
  | continued
  | unknown (word : Int)
  deriving DecidableEq, Repr

/-- A word of 32 bits without its sign. -/
def unsigned32 (word : Int) : Nat :=
  (word % 0x100000000).toNat

def Status.ofWord (word : Int) : Status :=
  let w := unsigned32 word
  let high := w / 256 % 256
  let low := w % 128
  if low = 0 then .exited high
  else if low ≠ 127 then .killed low (w / 128 % 2 = 1)
  else if w % 256 = 127 then .stopped high
  else if w = 0xFFFF then .continued
  else .unknown word

def Status.success (s : Status) : Bool :=
  s = .exited 0

def signalName : Nat → Option String
  | 1 => "SIGHUP"
  | 2 => "SIGINT"
  | 3 => "SIGQUIT"
  | 4 => "SIGILL"
  | 5 => "SIGTRAP"
  | 6 => "SIGABRT"
  | 7 => "SIGBUS"
  | 8 => "SIGFPE"
  | 9 => "SIGKILL"
  | 10 => "SIGUSR1"
  | 11 => "SIGSEGV"
  | 12 => "SIGUSR2"
  | 13 => "SIGPIPE"
  | 14 => "SIGALRM"
  | 15 => "SIGTERM"
  | 16 => "SIGSTKFLT"
  | 17 => "SIGCHLD"
  | 18 => "SIGCONT"
  | 19 => "SIGSTOP"
  | 20 => "SIGTSTP"
  | 21 => "SIGTTIN"
  | 22 => "SIGTTOU"
  | 23 => "SIGURG"
  | 24 => "SIGXCPU"
  | 25 => "SIGXFSZ"
  | 26 => "SIGVTALRM"
  | 27 => "SIGPROF"
  | 28 => "SIGWINCH"
  | 29 => "SIGIO"
  | 30 => "SIGPWR"
  | 31 => "SIGSYS"
  | _ => none

def signalText (n : Nat) : String :=
  match signalName n with
  | some name => toString n ++ " (" ++ name ++ ")"
  | none => toString n

def Status.text : Status → String
  | .exited code => "exit status: " ++ toString code
  | .killed signal false => "signal: " ++ signalText signal
  | .killed signal true => "signal: " ++ signalText signal ++ " (core dumped)"
  | .stopped signal => "stopped (not terminated) by signal: " ++ signalText signal
  | .continued => "continued (WIFCONTINUED)"
  | .unknown word =>
    "unrecognised wait status: " ++ toString word ++ " 0x" ++
      String.ofList (Nat.toDigits 16 (unsigned32 word))

/-- The exit code for a program that ends as its child did. -/
def Status.exitCode : Status → Nat
  | .exited code => code
  | .killed signal _ => 128 + signal
  | _ => 1

end TaskDriver.Exit
