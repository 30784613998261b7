import TaskDriver.Build.Driver
import TaskDriver.Proofs.Definition.Layout

/-! The driver as it is laid out: which tokens it has, and what stands between them. -/
namespace TaskDriver.Build.Layout
open Definition (Piece Command Delimiter IsWord spell fits nextOf isClear isSpace spell_append
  fits_append)

/-- A new line and the spaces before its first token. -/
def line (indent : Nat) : Piece :=
  .space ('\n' :: List.replicate indent ' ')

def blank : Piece := .space [' ']
def mark (c : Char) : Piece := .mark c false
def parens (inner : List Piece) : Piece := .group .paren inner
def braces (inner : List Piece) : Piece := .group .brace inner

/-- Words with two colons between them. -/
def path : List String → List Piece
  | [] => []
  | [w] => [.word w]
  | w :: ws => .word w :: .mark ':' true :: mark ':' :: path ws

/-- A call of a method. -/
def method (name : String) (arguments : List Piece) : List Piece :=
  [mark '.', .word name, parens arguments]

/-! ## Statements -/

def bind (name value : List Piece) : List Piece :=
  [line 4, .word "let", blank] ++ name ++ [blank, mark '=', blank] ++ value ++ [mark ';']

def startLogging : List Piece :=
  [line 4] ++ path ["matr", "init_logging"] ++ [parens [], mark ';', line 0]

def bindRegistry (policy : Task.Policy) : List Piece :=
  bind [.word "mut", blank, .word "registry"]
    (path ["matr", "Registry", "new"] ++ [parens []] ++
      method "with_policy" (path ["matr", "DispatchPolicy", policy.variant])) ++
  [line 0]

/-- The task of a command, with its texts. -/
def task (c : Command) : List Piece :=
  path ["matr", "Task", "new"] ++
    [parens [.text (Task.name c.name).toList, mark ',', blank, .word c.name], line 12] ++
    method "summary" [.text (trimmed c.summary).toList] ++ [line 12] ++
    method "doc" [.text (trimmed c.doc).toList]

/-- The summary stands in the comment as it is; all other texts are in quotes. -/
def register (c : Command) : List Piece :=
  [line 4, .comment (' ' :: (if c.summary = "" then c.name else c.summary).toList),
    .space [' ', ' ', ' ', ' '], .word "registry"] ++
  method "handle" ([line 8] ++ task c ++ [mark ',', line 4]) ++ [mark ';', line 0]

def bindArguments : List Piece :=
  bind [.word "args", mark ':', blank, .word "Vec", mark '<', .word "String", mark '>']
    (path ["std", "env", "args"] ++ [parens []] ++ method "skip" [.number 1] ++
      method "collect" [])

def bindTimeout (seconds : Nat) : List Piece :=
  bind [.word "timeout"]
    (path ["std", "time", "Duration", "from_secs"] ++ [parens [.number seconds]]) ++ [line 0]

/-- What is done when the tasks cannot be supervised. -/
def failure : List Piece :=
  [line 12, .word "eprintln", mark '!',
    parens [.text "ERROR: \x7b\x7d".toList, mark ',', blank, .word "e"], mark ';', line 12] ++
  path ["std", "process", "exit"] ++ [parens [.number 1], mark ';', line 8]

def outcomeArm : List Piece :=
  [line 8, .word "Ok", parens [.word "outcome"], blank, .mark '=' true, mark '>', blank,
    .word "outcome", mark ',']

def failureArm : List Piece :=
  [line 8, .word "Err", parens [.word "e"], blank, .mark '=' true, mark '>', blank,
    braces failure, line 4]

def supervision : List Piece :=
  path ["matr", "supervise"] ++
    [parens [.word "registry", mark ',', blank, .word "args", mark ',', blank, .word "timeout"]]

def bindOutcome : List Piece :=
  bind [.word "outcome"]
    ([.word "match", blank] ++ supervision ++ [blank, braces (outcomeArm ++ failureArm)])

def reportOutcome : List Piece :=
  bind [.word "_"]
    ([.word "outcome"] ++ method "report" ([mark '&', .word "mut", blank] ++
      path ["std", "io", "stderr"] ++ [parens []]))

def exitWithOutcome : List Piece :=
  [line 4] ++ path ["std", "process", "exit"] ++
    [parens ([.word "outcome"] ++ method "exit_code" []), mark ';', line 0]

/-! ## The driver -/

def header : List Piece :=
  [.comment (' ' :: generatedBy.toList), .mark '#' true, mark '!',
    .group .bracket [.word "allow", parens [.word "non_snake_case", mark ',', blank,
      .word "dead_code", mark ',', blank, .word "unused_imports"]],
    line 0, line 0]

def inclusion : List Piece :=
  [.word "include", mark '!', parens [.text includedName.toList], mark ';', line 0, line 0]

def first (policy : Task.Policy) : List Piece :=
  startLogging ++ bindRegistry policy

def last (seconds : Nat) : List Piece :=
  bindArguments ++ bindTimeout seconds ++ bindOutcome ++ reportOutcome ++ exitWithOutcome

def mainFunction (statements : List Piece) : List Piece :=
  [.word "fn", blank, .word "main", parens [], blank, braces statements, line 0]

/-- Exported commands are registered in their order, and no others. -/
def registrations (commands : List Command) : List Piece :=
  (commands.filter (·.exported)).flatMap register

def driver (commands : List Command) (o : DriverOptions) : List Piece :=
  header ++ inclusion ++
    mainFunction (first o.policy ++ registrations commands ++ last o.timeoutSecs)

/-! ## It is the text of the driver -/

theorem toList_quote (s : String) : (Text.quote s).toList = Text.quoteChars s.toList := by
  rw [Text.quote, String.toList_ofList]

set_option maxRecDepth 4000 in
theorem toList_opening (p : Task.Policy) :
    (opening p).toList =
      spell header ++ spell inclusion ++ "fn main() \x7b".toList ++ spell (first p) := by
  unfold opening
  simp only [String.toList_append]
  cases p <;> rfl

theorem toList_registration (c : Command) : (registration c).toList = spell (register c) := by
  unfold registration
  simp only [String.toList_append, toList_quote]
  simp [register, task, method, path, parens, mark, blank, line, spell, Piece.spell,
    Delimiter.opening, Delimiter.closing]

/-- What stands before the seconds in the part after the registrations. -/
def beforeSeconds : List Piece :=
  bindArguments ++ [line 4, .word "let", blank, .word "timeout", blank, mark '=', blank] ++
    path ["std", "time", "Duration", "from_secs"]

def afterSeconds : List Piece :=
  [mark ';', line 0] ++ bindOutcome ++ reportOutcome ++ exitWithOutcome

theorem last_eq (n : Nat) : last n = beforeSeconds ++ parens [.number n] :: afterSeconds := by
  simp [last, bindTimeout, bind, beforeSeconds, afterSeconds]

theorem spell_seconds (n : Nat) (ps : List Piece) :
    spell (parens [.number n] :: ps) = '(' :: ((toString n).toList ++ ')' :: spell ps) := by
  simp [spell, Piece.spell, parens, Delimiter.opening, Delimiter.closing]

set_option maxRecDepth 4000 in
theorem toList_closing (n : Nat) :
    (closing n).toList = spell (last n) ++ "\x7d\n".toList := by
  obtain ⟨before, hb⟩ : ∃ t, spell beforeSeconds ++ ['('] = t := ⟨_, rfl⟩
  obtain ⟨after, ha⟩ : ∃ t, ')' :: (spell afterSeconds ++ "\x7d\n".toList) = t := ⟨_, rfl⟩
  have hs : before ++ ((toString n).toList ++ after) = spell (last n) ++ "\x7d\n".toList := by
    rw [← hb, ← ha, last_eq, spell_append, spell_seconds]
    simp only [List.append_assoc, List.cons_append, List.nil_append]
  refine Eq.trans ?_ hs
  unfold closing
  simp only [String.toList_append, List.append_assoc]
  refine (List.append_assoc _ _ _).symm.trans ?_
  refine congr (congrArg HAppend.hAppend (Eq.trans ?_ hb)) (congrArg _ (Eq.trans ?_ ha)) <;> rfl

/-- The text of the driver is the program that is laid out here. -/
theorem toList_driverText (commands : List Command) (o : DriverOptions) :
    (driverText commands o).toList = spell (driver commands o) := by
  have hr : ∀ cs : List Command,
      (String.join (cs.map registration)).toList = spell (cs.flatMap register) := by
    intro cs
    induction cs with
    | nil => rfl
    | cons c cs ih =>
      rw [List.map_cons, String.join_cons, String.toList_append, toList_registration, ih,
        List.flatMap_cons, spell_append]
  have hm : ∀ ps, spell (mainFunction ps) =
      "fn main() \x7b".toList ++ (spell ps ++ "\x7d\n".toList) := by
    intro ps
    simp [mainFunction, spell, Piece.spell, blank, parens, braces, line, Delimiter.opening,
      Delimiter.closing]
  rw [driverText, driver, registrations, String.toList_append, String.toList_append,
    toList_opening, toList_closing, hr]
  simp only [spell_append, hm, List.append_assoc]

/-! ## Its pieces fit -/

set_option maxRecDepth 4000 in
theorem fits_header (next : Option Char) : fits next header = true := by
  rfl

set_option maxRecDepth 4000 in
theorem fits_inclusion (next : Option Char) : fits next inclusion = true := by
  rfl

theorem fits_first (p : Task.Policy) (next : Option Char) : fits next (first p) = true := by
  cases p <;> rfl

theorem newline_not_mem_word {s : List Char} (h : IsWord s) : '\n' ∉ s := by
  obtain ⟨c, r, rfl, hc, hr⟩ := h.cases
  rintro (_ | ⟨_, hm⟩)
  · exact absurd hc (by decide)
  · exact absurd (hr _ hm) (by decide)

theorem fits_register {c : Command} (hn : IsWord c.name.toList) (hs : '\n' ∉ c.summary.toList)
    (next : Option Char) : fits next (register c) = true := by
  have hq : ∀ s, (Text.quoteChars s).head? = some '\x22' := fun _ => rfl
  have hc : '\n' ∉ (if c.summary = "" then c.name else c.summary).toList := by
    split
    · exact newline_not_mem_word hn
    · exact hs
  simp +decide [register, task, path, method, mark, parens, blank, line, fits, Piece.fits, nextOf,
    Piece.spell, spell, Delimiter.opening, Delimiter.closing, isClear, isSpace, hn, hq, hc]

theorem fits_seconds (n : Nat) (next : Option Char) : (parens [.number n]).fits next = true := by
  obtain ⟨c, t, ht⟩ := List.exists_cons_of_ne_nil (Definition.toList_toString_ne_nil n)
  have hc : c ≠ '/' := by
    rintro rfl
    have := Definition.isDigit_of_mem_toString (n := n) (by rw [ht]; exact .head _)
    exact absurd this (by decide)
  have hn : nextOf [.number n] (some ')') = some c := by
    rw [nextOf, spell, Piece.spell, ht]
    rfl
  have hf : fits (some ')') [.number n] = true := rfl
  rw [parens, Piece.fits, Delimiter.closing, hn, hf]
  simp [hc]

set_option maxRecDepth 4000 in
theorem fits_last (n : Nat) (next : Option Char) : fits next (last n) = true := by
  have hb : fits (some '(') beforeSeconds = true := by rfl
  have ha : fits next afterSeconds = true := by rfl
  have hn : nextOf (parens [.number n] :: afterSeconds) next = some '(' := rfl
  rw [last_eq, fits_append, hn, hb, fits, fits_seconds, ha]
  rfl

theorem fits_registrations {commands : List Command}
    (h : ∀ c ∈ commands, IsWord c.name.toList ∧ '\n' ∉ c.summary.toList) (next : Option Char) :
    fits next (registrations commands) = true := by
  rw [registrations]
  have hall : ∀ c ∈ commands.filter (·.exported), IsWord c.name.toList ∧ '\n' ∉ c.summary.toList :=
    fun c hc => h c (List.mem_filter.mp hc).1
  generalize commands.filter (·.exported) = cs at hall
  induction cs with
  | nil => rfl
  | cons c cs ih =>
    obtain ⟨hn, hs⟩ := hall c (.head _)
    rw [List.flatMap_cons, fits_append, fits_register hn hs, ih fun c hc => hall c (.tail _ hc)]
    rfl

theorem fits_mainFunction {ps : List Piece} (h : fits (some '\x7d') ps = true)
    (hs : (spell ps).head? = some '\n') (next : Option Char) :
    fits next (mainFunction ps) = true := by
  simp +decide [mainFunction, braces, parens, blank, line, fits, Piece.fits, Delimiter.closing,
    Delimiter.opening, nextOf, spell, Piece.spell, isClear, isSpace, h, hs]

/-- Everything in the driver reads as itself when the names in it are words and the summaries are
one line. -/
theorem fits_driver {commands : List Command}
    (h : ∀ c ∈ commands, IsWord c.name.toList ∧ '\n' ∉ c.summary.toList) (o : DriverOptions) :
    fits none (driver commands o) = true := by
  have hstatements : fits (some '\x7d')
      (first o.policy ++ registrations commands ++ last o.timeoutSecs) = true := by
    rw [fits_append, fits_append, fits_first, fits_registrations h, fits_last]
    rfl
  have hmain := fits_mainFunction hstatements rfl none
  rw [driver, fits_append, fits_append, fits_header, fits_inclusion, hmain]
  rfl

end TaskDriver.Build.Layout
