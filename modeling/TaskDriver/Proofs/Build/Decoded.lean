import TaskDriver.Proofs.Build.ReadBack
import TaskDriver.Proofs.Definition.Commands

/-! The driver gives back what it was made from: its tokens are a program that holds the names and
the documentation of the exported functions, and no text in it is taken for anything else. -/
namespace TaskDriver.Build
open Definition (Command Piece commandsOf marker tokenize pieces? solid spell fits tokensAt)
open Layout (path method parens braces mark)

/-- What the driver registers for a function: the name of the task, the function itself, and the
documentation. -/
structure Registration where
  task : String
  function : String
  summary : String
  doc : String
  deriving DecidableEq

def Registration.ofCommand (c : Command) : Registration :=
  ⟨Task.name c.name, c.name, trimmed c.summary, trimmed c.doc⟩

def Registration.statement (r : Registration) : List Piece :=
  .word "registry" :: method "handle"
    (path ["matr", "Task", "new"] ++ [parens [.text r.task.toList, mark ',', .word r.function]] ++
      method "summary" [.text r.summary.toList] ++ method "doc" [.text r.doc.toList] ++
      [mark ',']) ++ [mark ';']

/-- The program with these registrations: whatever else is in it is the same in every driver. -/
def program (policy : Task.Policy) (registrations : List Registration) (seconds : Nat) :
    List Piece :=
  solid Layout.header ++ solid Layout.inclusion ++
    [.word "fn", .word "main", parens [],
      braces (solid (Layout.first policy) ++ registrations.flatMap Registration.statement ++
        solid (Layout.last seconds))]

/-- The registrations of the exported commands. -/
def registered (commands : List Command) : List Registration :=
  (commands.filter (·.exported)).map .ofCommand

/-! ## The driver is that program -/

theorem solid_register (c : Command) :
    solid (Layout.register c) = (Registration.ofCommand c).statement := by
  rfl

theorem solid_registrations (commands : List Command) :
    solid (Layout.registrations commands) =
      (registered commands).flatMap Registration.statement := by
  rw [Layout.registrations, registered]
  induction commands.filter (·.exported) with
  | nil => rfl
  | cons c cs ih =>
    rw [List.flatMap_cons, Definition.solid_append, ih, solid_register]
    rfl

theorem solid_driver (commands : List Command) (o : DriverOptions) :
    solid (Layout.driver commands o) = program o.policy (registered commands) o.timeoutSecs := by
  have hmain : ∀ ps, solid (Layout.mainFunction ps) =
      [.word "fn", .word "main", parens [], braces (solid ps)] := fun _ => rfl
  simp only [Layout.driver, Definition.solid_append, hmain, solid_registrations, program]

/-! ## The program determines its registrations -/

theorem Registration.statement_injective {r r' : Registration} (h : r.statement = r'.statement) :
    r = r' := by
  cases r
  cases r'
  simpa [Registration.statement, method, path, parens, mark, String.toList_inj, and_assoc] using h

theorem solid_first_injective {p p' : Task.Policy}
    (h : solid (Layout.first p) = solid (Layout.first p')) : p = p' := by
  have hv : p.variant = p'.variant := by
    simpa [Layout.first, Layout.bindRegistry, Layout.bind, path, method, parens,
      Definition.solid_append, solid, Piece.solid] using h
  cases p <;> cases p' <;> first | rfl | exact absurd hv (by decide)

theorem solid_last_injective {n n' : Nat}
    (h : solid (Layout.last n) = solid (Layout.last n')) : n = n' := by
  rw [Layout.last_eq, Layout.last_eq, Definition.solid_append, Definition.solid_append] at h
  have hs := List.append_cancel_left h
  simpa [parens, solid, Piece.solid] using hs

theorem Registration.length_statement (r : Registration) : r.statement.length = 5 :=
  rfl

theorem statements_injective {rs rs' : List Registration} {n n' : Nat}
    (h : rs.flatMap Registration.statement ++ solid (Layout.last n) =
      rs'.flatMap Registration.statement ++ solid (Layout.last n')) : rs = rs' ∧ n = n' := by
  have hne : ∀ (r : Registration) ps n, r.statement ++ ps ≠ solid (Layout.last n) := by
    intro r ps n he
    have hl : ∀ n, ∃ qs, solid (Layout.last n) = .word "let" :: qs := fun _ => ⟨_, rfl⟩
    obtain ⟨qs, hq⟩ := hl n
    rw [hq, Registration.statement] at he
    injection he with hw
    injection hw with hs
    exact absurd hs (by decide)
  induction rs generalizing rs' with
  | nil =>
    cases rs' with
    | nil => exact ⟨rfl, solid_last_injective h⟩
    | cons r' rs' =>
      rw [List.flatMap_cons, List.append_assoc] at h
      exact absurd h.symm (hne _ _ _)
  | cons r rs ih =>
    cases rs' with
    | nil =>
      rw [List.flatMap_cons, List.append_assoc] at h
      exact absurd h (hne _ _ _)
    | cons r' rs' =>
      rw [List.flatMap_cons, List.flatMap_cons, List.append_assoc, List.append_assoc] at h
      obtain ⟨hr, ht⟩ := List.append_inj h (by rw [r.length_statement, r'.length_statement])
      obtain ⟨hrs, hn⟩ := ih ht
      exact ⟨by rw [Registration.statement_injective hr, hrs], hn⟩

theorem program_injective {p p' : Task.Policy} {rs rs' : List Registration} {n n' : Nat}
    (h : program p rs n = program p' rs' n') : p = p' ∧ rs = rs' ∧ n = n' := by
  have hb := List.append_cancel_left h
  have hl : (solid (Layout.first p)).length = (solid (Layout.first p')).length := by
    cases p <;> cases p' <;> rfl
  simp only [braces, List.append_assoc, List.cons.injEq, Piece.group.injEq, true_and,
    and_true] at hb
  obtain ⟨hp, hs⟩ := List.append_inj hb hl
  exact ⟨solid_first_injective hp, statements_injective hs⟩

/-! ## The driver of a definition file -/

variable {source : List Char} {commands : List Command}

theorem fits_driver (h : commandsOf source = .ok commands) (o : DriverOptions) :
    fits none (Layout.driver commands o) = true :=
  Layout.fits_driver (fun _ hc =>
    ⟨Definition.isWord_of_mem h hc, Definition.newline_not_mem_summary h hc⟩) o

theorem tokenize_driverText (h : commandsOf source = .ok commands) (o : DriverOptions) :
    tokenize (driverText commands o).toList = .ok (tokensAt 0 (Layout.driver commands o)) ∧
      pieces? (tokensAt 0 (Layout.driver commands o)) =
        some (program o.policy (registered commands) o.timeoutSecs) := by
  have hfits := fits_driver h o
  rw [Layout.toList_driverText, ← solid_driver]
  exact ⟨Definition.tokenize_spell hfits, Definition.pieces?_tokensAt _ 0 hfits⟩

/-- What stands after the slashes of the marker. -/
def markerWords : List Char := " matr:build".toList

theorem firstLine_marker (s : List Char) :
    Definition.firstLine (marker.toList ++ '\n' :: s) = marker.toList := by
  rfl

theorem commandsOf_driverText (h : commandsOf source = .ok commands) (o : DriverOptions) :
    commandsOf (marker.toList ++ '\n' :: (driverText commands o).toList) =
      .ok [⟨"main", "", "", false⟩] := by
  have hmarked : fits none (.comment markerWords :: Layout.driver commands o) = true := by
    rw [fits, fits_driver h o]
    rfl
  have hspell : marker.toList ++ '\n' :: (driverText commands o).toList =
      spell (.comment markerWords :: Layout.driver commands o) := by
    rw [Layout.toList_driverText]
    rfl
  have hnames : ∀ c ∈ commands, c.exported = true → Layout.IsName c.name := fun c hc he =>
    ⟨Definition.isWord_of_mem h hc, Definition.not_mem_keywords_of_exported h hc he⟩
  have hshift : ∀ ps, tokensAt 0 (.comment markerWords :: ps) =
      tokensAt (0 + (Piece.comment markerWords).spell.length) ps := fun _ => rfl
  have hbind : ∀ ts, (Except.ok ts >>= Definition.Grammar.file) = Definition.Grammar.file ts :=
    fun _ => rfl
  have hfile : (tokenize (spell (.comment markerWords :: Layout.driver commands o)) >>=
      Definition.Grammar.file) = .ok [⟨Layout.mainName, []⟩] := by
    rw [Definition.tokenize_spell hmarked, hshift, hbind, Layout.file_driver hnames]
  rw [commandsOf, firstLine_marker, if_neg (not_not_intro rfl), hspell, hfile]
  rfl

/-- **The driver gives back what it was made from.** Its tokens are the program with the
registrations of the exported commands, in their order, under the options, and with no others; and
as a definition file it has one function, with no documentation. -/
theorem driver_decodes (h : commandsOf source = .ok commands) (o : DriverOptions) :
    (∃ ts, tokenize (driverText commands o).toList = .ok ts ∧
      ∀ policy registrations seconds,
        pieces? ts = some (program policy registrations seconds) ↔
          policy = o.policy ∧ registrations = registered commands ∧ seconds = o.timeoutSecs) ∧
    commandsOf (marker.toList ++ '\n' :: (driverText commands o).toList) =
      .ok [⟨"main", "", "", false⟩] := by
  obtain ⟨ht, hp⟩ := tokenize_driverText h o
  refine ⟨⟨_, ht, fun policy registrations seconds => ⟨?_, ?_⟩⟩, commandsOf_driverText h o⟩
  · intro he
    rw [hp, Option.some_inj] at he
    obtain ⟨hpolicy, hregistrations, hseconds⟩ := program_injective he
    exact ⟨hpolicy.symm, hregistrations.symm, hseconds.symm⟩
  · rintro ⟨rfl, rfl, rfl⟩
    exact hp

/-- Documentation that closes its quotes and goes on as code. -/
def quotingSource : List Char :=
  ("// matr:build\n/// Ships\n#[doc = \"\\\"); \\n// \\\\\"]\nfn r#Ship() \x7b\x7d\n" ++
    "fn helper() \x7b\x7d\n").toList

def quotingCommands : List Command :=
  [⟨"Ship", "Ships", "Ships\n\"); \n// \\", true⟩, ⟨"helper", "", "", false⟩]

theorem driver_decodes_quoting : commandsOf quotingSource = .ok quotingCommands ∧
    ∃ ts, tokenize (driverText quotingCommands ⟨.fallback, 5⟩).toList = .ok ts ∧
      pieces? ts =
        some (program .fallback [⟨"ship", "Ship", "Ships", "Ships\n\"); \n// \\"⟩] 5) := by
  have hc : commandsOf quotingSource = .ok quotingCommands :=
    Definition.commandsOf_of_toOption (by decide +kernel)
  obtain ⟨⟨ts, ht, hp⟩, _⟩ := driver_decodes hc ⟨.fallback, 5⟩
  exact ⟨hc, ts, ht, (hp _ _ _).mpr ⟨rfl, by decide +kernel, rfl⟩⟩

end TaskDriver.Build
