import Mathlib.Data.List.DropRight
import TaskDriver.Build.Driver
import TaskDriver.Proofs.Definition.Commands
import TaskDriver.Proofs.Files.Written

/-! The summary of a task beside its documentation. The documentation is told from its first line that
is not blank; the summary is the very first line, so that it is empty where the documentation has a
blank line before its text. -/
namespace TaskDriver

namespace Text

variable {s t l : List Char} {ls : List (List Char)}

/-! ## Lines without the blank ones in front -/

def isBlankLine (l : List Char) : Bool :=
  l.all isBlank

theorem trimStart_append_of_blank (h : isBlankLine l = true) (s : List Char) :
    trimStart (l ++ s) = trimStart s :=
  List.dropWhile_append_of_pos (List.all_eq_true.mp h)

theorem trimStart_append (h : isBlankLine l = false) (s : List Char) :
    trimStart (l ++ s) = trimStart l ++ s := by
  induction l with
  | nil => cases h
  | cons c l ih =>
    by_cases hc : isBlank c = true
    · have hl : isBlankLine l = false := by simpa [isBlankLine, hc] using h
      rw [List.cons_append, trimStart, List.dropWhile_cons_of_pos hc, trimStart,
        List.dropWhile_cons_of_pos hc]
      exact ih hl
    · rw [List.cons_append, trimStart, List.dropWhile_cons_of_neg hc, trimStart,
        List.dropWhile_cons_of_neg hc]
      rfl

theorem trimStart_eq_nil_iff : trimStart s = [] ↔ isBlankLine s = true := by
  simp [trimStart, isBlankLine, List.dropWhile_eq_nil_iff]

theorem trim_eq_nil_iff : trim s = [] ↔ isBlankLine s = true := by
  rw [trim, trimEnd, cutEnd, List.reverse_eq_nil_iff, List.dropWhile_eq_nil_iff]
  simp only [List.mem_reverse]
  rw [← List.all_eq_true, ← isBlankLine, ← trimStart_eq_nil_iff, ← trimStart_eq_nil_iff, trimStart,
    trimStart, List.dropWhile_idempotent _ _]

theorem joinLines_cons_cons (l k : List Char) (ls : List (List Char)) :
    joinLines (l :: k :: ls) = l ++ '\n' :: joinLines (k :: ls) :=
  rfl

/-- The lines from the first one that is not blank, which loses the blanks it starts with. -/
def fromText : List (List Char) → List (List Char)
  | [] => []
  | l :: ls => if isBlankLine l then fromText ls else trimStart l :: ls

theorem trimStart_joinLines (ls : List (List Char)) :
    trimStart (joinLines ls) = joinLines (fromText ls) := by
  induction ls with
  | nil => rfl
  | cons l ls ih =>
    rw [fromText]
    split
    next hl =>
      rw [← ih]
      cases ls with
      | nil => exact trimStart_eq_nil_iff.mpr hl
      | cons k ks =>
        have hfeed : isBlankLine ['\n'] = true := by decide
        rw [joinLines_cons_cons, trimStart_append_of_blank hl]
        exact trimStart_append_of_blank hfeed (joinLines (k :: ks))
    next hl =>
      have hl : isBlankLine l = false := by simpa using hl
      cases ls with
      | nil => rfl
      | cons k ks => exact trimStart_append hl _

theorem newline_not_mem_fromText (h : ∀ l ∈ ls, '\n' ∉ l) : ∀ l ∈ fromText ls, '\n' ∉ l := by
  induction ls with
  | nil => exact h
  | cons l ls ih =>
    have ih := ih fun k hk => h k (.tail _ hk)
    rw [fromText]
    split
    next => exact ih
    next =>
      intro k hk
      rcases List.mem_cons.mp hk with rfl | hk
      · exact fun hn => h l (.head _) ((List.dropWhile_sublist _).mem hn)
      · exact h k (.tail _ hk)

theorem headD_fromText (ls : List (List Char)) :
    (fromText ls).headD [] = trimStart ((ls.find? (!isBlankLine ·)).getD []) := by
  induction ls with
  | nil => rfl
  | cons l ls ih =>
    rw [fromText]
    split
    next hl => rw [ih, List.find?_cons_of_neg (by simp [hl])]
    next hl => rw [List.find?_cons_of_pos (by simpa using hl)]; rfl

theorem headD_fromText_eq_nil_iff :
    (fromText ls).headD [] = [] ↔ ∀ l ∈ ls, isBlankLine l = true := by
  induction ls with
  | nil => simp [fromText]
  | cons l ls ih =>
    rw [fromText, List.forall_mem_cons]
    split
    next hl => rw [ih]; exact (and_iff_right hl).symm
    next hl =>
      rw [List.headD_cons, trimStart_eq_nil_iff]
      exact ⟨fun h => absurd h hl, fun h => h.1⟩

/-- A text starts with the first of the lines that it is joined from. -/
theorem headD_splitLines_joinLines (h : ∀ l ∈ ls, '\n' ∉ l) :
    (splitLines (joinLines ls)).headD [] = ls.headD [] := by
  cases ls with
  | nil => rfl
  | cons l ls =>
    have hl := h l (.head _)
    cases ls with
    | nil => rw [joinLines, splitLines, splitOn_of_not_mem hl]
    | cons k ks => rw [joinLines_cons_cons, splitLines, splitOn_append hl]; rfl

theorem isBlankLine_joinLines :
    isBlankLine (joinLines ls) = true ↔ ∀ l ∈ ls, isBlankLine l = true := by
  induction ls with
  | nil => simp [joinLines, isBlankLine]
  | cons l ls ih =>
    cases ls with
    | nil => simp [joinLines]
    | cons k ks =>
      have hfeed : isBlank '\n' = true := by decide
      rw [joinLines_cons_cons, List.forall_mem_cons, ← ih]
      simp [isBlankLine, hfeed]

/-! ## Lines with a blank one in front -/

/-- The first line is blank, and another one is not. -/
def StartsLate (ls : List (List Char)) : Prop :=
  isBlankLine (ls.headD []) = true ∧ ∃ l ∈ ls, isBlankLine l = false

theorem not_startsLate_iff :
    ¬ StartsLate ls ↔ isBlankLine (ls.headD []) = true → ∀ l ∈ ls, isBlankLine l = true := by
  simp [StartsLate]

theorem startsLate_iff : StartsLate ls ↔
    trimStart (ls.headD []) = [] ∧ trimStart (joinLines ls) ≠ [] := by
  rw [StartsLate, trimStart_eq_nil_iff, Ne, trimStart_eq_nil_iff, isBlankLine_joinLines]
  simp

/-- The first line is the first of those that are not blank, unless there is a blank one before these. -/
theorem trimStart_headD_eq_iff :
    trimStart (ls.headD []) = (fromText ls).headD [] ↔ ¬ StartsLate ls := by
  rw [not_startsLate_iff]
  constructor
  · intro h hblank
    rw [← headD_fromText_eq_nil_iff, ← h, trimStart_eq_nil_iff]
    exact hblank
  · intro h
    cases ls with
    | nil => rfl
    | cons l ls =>
      rcases hl : isBlankLine l with _ | _
      · rw [fromText, if_neg (by simp [hl])]
        rfl
      · rw [headD_fromText_eq_nil_iff.mpr (h hl)]
        exact trimStart_eq_nil_iff.mpr hl

end Text

namespace Definition

variable {source : List Char} {commands : List Command}

theorem functions_of_commandsOf (h : commandsOf source = .ok commands) : ∃ functions,
    tokenize source >>= Grammar.file = .ok functions ∧
      commands = functions.map Command.ofFunction := by
  unfold commandsOf at h
  split at h
  · cases h
  · split at h
    next functions hf =>
      cases h
      exact ⟨functions, hf, rfl⟩
    next => cases h

section

variable (f : FunctionItem)

theorem Command.toList_summary :
    (ofFunction f).summary.toList = Text.trimStart ((docLines f.docs).headD []) :=
  String.toList_ofList

theorem Command.toList_doc :
    (ofFunction f).doc.toList = Text.trimStart (Text.joinLines (docLines f.docs)) :=
  String.toList_ofList

theorem Command.headD_doc : (Text.splitLines (ofFunction f).doc.toList).headD [] =
    (Text.fromText (docLines f.docs)).headD [] := by
  rw [toList_doc, Text.trimStart_joinLines, Text.headD_splitLines_joinLines]
  exact Text.newline_not_mem_fromText fun l hl => newline_not_mem_docLines hl

end

/-- A text that starts with no blank is empty once the blanks around it are gone only if it was empty
before. -/
theorem trimmed_eq_empty_iff {text : String} {s : List Char} (h : text.toList = Text.trimStart s) :
    Build.trimmed text = "" ↔ text = "" := by
  rw [Build.trimmed, ← String.toList_inj, ← String.toList_inj, String.toList_ofList, h]
  have hself : Text.trimStart (Text.trimStart s) = Text.trimStart s := List.dropWhile_idempotent _ _
  rw [String.toList_empty, Text.trim_eq_nil_iff, ← Text.trimStart_eq_nil_iff, hself]

/-- **The summary is the first line of the documentation, unless that is blank and a later one is not.**
The documentation of a command starts with its first line that is not blank; the summary is empty, and
the task is listed without one, just where a blank line stands before it. -/
theorem summary_eq_firstLine_iff (h : commandsOf source = .ok commands) : ∃ functions,
    tokenize source >>= Grammar.file = .ok functions ∧
      commands = functions.map Command.ofFunction ∧ ∀ f ∈ functions,
        (Text.splitLines (Command.ofFunction f).doc.toList).headD [] =
          Text.trimStart (((docLines f.docs).find? (!Text.isBlankLine ·)).getD []) ∧
        ((Command.ofFunction f).summary.toList =
            (Text.splitLines (Command.ofFunction f).doc.toList).headD [] ↔
          ¬ Text.StartsLate (docLines f.docs)) ∧
        ((Command.ofFunction f).summary = "" ∧ (Command.ofFunction f).doc ≠ "" ↔
          Text.StartsLate (docLines f.docs)) ∧
        (Build.trimmed (Command.ofFunction f).summary = "" ∧
            Build.trimmed (Command.ofFunction f).doc ≠ "" ↔
          Text.StartsLate (docLines f.docs)) := by
  obtain ⟨functions, hread, hcommands⟩ := functions_of_commandsOf h
  refine ⟨functions, hread, hcommands, fun f _ => ?_⟩
  have hsummary := Command.toList_summary f
  have hdoc := Command.toList_doc f
  have hlate : (Command.ofFunction f).summary = "" ∧ (Command.ofFunction f).doc ≠ "" ↔
      Text.StartsLate (docLines f.docs) := by
    rw [Text.startsLate_iff, ← hsummary, ← hdoc, Ne, ← String.toList_inj, ← String.toList_inj]
    rfl
  refine ⟨?_, ?_, hlate, ?_⟩
  · rw [Command.headD_doc, Text.headD_fromText]
  · rw [Command.headD_doc, hsummary, Text.trimStart_headD_eq_iff]
  · rw [Ne, trimmed_eq_empty_iff hsummary, trimmed_eq_empty_iff hdoc, ← Ne, hlate]

/-- Documentation in a block, in an attribute and in a line. -/
def mixedSource : List Char :=
  "// matr:build\n/** Deploy\n to prod */\n#[doc = \" \\n by hand\"]\n///\nfn Deploy() {}\n".toList

def mixedCommand : Command :=
  ⟨"Deploy", "Deploy", "Deploy\n to prod \n \n by hand\n", true⟩

/-- The blank lines of this documentation come after its first line. -/
theorem summary_eq_firstLine_iff_mixed : commandsOf mixedSource = .ok [mixedCommand] ∧
    ∃ f, mixedCommand = .ofFunction f ∧ ¬ Text.StartsLate (docLines f.docs) := by
  have hread : commandsOf mixedSource = .ok [mixedCommand] :=
    commandsOf_of_toOption (by decide +kernel)
  refine ⟨hread, ?_⟩
  obtain ⟨functions, _, hcommands, hall⟩ := summary_eq_firstLine_iff hread
  obtain ⟨f, hf, hcommand⟩ : ∃ f ∈ functions, Command.ofFunction f = mixedCommand :=
    List.mem_map.mp (hcommands ▸ .head _)
  refine ⟨f, hcommand.symm, (hall f hf).2.1.mp ?_⟩
  rw [hcommand]
  decide

/-- A block whose text starts on its second line. -/
def lateSource : List Char :=
  "// matr:build\n/**\nDeploy to prod\n*/\nfn Deploy() {}\n".toList

def lateCommand : Command :=
  ⟨"Deploy", "", "Deploy to prod\n", true⟩

/-- The task has documentation and no summary. -/
theorem summary_missing : commandsOf lateSource = .ok [lateCommand] ∧
    lateCommand.exported = true ∧ lateCommand.summary.toList ≠
      (Text.splitLines lateCommand.doc.toList).headD [] ∧ lateCommand.doc ≠ "" := by
  refine ⟨commandsOf_of_toOption (by decide +kernel), rfl, ?_, ?_⟩ <;> decide

end Definition
end TaskDriver
