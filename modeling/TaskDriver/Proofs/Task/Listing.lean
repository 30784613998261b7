import Mathlib.Data.List.Forall2
import Mathlib.Data.List.TakeWhile
import TaskDriver.Proofs.Definition.Commands
import TaskDriver.Proofs.Files.Written
import TaskDriver.Proofs.Task.History

/-! The listing of the tasks. Between the heading and the last, empty line it has one line for each
name but that of the default task, in the order of registration, and all summaries start in one
column: the width is that of the longest name in bytes, and no name has more characters than
bytes. -/
namespace TaskDriver

namespace Text

variable {s t : List Char} {sep : Char} {ls : List (List Char)}

theorem trimEnd_append_of_blank (h : ∀ c ∈ t, isBlank c = true) : trimEnd (s ++ t) = trimEnd s := by
  have hd : t.reverse.dropWhile isBlank = [] :=
    List.dropWhile_eq_nil_iff.mpr fun c hc => h c (List.mem_reverse.mp hc)
  simp [trimEnd, cutEnd, List.dropWhile_append, hd]

theorem trimEnd_append (h : ∃ c ∈ t, isBlank c = false) : trimEnd (s ++ t) = s ++ trimEnd t := by
  have hd : t.reverse.dropWhile isBlank ≠ [] := by
    intro hnil
    obtain ⟨c, hc, hb⟩ := h
    have := List.dropWhile_eq_nil_iff.mp hnil c (List.mem_reverse.mpr hc)
    rw [hb] at this
    cases this
  simp [trimEnd, cutEnd, List.dropWhile_append, hd]

/-- Lines that each end with a separator are the pieces before the last one. -/
theorem splitOn_flatMap (h : ∀ l ∈ ls, sep ∉ l) (s : List Char) :
    splitOn sep (ls.flatMap (· ++ [sep]) ++ s) = ls ++ splitOn sep s := by
  induction ls with
  | nil => rfl
  | cons l ls ih =>
    rw [List.flatMap_cons, List.append_assoc, List.append_assoc, List.singleton_append,
      splitOn_append (h l (.head _)), ih fun k hk => h k (.tail _ hk), List.cons_append]

theorem length_le_utf8ByteSize (s : List Char) : s.length ≤ (String.ofList s).utf8ByteSize := by
  induction s with
  | nil => exact Nat.zero_le _
  | cons c s ih =>
    have hsplit : String.ofList (c :: s) = String.singleton c ++ String.ofList s := by
      rw [String.singleton_eq_ofList, ← String.ofList_append]
      rfl
    have hc := c.utf8Size_pos
    rw [hsplit, String.utf8ByteSize_append, String.utf8ByteSize_singleton, List.length_cons]
    omega

end Text

namespace Task

variable {ε : Type} {r : Registry ε} {e : Entry ε}

/-! ## Lines -/

def BlankText (s : List Char) : Prop :=
  ∀ c ∈ s, Text.isBlank c = true

instance (s : List Char) : Decidable (BlankText s) :=
  inferInstanceAs (Decidable (∀ c ∈ s, Text.isBlank c = true))

/-- A task whose line in a listing is one line with a name on it. -/
structure Presentable (e : Entry ε) : Prop where
  name_line : '\n' ∉ e.name.toList
  name_shown : ¬ BlankText e.name.toList
  summary_line : '\n' ∉ e.summary.toList

/-- The line of a task where summaries start in a column. With a blank summary only the name is left. -/
inductive LineOf (column : Nat) (e : Entry ε) : List Char → Prop
  | summarised {gap : Nat} : ¬ BlankText e.summary.toList → 3 ≤ gap →
      2 + e.name.toList.length + gap = column →
      LineOf column e ("  ".toList ++ e.name.toList ++ List.replicate gap ' ' ++
        Text.trimEnd e.summary.toList)
  | bare : BlankText e.summary.toList →
      LineOf column e ("  ".toList ++ Text.trimEnd e.name.toList)

theorem exists_of_not_blankText {s : List Char} (h : ¬ BlankText s) :
    ∃ c ∈ s, Text.isBlank c = false := by
  simpa [BlankText] using h

/-- The line that is written for a task, without its line feed. -/
def entryLine (width : Nat) (e : Entry ε) : List Char :=
  Text.trimEnd ("  ".toList ++ padRight width e.name.toList ++ "   ".toList ++ e.summary.toList)

theorem toList_listingLine (width : Nat) (e : Entry ε) :
    (listingLine width e).toList = entryLine width e ++ ['\n'] := by
  rw [listingLine, String.toList_ofList, entryLine]

theorem newline_not_mem_entryLine (h : Presentable e) (width : Nat) : '\n' ∉ entryLine width e := by
  intro hn
  have := Text.mem_of_mem_cutEnd hn
  simp [padRight, h.name_line, h.summary_line] at this

theorem blankText_replicate (n : Nat) : BlankText (List.replicate n ' ') := by
  intro c hc
  rw [(List.mem_replicate.mp hc).2]
  decide

theorem lineOf_entryLine (h : Presentable e) {width : Nat} (hw : e.name.utf8ByteSize ≤ width) :
    LineOf (width + 5) e (entryLine width e) := by
  have hlen : e.name.toList.length ≤ width := by
    have := Text.length_le_utf8ByteSize e.name.toList
    rw [String.ofList_toList] at this
    exact Nat.le_trans this hw
  have hpad : "  ".toList ++ padRight width e.name.toList ++ "   ".toList =
      "  ".toList ++ e.name.toList ++ List.replicate (width - e.name.toList.length + 3) ' ' := by
    simp [padRight, List.replicate_add]
  -- A blank summary is cut off with all the padding before it.
  by_cases hs : BlankText e.summary.toList
  · have hline : entryLine width e = "  ".toList ++ Text.trimEnd e.name.toList := by
      rw [entryLine, hpad, Text.trimEnd_append_of_blank hs,
        Text.trimEnd_append_of_blank (blankText_replicate _),
        Text.trimEnd_append (exists_of_not_blankText h.name_shown)]
    rw [hline]
    exact .bare hs
  · have hline : entryLine width e = "  ".toList ++ e.name.toList ++
        List.replicate (width - e.name.toList.length + 3) ' ' ++ Text.trimEnd e.summary.toList := by
      rw [entryLine, hpad, Text.trimEnd_append (exists_of_not_blankText hs)]
    rw [hline]
    exact .summarised hs (Nat.le_add_left _ _) (by omega)

/-! ## The listing -/

/-- The tasks that have a line. -/
def Registry.shownTasks (r : Registry ε) : List (Entry ε) :=
  r.entries.filter (·.name ≠ defaultName)

def Registry.nameWidth (r : Registry ε) : Nat :=
  (r.shownTasks.map (·.name.utf8ByteSize)).foldl max 0

def heading : List (List Char) :=
  ["".toList, "Run Task: matr <opts> [target] args...".toList, "".toList, "Targets:".toList]

theorem le_foldl_max (l : List Nat) (m : Nat) : m ≤ l.foldl max m ∧ ∀ n ∈ l, n ≤ l.foldl max m := by
  induction l generalizing m with
  | nil => simp
  | cons k l ih =>
    obtain ⟨hm, hl⟩ := ih (max m k)
    rw [List.foldl_cons]
    refine ⟨Nat.le_trans (Nat.le_max_left m k) hm, ?_⟩
    intro n hn
    rcases List.mem_cons.mp hn with rfl | hn
    · exact Nat.le_trans (Nat.le_max_right m n) hm
    · exact hl n hn

theorem Registry.utf8ByteSize_le_nameWidth (h : e ∈ r.shownTasks) :
    e.name.utf8ByteSize ≤ r.nameWidth :=
  (le_foldl_max _ 0).2 _ (List.mem_map_of_mem h)

theorem toList_join (l : List (List Char)) :
    (String.join (l.map String.ofList)).toList = l.flatten := by
  induction l with
  | nil => rfl
  | cons s l ih => rw [List.map_cons, String.join_cons, String.toList_append, ih]; simp

theorem Registry.toList_usage (r : Registry ε) :
    r.usage.toList =
      (heading ++ r.shownTasks.map (entryLine r.nameWidth) ++ [[]]).flatMap (· ++ ['\n']) := by
  have hlines : r.shownTasks.map (listingLine r.nameWidth) =
      (r.shownTasks.map fun e => entryLine r.nameWidth e ++ ['\n']).map String.ofList := by
    rw [List.map_map]
    refine List.map_congr_left fun e _ => ?_
    rw [Function.comp_apply, ← toList_listingLine, String.ofList_toList]
  have husage : r.usage = "\nRun Task: matr <opts> [target] args...\n\nTargets:\n" ++
      String.join (r.shownTasks.map (listingLine r.nameWidth)) ++ "\n" := rfl
  rw [husage, hlines, String.toList_append, String.toList_append, toList_join, List.flatMap_append,
    List.flatMap_append, List.flatMap_map]
  rfl

/-- The lines of the listing, and what is left after the last line feed. -/
theorem Registry.splitLines_usage (h : ∀ e ∈ r.shownTasks, Presentable e) :
    Text.splitLines r.usage.toList =
      heading ++ r.shownTasks.map (entryLine r.nameWidth) ++ [[], []] := by
  have hplain : ∀ l ∈ heading ++ r.shownTasks.map (entryLine r.nameWidth) ++ [[]], '\n' ∉ l := by
    intro l hl
    rcases List.mem_append.mp hl with hl | hl
    · rcases List.mem_append.mp hl with hl | hl
      · exact (by decide : ∀ l ∈ heading, '\n' ∉ l) l hl
      · obtain ⟨e, he, rfl⟩ := List.mem_map.mp hl
        exact newline_not_mem_entryLine (h e he) _
    · rw [List.mem_singleton.mp hl]
      exact List.not_mem_nil
  have := Text.splitOn_flatMap hplain []
  rw [List.append_nil, ← toList_usage] at this
  rw [Text.splitLines, this, List.append_assoc]
  rfl

/-- Each name but that of the default task has its line, in their order. -/
theorem Registry.forall₂_lines (hr : r.names.Nodup) (h : ∀ e ∈ r.shownTasks, Presentable e) :
    List.Forall₂ (fun n line => ∃ e, r.get? n = some e ∧ LineOf (r.nameWidth + 5) e line)
      (r.names.filter (· ≠ defaultName)) (r.shownTasks.map (entryLine r.nameWidth)) := by
  have hnames : r.names.filter (· ≠ defaultName) = r.shownTasks.map (·.name) := by
    rw [names, List.filter_map]
    rfl
  rw [hnames, List.forall₂_map_left_iff, List.forall₂_map_right_iff, List.forall₂_same]
  refine fun e he => ⟨e, ?_, ?_⟩
  · exact (get?_eq_some_iff hr).mpr ⟨(List.mem_filter.mp he).1, rfl⟩
  · exact lineOf_entryLine (h e he) (utf8ByteSize_le_nameWidth he)

/-- After any history the names are those of the registrations in the order of their first ones, each
with the task of its last one. The listing has one line for each name but that of the default task, in
this order, with the summaries of these tasks in one column. -/
theorem registry_of_history (out err : Sink) (history : List (Operation ε)) :
    let r := (Registry.new out err).after history
    r.names = ((registrations history).map (·.name)).eraseDups ∧
    (∀ n e, r.get? n = some e ↔ Latest (registrations history) n e) ∧
    (∀ n, n ∈ r.names ↔ ∃ e, r.get? n = some e) ∧
    ((∀ n e, n ≠ defaultName → r.get? n = some e → Presentable e) →
      ∃ text column lines, r.printUsage = { r with out := r.out.write text } ∧
        Text.splitLines text.toList = heading ++ lines ++ [[], []] ∧
        List.Forall₂ (fun n line => ∃ e, r.get? n = some e ∧ LineOf column e line)
          (r.names.filter (· ≠ defaultName)) lines) := by
  intro r
  have hindex : r.index = (registrations history).foldl Index.insert .empty :=
    Registry.index_after _ history
  have hnodup : r.names.Nodup := (Registry.reachable_after (.new out err) history).nodup
  refine ⟨?_, ?_, ?_, ?_⟩
  · exact (congrArg Index.order hindex).trans (Index.order_insertAll _)
  · intro n e
    rw [← Index.tasks_insertAll, ← hindex]
    rfl
  · intro n
    rw [← Registry.isSome_get?, Option.isSome_iff_exists]
  · intro h
    have hshown : ∀ e ∈ r.shownTasks, Presentable e := by
      intro e he
      obtain ⟨hmem, hne⟩ := List.mem_filter.mp he
      exact h e.name e (by simpa using hne) ((Registry.get?_eq_some_iff hnodup).mpr ⟨hmem, rfl⟩)
    exact ⟨r.usage, _, _, rfl, Registry.splitLines_usage hshown,
      Registry.forall₂_lines hnodup hshown⟩

def silentTask (name summary : String) : Entry Empty :=
  ⟨name, summary, "", fun _ => .done (.ok ())⟩

/-- One name is registered twice, and one task without a name. -/
def rebuiltHistory : List (Operation Empty) :=
  [.handle (silentTask "build" "first"), .handle (silentTask "größe" ""), .withPolicy .fallback,
    .handle (silentTask "" "without a name"), .run ⟨[], none⟩ ["build"] (.quiet 0 false),
    .handle (silentTask "build" "second")]

theorem registry_of_history_rebuilt :
    let r := (Registry.new ⟨false, ""⟩ ⟨false, ""⟩).after rebuiltHistory
    r.names = ["build", "größe", "default"] ∧ r.get? "build" = some (silentTask "build" "second") ∧
      ∃ text column lines, r.printUsage = { r with out := r.out.write text } ∧
        Text.splitLines text.toList = heading ++ lines ++ [[], []] ∧
        List.Forall₂ (fun n line => ∃ e, r.get? n = some e ∧ LineOf column e line)
          ["build", "größe"] lines := by
  intro r
  obtain ⟨hnames, hlatest, _, hlisting⟩ :=
    registry_of_history ⟨false, ""⟩ ⟨false, ""⟩ rebuiltHistory
  have hr : r.names = ["build", "größe", "default"] := hnames.trans (by decide)
  have hentries : r.entries =
      [silentTask "build" "second", silentTask "größe" "", (silentTask "" "without a name").named] :=
    rfl
  refine ⟨hr, (hlatest _ _).mpr ⟨rfl, rebuiltHistory.dropLast.filterMap Operation.task?, [], rfl,
    by simp⟩, ?_⟩
  have hshown : (r.names.filter (· ≠ defaultName)) = ["build", "größe"] := by
    rw [hr]
    decide
  rw [← hshown]
  refine hlisting fun n e hn he => ?_
  have hmem := List.mem_of_find?_eq_some he
  have hname : e.name = n := by simpa using List.find?_some he
  rw [hentries] at hmem
  simp only [List.mem_cons, List.not_mem_nil, or_false] at hmem
  rcases hmem with rfl | rfl | rfl
  · exact ⟨by decide, fun h => absurd (h 'b' (.head _)) (by decide), by decide⟩
  · exact ⟨by decide, fun h => absurd (h 'g' (.head _)) (by decide), by decide⟩
  · exact absurd hname.symm hn

end Task

end TaskDriver
