import Mathlib.Data.List.Nodup
import TaskDriver.CommandLine.Commands

/-! The words for the driver. Whatever options stand before them and however these are written, the
words from the task on, or after a double dash, reach the driver as they are. -/
namespace TaskDriver.CommandLine

open Build (Building Ending Programs Site)
open Files (Tree)

/-! ## Options as they are written -/

/-- An option of the program. The path stands after an equals sign or as a word of its own. -/
inductive Own
  | matrfile (path : String) (joined : Bool)
  | clean
  | noCache
  | status
  | verbose (short : Bool)
  deriving DecidableEq

namespace Own

def words : Own → List String
  | matrfile path true => ["--matrfile=" ++ path]
  | matrfile path false => ["--matrfile", path]
  | clean => ["--clean"]
  | noCache => ["--no-cache"]
  | status => ["--status"]
  | verbose true => ["-v"]
  | verbose false => ["--verbose"]

/-- The flag that is raised, if the option is no path. -/
def kind : Own → Option Flag
  | matrfile .. => none
  | clean => some .clean
  | noCache => some .noCache
  | status => some .status
  | verbose _ => some .verbose

def path? : Own → Option String
  | matrfile path _ => some path
  | _ => none

/-- No path is empty or begins like an option. -/
def Valid (o : Own) : Prop :=
  ∀ path ∈ o.path?, path ≠ "" ∧ path.toList.head? ≠ some '-'

end Own

/-- What the options mean, by themselves. -/
def Options.given (os : List Own) (args : List String) : Options :=
  { matrfile := (os.findSome? Own.path?).getD "."
    clean := some Flag.clean ∈ os.map Own.kind
    noCache := some Flag.noCache ∈ os.map Own.kind
    status := some Flag.status ∈ os.map Own.kind
    verbose := some Flag.verbose ∈ os.map Own.kind
    args }

/-- The words after the options, and those of them that are for the driver. -/
inductive Trails : List String → List String → Prop
  | nothing : Trails [] []
  | task {t : String} (tail : List String) (h : t.toList.head? ≠ some '-') :
      Trails (t :: tail) (t :: tail)
  | marked (xs : List String) : Trails ("--" :: xs) xs

/-! ## Reading the options -/

section

variable {os : List Own} {o : Own} {r : Reading} {w : String} {ws : List String}

theorem splitValue_eq {a v : List Char} (h : '=' ∉ a) :
    splitValue (a ++ '=' :: v) = (String.ofList a, some (String.ofList v)) := by
  have hall : ∀ c ∈ a, (decide (c ≠ '=')) = true := fun c hc => by
    simpa using fun e : c = '=' => h (e ▸ hc)
  simp only [splitValue, List.dropWhile_append_of_pos hall, List.takeWhile_append_of_pos hall]
  simp

theorem option_joined (path : String) :
    r.option ("--matrfile=" ++ path) = r.long "matrfile" (some path) := by
  have hw : ("--matrfile=" ++ path).toList =
      '-' :: '-' :: ("matrfile".toList ++ '=' :: path.toList) := by
    simp
  have hv : splitValue ("matrfile".toList ++ '=' :: path.toList) = ("matrfile", some path) := by
    rw [splitValue_eq (by decide), String.ofList_toList, String.ofList_toList]
  simp only [Reading.option, hw, hv]

/-- A word that does not begin with a dash is no option. -/
theorem option_eq_none (h : w.toList.head? ≠ some '-') : r.option w = none := by
  unfold Reading.option
  split <;> simp_all

theorem words_of_option {q : Reading} (hd : w ≠ "--") (h : r.option w = some (.ok q)) :
    r.words (w :: ws) = q.words ws := by
  simp only [Reading.words, if_neg hd, h]

/-- What has been read so far is these options: their flags are raised, and their path is there once
the reading is settled. -/
structure Reads (os : List Own) (r : Reading) : Prop where
  flags : ∀ f, f ∈ r.flags ↔ some f ∈ os.map Own.kind
  settled : r.settle = .ok ⟨r.flags, os.findSome? Own.path?, .nothing⟩

theorem reads_start : Reads [] Reading.start :=
  ⟨by simp [Reading.start], rfl⟩

theorem Reads.pending_ne (h : Reads os r) : r.pending ≠ .wanted := by
  intro hp
  have := h.settled
  simp [Reading.settle, hp] at this

/-- A flag is raised once. -/
theorem Reads.raise {f : Flag} (h : Reads os r) (hk : o.kind = some f)
    (hn : o.kind ∉ os.map Own.kind) :
    ∃ r', r.raise f = .ok r' ∧ Reads (os ++ [o]) r' := by
  have hf : f ∉ r.flags := by rwa [h.flags, ← hk]
  have hp : o.path? = none := by
    cases o <;> first | rfl | cases hk
  refine ⟨⟨f :: r.flags, os.findSome? Own.path?, .nothing⟩, ?_, fun g => ?_, ?_⟩
  · simp only [Reading.raise, h.settled, bind, Except.bind, if_neg hf]
  · simp [h.flags, hk, or_comm, eq_comm]
  · simp [Reading.settle, List.findSome?_append, hp]

/-- The path is taken where none was given before. -/
theorem Reads.path_eq_none (h : none ∉ os.map Own.kind) : os.findSome? Own.path? = none := by
  refine List.findSome?_eq_none_iff.2 fun o ho => ?_
  cases o with
  | matrfile path joined => exact absurd (List.mem_map.2 ⟨_, ho, rfl⟩) h
  | _ => rfl

/-- A flag is read from its one word. -/
theorem Reads.step_flag {f : Flag} (h : Reads os r) (hn : o.kind ∉ os.map Own.kind)
    (hk : o.kind = some f) (hw : o.words = [w]) (hd : w ≠ "--")
    (ho : ∀ r : Reading, r.option w = some (r.raise f)) :
    ∃ r', (∀ ws, r.words (o.words ++ ws) = r'.words ws) ∧ Reads (os ++ [o]) r' := by
  obtain ⟨r', hr, hr'⟩ := h.raise hk hn
  refine ⟨r', fun ws => ?_, hr'⟩
  rw [hw]
  exact words_of_option hd (by rw [ho, hr])

/-- A path is read from the word of the option, or from a word of its own, which waits for the next
option or for the end. -/
theorem Reads.step_path {path : String} {joined : Bool} (h : Reads os r) (hne : path ≠ "")
    (hdash : path.toList.head? ≠ some '-') (hn : none ∉ os.map Own.kind) :
    ∃ r', (∀ ws, r.words ((Own.matrfile path joined).words ++ ws) = r'.words ws) ∧
      Reads (os ++ [.matrfile path joined]) r' := by
  have hpath := Reads.path_eq_none hn
  have hsettled := h.settled
  rw [hpath] at hsettled
  have hflags : ∀ f, f ∈ r.flags ↔ some f ∈ (os ++ [Own.matrfile path joined]).map Own.kind := by
    simp [h.flags, Own.kind]
  have hfound : (os ++ [Own.matrfile path joined]).findSome? Own.path? = some path := by
    simp [List.findSome?_append, hpath, Own.path?]
  cases joined with
  | true =>
    refine ⟨⟨r.flags, some path, .nothing⟩, fun ws => ?_, hflags, by rw [hfound]; rfl⟩
    refine words_of_option (fun e => ?_) ?_
    · exact absurd (congrArg String.toList e) (by simp)
    · rw [option_joined]
      simp [Reading.long, hsettled, Reading.setPath, hne, bind, Except.bind]
  | false =>
    refine ⟨⟨r.flags, none, .given path⟩, fun ws => ?_, hflags, ?_⟩
    · have hw : path ≠ "--" := fun e => by simp [e] at hdash
      show r.words ("--matrfile" :: path :: ws) = _
      rw [words_of_option (q := ⟨r.flags, none, .wanted⟩) (by decide)]
      · simp only [Reading.words, if_neg hw, option_eq_none hdash, if_pos]
      · show r.long "matrfile" none = _
        simp [Reading.long, hsettled, bind, Except.bind, pure, Except.pure]
    · simp [Reading.settle, Reading.setPath, hne, hfound]

/-- One option is read whole, in each of its forms, and nothing else with it. -/
theorem Reads.step (h : Reads os r) (hv : o.Valid) (hn : o.kind ∉ os.map Own.kind) :
    ∃ r', (∀ ws, r.words (o.words ++ ws) = r'.words ws) ∧ Reads (os ++ [o]) r' := by
  cases o with
  | clean => exact h.step_flag hn (f := .clean) (w := "--clean") rfl rfl (by decide) fun r => rfl
  | noCache =>
    exact h.step_flag hn (f := .noCache) (w := "--no-cache") rfl rfl (by decide) fun r => rfl
  | status =>
    exact h.step_flag hn (f := .status) (w := "--status") rfl rfl (by decide) fun r => rfl
  | verbose short =>
    cases short with
    | true =>
      refine h.step_flag hn (f := .verbose) (w := "-v") rfl rfl (by decide) fun r => ?_
      rcases hr : r.raise .verbose with s | r' <;>
        simp [Reading.option, Reading.short, Reading.letters, hr, bind, Except.bind]
    | false =>
      exact h.step_flag hn (f := .verbose) (w := "--verbose") rfl rfl (by decide) fun r => rfl
  | matrfile path joined =>
    obtain ⟨hne, hdash⟩ := hv path rfl
    exact h.step_path hne hdash hn

theorem Reads.words {done : List Own} (h : Reads done r) (hv : ∀ o ∈ os, o.Valid)
    (hn : ((done ++ os).map Own.kind).Nodup) :
    ∃ r', (∀ ws, r.words (os.flatMap Own.words ++ ws) = r'.words ws) ∧ Reads (done ++ os) r' := by
  induction os generalizing done r with
  | nil => exact ⟨r, fun ws => rfl, by rwa [List.append_nil]⟩
  | cons o os ih =>
    have hfresh : o.kind ∉ done.map Own.kind := fun hmem => by
      rw [List.map_append, List.nodup_append] at hn
      exact hn.2.2 _ hmem _ (by simp) rfl
    obtain ⟨r₁, h₁, hr₁⟩ := h.step (hv o (by simp)) hfresh
    rw [List.append_cons] at hn
    obtain ⟨r₂, h₂, hr₂⟩ := ih hr₁ (fun o ho => hv o (by simp [ho])) hn
    refine ⟨r₂, fun ws => ?_, by rwa [List.append_cons]⟩
    rw [List.flatMap_cons, List.append_assoc, h₁, h₂]

/-- The end of the options, with the words that were not looked at. -/
theorem Reads.finish (h : Reads os r) {args : List String}
    (hc : ¬ (Own.clean ∈ os ∧ Own.status ∈ os)) : r.finish args = .ok (.given os args) := by
  have hkind : ∀ {f : Flag} {o : Own}, (∀ o', o'.kind = some f → o' = o) →
      some f ∈ os.map Own.kind → o ∈ os := by
    rintro f o honly hmem
    obtain ⟨o', ho', hk⟩ := List.mem_map.1 hmem
    exact honly o' hk ▸ ho'
  have hboth : ¬ (Flag.clean ∈ r.flags ∧ Flag.status ∈ r.flags) := by
    rintro ⟨h₁, h₂⟩
    rw [h.flags] at h₁ h₂
    exact hc ⟨hkind (by rintro (_ | _) <;> simp [Own.kind]) h₁,
      hkind (by rintro (_ | _) <;> simp [Own.kind]) h₂⟩
  have hflags : ∀ f, decide (f ∈ r.flags) = decide (some f ∈ os.map Own.kind) := fun f =>
    decide_eq_decide.2 (h.flags f)
  simp only [Reading.finish, h.settled, bind, Except.bind]
  rw [if_neg (by simpa using hboth)]
  simp only [Options.given, hflags]

theorem Reads.trails (h : Reads os r) {args : List String} (hw : Trails ws args) :
    r.words ws = r.finish args := by
  cases hw with
  | nothing => rfl
  | task tail hdash =>
    have hd : ∀ {t : String}, t.toList.head? ≠ some '-' → t ≠ "--" := by
      rintro _ hdash rfl
      simp at hdash
    simp only [Reading.words, if_neg (hd hdash), option_eq_none hdash, if_neg h.pending_ne]
  | marked xs => simp only [Reading.words, if_true]

end

/-! ## The driver -/

/-- What precedes the driver's run: the cache directory, once the driver in it is up to date. -/
def prepared (ps : Programs) (overrides : Configuration.Overrides) (o : Options) :
    Building Build.Outcome := do
  let definition ← definitionOf o
  let (c, _) ← Procedure.look fun s =>
    (Configuration.loadOrStandard s.files definition.directory overrides).mapError .configuration
  Build.build (Build.compileWith ps c.compiler.cargo) definition c o.noCache

/-- The driver in a cache directory, which is there and can be run. -/
def IsDriver (ps : Programs) (t : Tree) (directory : Files.Path)
    (driver : List String → Tree → Ending) : Prop :=
  t.isFile (directory.child Build.artifactName) = true ∧
    ps.loaded t (directory.child Build.artifactName) = .ok driver

/-- The run comes to a driver, with these files and outputs before it. -/
def Executes (ps : Programs) (overrides : Configuration.Overrides) (o : Options) (s s₁ : Site)
    (driver : List String → Tree → Ending) : Prop :=
  ∃ built, prepared ps overrides o s = (.ok built, s₁) ∧
    IsDriver ps s₁.files built.cacheDirectory driver

/-- A site after a program that was started in its working directory. -/
def resumed (s : Site) (e : Ending) : Site :=
  { s with
    files := { e.files with workingDirectory := s.files.workingDirectory }
    printed := s.printed ++ e.printed }

section

variable {ps : Programs} {overrides : Configuration.Overrides} {o : Options} {s s₁ : Site}
  {directory : Files.Path} {driver : List String → Tree → Ending} {args : List String}

theorem runDriver_of_isDriver (h : IsDriver ps s.files directory driver) :
    Build.runDriver ps directory args s =
      (.ok (driver args s.files).status, resumed s (driver args s.files)) := by
  obtain ⟨hfile, hloaded⟩ := h
  simp only [Build.runDriver, Procedure.state, hfile, if_true, Programs.run,
    Programs.startDirectory, hloaded, bind, Except.bind, pure, Except.pure, resumed]

theorem isDriver_of_runDriver {e : Exit.Status}
    (h : Build.runDriver ps directory args s = (.ok e, s₁)) :
    ∃ driver, IsDriver ps s.files directory driver := by
  simp only [Build.runDriver, Procedure.run_bind, Procedure.state] at h
  split at h
  case isFalse => cases h
  case isTrue hfile =>
    rcases hl : ps.loaded s.files (directory.child Build.artifactName) with f | driver
    · simp only [Programs.run, Programs.startDirectory, hl, bind, Except.bind] at h
      cases h
    · exact ⟨driver, hfile, hl⟩

theorem run_eq (ps : Programs) (overrides : Configuration.Overrides) (o : Options) :
    run ps overrides o = (do
      let built ← prepared ps overrides o
      let ending ← Build.runDriver ps built.cacheDirectory o.args
      pure ending.exitCode) := by
  funext s
  simp only [run, prepared, Procedure.run_bind]
  rcases definitionOf o s with ⟨_ | definition, s₁⟩
  · rfl
  · simp only [Procedure.look]
    split <;> rfl

/-- The driver gets the words, the files as they are, and its end is the end of the program. -/
theorem run_of_executes (h : Executes ps overrides o s s₁ driver) :
    run ps overrides o s =
      (.ok (driver o.args s₁.files).status.exitCode, resumed s₁ (driver o.args s₁.files)) := by
  obtain ⟨built, hprepared, hdriver⟩ := h
  simp only [run_eq, Procedure.run_bind, hprepared, runDriver_of_isDriver hdriver,
    Procedure.run_pure]

theorem executes_of_run {code : Nat} {s₂ : Site} (h : run ps overrides o s = (.ok code, s₂)) :
    ∃ s₁ driver, Executes ps overrides o s s₁ driver := by
  simp only [run_eq, Procedure.run_bind] at h
  rcases hp : prepared ps overrides o s with ⟨_ | built, s₁⟩
  · simp [hp] at h
  · simp only [hp] at h
    rcases hd : Build.runDriver ps built.cacheDirectory o.args s₁ with ⟨_ | e, s₂⟩
    · simp [hd] at h
    · obtain ⟨driver, hdriver⟩ := isDriver_of_runDriver hd
      exact ⟨s₁, driver, built, hp, hdriver⟩

end

/-- The options are what was written as options, the words after them are for the driver, and these
are what a driver gets whenever the program comes to one. -/
theorem words_reach_driver (os : List Own) {rest args : List String} (hv : ∀ o ∈ os, o.Valid)
    (hn : (os.map Own.kind).Nodup) (hc : ¬ (Own.clean ∈ os ∧ Own.status ∈ os))
    (hw : Trails rest args) :
    ∃ o, Options.ofWords (os.flatMap Own.words ++ rest) = .ok o ∧ o = .given os args ∧
      ∀ ps overrides s,
        (∀ s₁ driver, Executes ps overrides o s s₁ driver →
          run ps overrides o s =
            (.ok (driver args s₁.files).status.exitCode, resumed s₁ (driver args s₁.files))) ∧
        ∀ code s₂, run ps overrides o s = (.ok code, s₂) →
          ∃ s₁ driver, Executes ps overrides o s s₁ driver := by
  obtain ⟨r, hwords, hr⟩ := reads_start.words hv hn
  refine ⟨.given os args, ?_, rfl, fun ps overrides s =>
    ⟨fun s₁ driver h => run_of_executes h, fun code s₂ h => executes_of_run h⟩⟩
  rw [Options.ofWords, hwords, hr.trails hw, hr.finish hc, List.nil_append]

theorem words_reach_driver_after_path :
    ∃ o, Options.ofWords ["-v", "--matrfile", "tools", "--no-cache", "greet", "--clean", "--", ""] =
        .ok o ∧ o = ⟨"tools", false, true, false, true, ["greet", "--clean", "--", ""]⟩ ∧
      ∀ ps overrides s,
        (∀ s₁ driver, Executes ps overrides o s s₁ driver →
          run ps overrides o s = (.ok (driver ["greet", "--clean", "--", ""] s₁.files).status.exitCode,
            resumed s₁ (driver ["greet", "--clean", "--", ""] s₁.files))) ∧
        ∀ code s₂, run ps overrides o s = (.ok code, s₂) →
          ∃ s₁ driver, Executes ps overrides o s s₁ driver :=
  words_reach_driver [.verbose true, .matrfile "tools" false, .noCache]
    (by simp [Own.Valid, Own.path?]) (by decide) (by decide)
    (.task ["--clean", "--", ""] (by decide))

end TaskDriver.CommandLine
