import TaskDriver.Proofs.Build.CacheFiles
import TaskDriver.Proofs.Files.Written

/-! What a compilation leaves in the place of the artifact. It is what the compiler has just made, as
long as the job looks for it where the compiler leaves it; but a further argument can ask for the
other profile, and then the job installs what an earlier compilation has left. -/
namespace TaskDriver.Build

open Files (Path Tree Location)

/-- The directory of the binaries for these arguments. -/
def profileOf (args : List String) : String :=
  if releaseOption ∈ args then "release" else "debug"

def profiles : List String :=
  ["debug", "release"]

def binaryIn (target : Path) (profile : String) : Path :=
  (target.child profile).child artifactName

/-- Where the binaries of a compiler are that is run for the job. The directory is the fifth
argument, and the compiler runs in the directory of the cache. -/
def Job.target (j : Job) : Path :=
  j.cacheDirectory.join (.ofText (j.arguments.getD 4 ""))

/-- What a compiler does to the files when it is run for a job and this is its product. -/
structure Cargo (j : Job) (binary : ByteArray) (t : Tree) (status : Exit.Status) (t' : Tree) :
    Prop where
  /-- A compiler that succeeds leaves its product in the directory of its profile. -/
  leaves : status.success = true →
    t'.read (binaryIn j.target (profileOf j.arguments)) = .ok binary
  other : ∀ profile ∈ profiles, profile ≠ profileOf j.arguments →
    t'.read (binaryIn j.target profile) = t.read (binaryIn j.target profile)
  artifact : ∀ follow, t'.entry follow j.artifact = t.entry follow j.artifact
  /-- The artifact is a file of its own. -/
  apart : ∀ profile ∈ profiles, ∀ l, t'.Leads (binaryIn j.target profile) l → ¬ t'.Leads j.artifact l

/-- The paths that the compiler is given start at the root. -/
structure Job.Rooted (j : Job) : Prop where
  manifest : j.manifest.Rooted
  target : j.targetDirectory.Rooted

/-- The job looks for the driver where the compiler leaves it. -/
def Job.Agrees (j : Job) : Prop :=
  j.release = true ∨ releaseOption ∉ j.args

/-- How a compilation may end. -/
inductive Compiles (ps : Programs) (program : String) (j : Job) (s : Site) :
    Except Fault Unit → Site → Prop
  | notFound : ps.find? s.files program = none →
      Compiles ps program j s (.error (.compilerNotFound program)) s
  | notRun {p f s'} : ps.find? s.files program = some p →
      ps.run p j.arguments (some j.cacheDirectory) s = (.error f, s') →
      Compiles ps program j s (.error f) s'
  | failed {p status s'} : ps.find? s.files program = some p →
      ps.run p j.arguments (some j.cacheDirectory) s = (.ok status, s') → status.success = false →
      Compiles ps program j s (.error (.compilation status)) s'
  | missing {p status s'} : ps.find? s.files program = some p →
      ps.run p j.arguments (some j.cacheDirectory) s = (.ok status, s') → status.success = true →
      s'.files.isFile j.built = false →
      Compiles ps program j s (.error (.artifactMissing j.built.text)) s'
  | notInstalled {p status s' f} : ps.find? s.files program = some p →
      ps.run p j.arguments (some j.cacheDirectory) s = (.ok status, s') → status.success = true →
      s'.files.copy j.built j.artifact = .error f →
      Compiles ps program j s (.error (.file f)) s'
  | installed {p status s' t} : ps.find? s.files program = some p →
      ps.run p j.arguments (some j.cacheDirectory) s = (.ok status, s') → status.success = true →
      s'.files.copy j.built j.artifact = .ok t →
      Compiles ps program j s (.ok ()) { s' with files := t }

variable {ps : Programs} {program : String} {j : Job} {s s' : Site} {r : Except Fault Unit}
  {produced : List String → Tree → ByteArray}

theorem Job.install_ok {t : Tree} (h : s.files.copy j.built j.artifact = .ok t)
    (hf : s.files.isFile j.built = true) : j.install s = (.ok (), { s with files := t }) := by
  simp [install, Procedure.run_bind, Procedure.state, hf, onFiles, Procedure.within,
    Procedure.change_ok h]

theorem compiles (ps : Programs) (program : String) (j : Job) (s : Site) :
    Compiles ps program j s (compileWith ps program j s).1 (compileWith ps program j s).2 := by
  rcases hfind : ps.find? s.files program with _ | p
  · have h : compileWith ps program j s = (.error (.compilerNotFound program), s) := by
      simp [compileWith, Procedure.run_bind, Procedure.state, hfind, Procedure.fail]
    rw [h]
    exact .notFound hfind
  rcases hrun : ps.run p j.arguments (some j.cacheDirectory) s with ⟨f | status, s'⟩
  · have h : compileWith ps program j s = (.error f, s') := by
      simp [compileWith, Procedure.run_bind, Procedure.state, hfind, hrun]
    rw [h]
    exact .notRun hfind hrun
  have h : compileWith ps program j s =
      (if status.success then j.install else Procedure.fail (.compilation status)) s' := by
    simp [compileWith, Procedure.run_bind, Procedure.state, hfind, hrun]
  rcases hsuc : status.success with _ | _
  · rw [h, hsuc]
    exact .failed hfind hrun hsuc
  rw [h, hsuc, if_pos rfl]
  rcases hfile : s'.files.isFile j.built with _ | _
  · have hi : j.install s' = (.error (.artifactMissing j.built.text), s') := by
      simp [Job.install, Procedure.run_bind, Procedure.state, hfile, Procedure.fail]
    rw [hi]
    exact .missing hfind hrun hsuc hfile
  rcases hcopy : s'.files.copy j.built j.artifact with f | t
  · have hi : j.install s' = (.error (.file f), s') := by
      simp [Job.install, Procedure.run_bind, Procedure.state, hfile, onFiles, Procedure.within,
        Procedure.change_error hcopy]
    rw [hi]
    exact .notInstalled hfind hrun hsuc hcopy
  · rw [Job.install_ok hcopy hfile]
    exact .installed hfind hrun hsuc hcopy

/-! ## Where the binary is -/

theorem Job.target_eq (h : j.targetDirectory.Rooted) : j.target = j.targetDirectory := by
  have harg : j.arguments.getD 4 "" = j.targetDirectory.text := rfl
  rw [target, harg, h.ofText_text, Path.join, if_pos h.absolute]

theorem Job.mem_arguments (h : j.Rooted) :
    releaseOption ∈ j.arguments ↔ j.release = true ∨ releaseOption ∈ j.args := by
  have hm : releaseOption ≠ j.manifest.text :=
    (h.manifest.text_ne (r := "-release".toList) (by decide)).symm
  have ht : releaseOption ≠ j.targetDirectory.text :=
    (h.target.text_ne (r := "-release".toList) (by decide)).symm
  cases hr : j.release <;>
    simp [arguments, hr, hm, ht, show releaseOption ≠ "build" by decide,
      show releaseOption ≠ "--manifest-path" by decide,
      show releaseOption ≠ "--target-dir" by decide]

theorem profileOf_mem (args : List String) : profileOf args ∈ profiles := by
  unfold profileOf
  split <;> decide

/-- The driver is looked for where the compiler leaves it. -/
theorem Job.built_of_agrees (h : j.Rooted) (ha : j.Agrees) :
    j.built = binaryIn j.target (profileOf j.arguments) := by
  have hmem : releaseOption ∈ j.arguments ↔ j.release = true := by
    rw [mem_arguments h]
    exact ⟨fun hor => hor.elim id fun hm => ha.resolve_right (not_not_intro hm), .inl⟩
  rw [target_eq h.target, profileOf, built, binaryIn]
  simp only [hmem]

/-- The driver is looked for in the directory of the other profile. -/
theorem Job.built_of_not_agrees (h : j.Rooted) (ha : ¬ j.Agrees) : ∃ profile ∈ profiles,
    profile ≠ profileOf j.arguments ∧ j.built = binaryIn j.target profile := by
  simp only [Agrees, not_or, Bool.not_eq_true, Classical.not_not] at ha
  have hmem : releaseOption ∈ j.arguments := (mem_arguments h).mpr (.inr ha.2)
  refine ⟨"debug", .head _, ?_, ?_⟩
  · rw [profileOf, if_pos hmem]
    decide
  · rw [target_eq h.target, built, binaryIn, ha.1]
    rfl

theorem literal_targetName : Path.Literal targetName := by
  decide

theorem Cache.job_rooted {c : Cache} {o : CompilerSettings}
    (h : c.definition.directory.Rooted) : (c.job o).Rooted :=
  have hc : c.directory.Rooted := h.child literal_cacheName (by decide)
  ⟨hc.child literal_manifestName (by decide),
    hc.child literal_targetName (by decide)⟩

/-! ## What is installed -/

section

variable {binary : ByteArray} {status : Exit.Status} {t t' : Tree}

theorem Cargo.installs (h : Cargo j binary t status t') (hsuc : status.success = true)
    (hj : j.Rooted) (ha : j.Agrees) {t₁ : Tree} (hcopy : t'.copy j.built j.artifact = .ok t₁) :
    t₁.read j.artifact = .ok binary := by
  have hb := Job.built_of_agrees hj ha
  have hapart := h.apart _ (profileOf_mem j.arguments)
  rw [← hb] at hapart
  rw [Files.Tree.read_copy hcopy hapart, hb, h.leaves hsuc]

/-- Without the agreement an earlier binary is installed. -/
theorem Cargo.installs_former (h : Cargo j binary t status t') (hj : j.Rooted) (ha : ¬ j.Agrees)
    {t₁ : Tree} (hcopy : t'.copy j.built j.artifact = .ok t₁) :
    t₁.read j.artifact = t.read j.built := by
  obtain ⟨profile, hmem, hne, hb⟩ := Job.built_of_not_agrees hj ha
  have hapart := h.apart profile hmem
  rw [← hb] at hapart
  rw [Files.Tree.read_copy hcopy hapart, hb, h.other profile hmem hne]

end

/-- A fault after which nothing is installed. -/
def Fault.Refuses (f : Fault) : Prop :=
  (∃ program, f = .compilerNotFound program) ∨ (∃ status, f = .compilation status) ∨
    ∃ path, f = .artifactMissing path

/-- A program that cannot be run is a fault of the files. -/
theorem run_error {p : Path} {args : List String} {directory : Option Path} {f : Fault}
    (h : ps.run p args directory s = (.error f, s')) : ∃ e, f = .file e := by
  unfold Programs.run at h
  simp only at h
  split at h
  · cases h
    exact ⟨_, rfl⟩
  · cases h

theorem compilation_installs
    (hcargo : ∀ p status s₁, ps.find? s.files program = some p →
      ps.run p j.arguments (some j.cacheDirectory) s = (.ok status, s₁) →
      Cargo j (produced j.arguments s.files) s.files status s₁.files)
    (hcompile : compileWith ps program j s = (r, s')) :
    (r = .ok () → j.Rooted → j.Agrees →
      s'.files.read j.artifact = .ok (produced j.arguments s.files)) ∧
    (r = .ok () → j.Rooted → ¬ j.Agrees → s'.files.read j.artifact = s.files.read j.built) ∧
    ∀ f, r = .error f → f.Refuses → ∀ follow,
      s'.files.entry follow j.artifact = s.files.entry follow j.artifact := by
  have hc := compiles ps program j s
  rw [hcompile] at hc
  refine ⟨?_, ?_, ?_⟩
  · rintro rfl hj ha
    cases hc with
    | installed hfind hrun hsuc hcopy => exact (hcargo _ _ _ hfind hrun).installs hsuc hj ha hcopy
  · rintro rfl hj ha
    cases hc with
    | installed hfind hrun _ hcopy => exact (hcargo _ _ _ hfind hrun).installs_former hj ha hcopy
  · rintro f rfl href follow
    cases hc with
    | notFound _ => rfl
    | failed hfind hrun _ => exact (hcargo _ _ _ hfind hrun).artifact follow
    | missing hfind hrun _ _ => exact (hcargo _ _ _ hfind hrun).artifact follow
    | notRun _ hrun =>
      obtain ⟨e, rfl⟩ := run_error hrun
      simp [Fault.Refuses] at href
    | notInstalled _ _ _ _ => simp [Fault.Refuses] at href

/-! ## A compiler that writes one file -/

/-- Writes the product where a compiler leaves it. -/
def standIn (product : ByteArray) (args : List String) (t : Tree) : Ending :=
  match t.write (binaryIn (.ofText (args.getD 4 "")) (profileOf args)) product (some true) with
  | .ok t' => ⟨.exited 0, "", t'⟩
  | .error _ => ⟨.exited 101, "", t⟩

def formerBinary : ByteArray :=
  "1".toUTF8

def presentBinary : ByteArray :=
  "2".toUTF8

/-- A compiler, and a cache for which it has been run before. -/
def workshop : Tree :=
  ⟨.directory [("cargo", .file "cargo".toUTF8 true), (".matr", .directory
    [("target", .directory [("debug", .directory [("matr", .file formerBinary true)]),
      ("release", .directory [])])])], []⟩

def workshopPrograms : Programs :=
  ⟨[], fun _ => some (standIn presentBinary)⟩

def workshopJob (args : List String) : Job :=
  Cache.job ⟨⟨true, ["Matrfile.rs"]⟩, none⟩ ⟨"/cargo", false, args⟩

theorem workshopJob_rooted (args : List String) : (workshopJob args).Rooted :=
  Cache.job_rooted ⟨rfl, nofun, by decide⟩

theorem workshop_opens (w : Location) :
    (Tree.mk workshop.root w).Opens ⟨true, [".matr"]⟩ [".matr"] :=
  ⟨rfl, ⟨_, .next (.down (d := .directory) literal_cacheName.toNamed rfl nofun) (.refl _)⟩, rfl⟩

theorem workshop_opens_profile (args : List String) (w : Location) {profile : String}
    (h : profile ∈ profiles) : (Tree.mk workshop.root w).Opens
      ((workshopJob args).targetDirectory.child profile) [".matr", "target", profile] := by
  have ho : (Tree.mk workshop.root w).Opens (workshopJob args).targetDirectory
      ([".matr"] ++ [targetName]) :=
    (workshop_opens w).child literal_targetName rfl
  simp only [profiles, List.mem_cons, List.not_mem_nil, or_false] at h
  rcases h with rfl | rfl
  · exact ho.child (by decide) rfl
  · exact ho.child (by decide) rfl

theorem workshop_compiler (w : Location) :
    (Tree.mk workshop.root w).entry true ⟨true, ["cargo"]⟩ = .ok (.file "cargo".toUTF8 true) := by
  have hl : (Tree.mk workshop.root w).Leads ⟨true, ["cargo"]⟩ ["cargo"] :=
    ⟨_, .next (.down (d := .file "cargo".toUTF8 true)
      (by decide) rfl nofun) (.refl _)⟩
  rw [Tree.entry, hl.reach (by decide) rfl rfl]
  rfl

theorem workshop_find :
    workshopPrograms.find? (Site.of workshop).files "/cargo" = some ⟨true, ["cargo"]⟩ := by
  have hp : isProgram workshop ⟨true, ["cargo"]⟩ = true := by
    rw [isProgram, show workshop.entry true _ = _ from workshop_compiler []]
  have ht : Path.ofText "/cargo" = ⟨true, ["cargo"]⟩ := by decide
  have hj : (Site.of workshop).files.workingPath.join ⟨true, ["cargo"]⟩ = ⟨true, ["cargo"]⟩ := rfl
  rw [Programs.find?, ht]
  simp only [hj]
  rw [if_neg (by decide), Option.filter_some, show isProgram (Site.of workshop).files _ = _ from hp]
  rfl

theorem workshop_plain (args : List String) (w : Location) : (Tree.mk workshop.root w).Plain
    ([".matr", "target", profileOf args] ++ [artifactName]) := by
  unfold profileOf
  split
  · exact Files.Tree.plain_of_none rfl
  · exact Files.Tree.plain_of_file (x := true) rfl

theorem workshop_extends {args : List String} {b : ByteArray} {x : Bool} {t : Tree}
    (hs : workshop.Sets ([".matr", "target", profileOf args] ++ [artifactName])
      (some (.file b x)) t) : workshop.root.Extends t.root :=
  hs.extends_of_plain (workshop_plain args [])

theorem workshop_run (args : List String) : ∃ x s₁,
    workshopPrograms.run ⟨true, ["cargo"]⟩ (workshopJob args).arguments
      (some (workshopJob args).cacheDirectory) (.of workshop) = (.ok (.exited 0), s₁) ∧
    workshop.Sets ([".matr", "target", profileOf (workshopJob args).arguments] ++ [artifactName])
      (some (.file presentBinary x)) s₁.files := by
  have hmem := profileOf_mem (workshopJob args).arguments
  obtain ⟨x, t, hw, hs⟩ := (workshop_opens_profile args [".matr"] hmem).write_child
    literal_artifactName (workshop_plain _ _) presentBinary (some true)
  have hstart : Programs.startDirectory workshop (some (workshopJob args).cacheDirectory) =
      .ok [".matr"] := by
    have h := (workshop_opens []).leads.reach (by decide) rfl rfl
    rw [Programs.startDirectory,
      show workshop.reach true (workshopJob args).cacheDirectory = _ from h]
    rfl
  have hload : workshopPrograms.loaded ⟨workshop.root, [".matr"]⟩ ⟨true, ["cargo"]⟩ =
      .ok (standIn presentBinary) := by
    simp [Programs.loaded, workshop_compiler, workshopPrograms, bind, Except.bind, pure,
      Except.pure]
  have hstand : standIn presentBinary (workshopJob args).arguments ⟨workshop.root, [".matr"]⟩ =
      ⟨.exited 0, "", t⟩ := by
    have htarget : Path.ofText ((workshopJob args).arguments.getD 4 "") =
        (workshopJob args).targetDirectory := (workshopJob_rooted args).target.ofText_text
    rw [standIn, htarget, binaryIn, hw]
  refine ⟨x, ⟨⟨t.root, []⟩, "", []⟩, ?_, rfl, hs.node?⟩
  have hfiles : (Site.of workshop).files = workshop := rfl
  simp only [Programs.run, hfiles, hstart, bind, Except.bind]
  rw [show workshopPrograms.loaded { workshop with workingDirectory := [".matr"] } _ = _ from hload]
  simp only [pure, Except.pure]
  rw [show standIn presentBinary _ { workshop with workingDirectory := [".matr"] } = _ from hstand]
  rfl

theorem workshop_cargo (args : List String) {x : Bool} {t : Tree}
    (hs : workshop.Sets
      ([".matr", "target", profileOf (workshopJob args).arguments] ++ [artifactName])
      (some (.file presentBinary x)) t) :
    Cargo (workshopJob args) presentBinary workshop (.exited 0) t := by
  have hext := workshop_extends hs
  have ho : t.Opens ⟨true, [".matr"]⟩ [".matr"] := (workshop_opens []).extends hext hs.working
  have hprofile : ∀ profile ∈ profiles,
      t.Opens ((workshopJob args).target.child profile) [".matr", "target", profile] := by
    intro profile h
    rw [Job.target_eq (workshopJob_rooted args).target]
    exact (workshop_opens_profile args [] h).extends hext hs.working
  have hmissing : t.root.node? ([".matr"] ++ [artifactName]) = none := by
    rw [hs.elsewhere (by simp)]
    rfl
  constructor
  · intro _
    exact (hprofile _ (profileOf_mem _)).read_child literal_artifactName hs.here
  · intro profile h hne
    have hnode : t.root.node? ([".matr", "target", profile] ++ [artifactName]) =
        workshop.root.node? ([".matr", "target", profile] ++ [artifactName]) :=
      hs.elsewhere (by simpa using hne)
    have ho₁ := hprofile profile h
    have ho₀ := workshop_opens_profile args [] h
    rw [← Job.target_eq (workshopJob_rooted args).target] at ho₀
    simp only [profiles, List.mem_cons, List.not_mem_nil, or_false] at h
    rcases h with rfl | rfl
    · exact (ho₁.read_child literal_artifactName (x := true) (hnode.trans rfl)).trans
        (ho₀.read_child literal_artifactName (x := true) rfl).symm
    · rw [Tree.read, Tree.read, binaryIn, ho₁.entry_missing literal_artifactName (hnode.trans rfl),
        show workshop.entry true _ = _ from ho₀.entry_missing literal_artifactName rfl true]
  · intro follow
    exact (ho.entry_missing literal_artifactName hmissing follow).trans
      ((workshop_opens []).entry_missing literal_artifactName rfl follow).symm
  · intro _ _ l _ hl
    exact ho.node?_of_leads literal_artifactName hl hmissing

theorem workshop_hypothesis (args : List String) (p : Path) (status : Exit.Status) (s₁ : Site)
    (hfind : workshopPrograms.find? (Site.of workshop).files "/cargo" = some p)
    (hrun : workshopPrograms.run p (workshopJob args).arguments
      (some (workshopJob args).cacheDirectory) (.of workshop) = (.ok status, s₁)) :
    Cargo (workshopJob args) presentBinary workshop status s₁.files := by
  obtain ⟨x, s', hrun', hs⟩ := workshop_run args
  cases Option.some.inj (workshop_find.symm.trans hfind)
  cases hrun'.symm.trans hrun
  exact workshop_cargo args hs

/-- Whatever the arguments are, something is installed. -/
theorem workshop_installs (args : List String) : ∃ (s' : Site) (t : Tree),
    compileWith workshopPrograms "/cargo" (workshopJob args) (.of workshop) =
      (.ok (), { s' with files := t }) ∧
    Cargo (workshopJob args) presentBinary workshop (.exited 0) s'.files ∧
    s'.files.copy (workshopJob args).built (workshopJob args).artifact = .ok t := by
  obtain ⟨x, s', hrun, hs⟩ := workshop_run args
  have hext := workshop_extends hs
  have ho : s'.files.Opens ⟨true, [".matr"]⟩ [".matr"] :=
    (workshop_opens []).extends hext hs.working
  -- The file for debugging is there, whether it is new or not.
  obtain ⟨b, hb⟩ : ∃ b, s'.files.read (workshopJob args).built = .ok b := by
    obtain ⟨y, hy, hf⟩ := hext ([".matr", "target", "debug"] ++ [artifactName])
      (.file formerBinary true) rfl
    have hd := (workshop_opens_profile args [] (.head _)).extends hext hs.working
    cases hf with
    | file => exact ⟨_, hd.read_child literal_artifactName hy⟩
    | refl => exact ⟨_, hd.read_child literal_artifactName hy⟩
  have hmissing : s'.files.root.node? ([".matr"] ++ [artifactName]) = none := by
    rw [hs.elsewhere (by simp)]
    rfl
  obtain ⟨t, hcopy⟩ := ho.copy_child literal_artifactName (Files.Tree.plain_of_none hmissing) hb
  refine ⟨s', t, ?_, workshop_cargo args hs, hcopy⟩
  have hinstall := Job.install_ok hcopy (Files.Tree.isFile_iff.mpr ⟨b, hb⟩)
  simp only [compileWith, Procedure.run_bind, Procedure.state, workshop_find, hrun]
  exact hinstall

/-- The binary of an earlier compilation is installed. -/
theorem former_binary_installed : ∃ s',
    compileWith workshopPrograms "/cargo" (workshopJob ["--release"]) (.of workshop) = (.ok (), s') ∧
    (∀ p status s₁, workshopPrograms.find? (Site.of workshop).files "/cargo" = some p →
      workshopPrograms.run p (workshopJob ["--release"]).arguments
        (some (workshopJob ["--release"]).cacheDirectory) (.of workshop) = (.ok status, s₁) →
      Cargo (workshopJob ["--release"]) presentBinary workshop status s₁.files) ∧
    s'.files.read (workshopJob ["--release"]).artifact = .ok formerBinary ∧
    formerBinary ≠ presentBinary := by
  obtain ⟨s', t, hcompile, hcargo, hcopy⟩ := workshop_installs ["--release"]
  have hagrees : ¬ (workshopJob ["--release"]).Agrees := by
    simp [Job.Agrees, workshopJob, Cache.job, releaseOption]
  refine ⟨_, hcompile, workshop_hypothesis _, ?_, by decide⟩
  refine (hcargo.installs_former (workshopJob_rooted _) hagrees hcopy).trans ?_
  exact (workshop_opens_profile ["--release"] [] (.head _)).read_child literal_artifactName
    (x := true) rfl

/-- Without further arguments the new binary is installed. -/
theorem compilation_installs_present : ∃ s',
    compileWith workshopPrograms "/cargo" (workshopJob []) (.of workshop) = (.ok (), s') ∧
    (workshopJob []).Rooted ∧ (workshopJob []).Agrees ∧
    s'.files.read (workshopJob []).artifact = .ok presentBinary := by
  obtain ⟨s', t, hcompile, _, _⟩ := workshop_installs []
  have hagrees : (workshopJob []).Agrees := .inr nofun
  refine ⟨_, hcompile, workshopJob_rooted [], hagrees, ?_⟩
  exact (@compilation_installs _ _ _ _ _ _ (fun _ _ => presentBinary) (workshop_hypothesis [])
    hcompile).1 rfl (workshopJob_rooted []) hagrees

end TaskDriver.Build
