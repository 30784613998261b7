import TaskDriver.Proofs.Build.Confined

/-! The removal of a cache undoes the builds before it: the tree is as it was before the first one. -/
namespace TaskDriver.Build

open Files (Path Tree Location Node Change)

variable {t t₀ t₁ : Tree} {p : Path} {d e l : Location} {n : String}

/-! ## The removal of the cache -/

/-- There is something in the place of the cache. -/
def HasCache (p : Path) (t : Tree) : Prop :=
  t.exists? false (Cache.directory ⟨p, none⟩) = true

/-- One of the builds makes the cache. -/
def Created (p : Path) (calls : List Call) (s : Site) : Prop :=
  ∃ before call after, calls = before ++ call :: after ∧ ¬ HasCache p (buildAll p before s).files ∧
    HasCache p (buildAll p (before ++ [call]) s).files

/-- A location that is not in the cache of the definition. -/
def Outside (t : Tree) (p : Path) (m : Location) : Prop :=
  ∀ e, t.Opens p.directory e → ¬ e ++ [cacheName] <+: m

/-- What the removal answers where there is no cache: a missing one is no fault. -/
def cleanedNothing (f : Files.Fault) : Except Files.Fault Bool :=
  if f = .missing then .ok false else .error f

section

variable {s : Site} {calls : List Call} {f : Files.Fault}

theorem clean_of_error (h : t.reach false (Cache.directory ⟨p, none⟩) = .error f) :
    Cache.clean ⟨p, none⟩ t = (cleanedNothing f, t) := by
  have hr : t.removeAll (Cache.directory ⟨p, none⟩) = .error f := by
    simp [Tree.removeAll, h, bind, Except.bind]
  unfold Cache.clean cleanedNothing
  rw [hr]
  cases f <;> rfl

theorem not_hasCache_of_error (h : t.reach false (Cache.directory ⟨p, none⟩) = .error f) :
    ¬ HasCache p t := by
  simp [HasCache, Tree.exists?, Tree.entry, h, Except.map]

theorem reach_missing (ho : t.Opens p.directory e) (hm : t.root.node? (e ++ [cacheName]) = none) :
    t.reach false (Cache.directory ⟨p, none⟩) = .error .missing := by
  simp [Tree.reach, Cache.directory, ho.spot_missing literal_cacheName hm, bind, Except.bind]

theorem Fresh.hasCache_iff (h : Fresh t₀ p e t) :
    HasCache p t ↔ t.root.node? (e ++ [cacheName]) = some .directory := by
  rw [HasCache, Cache.directory, exists?_child h.opens_now literal_cacheName]
  rcases h.none_or_directory with hn | hn <;> simp [hn]

theorem Fresh.clean_created (h : Fresh t₀ p e t) (hc : HasCache p t) :
    ∃ t', Cache.clean ⟨p, none⟩ t = (.ok true, t') ∧
      t'.workingDirectory = t₀.workingDirectory ∧ ∀ m, t'.root.node? m = t₀.root.node? m := by
  have hd := h.hasCache_iff.mp hc
  refine ⟨t.remove (e ++ [cacheName]), ?_, h.inside.working, fun m => ?_⟩
  · simp [Cache.clean, Cache.directory, h.opens_now.removeAll_child literal_cacheName hd]
  · by_cases hm : e ++ [cacheName] <+: m
    · obtain ⟨r, rfl⟩ := hm
      rw [Files.Entry.node?_append_none h.missing]
      exact Files.Entry.node?_remove_below _ e cacheName (List.prefix_append _ _)
    · rw [← h.inside.outside m hm]
      exact Files.Entry.node?_remove_outside _ e cacheName hm

/-- Where nothing has been made, all is as before. -/
theorem Fresh.node?_eq (h : Fresh t₀ p e t) (hc : ¬ HasCache p t) (m : Location) :
    t.root.node? m = t₀.root.node? m := by
  have hn := h.none_or_directory.resolve_right fun hd => hc (h.hasCache_iff.mpr hd)
  by_cases hm : e ++ [cacheName] <+: m
  · obtain ⟨r, rfl⟩ := hm
    rw [Files.Entry.node?_append_none hn, Files.Entry.node?_append_none h.missing]
  · exact h.inside.outside m hm

theorem Fresh.hasCache_mono (h : Fresh t₀ p e t) (h' : Inside (e ++ [cacheName]) t t₁)
    (hc : HasCache p t) : HasCache p t₁ := by
  rw [h.hasCache_iff] at hc
  rw [(h.next h').hasCache_iff]
  rcases h'.itself with hs | ⟨hn, _⟩
  · rw [hs, hc]
  · rw [hn] at hc
    cases hc

/-- The cache is there in the end just if one of the builds has made it. -/
theorem created_iff (h : Fresh s.files p e s.files) (hcomp : ∀ call ∈ calls, Confined call.compiler) :
    Created p calls s ↔ HasCache p (buildAll p calls s).files := by
  have hstart : ¬ HasCache p s.files := not_hasCache_of_error (reach_missing h.opens h.missing)
  constructor
  · rintro ⟨before, call, after, rfl, _, hhas⟩
    have h₁ : Fresh s.files p e (buildAll p (before ++ [call]) s).files :=
      h.next (h.inside_buildAll fun c hc => hcomp c (by
        rw [List.append_cons]
        exact List.mem_append_left _ hc))
    have h₂ : Inside (e ++ [cacheName]) (buildAll p (before ++ [call]) s).files
        (buildAll p after (buildAll p (before ++ [call]) s)).files :=
      h₁.inside_buildAll fun c hc => hcomp c (by simp [hc])
    have hsplit : buildAll p (before ++ call :: after) s =
        buildAll p after (buildAll p (before ++ [call]) s) := by
      simp [buildAll]
    rw [hsplit]
    exact h₁.hasCache_mono h₂ hhas
  · intro hhas
    induction calls using List.reverseRecOn with
    | nil => exact absurd hhas hstart
    | append_singleton calls call ih =>
      by_cases hmid : HasCache p (buildAll p calls s).files
      · obtain ⟨before, first, after, rfl, hfirst⟩ :=
          ih (fun c hc => hcomp c (List.mem_append_left _ hc)) hmid
        exact ⟨before, first, after ++ [call], by simp, hfirst⟩
      · exact ⟨calls, call, [], rfl, hmid, hhas⟩

theorem fresh_of_error (h : s.files.reach false (Cache.directory ⟨p, none⟩) = .error f)
    (ho : s.files.Opens p.directory e) : Fresh s.files p e s.files := by
  refine ⟨ho, ?_, .refl _ _⟩
  have := not_hasCache_of_error h
  rw [HasCache, Cache.directory, exists?_child ho literal_cacheName] at this
  exact not_not.mp this

/-- Builds change nothing outside of the cache, at no step of any of them, and the removal of the
cache undoes them. -/
theorem builds_undone (hmissing : s.files.reach false (Cache.directory ⟨p, none⟩) = .error f)
    (hcomp : ∀ call ∈ calls, Confined call.compiler) :
    (∀ (call : Call) k, Confined call.compiler → ∀ m, Outside s.files p m →
      (call.performUpTo p k (buildAll p calls s)).2.files.root.node? m = s.files.root.node? m) ∧
    (∀ e, s.files.Opens p.directory e → f = .missing) ∧
    ∃ r t, Cache.clean ⟨p, none⟩ (buildAll p calls s).files = (r, t) ∧
      (Created p calls s → r = .ok true ∧ f = .missing) ∧
      (¬ Created p calls s → r = cleanedNothing f ∧ t = (buildAll p calls s).files) ∧
      t.workingDirectory = s.files.workingDirectory ∧
      (∀ m, t.root.node? m = s.files.root.node? m) ∧
      Cache.clean ⟨p, none⟩ t = (cleanedNothing f, t) := by
  have hfault : ∀ e, s.files.Opens p.directory e → f = .missing := fun e ho => by
    have := reach_missing (p := p) ho (fresh_of_error hmissing ho).missing
    exact (Except.error.inj (hmissing.symm.trans this))
  by_cases hopen : ∃ e, s.files.Opens p.directory e
  · obtain ⟨e, ho⟩ := hopen
    have h := fresh_of_error hmissing ho
    have hlast := h.next (h.inside_buildAll hcomp)
    obtain rfl := hfault e ho
    -- In each case nothing is at the place of the cache in the end.
    have again : ∀ t : Tree, t.workingDirectory = s.files.workingDirectory →
        (∀ m, t.root.node? m = s.files.root.node? m) →
        Cache.clean ⟨p, none⟩ t = (cleanedNothing .missing, t) := by
      intro t hw hn
      have hin : Inside (e ++ [cacheName]) s.files t :=
        ⟨hw, fun m _ => hn m, .inl (hn _), fun n _ q hq => by rwa [← hn]⟩
      exact clean_of_error (reach_missing (h.next hin).opens_now ((hn _).trans h.missing))
    refine ⟨fun call k hcall m hm => ?_, hfault, ?_⟩
    · exact (hlast.inside.trans (hlast.inside_performUpTo hcall k)).outside m (hm e ho)
    · rw [created_iff h hcomp]
      by_cases hhas : HasCache p (buildAll p calls s).files
      · obtain ⟨t, hclean, hw, hn⟩ := hlast.clean_created hhas
        exact ⟨_, t, hclean, fun _ => ⟨rfl, rfl⟩, fun hno => absurd hhas hno, hw, hn, again t hw hn⟩
      · have hn := hlast.node?_eq hhas
        have hw := hlast.inside.working
        exact ⟨_, _, again _ hw hn, fun hyes => absurd hyes hhas, fun _ => ⟨rfl, rfl⟩, hw, hn,
          again _ hw hn⟩
  · rw [not_exists] at hopen
    have hsame : ∀ calls, (buildAll p calls s).files = s.files := fun calls =>
      buildAll_nowhere hopen
    have hnot : ¬ Created p calls s := by
      rintro ⟨before, call, _, _, _, hhas⟩
      rw [hsame] at hhas
      exact not_hasCache_of_error hmissing hhas
    refine ⟨fun call k _ m _ => ?_, hfault, _, s.files, ?_, fun hyes => absurd hyes hnot,
      fun _ => ⟨rfl, (hsame calls).symm⟩, rfl, fun _ => rfl, clean_of_error hmissing⟩
    · rw [performUpTo_nowhere (by rwa [hsame]), hsame]
    · rw [hsame]
      exact clean_of_error hmissing

end

/-! ## A lone definition file, built twice -/

/-- The cache is there after a build that does not look at it. -/
theorem Usable.directory_of_bypass {definitions : List Path} {s : Site} {compiler : Compiler}
    {cfg : Configuration} (h : Usable t₀ e s.files) (hS : Shared t₀ e definitions)
    (hp : p ∈ definitions) (hcomp : WritesBelow compiler) :
    (build compiler p cfg true s).2.files.root.node? (e ++ [cacheName]) = some .directory := by
  obtain ⟨b, hb⟩ := hS.exists_read hp h.beside
  rcases h.build_cases cfg true hS hp hb with ⟨hhit, _⟩ | ⟨_, t₁, _, _, hr, _, hrest⟩
  · cases hhit
  rcases hrest with ⟨f, _, hbuild⟩ | ⟨commands, t₂, _, hb₂, hw, _, hbuild⟩
  · rw [hbuild]
    exact hr.directory
  · rw [hbuild compiler]
    have hd : t₂.root.node? (e ++ [cacheName]) = some .directory := by
      rw [hw.elsewhere _ fun n _ => child_ne_self, hr.directory]
    have ho : t₂.Opens (cacheOf p cfg).directory (e ++ [cacheName]) :=
      hb₂.opens (hS.opens hp) literal_cacheName hd
    rw [(hcomp (cacheOf p cfg) cfg.compiler ⟨t₂, _, _⟩ _ ho).2 _ fun hne => hne.2 rfl, hd]

def loneCalls : List Call :=
  [⟨assembler glued, .standard, true⟩, ⟨assembler glued, .standard, false⟩]

theorem confined_loneCalls : ∀ call ∈ loneCalls, Confined call.compiler := by
  intro call hcall
  simp only [loneCalls, List.mem_cons, List.not_mem_nil, or_false] at hcall
  rcases hcall with rfl | rfl <;> exact confined_of_produces (produces_assembler glued)

theorem lone_missing :
    lone.reach false (Cache.directory ⟨lonePath, none⟩) = .error .missing :=
  reach_missing (shared_lone.opens (List.mem_singleton.mpr rfl)) rfl

theorem created_lone : Created lonePath loneCalls (.of lone) := by
  refine ⟨[], _, _, rfl, not_hasCache_of_error lone_missing, ?_⟩
  have hmem : lonePath ∈ [lonePath] := List.mem_singleton.mpr rfl
  have hcomp := confined_of_produces (produces_assembler glued)
  have hfresh : Fresh lone lonePath ["D"] lone := ⟨shared_lone.opens hmem, rfl, .refl _ _⟩
  have h : Fresh lone lonePath ["D"]
      (buildAll lonePath [⟨assembler glued, .standard, true⟩] (.of lone)).files :=
    hfresh.next (hfresh.inside_buildAll (s := .of lone) fun c hc => by
      rw [List.mem_singleton.mp hc]
      exact hcomp)
  exact h.hasCache_iff.mpr ((usable_of_missing ⟨rfl, .refl _, rfl⟩ rfl).directory_of_bypass
    shared_lone hmem hcomp.below)

/-- Built twice and cleaned, the lone definition is alone again. -/
theorem builds_undone_lone : ∃ t,
    Cache.clean ⟨lonePath, none⟩ (buildAll lonePath loneCalls (.of lone)).files = (.ok true, t) ∧
      (∀ m, t.root.node? m = lone.root.node? m) ∧
      Cache.clean ⟨lonePath, none⟩ t = (.ok false, t) := by
  obtain ⟨_, _, r, t, hclean, hyes, _, _, hsame, hagain⟩ :=
    builds_undone (s := .of lone) lone_missing confined_loneCalls
  rw [(hyes created_lone).1] at hclean
  exact ⟨t, hclean, hsame, hagain⟩

/-! ## A file for a directory, and a link in the cache -/

/-- A file in the place of the directory of a definition. -/
def fenced : Tree :=
  ⟨.directory [("D", .file loneContent false)], []⟩

theorem fenced_reach :
    fenced.reach false (Cache.directory ⟨lonePath, none⟩) = .error .notDirectory := by
  have hwalk : fenced.root.walk false Files.linkLimit ["D"] [cacheName] = .error .notDirectory := by
    rw [Files.Entry.walk]
    rfl
  have hspot : fenced.spot false (Cache.directory ⟨lonePath, none⟩) = .error .notDirectory := by
    rw [Files.Tree.spot_eq (p := Cache.directory ⟨lonePath, none⟩) false (by decide) rfl]
    exact (Files.Entry.walk_named false Files.linkLimit named_D rfl [cacheName]).trans hwalk
  rw [Tree.reach, hspot]
  rfl

/-- A definition file, and another file in the directory above. -/
def yard : Tree :=
  ⟨.directory [("D", .directory [("Matrfile.rs", .file loneContent false)]),
    ("out", .file "kept".toUTF8 false)], []⟩

def outPath : Path :=
  ⟨true, ["out"]⟩

theorem opens_yard : yard.Opens lonePath.directory ["D"] :=
  ⟨rfl, ⟨_, .next (.down (d := .directory) named_D rfl nofun) (.refl _)⟩, rfl⟩

theorem read_yard : yard.read lonePath = .ok loneContent :=
  opens_yard.read_child (n := includedName) literal_includedName (x := false) rfl

theorem shared_yard : Shared yard ["D"] [lonePath] := by
  constructor
  · simp [lonePath]
  · intro p hp
    rw [List.mem_singleton.mp hp]
    exact Files.Tree.isFile_iff.mpr ⟨loneContent, read_yard⟩
  · intro p hp
    rw [List.mem_singleton.mp hp]
    exact ⟨_, opens_yard.leads.reach (by decide) rfl rfl⟩
  · rfl

/-- Puts a link to the other file in the place of the driver's source. -/
def diverted (j : Job) (t : Tree) : Except Files.Fault Tree := do
  let t ← t.removeFile (j.cacheDirectory.child driverSourceName)
  t.makeLink outPath (j.cacheDirectory.child driverSourceName)

def diverter : Compiler := fun j =>
  onFiles (.change (diverted j))

theorem diverted_ok {c : Cache} {o : CompilerSettings} (ho : t.Opens c.directory d)
    (h : diverted (c.job o) t = .ok t₁) :
    t.Sets (d ++ [driverSourceName]) (some (.link outPath)) t₁ := by
  rcases hr : t.removeFile (c.directory.child driverSourceName) with f | t₂
  · simp [diverted, Cache.job, hr, bind, Except.bind] at h
  have hl : t₂.makeLink outPath (c.directory.child driverSourceName) = .ok t₁ := by
    simpa [diverted, Cache.job, hr, bind, Except.bind] using h
  obtain ⟨d₁, ho₁, hs₁⟩ := Files.Tree.removeFile_ok literal_driverSourceName hr
  obtain ⟨d₂, ho₂, _, hs₂⟩ := Files.Tree.makeLink_ok literal_driverSourceName hl
  rw [ho₁.leads.unique ho.leads] at hs₁
  rw [(ho₂.extends hs₁.extends_of_none hs₁.working.symm).leads.unique ho.leads] at hs₂
  refine ⟨hs₂.working.trans hs₁.working, fun m => ?_⟩
  rw [hs₂.node?, hs₁.node?]
  split <;> rfl

theorem writesBelow_diverter : WritesBelow diverter := by
  intro c o s d ho
  rcases Procedure.change_cases (diverted (c.job o)) s.files with ⟨t, h, hc⟩ | ⟨f, hc⟩
  · have hs := diverted_ok ho h
    rw [diverter, onFiles_files, hc]
    refine ⟨hs.working, fun m hm => hs.elsewhere ?_⟩
    rintro rfl
    exact hm ⟨List.prefix_append _ _, by simp⟩
  · rw [diverter, onFiles_files, hc]
    exact ⟨rfl, fun _ _ => rfl⟩

/-- The source is there, so that it can be replaced. -/
theorem exists_diverted {c : Cache} {o : CompilerSettings} {b : ByteArray} {x : Bool}
    (h : Placed t₀ c e t)
    (hx : t.root.node? (e ++ [cacheName] ++ [driverSourceName]) = some (.file b x)) :
    ∃ t₁, diverted (c.job o) t = .ok t₁ := by
  obtain ⟨t₁, h₁, hs₁⟩ := h.opens.removeFile_child literal_driverSourceName hx (by simp)
  obtain ⟨t₂, h₂, _⟩ := (h.sets hs₁).opens.makeLink_child
    literal_driverSourceName hs₁.here (q := outPath) (by decide)
  refine ⟨t₂, ?_⟩
  have h₁ : t.removeFile ((c.job o).cacheDirectory.child driverSourceName) = .ok t₁ := h₁
  rw [diverted, h₁]
  exact h₂

def diverting : Call :=
  ⟨diverter, .standard, true⟩

/-- Around the cache nothing has changed, and in it the driver's source is a link to the other
file. -/
structure Diverted (t : Tree) : Prop where
  placed : Placed yard (cacheOf lonePath .standard) ["D"] t
  outside : ∀ m, ¬ ["D"] ++ [cacheName] <+: m → t.root.node? m = yard.root.node? m
  plain : ∀ n ∈ [hashName, settingsName], t.Plain (["D"] ++ [cacheName] ++ [n])
  artifact : t.root.node? (["D"] ++ [cacheName] ++ [artifactName]) = none
  included : t.root.node? (["D"] ++ [cacheName] ++ [includedName]) ≠ some .directory
  source : t.root.node? (["D"] ++ [cacheName] ++ [driverSourceName]) = some (.link outPath)

/-- It is so after the first build. -/
theorem diverted_yard : Diverted (buildAll lonePath [diverting] (.of yard)).files := by
  have hu : Usable yard ["D"] yard := usable_of_missing ⟨rfl, .refl _, rfl⟩ rfl
  rcases hu.build_cases (s := .of yard) .standard true shared_yard
    (List.mem_singleton.mpr rfl) read_yard with
    ⟨hhit, _⟩ | ⟨_, t₁, _, _, hr, hread₁, ⟨f, hdef, _⟩ | ⟨commands, t₂, _, hb₂, hw, _, hbuild⟩⟩
  · cases hhit
  · rw [readDefinition_lone hread₁] at hdef
    cases hdef
  have p₂ : Placed yard (cacheOf lonePath .standard) ["D"] t₂ :=
    ⟨hb₂, opens_yard, (hw.elsewhere _ fun n _ => child_ne_self).trans hr.directory⟩
  obtain ⟨t₃, h₃⟩ := exists_diverted (o := Configuration.standard.compiler) p₂ hw.source.choose_spec
  have hs₃ := diverted_ok p₂.opens h₃
  have same : ∀ n, n ∉ [driverSourceName, manifestName] →
      t₃.root.node? (["D"] ++ [cacheName] ++ [n]) = t₁.root.node? (["D"] ++ [cacheName] ++ [n]) :=
    fun n hn => (hs₃.elsewhere (child_ne fun h => hn (h ▸ .head _))).trans (hw.child hn)
  have hfinal : (buildAll lonePath [diverting] (.of yard)).files = t₃ := by
    have hrun := congrArg (fun x => x.2.files) (hbuild diverter)
    rw [diverter, onFiles_ok (Procedure.change_ok h₃)] at hrun
    exact hrun
  rw [hfinal]
  refine ⟨p₂.sets hs₃, fun m hm => ?_, ?_, ?_, ?_, hs₃.here⟩
  · have hne : m ≠ ["D"] ++ [cacheName] ++ [driverSourceName] := by
      rintro rfl
      exact hm (List.prefix_append _ _)
    exact (hs₃.elsewhere hne).trans ((hw.outside hm).trans (hr.outside hm))
  · have apart : ∀ n ∈ [hashName, settingsName], n ∉ [driverSourceName, manifestName] := by
      decide
    exact fun n hn => (hr.plain hn).congr (same n (apart n hn))
  · exact (same artifactName (by decide)).trans hr.artifact
  · rw [same includedName (by decide)]
    exact hr.included

namespace Diverted

theorem read (h : Diverted t) : t.read lonePath = .ok loneContent :=
  (shared_yard.read_eq (List.mem_singleton.mpr rfl) ⟨rfl, .refl _, rfl⟩ h.placed.beside
    h.outside).trans read_yard

theorem out (h : Diverted t) : t.root.node? ["out"] = some (.file "kept".toUTF8 false) :=
  h.outside _ (by decide)

/-- The renewal goes through and stays so, for it does not come to the source. -/
theorem resolveUpTo (h : Diverted t) :
    ∃ t', (cacheOf lonePath .standard).resolveUpTo true 7 t = (.ok .miss, t') ∧ Diverted t' := by
  have hdef : fileHash t lonePath = .ok (Digest.sha256Hex loneContent) := by
    rw [fileHash, h.read]
    rfl
  obtain ⟨t', hrun, hb, hr⟩ := (cacheOf lonePath .standard).renewal_run rfl h.placed.beside
    opens_yard (by decide) (fun y hy => Option.some.inj (hy.symm.trans h.placed.directory))
    (h.plain _ (by decide)) (h.plain _ (by decide)) (by rw [h.artifact]; simp) h.included
    (Digest.sha256Hex loneContent)
  refine ⟨t', (Cache.resolveUpTo_miss (r := 7) hdef rfl).trans ?_,
    ⟨hb, opens_yard, hr.directory⟩, fun m hm => (hr.outside hm).trans (h.outside m hm),
    fun n hn => hr.plain hn, hr.artifact, hr.included, ?_⟩
  · have hall : Procedure.inOrder (((cacheOf lonePath .standard).renewal
        (Digest.sha256Hex loneContent)).take 7) t = (.ok (), t') := hrun
    rw [Procedure.run_bind, hall]
    rfl
  · exact (hr.elsewhere _ child_ne_self.symm fun k hk =>
      child_ne fun h => absurd (h ▸ hk) (by decide)).trans h.source

/-- The way over the link, from the cache to the other file. -/
theorem leads (h : Diverted t) : t.Leads (cacheOf lonePath .standard).sourcePath ["out"] :=
  ⟨39, .next (.down named_D (h.placed.beside.kept.directory rfl) (by simp))
    (.next (.down literal_cacheName.toNamed h.placed.directory (by simp))
      (.next (.follow literal_driverSourceName.toNamed h.source)
        (.next (.down (by decide) h.out (by simp)) (.refl _))))⟩

/-- What is written to the driver's source comes to the other file. -/
theorem write (h : Diverted t) (b : ByteArray) :
    ∃ x t', t.write (cacheOf lonePath .standard).sourcePath b none = .ok t' ∧
      t'.root.node? ["out"] = some (.file b x) := by
  have hsource : t.read (cacheOf lonePath .standard).sourcePath = .ok "kept".toUTF8 :=
    Files.Tree.read_eq_ok_iff.mpr ⟨by decide, rfl, _, _, h.leads, h.out⟩
  obtain ⟨t', hw⟩ := Files.Tree.exists_write hsource b none
  obtain ⟨l, x, hs, hplain, _, _, hl⟩ := Files.Tree.write_ok hw
  obtain rfl := hl.unique (h.leads.extends (hs.extends_of_plain hplain) hs.working)
  exact ⟨x, t', hw, hs.here⟩

end Diverted

/-- The build that is cut off once the driver's source is written. -/
theorem Call.performUpTo_source {call : Call} {s : Site} {commands : List Definition.Command}
    (hres : (cacheOf p call.configuration).resolveUpTo call.bypass 7 s.files = (.ok .miss, t))
    (hdef : readDefinition t p = .ok commands)
    (hw : t.write (cacheOf p call.configuration).sourcePath
      (driverText commands (.ofConfiguration call.configuration)).toUTF8 none = .ok t₁) :
    (call.performUpTo p 7 s).2 = { s with files := t₁ } := by
  have hwrite : onFiles (Files.writeText (cacheOf p call.configuration).sourcePath
      (driverText commands (.ofConfiguration call.configuration))) { s with files := t } =
      (.ok (), { s with files := t₁ }) := onFiles_ok (Procedure.change_ok hw)
  rw [performUpTo, Procedure.run_bind, onFiles_ok hres]
  simp only [Procedure.run_bind, Procedure.look, hdef]
  exact congrArg Prod.snd (Procedure.inOrder_cons_ok hwrite)

/-- The next build writes the driver's source through the link. -/
theorem written_through : ∃ x,
    (diverting.performUpTo lonePath 7 (buildAll lonePath [diverting] (.of yard))).2.files.root.node?
      ["out"] = some (.file (driverText [] (.ofConfiguration .standard)).toUTF8 x) := by
  obtain ⟨t, hres, ht⟩ := diverted_yard.resolveUpTo
  obtain ⟨x, t₁, hw, hout⟩ := ht.write (driverText [] (.ofConfiguration .standard)).toUTF8
  have hfinal : (diverting.performUpTo lonePath 7 (buildAll lonePath [diverting] (.of yard))).2 =
      { buildAll lonePath [diverting] (.of yard) with files := t₁ } :=
    Call.performUpTo_source hres (readDefinition_lone ht.read) hw
  refine ⟨x, ?_⟩
  rw [hfinal]
  exact hout

/-- A file in the place of the directory is a fault of the removal, and a file outside is written
through a link that a compiler left in the cache. -/
theorem builds_not_undone :
    (¬ HasCache lonePath fenced ∧
      Cache.clean ⟨lonePath, none⟩ fenced = (.error .notDirectory, fenced)) ∧
    WritesBelow diverter ∧ ¬ HasCache lonePath yard ∧ Outside yard lonePath ["out"] ∧
    (diverting.performUpTo lonePath 7 (buildAll lonePath [diverting] (.of yard))).2.files.root.node?
      ["out"] ≠ yard.root.node? ["out"] := by
  refine ⟨⟨not_hasCache_of_error fenced_reach, clean_of_error fenced_reach⟩, writesBelow_diverter,
    not_hasCache_of_error (reach_missing opens_yard rfl), fun e ho => ?_, ?_⟩
  · rw [ho.leads.unique opens_yard.leads]
    decide
  · obtain ⟨x, hx⟩ := written_through
    rw [hx]
    intro h
    have hb : (driverText [] (.ofConfiguration .standard)).toUTF8 = "kept".toUTF8 := by
      cases h
    exact absurd (String.toByteArray_inj.mp hb) (by decide +kernel)

end TaskDriver.Build
