import Mathlib.Data.List.Induction
import TaskDriver.Proofs.Build.Current
import TaskDriver.Proofs.Build.Interrupted

/-! What builds do to the files around the cache. Where the directory of the definition can be opened,
every change of a build happens in the cache; where it cannot, nothing is changed at all. -/
namespace TaskDriver

/-- What every step keeps is kept by the steps in order, however many of them are made. -/
theorem Procedure.inOrder_keeps {σ ε : Type} {I : σ → Prop} {ps : List (Procedure σ ε Unit)} {s : σ}
    (h : ∀ p ∈ ps, ∀ s, I s → I (p s).2) (hs : I s) : I (inOrder ps s).2 := by
  induction ps generalizing s with
  | nil => exact hs
  | cons p ps ih =>
    have hp := h p (.head _) s hs
    rcases hrun : p s with ⟨e | _, s₁⟩
    · rw [inOrder_cons_error hrun]
      rwa [hrun] at hp
    · rw [inOrder_cons_ok hrun]
      rw [hrun] at hp
      exact ih (fun q hq => h q (.tail _ hq)) hp

theorem Procedure.change_keeps {σ ε : Type} {I : σ → Prop} {f : σ → Except ε σ} {s : σ}
    (h : ∀ s', f s = .ok s' → I s') (hs : I s) : I (change f s : Except ε Unit × σ).2 := by
  rcases change_cases f s with ⟨s', hf, hc⟩ | ⟨e, hc⟩
  · rw [hc]
    exact h s' hf
  · rw [hc]
    exact hs

namespace Build

open Files (Path Tree Location Node Change)

/-! ## Builds -/

/-- A build, with its own compiler, settings and choice to look at the cache or not. -/
structure Call where
  compiler : Compiler
  configuration : Configuration
  bypass : Bool

def Call.perform (call : Call) (p : Path) : Building Outcome :=
  build call.compiler p call.configuration call.bypass

/-- The site after builds of one definition, whatever comes of each of them. -/
def buildAll (p : Path) (calls : List Call) (s : Site) : Site :=
  calls.foldl (fun s call => (call.perform p s).2) s

/-- The build that is cut off after its first changes: six of the cache, the driver's source, its
manifest, and what the compiler does. -/
def Call.performUpTo (call : Call) (p : Path) (k : Nat) : Building Unit := do
  let cache := cacheOf p call.configuration
  match ← onFiles (cache.resolveUpTo call.bypass k) with
  | .hit => pure ()
  | .miss =>
    let commands ← Procedure.look fun s => readDefinition s.files p
    Procedure.inOrder ([
      onFiles (Files.writeText cache.sourcePath
        (driverText commands (.ofConfiguration call.configuration))),
      onFiles (Files.writeText cache.manifestPath (driverManifest p call.configuration)),
      handOver call.compiler (cache.job call.configuration.compiler)].take (k - 6))

/-- The whole build makes nine changes. -/
theorem Call.performUpTo_nine (call : Call) (p : Path) (s : Site) :
    (call.performUpTo p 9 s).2 = (call.perform p s).2 := by
  have hall : (cacheOf p call.configuration).resolveUpTo call.bypass 9 =
      (cacheOf p call.configuration).resolve call.bypass := rfl
  simp only [performUpTo, perform, build_eq, hall, Procedure.run_bind]
  split
  · next r s₁ _ =>
    cases r with
    | hit => rfl
    | miss =>
      simp only [Procedure.run_bind]
      split
      · simp only [List.take, Procedure.inOrder, Procedure.run_bind]
        repeat' split
        all_goals simp_all [Procedure.run_pure]
      · rfl
  · rfl

/-! ## Compilers -/

/-- The compiler writes only below the directory of the cache, and it has a working directory of its
own. -/
def WritesBelow (compiler : Compiler) : Prop :=
  ∀ c o s d, s.files.Opens (Cache.directory c) d →
    (compiler (c.job o) s).2.files.workingDirectory = s.files.workingDirectory ∧
      ∀ m, ¬ (d <+: m ∧ m ≠ d) → (compiler (c.job o) s).2.files.root.node? m = s.files.root.node? m

/-- The compiler makes no link in the place of a file that the next build writes. -/
def MakesNoLink (compiler : Compiler) : Prop :=
  ∀ c o s d, s.files.Opens (Cache.directory c) d → ∀ n ∈ writtenNames, ∀ q,
    (compiler (c.job o) s).2.files.root.node? (d ++ [n]) = some (.link q) →
      s.files.root.node? (d ++ [n]) = some (.link q)

/-- It does what is expected of a compiler in the cache. -/
structure Confined (compiler : Compiler) : Prop where
  below : WritesBelow compiler
  noLink : MakesNoLink compiler

theorem confined_of_produces {product : Product} {compiler : Compiler}
    (h : Produces product compiler) : Confined compiler := by
  constructor
  · intro c o s d ho
    obtain ⟨hw, hsame⟩ := h.frame (c := c) (o := o) (s := s) rfl ho
    refine ⟨hw, fun m hm => hsame m ?_ ?_⟩
    · rintro ⟨r, rfl⟩
      exact hm ⟨⟨[targetName] ++ r, by simp⟩, by simp⟩
    · rintro rfl
      exact hm ⟨List.prefix_append _ _, by simp⟩
  · intro c o s d ho n hn q hq
    have hne : n ≠ targetName ∧ n ≠ artifactName := by
      constructor <;> rintro rfl <;> exact absurd hn (by decide)
    exact (h.child rfl ho hne.1 hne.2).symm.trans hq

/-! ## Changes in the cache -/

/-- The second tree differs from the first one only in the cache at this location, where a directory
may be new, but no link that a build would write through. -/
structure Inside (d : Location) (t t' : Tree) : Prop where
  working : t'.workingDirectory = t.workingDirectory
  outside : ∀ m, ¬ d <+: m → t'.root.node? m = t.root.node? m
  itself : t'.root.node? d = t.root.node? d ∨
    t.root.node? d = none ∧ t'.root.node? d = some .directory
  noLink : ∀ n ∈ writtenNames, ∀ q, t'.root.node? (d ++ [n]) = some (.link q) →
    t.root.node? (d ++ [n]) = some (.link q)

section

variable {t t₀ t₁ t₂ : Tree} {d e l : Location} {n : String} {y : Option Node}

theorem Inside.refl (d : Location) (t : Tree) : Inside d t t :=
  ⟨rfl, fun _ _ => rfl, .inl rfl, fun _ _ _ h => h⟩

theorem Inside.trans (h : Inside d t t₁) (h' : Inside d t₁ t₂) : Inside d t t₂ := by
  refine ⟨h'.working.trans h.working, fun m hm => (h'.outside m hm).trans (h.outside m hm), ?_,
    fun n hn q hq => h.noLink n hn q (h'.noLink n hn q hq)⟩
  rcases h'.itself with h₂ | ⟨hnone, hdir⟩
  · rw [h₂]
    exact h.itself
  · rcases h.itself with h₁ | ⟨_, h₁⟩
    · exact .inr ⟨h₁ ▸ hnone, hdir⟩
    · rw [h₁] at hnone
      cases hnone

/-- One entry of the cache is set. -/
theorem inside_of_sets_child (h : t.Sets (d ++ [n]) y t₁)
    (hy : n ∈ writtenNames → ∀ q, y ≠ some (.link q)) : Inside d t t₁ := by
  refine ⟨h.working, fun m hm => h.elsewhere ?_, .inl (h.elsewhere child_ne_self), ?_⟩
  · rintro rfl
    exact hm (List.prefix_append _ _)
  · intro k hk q hq
    by_cases hkn : k = n
    · subst hkn
      rw [h.here] at hq
      exact absurd hq (hy hk q)
    · rwa [h.elsewhere (child_ne hkn)] at hq

theorem inside_of_sets_directory (h : t.Sets d (some .directory) t₁) (hm : t.root.node? d = none) :
    Inside d t t₁ := by
  refine ⟨h.working, fun m hm => h.elsewhere ?_, .inr ⟨hm, h.here⟩, fun n _ q hq => ?_⟩
  · rintro rfl
    exact hm (List.prefix_refl _)
  · rwa [h.elsewhere child_ne_self.symm] at hq

theorem Confined.inside {compiler : Compiler} {c : Cache} {o : CompilerSettings} {s : Site}
    (h : Confined compiler) (ho : s.files.Opens c.directory d) :
    Inside d s.files (compiler (c.job o) s).2.files := by
  obtain ⟨hw, hsame⟩ := h.below c o s d ho
  exact ⟨hw, fun m hm => hsame m fun h => hm h.1, .inl (hsame d fun h => h.2 rfl),
    h.noLink c o s d ho⟩

/-! ## A cache that was not there -/

/-- The cache of a definition at this place, which was not there at first, and changes in it since. -/
structure Fresh (t₀ : Tree) (p : Path) (e : Location) (t : Tree) : Prop where
  opens : t₀.Opens p.directory e
  missing : t₀.root.node? (e ++ [cacheName]) = none
  inside : Inside (e ++ [cacheName]) t₀ t

variable {p : Path} {c : Cache} {hash : String}

namespace Fresh

theorem next (h : Fresh t₀ p e t) (h' : Inside (e ++ [cacheName]) t t₁) : Fresh t₀ p e t₁ :=
  ⟨h.opens, h.missing, h.inside.trans h'⟩

theorem beside (h : Fresh t₀ p e t) : Beside t₀ (e ++ [cacheName]) t :=
  Beside.of_outside ⟨rfl, .refl _, h.missing⟩ h.inside.working h.inside.outside

theorem opens_now (h : Fresh t₀ p e t) : t.Opens p.directory e :=
  h.opens.extends h.beside.kept h.beside.working

theorem none_or_directory (h : Fresh t₀ p e t) : t.root.node? (e ++ [cacheName]) = none ∨
    t.root.node? (e ++ [cacheName]) = some .directory := by
  rcases h.inside.itself with hs | ⟨_, hs⟩
  · exact .inl (hs.trans h.missing)
  · exact .inr hs

theorem not_link (h : Fresh t₀ p e t) (hn : n ∈ writtenNames) (q : Path) :
    t.root.node? (e ++ [cacheName] ++ [n]) ≠ some (.link q) := by
  intro hq
  have := h.inside.noLink n hn q hq
  rw [Files.Entry.node?_append_none h.missing] at this
  cases this

/-- The path of the cache leads nowhere but to its place. -/
theorem location_eq (h : Fresh t₀ p e t) (ho : t.Opens (p.directory.child cacheName) d) :
    d = e ++ [cacheName] := by
  rcases h.opens_now.leads_child_cases literal_cacheName ho.leads with ⟨hd, _⟩ | ⟨q, hq, _⟩
  · exact hd
  · rcases h.none_or_directory with hn | hn <;> rw [hn] at hq <;> cases hq

end Fresh

/-! ## What the changes of a build keep -/

/-- A property of trees that each change of the cache keeps, whatever comes of the others. -/
structure Stable (p : Path) (I : Tree → Prop) : Prop where
  make : ∀ {t hash}, I t → fileHash t p = .ok hash →
    I (Files.makeDirectories (p.directory.child cacheName) t).2
  write : ∀ {t t' n b}, n ∈ writtenNames → I t →
    t.write ((p.directory.child cacheName).child n) b none = .ok t' → I t'
  remove : ∀ {t t' n}, n ∈ [artifactName, includedName] → I t →
    t.removeFile ((p.directory.child cacheName).child n) = .ok t' → I t'
  link : ∀ {t t' q}, I t →
    t.makeLink q ((p.directory.child cacheName).child includedName) = .ok t' → I t'

theorem literal_of_written (h : n ∈ writtenNames) : Path.Literal n := by
  simp only [writtenNames, List.mem_cons, List.not_mem_nil, or_false] at h
  rcases h with rfl | rfl | rfl | rfl
  · exact literal_hashName
  · exact literal_settingsName
  · exact literal_driverSourceName
  · exact literal_manifestName

theorem literal_of_removed (h : n ∈ [artifactName, includedName]) : Path.Literal n := by
  simp only [List.mem_cons, List.not_mem_nil, or_false] at h
  rcases h with rfl | rfl
  · exact literal_artifactName
  · exact literal_includedName

theorem stable_inside (h : Fresh t₀ p e t) : Stable p (Inside (e ++ [cacheName]) t) := by
  constructor
  · intro t₁ hash h₁ _
    rcases (h.next h₁).opens_now.makeDirectories_cases literal_cacheName with hs | ⟨hm, hs⟩
    · rwa [hs]
    · exact h₁.trans (inside_of_sets_directory hs hm)
  · intro t₁ t' n b hn h₁ hw
    have hlink : ∀ d, t₁.Opens (p.directory.child cacheName) d → ∀ q,
        t₁.root.node? (d ++ [n]) ≠ some (.link q) := by
      intro d ho q
      rw [(h.next h₁).location_eq ho]
      exact (h.next h₁).not_link hn q
    obtain ⟨d, x, ho, _, hs⟩ := Files.Tree.write_child_ok (literal_of_written hn) hlink hw
    rw [(h.next h₁).location_eq ho] at hs
    exact h₁.trans (inside_of_sets_child hs fun _ q => by simp)
  · intro t₁ t' n hn h₁ hr
    obtain ⟨d, ho, hs⟩ := Files.Tree.removeFile_ok (literal_of_removed hn) hr
    rw [(h.next h₁).location_eq ho] at hs
    exact h₁.trans (inside_of_sets_child hs fun _ q => by simp)
  · intro t₁ t' q h₁ hl
    obtain ⟨d, ho, _, hs⟩ := Files.Tree.makeLink_ok literal_includedName hl
    rw [(h.next h₁).location_eq ho] at hs
    exact h₁.trans (inside_of_sets_child hs fun hn => absurd hn (by decide))

theorem opens_parent {q : Path} (hn : Path.Literal n) (h : t.Opens (q.child n) d) :
    ∃ e, t.Opens q e :=
  Files.Tree.opens_of_leads_child h.clean hn h.leads

theorem opens_of_write {q : Path} {b : ByteArray} {x : Option Bool} (hn : Path.Literal n)
    (h : t.write (q.child n) b x = .ok t₁) : ∃ d, t.Opens q d := by
  rcases hs : t.spot true (q.child n) with f | s
  · simp [Tree.write, hs, bind, Except.bind] at h
  · exact Files.Tree.opens_of_spot_child hn hs

/-- Where the directory of the definition cannot be opened, nothing is changed: either there is no
definition to read, or there are no directories at all. -/
theorem stable_nowhere (h : ∀ e, ¬ t₀.Opens p.directory e) : Stable p (· = t₀) := by
  have closed : ∀ {d}, ¬ t₀.Opens (p.directory.child cacheName) d := fun ho =>
    (opens_parent literal_cacheName ho).elim fun e he => h e he
  constructor
  · rintro t hash rfl hdef
    rcases hr : t.read p with f | b
    · simp [fileHash, hr, Except.map] at hdef
    · obtain ⟨hne, hc, l, x, hl, hx⟩ := Files.Tree.read_eq_ok_iff.mp hr
      refine Files.Tree.makeDirectories_of_root (fun hroot => ?_) literal_cacheName
      obtain ⟨e, ho⟩ := Files.Tree.opens_directory hl hne hc (by simp [hx]) hroot
      exact h e ho
  · rintro t t' n b hn rfl hw
    obtain ⟨d, ho⟩ := opens_of_write (literal_of_written hn) hw
    exact absurd ho closed
  · rintro t t' n hn rfl hr
    obtain ⟨d, ho, _⟩ := Files.Tree.removeFile_ok (literal_of_removed hn) hr
    exact absurd ho closed
  · rintro t t' q rfl hl
    obtain ⟨d, ho, _⟩ := Files.Tree.makeLink_ok literal_includedName hl
    exact absurd ho closed

section

variable {I : Tree → Prop} {s : Site} {call : Call}

/-- Every change after the directory was made. -/
theorem Stable.cleared (h : Stable c.definition I) {q : Change Unit}
    (hq : q ∈ Files.writeText c.hashPath hash :: c.clearing) (ht : I t) : I (q t).2 := by
  have hwrite : ∀ {n : String}, n ∈ writtenNames → ∀ text,
      I (Files.writeText (c.directory.child n) text t).2 := fun hn text =>
    Procedure.change_keeps (fun t' hw => h.write hn ht hw) ht
  simp only [Cache.clearing, List.mem_cons, List.not_mem_nil, or_false] at hq
  rcases hq with rfl | rfl | rfl | rfl | rfl
  · exact hwrite (n := hashName) (by decide) _
  · rcases hset : c.settings with _ | text
    · simp only [Cache.storing, hset]
      exact ht
    · simp only [Cache.storing, hset]
      exact hwrite (n := settingsName) (by decide) text
  · refine Procedure.change_keeps (fun t' hd => ?_) ht
    split at hd
    · cases hd
      exact ht
    · exact h.remove (n := artifactName) (by decide) ht hd
  · refine Procedure.change_keeps (fun t' hu => ?_) ht
    unfold Cache.unlink at hu
    split at hu
    · cases hu
      exact ht
    · exact h.remove (n := includedName) (by decide) ht hu
  · refine Procedure.change_keeps (fun t' hl => ?_) ht
    unfold Cache.link at hl
    split at hl
    · cases hl
      exact ht
    · exact h.link ht hl

theorem Stable.renewal (h : Stable c.definition I) (hdef : fileHash t c.definition = .ok hash)
    (ht : I t) (k : Nat) : I (Procedure.inOrder ((c.renewal hash).take k) t).2 := by
  cases k with
  | zero => exact ht
  | succ k =>
    have h₁ := h.make ht hdef
    rw [Cache.renewal_eq, List.take_succ_cons]
    rcases e₁ : Files.makeDirectories c.directory t with ⟨f | _, t₁⟩
    · rw [Procedure.inOrder_cons_error e₁]
      exact e₁ ▸ h₁
    · have h₁ : I (Files.makeDirectories c.directory t).2 := h₁
      rw [e₁] at h₁
      rw [Procedure.inOrder_cons_ok e₁]
      exact Procedure.inOrder_keeps (fun q hq t ht => h.cleared (List.mem_of_mem_take hq) ht) h₁

theorem Stable.resolveUpTo (h : Stable c.definition I) (ht : I t) (bypass : Bool) (k : Nat) :
    I (c.resolveUpTo bypass k t).2 := by
  rcases c.resolveUpTo_cases bypass k t with ⟨hs, _⟩ | ⟨hash, hdef, _, hs⟩
  · rwa [hs]
  · rw [hs]
    exact h.renewal hdef ht k

theorem onFiles_files {α : Type} (q : Change α) (s : Site) : (onFiles q s).2.files = (q s.files).2 := by
  rw [onFiles, Procedure.within]
  split <;> next hq => rw [hq]

theorem onFiles_writeText_cases (q : Path) (text : String) (s : Site) :
    (∃ t, s.files.write q text.toUTF8 none = .ok t ∧
      onFiles (Files.writeText q text) s = (.ok (), { s with files := t })) ∨
    ∃ f, onFiles (Files.writeText q text) s = (.error f, s) := by
  rcases Procedure.change_cases (Tree.write q text.toUTF8 none) s.files with ⟨t, hw, hc⟩ | ⟨f, hc⟩
  · exact .inl ⟨t, hw, onFiles_ok hc⟩
  · refine .inr ⟨.file f, ?_⟩
    rw [onFiles, Procedure.within, Files.writeText, Files.write, hc]

/-- The compiler is called only where the manifest was written. -/
theorem Stable.compile {cfg : Configuration} {compiler : Compiler} (h : Stable p I)
    (hcompile : ∀ s b, I s.files → s.files.read (cacheOf p cfg).manifestPath = .ok b →
      I (compiler ((cacheOf p cfg).job cfg.compiler) s).2.files)
    (hs : I s.files) (driver manifest : String) (k : Nat) :
    I (Procedure.inOrder ([onFiles (Files.writeText (cacheOf p cfg).sourcePath driver),
      onFiles (Files.writeText (cacheOf p cfg).manifestPath manifest),
      handOver compiler ((cacheOf p cfg).job cfg.compiler)].take k) s).2.files := by
  rcases k with _ | k
  · exact hs
  rw [List.take_succ_cons]
  rcases onFiles_writeText_cases (cacheOf p cfg).sourcePath driver s with ⟨t₁, hw₁, e₁⟩ | ⟨f, e₁⟩
  · rw [Procedure.inOrder_cons_ok e₁]
    have h₁ : I t₁ := h.write (n := driverSourceName) (by decide) hs hw₁
    rcases k with _ | k
    · exact h₁
    rw [List.take_succ_cons]
    rcases onFiles_writeText_cases (cacheOf p cfg).manifestPath manifest { s with files := t₁ } with
      ⟨t₂, hw₂, e₂⟩ | ⟨f, e₂⟩
    · rw [Procedure.inOrder_cons_ok e₂]
      have h₂ : I t₂ := h.write (n := manifestName) (by decide) h₁ hw₂
      rcases k with _ | k
      · exact h₂
      have h₃ := hcompile ⟨t₂, s.printed, s.jobs ++ [(cacheOf p cfg).job cfg.compiler]⟩ _ h₂
        (Files.Tree.read_write hw₂)
      simp only [List.take_succ_cons, List.take_nil, Procedure.inOrder, handOver,
        Procedure.run_bind, Procedure.change]
      split
      · next hrun =>
        rw [hrun] at h₃
        exact h₃
      · next hrun =>
        rw [hrun] at h₃
        exact h₃
    · rw [Procedure.inOrder_cons_error e₂]
      exact h₁
  · rw [Procedure.inOrder_cons_error e₁]
    exact hs

/-- A build keeps what its changes and the compiler keep, wherever it is cut off. -/
theorem Stable.performUpTo (h : Stable p I)
    (hcompile : ∀ s b, I s.files → s.files.read (cacheOf p call.configuration).manifestPath = .ok b →
      I (call.compiler ((cacheOf p call.configuration).job call.configuration.compiler) s).2.files)
    (hs : I s.files) (k : Nat) : I (call.performUpTo p k s).2.files := by
  have hres := h.resolveUpTo (c := cacheOf p call.configuration) hs call.bypass k
  rw [← onFiles_files] at hres
  rw [Call.performUpTo, Procedure.run_bind]
  rcases hrun : onFiles ((cacheOf p call.configuration).resolveUpTo call.bypass k) s with
    ⟨f | _ | _, s₁⟩
  all_goals rw [hrun] at hres
  · exact hres
  · exact hres
  simp only [Procedure.run_bind, Procedure.look]
  rcases readDefinition s₁.files p with f | commands
  · exact hres
  · exact h.compile hcompile hres _ _ _

/-! ## Any number of builds -/

variable {calls : List Call}

theorem Fresh.inside_performUpTo (h : Fresh t₀ p e s.files) (hcomp : Confined call.compiler)
    (k : Nat) : Inside (e ++ [cacheName]) s.files (call.performUpTo p k s).2.files := by
  refine (stable_inside h).performUpTo (fun s' b hs hr => ?_) (.refl _ _) k
  obtain ⟨_, hc, l, _, hl, _⟩ := Files.Tree.read_eq_ok_iff.mp hr
  obtain ⟨d, ho⟩ := Files.Tree.opens_of_leads_child hc literal_manifestName hl
  have hin := hcomp.inside (o := call.configuration.compiler) ho
  rw [(h.next hs).location_eq ho] at hin
  exact hs.trans hin

theorem performUpTo_nowhere (h : ∀ e, ¬ s.files.Opens p.directory e) (call : Call) (k : Nat) :
    (call.performUpTo p k s).2.files = s.files := by
  refine (stable_nowhere h).performUpTo (fun s' b hs hr => ?_) rfl k
  obtain ⟨_, hc, l, _, hl, _⟩ := Files.Tree.read_eq_ok_iff.mp hr
  obtain ⟨d, ho⟩ := Files.Tree.opens_of_leads_child hc literal_manifestName hl
  obtain ⟨e, he⟩ := opens_parent literal_cacheName ho
  exact absurd (hs ▸ he) (h e)

theorem buildAll_concat (p : Path) (calls : List Call) (call : Call) (s : Site) :
    buildAll p (calls ++ [call]) s = (call.performUpTo p 9 (buildAll p calls s)).2 := by
  rw [buildAll, List.foldl_append, Call.performUpTo_nine]
  rfl

theorem Fresh.inside_buildAll (h : Fresh t₀ p e s.files)
    (hcomp : ∀ call ∈ calls, Confined call.compiler) :
    Inside (e ++ [cacheName]) s.files (buildAll p calls s).files := by
  induction calls using List.reverseRecOn with
  | nil => exact .refl _ _
  | append_singleton calls call ih =>
    have h₁ := ih fun c hc => hcomp c (List.mem_append_left _ hc)
    rw [buildAll_concat]
    exact h₁.trans ((h.next h₁).inside_performUpTo (hcomp call (by simp)) 9)

theorem buildAll_nowhere (h : ∀ e, ¬ s.files.Opens p.directory e) :
    (Build.buildAll p calls s).files = s.files := by
  induction calls using List.reverseRecOn with
  | nil => rfl
  | append_singleton calls call ih =>
    rw [buildAll_concat, performUpTo_nowhere (by rwa [ih]), ih]

end

end

end Build

end TaskDriver
