import TaskDriver.Proofs.Build.Usable

/-! Several definition files in one directory share a cache. Whatever is done to them, the artifact
in the cache was made from what the hash and the settings beside it stand for. -/
namespace TaskDriver.Build

open Files (Path Tree Location Node)

/-- What the compiler makes of the driver's source, its manifest, the definition file, and the
settings for a release and for further arguments. -/
abbrev Product := ByteArray → ByteArray → ByteArray → Bool → List String → ByteArray

/-- A compiler that makes its product from the files of the cache, or fails and makes nothing. In
the cache it uses the target directory as it likes. -/
structure Produces (product : Product) (compiler : Compiler) : Prop where
  frame : ∀ {c o s r s' d}, compiler (Cache.job c o) s = (r, s') → s.files.Opens c.directory d →
    s'.files.workingDirectory = s.files.workingDirectory ∧
      ∀ m, ¬ d ++ [targetName] <+: m → m ≠ d ++ [artifactName] →
        s'.files.root.node? m = s.files.root.node? m
  made : ∀ {c o s s' d}, compiler (Cache.job c o) s = (.ok (), s') → s.files.Opens c.directory d →
    ∃ source manifest definition x, s.files.read c.sourcePath = .ok source ∧
      s.files.read c.manifestPath = .ok manifest ∧ s.files.read c.linkPath = .ok definition ∧
      s'.files.root.node? (d ++ [artifactName]) =
        some (.file (product source manifest definition o.release o.args) x)
  failed : ∀ {c o s f s' d}, compiler (Cache.job c o) s = (.error f, s') →
    s.files.Opens c.directory d →
      s'.files.root.node? (d ++ [artifactName]) = s.files.root.node? (d ++ [artifactName])

/-- The compiler's product for a definition file with this content, under these settings. -/
def Made (product : Product) (a : ByteArray) (p : Path) (content : ByteArray) (c : Configuration) :
    Prop :=
  ∃ text commands, String.fromUTF8? content = some text ∧
    Definition.commandsOf text.toList = .ok commands ∧
    a = product (driverText commands (.ofConfiguration c)).toUTF8 (driverManifest p c).toUTF8 content
      c.compiler.release c.compiler.args

/-- The names of the files of a cache. -/
def fileNames : List String :=
  [hashName, settingsName, driverSourceName, manifestName, artifactName]

/-- The artifact comes from a definition and from settings with the digests that are stored. -/
def Explained (product : Product) (definitions : List Path) (contents texts : ByteArray → Prop)
    (t : Tree) (d : Location) (a : ByteArray) : Prop :=
  ∃ q ∈ definitions, ∃ b c, Made product a q b c ∧ contents b ∧ texts (settingsBytes q c) ∧
    (∃ x, t.root.node? (d ++ [hashName]) = some (.file (Digest.sha256Hex b).toUTF8 x)) ∧
    ∃ x, t.root.node? (d ++ [settingsName]) =
      some (.file (fingerprint c (driverManifest q c)).toUTF8 x)

/-- What holds of the files whatever was done to the definitions and their cache. -/
structure Held (product : Product) (t₀ : Tree) (e : Location) (definitions : List Path)
    (contents texts : ByteArray → Prop) (t : Tree) : Prop where
  beside : Beside t₀ (e ++ [cacheName]) t
  directory : ∀ y, t.root.node? (e ++ [cacheName]) = some y → y = .directory
  plain : ∀ n ∈ fileNames, t.Plain (e ++ [cacheName] ++ [n])
  link : ∀ y, t.root.node? (e ++ [cacheName] ++ [includedName]) = some y →
    ∃ p ∈ definitions, y = .link p
  content : ∀ p ∈ definitions, ∀ b, t.read p = .ok b → contents b
  artifact : ∀ a x, t.root.node? (e ++ [cacheName] ++ [artifactName]) = some (.file a x) →
    Explained product definitions contents texts t (e ++ [cacheName]) a

/-! ## What the compiler leaves -/

namespace Produces

variable {product : Product} {compiler : Compiler} {c : Cache} {o : CompilerSettings}
  {s s' : Site} {r : Except Fault Unit} {d m : Location} {n : String}

theorem outside (h : Produces product compiler) (hrun : compiler (c.job o) s = (r, s'))
    (ho : s.files.Opens c.directory d) (hm : ¬ d <+: m) :
    s'.files.root.node? m = s.files.root.node? m := by
  refine (h.frame hrun ho).2 m ?_ ?_
  · intro ht
    exact hm ((List.prefix_append _ _).trans ht)
  · rintro rfl
    exact hm (List.prefix_append _ _)

theorem itself (h : Produces product compiler) (hrun : compiler (c.job o) s = (r, s'))
    (ho : s.files.Opens c.directory d) : s'.files.root.node? d = s.files.root.node? d := by
  refine (h.frame hrun ho).2 d (fun hpre => ?_) child_ne_self
  have := hpre.length_le
  rw [List.length_append, List.length_singleton] at this
  omega

theorem child (h : Produces product compiler) (hrun : compiler (c.job o) s = (r, s'))
    (ho : s.files.Opens c.directory d) (hn : n ≠ targetName) (hn' : n ≠ artifactName) :
    s'.files.root.node? (d ++ [n]) = s.files.root.node? (d ++ [n]) := by
  refine (h.frame hrun ho).2 _ (fun hpre => ?_) (child_ne hn')
  have := (List.prefix_append_right_inj d).mp hpre
  simp at this
  exact hn this.symm

/-- Where there was no artifact, there is none or a file now. -/
theorem plain_artifact (h : Produces product compiler) (hrun : compiler (c.job o) s = (r, s'))
    (ho : s.files.Opens c.directory d) (ha : s.files.root.node? (d ++ [artifactName]) = none) :
    s'.files.Plain (d ++ [artifactName]) := by
  cases r with
  | ok _ =>
    obtain ⟨_, _, _, _, _, _, _, hx⟩ := h.made hrun ho
    exact Files.Tree.plain_of_file hx
  | error f =>
    refine Files.Tree.plain_of_none ?_
    rw [h.failed hrun ho, ha]

end Produces

section

variable {product : Product} {t₀ t t' : Tree} {e d l : Location} {definitions : List Path}
  {contents texts : ByteArray → Prop} {p : Path}

/-! ## What keeps the invariant -/

theorem Explained.congr {a : ByteArray}
    (h : Explained product definitions contents texts t d a)
    (hsame : ∀ n, t'.root.node? (d ++ [n]) = t.root.node? (d ++ [n])) :
    Explained product definitions contents texts t' d a := by
  obtain ⟨q, hq, b, c, hm, hb, hc, hh, hs⟩ := h
  refine ⟨q, hq, b, c, hm, hb, hc, ?_, ?_⟩
  · rw [hsame]
    exact hh
  · rw [hsame]
    exact hs

/-- The invariant holds without a cache. -/
theorem held_of_missing (hb : Beside t₀ (e ++ [cacheName]) t)
    (hm : t.root.node? (e ++ [cacheName]) = none)
    (hc : ∀ p ∈ definitions, ∀ b, t.read p = .ok b → contents b) :
    Held product t₀ e definitions contents texts t := by
  have below : ∀ n, t.root.node? (e ++ [cacheName] ++ [n]) = none := fun n =>
    Files.Entry.node?_append_none hm
  refine ⟨hb, ?_, ?_, ?_, hc, ?_⟩
  · intro y hy
    rw [hm] at hy
    cases hy
  · intro n _
    exact Files.Tree.plain_of_none (below n)
  · intro y hy
    rw [below] at hy
    cases hy
  · intro a x hx
    rw [below] at hx
    cases hx

theorem Held.outside (h : Held product t₀ e definitions contents texts t)
    (hb : Beside t₀ (e ++ [cacheName]) t')
    (hsame : ∀ m, e ++ [cacheName] <+: m → t'.root.node? m = t.root.node? m)
    (hc : ∀ p ∈ definitions, ∀ b, t'.read p = .ok b → contents b) :
    Held product t₀ e definitions contents texts t' := by
  have here := hsame _ (List.prefix_refl _)
  have below : ∀ n, t'.root.node? (e ++ [cacheName] ++ [n]) =
      t.root.node? (e ++ [cacheName] ++ [n]) := fun n => hsame _ (List.prefix_append _ _)
  refine ⟨hb, ?_, ?_, ?_, hc, ?_⟩
  · rw [here]
    exact h.directory
  · intro n hn z hz
    rw [below] at hz
    exact h.plain n hn z hz
  · rw [below]
    exact h.link
  · intro a x hx
    rw [below] at hx
    exact (h.artifact a x hx).congr below

/-- Other content for a definition file. -/
theorem Held.write {b : ByteArray} (h : Held product t₀ e definitions contents texts t)
    (hS : Shared t₀ e definitions) (hp : p ∈ definitions) (hb : contents b)
    (hw : t.write p b none = .ok t') : Held product t₀ e definitions contents texts t' := by
  obtain ⟨l, x, hs, _, hb', hsame⟩ := hS.written hp h.beside hw
  refine h.outside hb' hsame ?_
  intro q hq b' hb''
  obtain ⟨hne, hc, k, y, hk, hy⟩ := Files.Tree.read_eq_ok_iff.mp hb''
  by_cases hkl : k = l
  · subst hkl
    rw [hs.here] at hy
    cases hy
    exact hb
  · rw [hs.elsewhere hkl] at hy
    obtain ⟨_, _, k', _, hlead⟩ := hS.location hq
    rw [hk.unique (hlead t' hb').1] at hy
    exact h.content q hq b' (Files.Tree.read_eq_ok_iff.mpr
      ⟨hne, hc, k', y, (hlead t h.beside).1, hy⟩)

/-- Without the whole cache. -/
theorem Held.cleaned (h : Held product t₀ e definitions contents texts t)
    (hS : Shared t₀ e definitions) (hb : Beside t₀ (e ++ [cacheName]) t')
    (hm : t'.root.node? (e ++ [cacheName]) = none)
    (hout : ∀ m, ¬ e ++ [cacheName] <+: m → t'.root.node? m = t.root.node? m) :
    Held product t₀ e definitions contents texts t' := by
  refine held_of_missing hb hm ?_
  intro q hq b hr
  rw [hS.read_eq hq h.beside hb hout] at hr
  exact h.content q hq b hr

/-! ## A build, step by step -/

theorem Held.usable (h : Held product t₀ e definitions contents texts t) : Usable t₀ e t := by
  refine ⟨h.beside, h.directory, ?_, ?_⟩
  · intro n hn
    exact h.plain n (List.mem_append_left [artifactName] hn)
  · intro n hn
    simp only [List.mem_cons, List.not_mem_nil, or_false] at hn
    rcases hn with rfl | rfl
    · exact (h.plain artifactName (by simp [fileNames])).not_directory
    · intro hd
      obtain ⟨_, _, hq⟩ := h.link _ hd
      cases hq

theorem Held.opens (h : Held product t₀ e definitions contents texts t)
    (hS : Shared t₀ e definitions) (hp : p ∈ definitions)
    (hd : t.root.node? (e ++ [cacheName]) = some .directory) :
    t.Opens (p.directory.child cacheName) (e ++ [cacheName]) :=
  h.usable.opens hS hp hd

theorem Held.renewed {c : Cache} {hash settings : String}
    (h : Held product t₀ e definitions contents texts t) (hS : Shared t₀ e definitions)
    (hc : c.definition ∈ definitions) (hb : Beside t₀ (e ++ [cacheName]) t')
    (hr : Renewed c hash settings t (e ++ [cacheName]) t') :
    Held product t₀ e definitions contents texts t' := by
  refine ⟨hb, ?_, ?_, ?_, ?_, ?_⟩
  · intro y hy
    rw [hr.directory] at hy
    exact (Option.some.inj hy).symm
  · intro n hn
    by_cases h₁ : n ∈ [hashName, settingsName]
    · exact hr.plain h₁
    by_cases h₂ : n = artifactName
    · subst h₂
      exact Files.Tree.plain_of_none hr.artifact
    have h₃ : n ≠ includedName := by
      rintro rfl
      exact absurd hn (by decide)
    exact (h.plain n hn).congr (hr.elsewhere _ child_ne_self.symm (by simp_all))
  · intro y hy
    obtain ⟨q, hq, hq'⟩ := hr.link
    cases hq.symm.trans hy
    rcases hq' with rfl | ⟨hq', _⟩
    · exact ⟨_, hc, rfl⟩
    · exact h.link _ hq'
  · intro q hq b hb'
    rw [hS.read_eq hq h.beside hb fun m => hr.outside] at hb'
    exact h.content q hq b hb'
  · intro a x hx
    rw [hr.artifact] at hx
    cases hx

/-- The driver's source and its manifest do not matter while there is no artifact. -/
theorem Held.prepared {cfg : Configuration} {commands : List Definition.Command}
    (h : Held product t₀ e definitions contents texts t) (hS : Shared t₀ e definitions)
    (ha : t.root.node? (e ++ [cacheName] ++ [artifactName]) = none)
    (hb : Beside t₀ (e ++ [cacheName]) t')
    (hw : Prepared p cfg commands t (e ++ [cacheName]) t') :
    Held product t₀ e definitions contents texts t' := by
  have hu := h.usable.prepared hb hw
  have ha' : t'.root.node? (e ++ [cacheName] ++ [artifactName]) = none := by
    rw [hw.child (by decide)]
    exact ha
  refine ⟨hb, hu.directory, ?_, ?_, ?_, ?_⟩
  · intro n hn
    rcases List.mem_append.mp (show n ∈ writtenNames ++ [artifactName] from hn) with hn | hn
    · exact hu.plain n hn
    · rw [List.mem_singleton.mp hn]
      exact Files.Tree.plain_of_none ha'
  · rw [hw.child (by decide)]
    exact h.link
  · intro q hq b hb'
    rw [hS.read_eq hq h.beside hb fun m => hw.outside] at hb'
    exact h.content q hq b hb'
  · intro a y hy
    rw [ha'] at hy
    cases hy

section

variable {compiler : Compiler} {cfg : Configuration} {s s' : Site} {b : ByteArray}
  {commands : List Definition.Command}

/-- The product of the compiler is that of the current definition. -/
theorem made_of_compiled {a : ByteArray} {x : Bool} (hcomp : Produces product compiler)
    (h : Held product t₀ e definitions contents texts s.files) (hS : Shared t₀ e definitions)
    (hp : p ∈ definitions) (hread : s.files.read p = .ok b)
    (hdef : readDefinition s.files p = .ok commands)
    (hready : Ready p cfg b commands s.files (e ++ [cacheName]))
    (hrun : compiler ((cacheOf p cfg).job cfg.compiler) s = (.ok (), s'))
    (ha : s'.files.root.node? (e ++ [cacheName] ++ [artifactName]) = some (.file a x)) :
    Made product a p b cfg := by
  have ho := h.opens hS hp hready.directory
  obtain ⟨source, manifest, definition, y, h₁, h₂, h₃, h₄⟩ := hcomp.made hrun ho
  obtain ⟨q, hq, hsame⟩ := hready.link
  obtain ⟨q', hq', heq⟩ := h.link _ hq
  cases heq
  have e₁ : source = (driverText commands (.ofConfiguration cfg)).toUTF8 :=
    Except.ok.inj (h₁.symm.trans (ho.read_child literal_driverSourceName hready.source.choose_spec))
  have e₂ : manifest = (driverManifest p cfg).toUTF8 :=
    Except.ok.inj (h₂.symm.trans (ho.read_child literal_manifestName hready.manifest.choose_spec))
  have e₃ : b = definition :=
    Except.ok.inj (hread.symm.trans
      (hS.read_link hq' hp hsame h.beside ho literal_includedName hq h₃))
  subst e₁ e₂ e₃
  rw [ha] at h₄
  cases h₄
  obtain ⟨text, ht, hc⟩ := readDefinition_ok hread hdef
  exact ⟨text, commands, ht, hc, rfl⟩

/-- The compiler leaves either no artifact, or one that the new digests explain. -/
theorem Held.compiled {r : Except Fault Unit} (hcomp : Produces product compiler)
    (h : Held product t₀ e definitions contents texts s.files) (hS : Shared t₀ e definitions)
    (hp : p ∈ definitions) (ht : texts (settingsBytes p cfg)) (hread : s.files.read p = .ok b)
    (hdef : readDefinition s.files p = .ok commands)
    (hready : Ready p cfg b commands s.files (e ++ [cacheName]))
    (hrun : compiler ((cacheOf p cfg).job cfg.compiler) s = (r, s')) :
    Held product t₀ e definitions contents texts s'.files ∧ s'.files.read p = .ok b := by
  have ho := h.opens hS hp hready.directory
  have hout : ∀ m, ¬ e ++ [cacheName] <+: m → s'.files.root.node? m = s.files.root.node? m :=
    fun m => hcomp.outside hrun ho
  have hb : Beside t₀ (e ++ [cacheName]) s'.files :=
    h.beside.of_outside (hcomp.frame hrun ho).1 hout
  refine ⟨⟨hb, ?_, ?_, ?_, ?_, ?_⟩, (hS.read_eq hp h.beside hb hout).trans hread⟩
  · rw [hcomp.itself hrun ho]
    exact h.directory
  · intro n hn
    by_cases hna : n = artifactName
    · rw [hna]
      exact hcomp.plain_artifact hrun ho hready.artifact
    have hnt : n ≠ targetName := by
      rintro rfl
      exact absurd hn (by decide)
    exact (h.plain n hn).congr (hcomp.child hrun ho hnt hna)
  · rw [hcomp.child hrun ho (by decide) (by decide)]
    exact h.link
  · intro q hq b' hb'
    rw [hS.read_eq hq h.beside hb hout] at hb'
    exact h.content q hq b' hb'
  · intro a x ha
    cases r with
    | ok _ =>
      refine ⟨p, hp, b, cfg, made_of_compiled hcomp h hS hp hread hdef hready hrun ha,
        h.content p hp b hread, ht, ?_, ?_⟩
      · rw [hcomp.child hrun ho (by decide) (by decide)]
        exact hready.hash
      · rw [hcomp.child hrun ho (by decide) (by decide)]
        exact hready.settings
    | error f =>
      rw [hcomp.failed hrun ho, hready.artifact] at ha
      cases ha

/-- A build either finds a current driver, or cannot read the definition, or calls the compiler once
the cache is ready for it. -/
theorem Held.build_cases (cfg : Configuration) (bypass : Bool)
    (h : Held product t₀ e definitions contents texts s.files) (hS : Shared t₀ e definitions)
    (hp : p ∈ definitions) :
    ∃ b, s.files.read p = .ok b ∧
      ((∃ o, CallsNone p cfg bypass s (.ok o, s) ∧
          o.artifact = (cacheOf p cfg).artifactPath ∧
          (cacheOf p cfg).isCurrent s.files (Digest.sha256Hex b) = true) ∨
        (∃ t f, CallsNone p cfg bypass s (.error f, { s with files := t }) ∧
          Held product t₀ e definitions contents texts t ∧ t.read p = .ok b ∧
          readDefinition t p = .error f) ∨
        ∃ s₃ commands, CallsOnce p cfg bypass s s₃ ∧
          Held product t₀ e definitions contents texts s₃.files ∧ s₃.files.read p = .ok b ∧
          readDefinition s₃.files p = .ok commands ∧
          Ready p cfg b commands s₃.files (e ++ [cacheName])) := by
  have hc : (cacheOf p cfg).definition ∈ definitions := hp
  obtain ⟨b, hb⟩ := hS.exists_read hp h.beside
  refine ⟨b, hb, ?_⟩
  rcases h.usable.build_cases cfg bypass hS hp hb with
    ⟨hcur, _, hrun⟩ | ⟨_, t₁, _, hb₁, hr₁, hread₁, hrest⟩
  · exact .inl ⟨_, hrun, rfl, (Bool.and_eq_true_iff.mp hcur).2⟩
  have h₁ := h.renewed hS hc hb₁ hr₁
  rcases hrest with ⟨f, hdef, hrun⟩ | ⟨commands, t₂, hdef, hb₂, hw, hread₂, hcall⟩
  · exact .inr (.inl ⟨t₁, f, hrun, h₁, hread₁, hdef⟩)
  · exact .inr (.inr ⟨_, commands, hcall, h₁.prepared hS hr₁.artifact hb₂ hw, hread₂, hdef,
      hr₁.ready hw⟩)

/-- What a build does to the files, and what it tells of the artifact if it succeeds. -/
theorem Held.built {bypass : Bool} {r : Except Fault Outcome} (hcomp : Produces product compiler)
    (h : Held product t₀ e definitions contents texts s.files) (hS : Shared t₀ e definitions)
    (hp : p ∈ definitions) (ht : texts (settingsBytes p cfg))
    (hrun : build compiler p cfg bypass s = (r, s')) :
    Held product t₀ e definitions contents texts s'.files ∧
      (∀ o, r = .ok o → o.artifact = (cacheOf p cfg).artifactPath) ∧
      ∃ b, s'.files.read p = .ok b ∧
        ((cacheOf p cfg).isCurrent s'.files (Digest.sha256Hex b) = true ∨
          ∀ o, r = .ok o → ∀ a x, s'.files.root.node? (e ++ [cacheName] ++ [artifactName]) =
            some (.file a x) → Made product a p b cfg) := by
  obtain ⟨b, hb, ⟨o, hhit, hart, hcur⟩ | ⟨t, f, herr, h₁, hread₁, _⟩ |
    ⟨s₃, commands, hcall, h₃, hread₃, hdef₃, hready⟩⟩ := h.build_cases cfg bypass hS hp
  · cases (hhit compiler).symm.trans hrun
    refine ⟨h, ?_, b, hb, .inl hcur⟩
    rintro o ⟨⟩
    exact hart
  · cases (herr compiler).symm.trans hrun
    exact ⟨h₁, nofun, b, hread₁, .inr nofun⟩
  · rw [hcall compiler] at hrun
    rcases hjob : compiler ((cacheOf p cfg).job cfg.compiler) s₃ with ⟨r', s''⟩
    rw [hjob] at hrun
    cases hrun
    obtain ⟨h', hread'⟩ := Held.compiled hcomp h₃ hS hp ht hread₃ hdef₃ hready hjob
    cases r' with
    | error f => exact ⟨h', nofun, b, hread', .inr nofun⟩
    | ok _ =>
      refine ⟨h', ?_, b, hread', .inr ?_⟩
      · rintro o ⟨⟩
        rfl
      · intro o _ a x ha
        exact made_of_compiled hcomp h₃ hS hp hread₃ hdef₃ hready hjob ha

end

end

end TaskDriver.Build
