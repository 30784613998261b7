import TaskDriver.Proofs.Build.CacheFiles

/-! Builds of a definition file that has a cache in which nothing is in the way. Such a build goes one
of three ways, and each of them leaves a cache of this kind to the compiler or to the next build. -/
namespace TaskDriver.Build

open Files (Path Tree Location Node)

/-- The manifest of the driver of a definition file. -/
def driverManifest (p : Path) (c : Configuration) : String :=
  manifestText (anchored p c.runtime) c.dependencies

/-- The cache of a definition file under these settings. -/
def cacheOf (p : Path) (c : Configuration) : Cache :=
  ⟨p, some (fingerprint c (driverManifest p c))⟩

theorem build_eq (compiler : Compiler) (p : Path) (c : Configuration) (bypass : Bool) :
    build compiler p c bypass = (do
      match ← onFiles ((cacheOf p c).resolve bypass) with
      | .hit => pure ⟨(cacheOf p c).directory, (cacheOf p c).artifactPath, false⟩
      | .miss =>
        let commands ← Procedure.look fun s => readDefinition s.files p
        onFiles (Files.writeText (cacheOf p c).sourcePath
          (driverText commands (.ofConfiguration c)))
        onFiles (Files.writeText (cacheOf p c).manifestPath (driverManifest p c))
        handOver compiler ((cacheOf p c).job c.compiler)
        pure ⟨(cacheOf p c).directory, (cacheOf p c).artifactPath, true⟩) :=
  rfl

/-- The bytes that the fingerprint of the settings is the digest of. -/
def settingsBytes (p : Path) (c : Configuration) : ByteArray :=
  (settingsText c (driverManifest p c)).toUTF8

/-- Definition files in one directory that has no cache yet. -/
structure Shared (t : Tree) (e : Location) (definitions : List Path) : Prop where
  absolute : ∀ p ∈ definitions, p.absolute = true
  file : ∀ p ∈ definitions, t.isFile p = true
  directory : ∀ p ∈ definitions, ∃ es, t.reach true p.directory = .ok (e, .directory es)
  missing : t.root.node? (e ++ [cacheName]) = none

/-- The files of a cache that are written, whether or not they are there. -/
def writtenNames : List String :=
  [hashName, settingsName, driverSourceName, manifestName]

/-- There may be a cache, and then nothing in it is in the way of a renewal. -/
structure Usable (t₀ : Tree) (e : Location) (t : Tree) : Prop where
  beside : Beside t₀ (e ++ [cacheName]) t
  directory : ∀ y, t.root.node? (e ++ [cacheName]) = some y → y = .directory
  plain : ∀ n ∈ writtenNames, t.Plain (e ++ [cacheName] ++ [n])
  removable : ∀ n ∈ [artifactName, includedName],
    t.root.node? (e ++ [cacheName] ++ [n]) ≠ some .directory

section

variable {t₀ t t' : Tree} {e d l : Location} {definitions : List Path} {p : Path}
  {s s' : Site}

/-! ## The definition files -/

theorem Shared.opens (h : Shared t₀ e definitions) (hp : p ∈ definitions) :
    t₀.Opens p.directory e := by
  obtain ⟨es, hes⟩ := h.directory p hp
  obtain ⟨_, hc, hl, hd⟩ := Files.Tree.leads_of_reach hes
  exact ⟨hc, hl, Files.Entry.node?_eq_some_directory.mpr ⟨es, hd⟩⟩

/-- A definition file stands at one location, outside of the cache. -/
theorem Shared.location (h : Shared t₀ e definitions) (hp : p ∈ definitions) :
    p ≠ ⟨false, []⟩ ∧ p.Clean ∧ ∃ l, ¬ e ++ [cacheName] <+: l ∧
      ∀ t, Beside t₀ (e ++ [cacheName]) t →
        t.Leads p l ∧ ∃ b x, t.root.node? l = some (.file b x) := by
  obtain ⟨b, hb⟩ := Files.Tree.isFile_iff.mp (h.file p hp)
  obtain ⟨hne, hc, l, x, hl, hx⟩ := Files.Tree.read_eq_ok_iff.mp hb
  refine ⟨hne, hc, l, ?_, ?_⟩
  · rintro ⟨r, rfl⟩
    rw [Files.Entry.node?_append_none h.missing] at hx
    cases hx
  · intro t ht
    refine ⟨hl.extends ht.kept ht.working, ?_⟩
    obtain ⟨z, hz, ha⟩ := ht.kept _ _ hx
    cases ha with
    | file => exact ⟨_, _, hz⟩
    | refl => exact ⟨_, _, hz⟩

theorem Shared.exists_read (h : Shared t₀ e definitions) (hp : p ∈ definitions)
    (ht : Beside t₀ (e ++ [cacheName]) t) : ∃ b, t.read p = .ok b := by
  obtain ⟨hne, hc, l, _, hl⟩ := h.location hp
  obtain ⟨hl, b, x, hx⟩ := hl t ht
  exact ⟨b, Files.Tree.read_eq_ok_iff.mpr ⟨hne, hc, l, x, hl, hx⟩⟩

/-- Changes in the cache are not seen in a definition file. -/
theorem Shared.read_eq (h : Shared t₀ e definitions) (hp : p ∈ definitions)
    (ht : Beside t₀ (e ++ [cacheName]) t) (ht' : Beside t₀ (e ++ [cacheName]) t')
    (hsame : ∀ m, ¬ e ++ [cacheName] <+: m → t'.root.node? m = t.root.node? m) :
    t'.read p = t.read p := by
  obtain ⟨hne, hc, l, hout, hl⟩ := h.location hp
  obtain ⟨hl₁, b, x, hx⟩ := hl t ht
  obtain ⟨hl₂, _⟩ := hl t' ht'
  rw [Files.Tree.read_eq_ok_iff.mpr ⟨hne, hc, l, x, hl₁, hx⟩]
  exact Files.Tree.read_eq_ok_iff.mpr ⟨hne, hc, l, x, hl₂, by rw [hsame l hout, hx]⟩

/-- What is read through the link to a definition is what is read of every path that is the same. -/
theorem Shared.read_link (h : Shared t₀ e definitions) {q r : Path} {n : String} {b : ByteArray}
    (hq : q ∈ definitions) (hp : p ∈ definitions) (hs : q.same p = true)
    (ht : Beside t₀ (e ++ [cacheName]) t) (ho : t.Opens r d) (hn : Path.Literal n)
    (hl : t.root.node? (d ++ [n]) = some (.link q)) (hr : t.read (r.child n) = .ok b) :
    t.read p = .ok b := by
  obtain ⟨_, _, m, x, hm, hx⟩ := Files.Tree.read_eq_ok_iff.mp hr
  obtain ⟨hne, hc, k, _, hk⟩ := h.location hp
  obtain ⟨hk, _⟩ := hk t ht
  rcases ho.leads_child_cases hn hm with ⟨rfl, z, hz, hz'⟩ | ⟨q', hq', hlead⟩
  · rw [hl] at hz
    cases hz
    exact absurd rfl (hz' q)
  · rw [hl] at hq'
    cases hq'
    have habs := h.absolute q hq
    have := (hlead habs).unique_of_same hk habs hs
    subst this
    exact Files.Tree.read_eq_ok_iff.mpr ⟨hne, hc, m, x, hk, hx⟩

theorem Renewed.outside {c : Cache} {hash settings : String} (h : Renewed c hash settings t d t')
    {m : Location} (hm : ¬ d <+: m) : t'.root.node? m = t.root.node? m := by
  refine h.elsewhere m ?_ ?_
  · rintro rfl
    exact hm (List.prefix_refl _)
  · rintro n - rfl
    exact hm (List.prefix_append _ _)

theorem onFiles_ok {α : Type} {c : Files.Change α} {a : α} {s : Site} (h : c s.files = (.ok a, t)) :
    onFiles c s = (.ok a, { s with files := t }) := by
  rw [onFiles, Procedure.within, h]

theorem mapError_ok {α β γ : Type} (f : α → β) (a : γ) :
    (Except.ok a : Except α γ).mapError f = .ok a :=
  rfl

theorem mapError_error {α β γ : Type} (f : α → β) (e : α) :
    (Except.error e : Except α γ).mapError f = .error (f e) :=
  rfl

theorem readDefinition_ok {b : ByteArray} {commands : List Definition.Command}
    (hb : t.read p = .ok b) (h : readDefinition t p = .ok commands) :
    ∃ text, String.fromUTF8? b = some text ∧ Definition.commandsOf text.toList = .ok commands := by
  rcases ht : String.fromUTF8? b with _ | text
  · simp [readDefinition, Tree.readText, hb, ht, bind, Except.bind, mapError_error] at h
  · refine ⟨text, rfl, ?_⟩
    rcases hc : Definition.commandsOf text.toList with (_ | place) | commands' <;>
      simp [readDefinition, Tree.readText, hb, ht, hc, bind, Except.bind, pure, Except.pure,
        mapError_ok] at h
    rw [h]

/-! ## What keeps a cache usable -/

theorem usable_of_missing (hb : Beside t₀ (e ++ [cacheName]) t)
    (hm : t.root.node? (e ++ [cacheName]) = none) : Usable t₀ e t := by
  have below : ∀ n, t.root.node? (e ++ [cacheName] ++ [n]) = none := fun n =>
    Files.Entry.node?_append_none hm
  refine ⟨hb, ?_, ?_, ?_⟩
  · intro y hy
    rw [hm] at hy
    cases hy
  · intro n _
    exact Files.Tree.plain_of_none (below n)
  · intro n _
    rw [below]
    simp

theorem Usable.inside (h : Usable t₀ e t) (hb : Beside t₀ (e ++ [cacheName]) t')
    (hsame : ∀ m, e ++ [cacheName] <+: m → t'.root.node? m = t.root.node? m) : Usable t₀ e t' := by
  have below : ∀ n, t'.root.node? (e ++ [cacheName] ++ [n]) =
      t.root.node? (e ++ [cacheName] ++ [n]) := fun n => hsame _ (List.prefix_append _ _)
  refine ⟨hb, ?_, ?_, ?_⟩
  · rw [hsame _ (List.prefix_refl _)]
    exact h.directory
  · intro n hn z hz
    rw [below] at hz
    exact h.plain n hn z hz
  · intro n hn
    rw [below]
    exact h.removable n hn

theorem Usable.opens (h : Usable t₀ e t) (hS : Shared t₀ e definitions) (hp : p ∈ definitions)
    (hd : t.root.node? (e ++ [cacheName]) = some .directory) :
    t.Opens (p.directory.child cacheName) (e ++ [cacheName]) :=
  h.beside.opens (hS.opens hp) literal_cacheName hd

theorem Usable.renewed {c : Cache} {hash settings : String} (h : Usable t₀ e t)
    (hb : Beside t₀ (e ++ [cacheName]) t')
    (hr : Renewed c hash settings t (e ++ [cacheName]) t') : Usable t₀ e t' := by
  refine ⟨hb, ?_, ?_, ?_⟩
  · intro y hy
    rw [hr.directory] at hy
    exact (Option.some.inj hy).symm
  · intro n hn
    by_cases h₁ : n ∈ [hashName, settingsName]
    · exact hr.plain h₁
    have h₂ : n ≠ artifactName ∧ n ≠ includedName := by
      constructor <;> rintro rfl <;> exact absurd hn (by decide)
    exact (h.plain n hn).congr (hr.elsewhere _ child_ne_self.symm (by simp_all))
  · intro n hn
    simp only [List.mem_cons, List.not_mem_nil, or_false] at hn
    rcases hn with rfl | rfl
    · rw [hr.artifact]
      simp
    · exact hr.included

/-! ## Other content, and no cache any more -/

/-- The file of a definition is written outside of the cache. -/
theorem Shared.written {b : ByteArray} (hS : Shared t₀ e definitions) (hp : p ∈ definitions)
    (hb : Beside t₀ (e ++ [cacheName]) t) (hw : t.write p b none = .ok t') :
    ∃ l x, t.Sets l (some (.file b x)) t' ∧ t'.Leads p l ∧ Beside t₀ (e ++ [cacheName]) t' ∧
      ∀ m, e ++ [cacheName] <+: m → t'.root.node? m = t.root.node? m := by
  obtain ⟨l, x, hs, hplain, hne, hc, hl⟩ := Files.Tree.write_ok hw
  have hb' : Beside t₀ (e ++ [cacheName]) t' :=
    ⟨hs.working.trans hb.working, hb.kept.trans (hs.extends_of_plain hplain), hb.missing⟩
  refine ⟨l, x, hs, hl, hb', ?_⟩
  obtain ⟨_, _, k, hk, hlead⟩ := hS.location hp
  rw [hl.unique (hlead t' hb').1] at hs
  intro m hm
  refine hs.elsewhere ?_
  rintro rfl
  exact hk hm

theorem Usable.rewrite (h : Usable t₀ e s.files) (hS : Shared t₀ e definitions)
    (hp : p ∈ definitions) (b : ByteArray) :
    ∃ t, s.files.write p b none = .ok t ∧
      onFiles (Files.write p b) s = (.ok (), { s with files := t }) ∧ Usable t₀ e t ∧
      ∀ m, e ++ [cacheName] <+: m → t.root.node? m = s.files.root.node? m := by
  obtain ⟨b₀, hb₀⟩ := hS.exists_read hp h.beside
  obtain ⟨t, hw⟩ := Files.Tree.exists_write hb₀ b none
  obtain ⟨l, x, _, _, hb', hsame⟩ := hS.written hp h.beside hw
  exact ⟨t, hw, onFiles_ok (Procedure.change_ok hw), h.inside hb' hsame, hsame⟩

/-- The cache is gone after it was cleaned, and nothing else. -/
theorem Shared.cleaned (hS : Shared t₀ e definitions) (hp : p ∈ definitions)
    (hb : Beside t₀ (e ++ [cacheName]) s.files)
    (hd : ∀ y, s.files.root.node? (e ++ [cacheName]) = some y → y = .directory) :
    ∃ r t, onFiles (Cache.clean ⟨p, none⟩) s = (.ok r, { s with files := t }) ∧
      Beside t₀ (e ++ [cacheName]) t ∧ t.root.node? (e ++ [cacheName]) = none ∧
      ∀ m, ¬ e ++ [cacheName] <+: m → t.root.node? m = s.files.root.node? m := by
  have ho : s.files.Opens p.directory e := (hS.opens hp).extends hb.kept hb.working
  rcases hm : s.files.root.node? (e ++ [cacheName]) with _ | y
  · refine ⟨false, s.files, onFiles_ok ?_, hb, hm, fun _ _ => rfl⟩
    simp [Cache.clean, Cache.directory, ho.removeAll_missing literal_cacheName hm]
  · obtain rfl := hd y hm
    have hout : ∀ m, ¬ e ++ [cacheName] <+: m →
        (s.files.remove (e ++ [cacheName])).root.node? m = s.files.root.node? m := fun m hm =>
      Files.Entry.node?_remove_outside _ e cacheName hm
    refine ⟨true, s.files.remove (e ++ [cacheName]), onFiles_ok ?_, hb.of_outside rfl hout,
      Files.Entry.node?_remove_below _ e cacheName (List.prefix_refl _), hout⟩
    simp [Cache.clean, Cache.directory, ho.removeAll_child literal_cacheName hm]

/-! ## A build, step by step -/

theorem Usable.resolve {c : Cache} {settings : String} {b : ByteArray} (h : Usable t₀ e t)
    (hS : Shared t₀ e definitions) (hc : c.definition ∈ definitions)
    (hset : c.settings = some settings) (hb : t.read c.definition = .ok b) (bypass : Bool) :
    (c.resolve bypass t = (.ok .hit, t) ∧ (!bypass && c.isCurrent t (Digest.sha256Hex b)) = true) ∨
      ∃ t', c.resolve bypass t = (.ok .miss, t') ∧
        (!bypass && c.isCurrent t (Digest.sha256Hex b)) = false ∧
        Beside t₀ (e ++ [cacheName]) t' ∧
        Renewed c (Digest.sha256Hex b) settings t (e ++ [cacheName]) t' := by
  have hash : fileHash t c.definition = .ok (Digest.sha256Hex b) := by
    rw [fileHash, hb]
    rfl
  rcases hcur : (!bypass && c.isCurrent t (Digest.sha256Hex b)) with _ | _
  · obtain ⟨hne, _, _⟩ := hS.location hc
    obtain ⟨t', hrun, hb', hr⟩ := Cache.renewal_run hset h.beside (hS.opens hc) hne h.directory
      (h.plain hashName (by decide)) (h.plain settingsName (by decide))
      (h.removable artifactName (by decide)) (h.removable includedName (by decide))
      (Digest.sha256Hex b)
    refine .inr ⟨t', (Cache.resolveUpTo_miss (r := 6) hash hcur).trans ?_, rfl, hb', hr⟩
    have hall : Procedure.inOrder ((c.renewal (Digest.sha256Hex b)).take 6) t = (.ok (), t') := hrun
    rw [Procedure.run_bind, hall]
    rfl
  · exact .inl ⟨Cache.resolveUpTo_hit (r := 6) hash hcur, rfl⟩

/-- The second tree has the driver's source and its manifest in the cache, and all else from the
first one. -/
structure Prepared (p : Path) (cfg : Configuration) (commands : List Definition.Command) (t : Tree)
    (d : Location) (t' : Tree) : Prop where
  source : ∃ x, t'.root.node? (d ++ [driverSourceName]) =
    some (.file (driverText commands (.ofConfiguration cfg)).toUTF8 x)
  manifest : ∃ x, t'.root.node? (d ++ [manifestName]) =
    some (.file (driverManifest p cfg).toUTF8 x)
  elsewhere : ∀ m, (∀ n ∈ [driverSourceName, manifestName], m ≠ d ++ [n]) →
    t'.root.node? m = t.root.node? m

/-- What stands in the cache when the compiler is called. -/
structure Ready (p : Path) (cfg : Configuration) (b : ByteArray)
    (commands : List Definition.Command) (t : Tree) (d : Location) : Prop where
  directory : t.root.node? d = some .directory
  hash : ∃ x, t.root.node? (d ++ [hashName]) = some (.file (Digest.sha256Hex b).toUTF8 x)
  settings : ∃ x, t.root.node? (d ++ [settingsName]) =
    some (.file (fingerprint cfg (driverManifest p cfg)).toUTF8 x)
  source : ∃ x, t.root.node? (d ++ [driverSourceName]) =
    some (.file (driverText commands (.ofConfiguration cfg)).toUTF8 x)
  manifest : ∃ x, t.root.node? (d ++ [manifestName]) =
    some (.file (driverManifest p cfg).toUTF8 x)
  artifact : t.root.node? (d ++ [artifactName]) = none
  link : ∃ q, t.root.node? (d ++ [includedName]) = some (.link q) ∧ q.same p = true

section

variable {cfg : Configuration} {commands : List Definition.Command} {b : ByteArray}

theorem Prepared.outside (h : Prepared p cfg commands t d t') {m : Location} (hm : ¬ d <+: m) :
    t'.root.node? m = t.root.node? m := by
  refine h.elsewhere m ?_
  rintro n - rfl
  exact hm (List.prefix_append _ _)

theorem Prepared.child (h : Prepared p cfg commands t d t') {n : String}
    (hn : n ∉ [driverSourceName, manifestName]) :
    t'.root.node? (d ++ [n]) = t.root.node? (d ++ [n]) := by
  refine h.elsewhere _ fun k hk => child_ne ?_
  rintro rfl
  exact hn hk

theorem Usable.prepared (h : Usable t₀ e t) (hb : Beside t₀ (e ++ [cacheName]) t')
    (hw : Prepared p cfg commands t (e ++ [cacheName]) t') : Usable t₀ e t' := by
  refine ⟨hb, ?_, ?_, ?_⟩
  · rw [hw.elsewhere _ fun _ _ => child_ne_self]
    exact h.directory
  · intro n hn
    by_cases h₁ : n = driverSourceName
    · subst h₁
      exact Files.Tree.plain_of_file hw.source.choose_spec
    by_cases h₂ : n = manifestName
    · subst h₂
      exact Files.Tree.plain_of_file hw.manifest.choose_spec
    exact (h.plain n hn).congr (hw.child (by simp [h₁, h₂]))
  · intro n hn
    have hn' : ∀ n ∈ [artifactName, includedName], n ∉ [driverSourceName, manifestName] := by
      decide
    rw [hw.child (hn' n hn)]
    exact h.removable n hn

/-- The driver's source and its manifest can be written. -/
theorem Usable.exists_prepared (h : Usable t₀ e t) (hS : Shared t₀ e definitions)
    (hp : p ∈ definitions) (hd : t.root.node? (e ++ [cacheName]) = some .directory)
    (cfg : Configuration) (commands : List Definition.Command) :
    ∃ t₁ t', t.write (cacheOf p cfg).sourcePath
        (driverText commands (.ofConfiguration cfg)).toUTF8 none = .ok t₁ ∧
      t₁.write (cacheOf p cfg).manifestPath (driverManifest p cfg).toUTF8 none = .ok t' ∧
      Beside t₀ (e ++ [cacheName]) t' ∧ Prepared p cfg commands t (e ++ [cacheName]) t' := by
  have p₀ : Placed t₀ (cacheOf p cfg) e t := ⟨h.beside, hS.opens hp, hd⟩
  obtain ⟨x₁, t₁, w₁, p₁, s₁⟩ := p₀.write literal_driverSourceName
    (h.plain driverSourceName (by decide)) (driverText commands (.ofConfiguration cfg))
  obtain ⟨x₂, t', w₂, p₂, s₂⟩ := p₁.write literal_manifestName
    ((h.plain manifestName (by decide)).congr (s₁.elsewhere (child_ne (by decide))))
    (driverManifest p cfg)
  refine ⟨t₁, t', w₁, w₂, p₂.beside, ⟨x₁, ?_⟩, ⟨x₂, s₂.here⟩, ?_⟩
  · rw [s₂.elsewhere (child_ne (by decide)), s₁.here]
  · intro m hm
    simp only [List.mem_cons, List.not_mem_nil, or_false, forall_eq_or_imp, forall_eq] at hm
    rw [s₂.elsewhere hm.2, s₁.elsewhere hm.1]

theorem Renewed.ready {t₁ : Tree}
    (hr : Renewed (cacheOf p cfg) (Digest.sha256Hex b) (fingerprint cfg (driverManifest p cfg)) t d
      t₁)
    (hw : Prepared p cfg commands t₁ d t') : Ready p cfg b commands t' d := by
  refine ⟨(hw.elsewhere _ fun _ _ => child_ne_self).trans hr.directory, ?_, ?_, hw.source,
    hw.manifest, ?_, ?_⟩
  · rw [hw.child (by decide)]
    exact hr.hash
  · rw [hw.child (by decide)]
    exact hr.settings
  · rw [hw.child (by decide)]
    exact hr.artifact
  · obtain ⟨q, hq, hsame⟩ := hr.link
    refine ⟨q, by rw [hw.child (by decide)]; exact hq, ?_⟩
    rcases hsame with rfl | ⟨_, hsame⟩
    · simp [Path.same]
    · exact hsame

/-- The build comes to this whatever the compiler is: it does not call it. -/
def CallsNone (p : Path) (cfg : Configuration) (bypass : Bool) (s : Site)
    (x : Except Fault Outcome × Site) : Prop :=
  ∀ compiler : Compiler, build compiler p cfg bypass s = x

/-- Whatever the compiler is, the build comes to what one call of it on this site comes to. -/
def CallsOnce (p : Path) (cfg : Configuration) (bypass : Bool) (s s₁ : Site) : Prop :=
  ∀ compiler : Compiler, build compiler p cfg bypass s =
    ((compiler ((cacheOf p cfg).job cfg.compiler) s₁).1.map fun _ =>
        ⟨(cacheOf p cfg).directory, (cacheOf p cfg).artifactPath, true⟩,
      (compiler ((cacheOf p cfg).job cfg.compiler) s₁).2)

theorem build_hit {bypass : Bool} (h : (cacheOf p cfg).resolve bypass s.files = (.ok .hit, t)) :
    CallsNone p cfg bypass s
      (.ok ⟨(cacheOf p cfg).directory, (cacheOf p cfg).artifactPath, false⟩,
        { s with files := t }) := by
  intro compiler
  rw [build_eq, Procedure.run_bind, onFiles_ok h]
  rfl

theorem build_unread {bypass : Bool} {f : Fault}
    (h : (cacheOf p cfg).resolve bypass s.files = (.ok .miss, t))
    (hdef : readDefinition t p = .error f) :
    CallsNone p cfg bypass s (.error f, { s with files := t }) := by
  intro compiler
  rw [build_eq, Procedure.run_bind, onFiles_ok h]
  simp only [Procedure.run_bind, Procedure.look, hdef]

theorem build_compiled {bypass : Bool} {t₁ t₂ t₃ : Tree}
    (h : (cacheOf p cfg).resolve bypass s.files = (.ok .miss, t₁))
    (hdef : readDefinition t₁ p = .ok commands)
    (w₂ : t₁.write (cacheOf p cfg).sourcePath
      (driverText commands (.ofConfiguration cfg)).toUTF8 none = .ok t₂)
    (w₃ : t₂.write (cacheOf p cfg).manifestPath (driverManifest p cfg).toUTF8 none = .ok t₃) :
    CallsOnce p cfg bypass s
      { s with files := t₃, jobs := s.jobs ++ [(cacheOf p cfg).job cfg.compiler] } := by
  intro compiler
  have e₂ : onFiles (Files.writeText (cacheOf p cfg).sourcePath
      (driverText commands (.ofConfiguration cfg))) { s with files := t₁ } =
      (.ok (), { s with files := t₂ }) := onFiles_ok (Procedure.change_ok w₂)
  have e₃ : onFiles (Files.writeText (cacheOf p cfg).manifestPath (driverManifest p cfg))
      { s with files := t₂ } = (.ok (), { s with files := t₃ }) :=
    onFiles_ok (Procedure.change_ok w₃)
  rw [build_eq, Procedure.run_bind, onFiles_ok h]
  simp only [Procedure.run_bind, Procedure.look, hdef, e₂, e₃, handOver, Procedure.change]
  generalize compiler _ _ = called
  rcases called with ⟨_ | _, s'⟩ <;> rfl

/-- A build either finds a current driver, or renews the cache; then it either cannot read the
definition, or calls the compiler once the cache is ready for it. -/
theorem Usable.build_cases (cfg : Configuration) (bypass : Bool)
    (h : Usable t₀ e s.files) (hS : Shared t₀ e definitions) (hp : p ∈ definitions)
    (hb : s.files.read p = .ok b) :
    ((!bypass && (cacheOf p cfg).isCurrent s.files (Digest.sha256Hex b)) = true ∧
        (cacheOf p cfg).resolve bypass s.files = (.ok .hit, s.files) ∧
        CallsNone p cfg bypass s
          (.ok ⟨(cacheOf p cfg).directory, (cacheOf p cfg).artifactPath, false⟩, s)) ∨
      (!bypass && (cacheOf p cfg).isCurrent s.files (Digest.sha256Hex b)) = false ∧
        ∃ t₁, (cacheOf p cfg).resolve bypass s.files = (.ok .miss, t₁) ∧
          Beside t₀ (e ++ [cacheName]) t₁ ∧
          Renewed (cacheOf p cfg) (Digest.sha256Hex b) (fingerprint cfg (driverManifest p cfg))
            s.files (e ++ [cacheName]) t₁ ∧
          t₁.read p = .ok b ∧
          ((∃ f, readDefinition t₁ p = .error f ∧
              CallsNone p cfg bypass s (.error f, { s with files := t₁ })) ∨
            ∃ commands t₂, readDefinition t₂ p = .ok commands ∧
              Beside t₀ (e ++ [cacheName]) t₂ ∧
              Prepared p cfg commands t₁ (e ++ [cacheName]) t₂ ∧ t₂.read p = .ok b ∧
              CallsOnce p cfg bypass s
                ⟨t₂, s.printed, s.jobs ++ [(cacheOf p cfg).job cfg.compiler]⟩) := by
  have hc : (cacheOf p cfg).definition ∈ definitions := hp
  rcases h.resolve hS hc rfl hb bypass with ⟨hres, hcur⟩ | ⟨t₁, hres, hcur, hb₁, hr₁⟩
  · exact .inl ⟨hcur, hres, build_hit hres⟩
  · have h₁ := h.renewed hb₁ hr₁
    have hread₁ : t₁.read p = .ok b :=
      (hS.read_eq hp h.beside hb₁ fun m => hr₁.outside).trans hb
    refine .inr ⟨hcur, t₁, hres, hb₁, hr₁, hread₁, ?_⟩
    rcases hdef : readDefinition t₁ p with f | commands
    · exact .inl ⟨f, rfl, build_unread hres hdef⟩
    · obtain ⟨t₂, t₃, w₂, w₃, hb₃, hw⟩ := h₁.exists_prepared hS hp hr₁.directory cfg commands
      have hread₃ : t₃.read p = .ok b :=
        (hS.read_eq hp hb₁ hb₃ fun m => hw.outside).trans hread₁
      have hdef₃ : readDefinition t₃ p = .ok commands := by
        rw [← hdef, readDefinition, readDefinition, Tree.readText, Tree.readText, hread₃, hread₁]
      exact .inr ⟨commands, t₃, hdef₃, hb₃, hw, hread₃, build_compiled hres hdef w₂ w₃⟩

end

end

end TaskDriver.Build
