import TaskDriver.Proofs.Build.Held
import TaskDriver.Proofs.Build.Settings
import TaskDriver.Proofs.Definition.Commands

/-! No stale driver is ever left to run. Whatever is done to definition files that share a cache, an
artifact that is there was made from what the stored digests stand for; so that after a build that
succeeds it was made from the current definition under the current settings. -/
namespace TaskDriver.Build

open Files (Path Tree Location)

/-- What may be done to a definition file and to its cache. -/
inductive Act
  | rewrite (p : Path) (content : ByteArray)
  | build (p : Path) (c : Configuration) (bypass : Bool)
  | clean (p : Path)

def Act.definition : Act → Path
  | .rewrite p _ => p
  | .build p _ _ => p
  | .clean p => p

def Act.perform (compiler : Compiler) : Act → Site → Site
  | .rewrite p content, s => (onFiles (Files.write p content) s).2
  | .build p c bypass, s => (TaskDriver.Build.build compiler p c bypass s).2
  | .clean p, s => (onFiles (Cache.clean ⟨p, none⟩) s).2

def performAll (compiler : Compiler) (acts : List Act) (s : Site) : Site :=
  acts.foldl (fun s act => act.perform compiler s) s

/-- A content that a definition file has at first or is given. -/
def Content (t : Tree) (definitions : List Path) (acts : List Act) (b : ByteArray) : Prop :=
  (∃ p ∈ definitions, t.read p = .ok b) ∨ ∃ p, Act.rewrite p b ∈ acts

/-- The bytes of settings under which something is built. -/
def SettingsOf (acts : List Act) (b : ByteArray) : Prop :=
  ∃ p c bypass, Act.build p c bypass ∈ acts ∧ settingsBytes p c = b

/-- No two of these have the same digest. -/
def NoCollision (P : ByteArray → Prop) : Prop :=
  ∀ x y, P x → P y → Digest.sha256Hex x = Digest.sha256Hex y → x = y

theorem noCollision_of_eq {P : ByteArray → Prop} {a : ByteArray} (h : ∀ x, P x → x = a) :
    NoCollision P := by
  intro x y hx hy _
  rw [h x hx, h y hy]

variable {product : Product} {compiler : Compiler} {t₀ t t' : Tree} {e : Location}
  {definitions : List Path} {contents texts : ByteArray → Prop} {s s' : Site} {p : Path}
  {c : Cache} {cfg : Configuration} {d : Location}

/-! ## Runs -/

theorem Held.perform {act : Act} (hcomp : Produces product compiler) (hS : Shared t₀ e definitions)
    (h : Held product t₀ e definitions contents texts s.files)
    (hact : act.definition ∈ definitions) (hc : ∀ p b, act = .rewrite p b → contents b)
    (ht : ∀ p c bypass, act = .build p c bypass → texts (settingsBytes p c)) :
    Held product t₀ e definitions contents texts (act.perform compiler s).files := by
  cases act with
  | rewrite p b =>
    have hp : p ∈ definitions := hact
    obtain ⟨t, hw, hrun, _⟩ := h.usable.rewrite hS hp b
    rw [Act.perform, hrun]
    exact h.write hS hp (hc p b rfl) hw
  | build p c bypass => exact (h.built hcomp hS hact (ht p c bypass rfl) rfl).1
  | clean p =>
    have hp : p ∈ definitions := hact
    obtain ⟨_, t, hrun, hb, hm, hout⟩ := hS.cleaned hp h.beside h.directory
    rw [Act.perform, hrun]
    exact h.cleaned hS hb hm hout

theorem Held.performAll {acts : List Act} (hcomp : Produces product compiler)
    (hS : Shared t₀ e definitions) (h : Held product t₀ e definitions contents texts s.files)
    (hacts : ∀ act ∈ acts, act.definition ∈ definitions)
    (hc : ∀ p b, Act.rewrite p b ∈ acts → contents b)
    (ht : ∀ p c bypass, Act.build p c bypass ∈ acts → texts (settingsBytes p c)) :
    Held product t₀ e definitions contents texts (performAll compiler acts s).files := by
  induction acts generalizing s with
  | nil => exact h
  | cons act acts ih =>
    have h' := h.perform hcomp hS (hacts act (.head _)) (fun p b he => hc p b (he ▸ .head _))
      (fun p c bypass he => ht p c bypass (he ▸ .head _))
    exact ih h' (fun a ha => hacts a (.tail _ ha)) (fun p b hm => hc p b (.tail _ hm))
      (fun p c bypass hm => ht p c bypass (.tail _ hm))

/-! ## What is read of the cache -/

/-- An artifact that is read stands in the cache of its directory. -/
theorem Held.node?_of_read {a : ByteArray}
    (h : Held product t₀ e definitions contents texts t) (hS : Shared t₀ e definitions)
    (hc : c.definition ∈ definitions) (hr : t.read c.artifactPath = .ok a) :
    t.Opens c.directory (e ++ [cacheName]) ∧
      ∃ x, t.root.node? (e ++ [cacheName] ++ [artifactName]) = some (.file a x) := by
  obtain ⟨_, hclean, l, x, hl, hx⟩ := Files.Tree.read_eq_ok_iff.mp hr
  obtain ⟨d, ho⟩ := Files.Tree.opens_of_leads_child hclean literal_artifactName hl
  have hd : d = e ++ [cacheName] := by
    have ho' := (hS.opens hc).extends h.beside.kept h.beside.working
    rcases ho'.leads_child_cases literal_cacheName ho.leads with ⟨hd, _⟩ | ⟨q, hq, _⟩
    · exact hd
    · cases h.directory _ hq
  subst hd
  refine ⟨ho, x, ?_⟩
  rcases ho.leads_child_cases literal_artifactName hl with ⟨rfl, _⟩ | ⟨q, hq, _⟩
  · exact hx
  · obtain ⟨_, _, hf⟩ := h.plain artifactName (by simp [fileNames]) _ hq
    cases hf

theorem stored_of_node? {q : Path} {b : ByteArray} {x y : Bool} (ho : t.Opens c.directory d)
    (hh : t.root.node? (d ++ [hashName]) = some (.file (Digest.sha256Hex b).toUTF8 x))
    (hs : t.root.node? (d ++ [settingsName]) =
      some (.file (fingerprint cfg (driverManifest q cfg)).toUTF8 y)) :
    c.storedHash? t = some (Digest.sha256Hex b) ∧
      c.storedSettings? t = some (fingerprint cfg (driverManifest q cfg)) := by
  constructor
  · exact (trimmedText?_child ho literal_hashName hh).trans (congrArg _ (trimmed_sha256Hex b))
  · exact (trimmedText?_child ho literal_settingsName hs).trans (congrArg _ (trimmed_sha256Hex _))

/-- Settings with the same bytes make the same product. -/
theorem Made.congr {a b : ByteArray} {q : Path} {cfg' : Configuration}
    (h : Made product a q b cfg') (hs : settingsBytes q cfg' = settingsBytes p cfg) :
    Made product a p b cfg := by
  obtain ⟨hpol, htime, hrel, hargs, hman⟩ := settingsText_inj (String.toByteArray_inj.mp hs)
  obtain ⟨text, commands, ht, hc, rfl⟩ := h
  refine ⟨text, commands, ht, hc, ?_⟩
  have ho : DriverOptions.ofConfiguration cfg' = DriverOptions.ofConfiguration cfg := by
    rw [DriverOptions.ofConfiguration, DriverOptions.ofConfiguration, hpol, htime]
  rw [ho, hman, hrel, hargs]

/-- A current artifact was made from the definition that has the stored digest. -/
theorem Held.made_of_isCurrent {a b : ByteArray} {x : Bool}
    (h : Held product t₀ e definitions contents texts t)
    (hcontents : NoCollision contents) (htexts : NoCollision texts)
    (hb : contents b) (ht : texts (settingsBytes p cfg))
    (hcur : (cacheOf p cfg).isCurrent t (Digest.sha256Hex b) = true)
    (hop : t.Opens (cacheOf p cfg).directory (e ++ [cacheName]))
    (ha : t.root.node? (e ++ [cacheName] ++ [artifactName]) = some (.file a x)) :
    Made product a p b cfg := by
  obtain ⟨q, _, b', cfg', hm, hb', ht', ⟨y, hy⟩, ⟨z, hz⟩⟩ := h.artifact a x ha
  obtain ⟨e₁, e₂⟩ := stored_of_node? hop hy hz
  obtain ⟨hset, hash⟩ := Cache.isCurrent_iff.mp hcur
  have hash : Digest.sha256Hex b' = Digest.sha256Hex b := Option.some.inj (e₁.symm.trans hash)
  have hset : Digest.sha256Hex (settingsBytes q cfg') = Digest.sha256Hex (settingsBytes p cfg) := by
    rcases hset with hset | hset
    · cases hset
    · exact Option.some.inj (e₂.symm.trans hset)
  rw [← hcontents b' b hb' hb hash]
  exact hm.congr (htexts _ _ ht' ht hset)

/-! ## A compiler that puts files together -/

def assembled (product : Product) (j : Job) (t : Tree) : Except Files.Fault Tree := do
  let source ← t.read (j.cacheDirectory.child driverSourceName)
  let manifest ← t.read j.manifest
  let definition ← t.read (j.cacheDirectory.child includedName)
  if t.exists? false j.artifact then .error .alreadyThere
  else t.write j.artifact (product source manifest definition j.release j.args) none

/-- Puts the product in the place of the artifact, which has to be free. -/
def assembler (product : Product) : Compiler := fun j =>
  onFiles (.change (assembled product j))

theorem assembled_eq (product : Product) (c : Cache) (o : CompilerSettings) (t : Tree) :
    assembled product (c.job o) t = (do
      let source ← t.read c.sourcePath
      let manifest ← t.read c.manifestPath
      let definition ← t.read c.linkPath
      if t.exists? false c.artifactPath then .error .alreadyThere
      else t.write c.artifactPath (product source manifest definition o.release o.args) none) :=
  rfl

theorem assembled_ok {o : CompilerSettings} (ho : t.Opens c.directory d)
    (h : assembled product (c.job o) t = .ok t') :
    ∃ source manifest definition x, t.read c.sourcePath = .ok source ∧
      t.read c.manifestPath = .ok manifest ∧ t.read c.linkPath = .ok definition ∧
      t.Sets (d ++ [artifactName])
        (some (.file (product source manifest definition o.release o.args) x)) t' := by
  rw [assembled_eq] at h
  rcases h₁ : t.read c.sourcePath with f | source
  · simp [h₁, bind, Except.bind] at h
  rcases h₂ : t.read c.manifestPath with f | manifest
  · simp [h₁, h₂, bind, Except.bind] at h
  rcases h₃ : t.read c.linkPath with f | definition
  · simp [h₁, h₂, h₃, bind, Except.bind] at h
  simp only [h₁, h₂, h₃, bind, Except.bind] at h
  split at h
  · cases h
  · next hx =>
    have hm : t.root.node? (d ++ [artifactName]) = none := by
      rcases hn : t.root.node? (d ++ [artifactName]) with _ | y
      · rfl
      · exact absurd ((exists?_child ho literal_artifactName).mpr (by simp [hn])) hx
    obtain ⟨x, t₁, hw, hs⟩ := ho.write_child literal_artifactName (Files.Tree.plain_of_none hm)
      (product source manifest definition o.release o.args) none
    cases hw.symm.trans h
    exact ⟨source, manifest, definition, x, rfl, rfl, rfl, hs⟩

theorem produces_assembler (product : Product) : Produces product (assembler product) := by
  have cases : ∀ {c : Cache} {o s r s'}, assembler product (c.job o) s = (r, s') →
      (∃ t, assembled product (c.job o) s.files = .ok t ∧ r = .ok () ∧ s' = { s with files := t }) ∨
        s' = s ∧ r ≠ .ok () := by
    intro c o s r s' h
    rcases ha : assembled product (c.job o) s.files with f | t
    · right
      simp only [assembler, onFiles, Procedure.within, Procedure.change, ha, Prod.mk.injEq] at h
      exact ⟨h.2.symm, by rw [← h.1]; simp⟩
    · left
      simp only [assembler, onFiles, Procedure.within, Procedure.change, ha, Prod.mk.injEq] at h
      exact ⟨t, rfl, h.1.symm, h.2.symm⟩
  constructor
  · intro c o s r s' d h ho
    rcases cases h with ⟨t, ha, _, rfl⟩ | ⟨rfl, _⟩
    · obtain ⟨_, _, _, _, _, _, _, hs⟩ := assembled_ok ho ha
      exact ⟨hs.working, fun m _ hm => hs.elsewhere hm⟩
    · exact ⟨rfl, fun _ _ _ => rfl⟩
  · intro c o s s' d h ho
    rcases cases h with ⟨t, ha, _, rfl⟩ | ⟨_, hr⟩
    · obtain ⟨source, manifest, definition, x, h₁, h₂, h₃, hs⟩ := assembled_ok ho ha
      exact ⟨source, manifest, definition, x, h₁, h₂, h₃, hs.here⟩
    · exact absurd rfl hr
  · intro c o s f s' d h ho
    rcases cases h with ⟨t, _, hr, _⟩ | ⟨rfl, _⟩
    · cases hr
    · rfl

/-! ## A lone definition file -/

def loneContent : ByteArray :=
  "// matr:build".toUTF8

/-- A directory with nothing but a definition file in it. -/
def lone : Tree :=
  ⟨.directory [("D", .directory [("Matrfile.rs", .file loneContent false)])], []⟩

def lonePath : Path :=
  ⟨true, ["D", "Matrfile.rs"]⟩

/-- A product in which everything that went into it can be told apart. -/
def glued : Product := fun source manifest definition release args =>
  source ++ manifest ++ definition ++ (toString release).toUTF8 ++ (Text.quoteList args).toUTF8

theorem named_D : Files.Named "D" := by
  decide

theorem lone_goes (h : lone.root.Extends t.root) (k : Nat) :
    Files.Entry.Goes t.root ⟨k, [], ["D", "Matrfile.rs"]⟩ ⟨k, ["D", "Matrfile.rs"], []⟩ := by
  have hl : Files.Entry.Goes lone.root ⟨k, [], ["D", "Matrfile.rs"]⟩
      ⟨k, ["D", "Matrfile.rs"], []⟩ :=
    .next (.down (d := .directory) named_D rfl nofun)
      (.next (.down (d := .file loneContent false) literal_includedName.toNamed rfl nofun)
        (.refl _))
  exact hl.extends h

theorem lone_read : lone.read lonePath = .ok loneContent :=
  Files.Tree.read_eq_ok_iff.mpr ⟨by decide, rfl, ["D", "Matrfile.rs"], false,
    ⟨_, lone_goes (.refl _) _⟩, rfl⟩

theorem lone_content : ∀ p ∈ [lonePath], ∀ b, lone.read p = .ok b → b = loneContent := by
  intro p hp b hb
  rw [List.mem_singleton.mp hp, lone_read] at hb
  exact (Except.ok.inj hb).symm

theorem shared_lone : Shared lone ["D"] [lonePath] := by
  constructor
  · simp [lonePath]
  · intro p hp
    rw [List.mem_singleton.mp hp]
    exact Files.Tree.isFile_iff.mpr ⟨_, lone_read⟩
  · intro p hp
    rw [List.mem_singleton.mp hp]
    have hl : lone.Leads lonePath.directory ["D"] :=
      ⟨_, .next (.down (d := .directory) named_D rfl nofun) (.refl _)⟩
    exact ⟨_, hl.reach (by decide) rfl rfl⟩
  · rfl

theorem lone_commands : Definition.commandsOf "// matr:build".toList = .ok [] :=
  Definition.commandsOf_of_toOption (by decide +kernel)

theorem assembled_lone {commands : List Definition.Command}
    (h : Held product lone ["D"] [lonePath] contents texts t)
    (hr : Ready lonePath cfg loneContent commands t (["D"] ++ [cacheName])) :
    ∃ t', assembled product ((cacheOf lonePath cfg).job cfg.compiler) t = .ok t' := by
  have ho : t.Opens (cacheOf lonePath cfg).directory (["D"] ++ [cacheName]) :=
    h.opens shared_lone (List.mem_singleton.mpr rfl) hr.directory
  have h₁ : t.read (cacheOf lonePath cfg).sourcePath = .ok _ :=
    ho.read_child literal_driverSourceName hr.source.choose_spec
  have h₂ : t.read (cacheOf lonePath cfg).manifestPath = .ok _ :=
    ho.read_child literal_manifestName hr.manifest.choose_spec
  -- The way over the link: down to it, and from the root to the definition.
  obtain ⟨b, h₃⟩ : ∃ b, t.read (cacheOf lonePath cfg).linkPath = .ok b := by
    obtain ⟨q, hq, _⟩ := hr.link
    obtain ⟨q', hq', heq⟩ := h.link _ hq
    rw [List.mem_singleton.mp hq'] at heq
    cases heq
    obtain ⟨d, hd, ha⟩ := h.beside.kept ["D", "Matrfile.rs"] (.file loneContent false) rfl
    have hdir : t.root.node? ["D"] = some .directory := h.beside.kept.directory rfl
    have hg : Files.Entry.Goes t.root ⟨Files.linkLimit, [], ["D", cacheName, includedName]⟩
        ⟨39, ["D", "Matrfile.rs"], []⟩ :=
      .next (.down named_D hdir nofun) (.next (.down literal_cacheName.toNamed hr.directory nofun)
        (.next (.follow literal_includedName.toNamed hq) (lone_goes h.beside.kept 39)))
    have hl : t.Leads (cacheOf lonePath cfg).linkPath ["D", "Matrfile.rs"] := ⟨39, hg⟩
    have hne := Path.child_ne_empty literal_includedName (cacheOf lonePath cfg).directory
    cases ha with
    | file => exact ⟨_, Files.Tree.read_eq_ok_iff.mpr ⟨hne, rfl, _, _, hl, hd⟩⟩
    | refl => exact ⟨_, Files.Tree.read_eq_ok_iff.mpr ⟨hne, rfl, _, _, hl, hd⟩⟩
  have hx : t.exists? false (cacheOf lonePath cfg).artifactPath = false := by
    exact exists?_missing ho literal_artifactName hr.artifact false
  obtain ⟨x, t', hw, _⟩ := ho.write_child literal_artifactName (Files.Tree.plain_of_none hr.artifact)
    (product (driverText commands (.ofConfiguration cfg)).toUTF8 (driverManifest lonePath cfg).toUTF8 b
      cfg.compiler.release cfg.compiler.args) none
  refine ⟨t', ?_⟩
  rw [assembled_eq]
  simp only [h₁, h₂, h₃, hx, bind, Except.bind]
  exact hw

theorem readDefinition_lone (h : t.read lonePath = .ok loneContent) :
    readDefinition t lonePath = .ok [] := by
  have ht : String.fromUTF8? loneContent = some "// matr:build" := fromUTF8?_toUTF8 _
  have hs : t.readText lonePath = .ok "// matr:build" := by
    simp [Tree.readText, h, ht, bind, Except.bind, pure, Except.pure]
  rw [readDefinition, hs]
  simp only [mapError_ok, bind, Except.bind, lone_commands]
  rfl

theorem build_lone (h : Held product lone ["D"] [lonePath] (· = loneContent) texts s.files)
    (bypass : Bool) : ∃ o s', build (assembler product) lonePath cfg bypass s = (.ok o, s') := by
  have hmem : lonePath ∈ [lonePath] := List.mem_singleton.mpr rfl
  obtain ⟨b, hb, ⟨o, hrun, _⟩ | ⟨t, f, _, _, hread, hdef⟩ |
    ⟨s₃, commands, hcall, h₃, _, _, hready⟩⟩ := h.build_cases cfg bypass shared_lone hmem
  · exact ⟨o, s, hrun _⟩
  · obtain rfl := h.content _ hmem b hb
    rw [readDefinition_lone hread] at hdef
    cases hdef
  · obtain rfl := h.content _ hmem b hb
    obtain ⟨t', ht'⟩ := assembled_lone h₃ hready
    have hjob : assembler product ((cacheOf lonePath cfg).job cfg.compiler) s₃ =
        (.ok (), { s₃ with files := t' }) := onFiles_ok (Procedure.change_ok ht')
    have hrun := hcall (assembler product)
    rw [hjob] at hrun
    exact ⟨_, _, hrun⟩

/-! ## No stale driver -/

theorem no_stale_driver (hcomp : Produces product compiler) (hS : Shared s.files e definitions)
    (acts : List Act) (hacts : ∀ act ∈ acts, act.definition ∈ definitions) :
    (∀ c : Cache, c.definition ∈ definitions → ∀ a,
      (performAll compiler acts s).files.read c.artifactPath = .ok a →
        ∃ q ∈ definitions, ∃ b cfg, Made product a q b cfg ∧
          c.storedHash? (performAll compiler acts s).files = some (Digest.sha256Hex b) ∧
          c.storedSettings? (performAll compiler acts s).files =
            some (fingerprint cfg (driverManifest q cfg))) ∧
    ∀ p ∈ definitions, ∀ cfg bypass o s',
      build compiler p cfg bypass (performAll compiler acts s) = (.ok o, s') →
      NoCollision (Content s.files definitions acts) →
      NoCollision (SettingsOf (acts ++ [.build p cfg bypass])) →
        ∃ b, s'.files.read p = .ok b ∧
          ∀ a, s'.files.read o.artifact = .ok a → Made product a p b cfg := by
  have start : ∀ texts, Held product s.files e definitions (Content s.files definitions acts) texts
      s.files := fun texts =>
    held_of_missing ⟨rfl, .refl _, hS.missing⟩ hS.missing fun p hp b hb => .inl ⟨p, hp, hb⟩
  constructor
  · intro c hc a ha
    have h := (start (SettingsOf acts)).performAll hcomp hS hacts (fun p b hm => .inr ⟨p, hm⟩)
      (fun p c bypass hm => ⟨p, c, bypass, hm, rfl⟩)
    obtain ⟨ho, x, hx⟩ := h.node?_of_read hS hc ha
    obtain ⟨q, hq, b, cfg, hm, _, _, ⟨y, hy⟩, ⟨z, hz⟩⟩ := h.artifact a x hx
    exact ⟨q, hq, b, cfg, hm, stored_of_node? ho hy hz⟩
  · intro p hp cfg bypass o s' hrun hcontents htexts
    have ht : SettingsOf (acts ++ [.build p cfg bypass]) (settingsBytes p cfg) :=
      ⟨p, cfg, bypass, by simp, rfl⟩
    have h := (start (SettingsOf (acts ++ [.build p cfg bypass]))).performAll hcomp hS hacts
      (fun p b hm => .inr ⟨p, hm⟩)
      (fun p c bypass hm => ⟨p, c, bypass, List.mem_append_left _ hm, rfl⟩)
    obtain ⟨h', hart, b, hb, hor⟩ := h.built hcomp hS hp ht hrun
    refine ⟨b, hb, ?_⟩
    intro a ha
    rw [hart o rfl] at ha
    have hc : (cacheOf p cfg).definition ∈ definitions := hp
    obtain ⟨ho, x, hx⟩ := h'.node?_of_read hS hc ha
    rcases hor with hcur | hmade
    · exact h'.made_of_isCurrent hcontents htexts (h'.content p hp b hb) ht hcur ho hx
    · exact hmade o rfl a x hx

/-- Cleaned and built, the lone definition has no driver but its own. -/
theorem no_stale_driver_lone : ∃ o s',
    build (assembler glued) lonePath .standard true
      (performAll (assembler glued) [.clean lonePath] (.of lone)) = (.ok o, s') ∧
    ∃ b, s'.files.read lonePath = .ok b ∧
      ∀ a, s'.files.read o.artifact = .ok a → Made glued a lonePath b .standard := by
  have hmem : lonePath ∈ [lonePath] := List.mem_singleton.mpr rfl
  have hacts : ∀ act ∈ [Act.clean lonePath], act.definition ∈ [lonePath] := by
    intro act hact
    rw [List.mem_singleton.mp hact]
    exact hmem
  have h : Held glued lone ["D"] [lonePath] (· = loneContent) (fun _ => True)
      (performAll (assembler glued) [.clean lonePath] (.of lone)).files :=
    Held.performAll (produces_assembler glued) shared_lone
      (held_of_missing ⟨rfl, .refl _, rfl⟩ rfl lone_content) hacts (fun _ _ hm => by simp at hm)
      (fun _ _ _ _ => trivial)
  obtain ⟨o, s', hrun⟩ := build_lone h true
  refine ⟨o, s', hrun, ?_⟩
  refine (no_stale_driver (produces_assembler glued) shared_lone _ hacts).2 _ hmem _ _ _ _ hrun ?_ ?_
  · apply noCollision_of_eq (a := loneContent)
    rintro x (⟨p, hp, hx⟩ | ⟨p, hm⟩)
    · exact lone_content p hp x hx
    · simp at hm
  · apply noCollision_of_eq (a := settingsBytes lonePath .standard)
    rintro x ⟨p, c, bypass, hm, rfl⟩
    simp only [List.cons_append, List.nil_append, List.mem_cons, reduceCtorEq, Act.build.injEq,
      List.not_mem_nil, or_false, false_or] at hm
    rw [hm.1, hm.2.1]

end TaskDriver.Build
