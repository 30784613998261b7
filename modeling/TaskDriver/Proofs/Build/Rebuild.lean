import TaskDriver.Proofs.Build.Fingerprint

/-! When a driver is made anew. The cache decides by the digests that it finds; over a whole run they
stand for the content and the settings at the last decision, so that the decision can be told from
what was done before, without looking into the cache. -/
namespace TaskDriver.Build

open Files (Path Tree Location)

/-! ## What was done before -/

/-- What the acts on a definition come to: its content now, and the content and the settings at the
last decision, if there was one since the cache was not there. -/
structure Past where
  content : ByteArray
  decided : Option (ByteArray × Configuration)

namespace Past

def after (h : Past) : Act → Past
  | .rewrite _ b => { h with content := b }
  | .build _ c _ => { h with decided := some (h.content, c) }
  | .clean _ => { h with decided := none }

def afterAll (h : Past) (acts : List Act) : Past :=
  acts.foldl after h

/-- The last decision was made on other content or under other settings, or there was none. -/
def Outdated (h : Past) (p : Path) (cfg : Configuration) : Prop :=
  h.decided = none ∨ ∃ b c, h.decided = some (b, c) ∧ (b ≠ h.content ∨ ¬ Interchangeable p c cfg)

/-- Contents and settings are among these. -/
structure Within (contents texts : ByteArray → Prop) (p : Path) (h : Past) : Prop where
  content : contents h.content
  decided : ∀ b c, h.decided = some (b, c) → contents b ∧ texts (settingsBytes p c)

variable {contents texts : ByteArray → Prop} {p : Path} {h : Past} {act : Act} {acts : List Act}

theorem Within.after (hw : Within contents texts p h) (hact : act.definition = p)
    (hc : ∀ q b, act = .rewrite q b → contents b)
    (ht : ∀ q c bypass, act = .build q c bypass → texts (settingsBytes q c)) :
    Within contents texts p (h.after act) := by
  cases act with
  | rewrite q b => exact ⟨hc q b rfl, hw.decided⟩
  | build q c bypass =>
    refine ⟨hw.content, ?_⟩
    rintro b c' ⟨⟩
    have hq : q = p := hact
    subst hq
    exact ⟨hw.content, ht q c bypass rfl⟩
  | clean q => exact ⟨hw.content, nofun⟩

theorem Within.afterAll (hw : Within contents texts p h) (hacts : ∀ act ∈ acts, act.definition = p)
    (hc : ∀ q b, Act.rewrite q b ∈ acts → contents b)
    (ht : ∀ q c bypass, Act.build q c bypass ∈ acts → texts (settingsBytes q c)) :
    Within contents texts p (h.afterAll acts) := by
  induction acts generalizing h with
  | nil => exact hw
  | cons act acts ih =>
    have hw' := hw.after (hacts act (.head _)) (fun q b he => hc q b (he ▸ .head _))
      (fun q c bypass he => ht q c bypass (he ▸ .head _))
    exact ih hw' (fun a ha => hacts a (.tail _ ha)) (fun q b hm => hc q b (.tail _ hm))
      (fun q c bypass hm => ht q c bypass (.tail _ hm))

end Past

/-! ## Runs -/

/-- Only a build has a use for settings. -/
def Act.configuration : Act → Configuration
  | .build _ c _ => c
  | _ => .standard

/-- Acts in order, each with the compiler for its settings. -/
def performEach (compilers : Configuration → Compiler) (acts : List Act) (s : Site) : Site :=
  acts.foldl (fun s act => act.perform (compilers act.configuration) s) s

/-- The definition is as it was, and so are the digests of its cache; nothing is in the way there. -/
structure Spared (t₀ : Tree) (e : Location) (p : Path) (s s' : Site) : Prop where
  usable : Usable t₀ e s'.files
  directory : s'.files.root.node? (e ++ [cacheName]) = some .directory
  digests : ∀ n ∈ [hashName, settingsName], s'.files.root.node? (e ++ [cacheName] ++ [n]) =
    s.files.root.node? (e ++ [cacheName] ++ [n])
  definition : s'.files.read p = s.files.read p

/-- A compiler that spares a definition and the digests of its cache, whether or not it succeeds. -/
def Spares (compiler : Compiler) (t₀ : Tree) (e : Location) (p : Path) (j : Job) : Prop :=
  ∀ s, Usable t₀ e s.files → s.files.root.node? (e ++ [cacheName]) = some .directory →
    Spared t₀ e p s (compiler j s).2

/-- A definition with this content can be read. -/
def Parses (b : ByteArray) : Prop :=
  ∃ text commands, String.fromUTF8? b = some text ∧ Definition.commandsOf text.toList = .ok commands

/-- What a build does after this decision, which leaves the files `t`. In a miss with a definition that
can be read the compiler is called once, and all is ready for it then. In no other build is it called;
one of them fails for its definition, and the other finds its driver and changes nothing. -/
structure Decided (e : Location) (p : Path) (cfg : Configuration) (bypass : Bool) (b : ByteArray)
    (s : Site) (decision : Resolution) (t : Tree) : Prop where
  compiled : decision = .miss → Parses b → ∃ s₁ commands, CallsOnce p cfg bypass s s₁ ∧
    s₁.printed = s.printed ∧ s₁.jobs = s.jobs ++ [(cacheOf p cfg).job cfg.compiler] ∧
    readDefinition s₁.files p = .ok commands ∧ Ready p cfg b commands s₁.files (e ++ [cacheName])
  unread : decision = .miss → ¬ Parses b →
    ∃ f, CallsNone p cfg bypass s (.error f, { s with files := t })
  found : decision = .hit → CallsNone p cfg bypass s
    (.ok ⟨(cacheOf p cfg).directory, (cacheOf p cfg).artifactPath, false⟩, s)

variable {compiler : Compiler} {compilers : Configuration → Compiler} {product : Product}
  {t₀ t t' : Tree} {e : Location} {contents texts : ByteArray → Prop} {s s' : Site} {p : Path}
  {cfg : Configuration} {h : Past} {b : ByteArray}

theorem parses_iff (hb : t.read p = .ok b) :
    Parses b ↔ ∃ commands, readDefinition t p = .ok commands := by
  constructor
  · rintro ⟨text, commands, ht, hc⟩
    refine ⟨commands, ?_⟩
    simp [readDefinition, Tree.readText, hb, ht, hc, bind, Except.bind, pure, Except.pure,
      mapError_ok]
  · rintro ⟨commands, hc⟩
    obtain ⟨text, h⟩ := readDefinition_ok hb hc
    exact ⟨text, commands, h⟩

/-! ## The digests and the past -/

/-- The digests in the cache. -/
structure Stored (b : ByteArray) (text : String) (t : Tree) (d : Location) : Prop where
  directory : t.root.node? d = some .directory
  hash : ∃ x, t.root.node? (d ++ [hashName]) = some (.file (Digest.sha256Hex b).toUTF8 x)
  settings : ∃ x, t.root.node? (d ++ [settingsName]) = some (.file text.toUTF8 x)

theorem Stored.congr {text : String} {d : Location} (h : Stored b text t d)
    (hd : t'.root.node? d = t.root.node? d)
    (hsame : ∀ n ∈ [hashName, settingsName], t'.root.node? (d ++ [n]) = t.root.node? (d ++ [n])) :
    Stored b text t' d := by
  refine ⟨hd.trans h.directory, ?_, ?_⟩
  · rw [hsame hashName (by decide)]
    exact h.hash
  · rw [hsame settingsName (by decide)]
    exact h.settings

/-- What is in the cache is what the past says. -/
structure Recorded (t₀ : Tree) (e : Location) (p : Path) (h : Past) (t : Tree) : Prop where
  usable : Usable t₀ e t
  content : t.read p = .ok h.content
  undecided : h.decided = none → t.root.node? (e ++ [cacheName]) = none
  decided : ∀ b c, h.decided = some (b, c) →
    Stored b (fingerprint c (driverManifest p c)) t (e ++ [cacheName])

/-- Nothing is stored where there is no cache. -/
theorem storedHash?_missing (hu : Usable t₀ e t) (hS : Shared t₀ e [p])
    (hm : t.root.node? (e ++ [cacheName]) = none) : (cacheOf p cfg).storedHash? t = none := by
  rcases hr : t.read (cacheOf p cfg).hashPath with f | b
  · simp [Cache.storedHash?, trimmedText?, Tree.readText, hr, bind, Except.bind]
  · obtain ⟨_, hc, l, _, hl, _⟩ := Files.Tree.read_eq_ok_iff.mp hr
    obtain ⟨d, ho⟩ := Files.Tree.opens_of_leads_child hc literal_hashName hl
    have hp : t.Opens p.directory e :=
      (hS.opens (List.mem_singleton.mpr rfl)).extends hu.beside.kept hu.beside.working
    rcases hp.leads_child_cases literal_cacheName ho.leads with ⟨rfl, _, hx, _⟩ | ⟨q, hq, _⟩
    · rw [hm] at hx
      cases hx
    · rw [hm] at hq
      cases hq

theorem Recorded.isCurrent_iff (hr : Recorded t₀ e p h t) (hS : Shared t₀ e [p]) :
    (cacheOf p cfg).isCurrent t (Digest.sha256Hex h.content) = true ↔
      ∃ b c, h.decided = some (b, c) ∧
        fingerprint c (driverManifest p c) = fingerprint cfg (driverManifest p cfg) ∧
        Digest.sha256Hex b = Digest.sha256Hex h.content := by
  rw [Cache.isCurrent_iff]
  rcases hd : h.decided with _ | ⟨b, c⟩
  · rw [storedHash?_missing hr.usable hS (hr.undecided hd)]
    simp
  · obtain ⟨hdir, ⟨x, hx⟩, ⟨y, hy⟩⟩ := hr.decided b c hd
    have ho : t.Opens (cacheOf p cfg).directory (e ++ [cacheName]) :=
      hr.usable.opens hS (List.mem_singleton.mpr rfl) hdir
    obtain ⟨e₁, e₂⟩ := stored_of_node? ho hx hy
    rw [e₁, e₂]
    constructor
    · rintro ⟨hs | hs, hh⟩
      · cases hs
      · exact ⟨b, c, rfl, Option.some.inj hs, Option.some.inj hh⟩
    · rintro ⟨_, _, ⟨⟩, hs, hh⟩
      exact ⟨.inr (congrArg some hs), congrArg some hh⟩

theorem Recorded.stored_of_isCurrent (hr : Recorded t₀ e p h t) (hS : Shared t₀ e [p])
    (hcur : (cacheOf p cfg).isCurrent t (Digest.sha256Hex h.content) = true) :
    Stored h.content (fingerprint cfg (driverManifest p cfg)) t (e ++ [cacheName]) := by
  obtain ⟨b, c, hd, hs, hh⟩ := (hr.isCurrent_iff hS).mp hcur
  obtain ⟨hdir, hx, hy⟩ := hr.decided b c hd
  rw [hh] at hx
  rw [hs] at hy
  exact ⟨hdir, hx, hy⟩

/-- The cache is current just if its last decision was made on this content, under settings like
these. -/
theorem Recorded.isCurrent_iff_not_outdated (hr : Recorded t₀ e p h t) (hS : Shared t₀ e [p])
    (hcontents : NoCollision contents) (htexts : NoCollision texts)
    (hw : h.Within contents texts p) (ht : texts (settingsBytes p cfg)) :
    (cacheOf p cfg).isCurrent t (Digest.sha256Hex h.content) = true ↔ ¬ h.Outdated p cfg := by
  rw [hr.isCurrent_iff hS, Past.Outdated]
  rcases hd : h.decided with _ | ⟨b, c⟩
  · simp
  · obtain ⟨hb, hc⟩ := hw.decided b c hd
    constructor
    · rintro ⟨_, _, ⟨⟩, hs, hh⟩ (hn | ⟨_, _, ⟨⟩, hne | hni⟩)
      · cases hn
      · exact hne (hcontents b h.content hb hw.content hh)
      · exact hni ((fingerprint_eq_iff htexts hc ht).mp hs)
    · intro hout
      have hi : ¬ ¬ Interchangeable p c cfg := fun hni => hout (.inr ⟨b, c, rfl, .inr hni⟩)
      have he : ¬ b ≠ h.content := fun hne => hout (.inr ⟨b, c, rfl, .inl hne⟩)
      exact ⟨b, c, rfl, (fingerprint_eq_iff htexts hc ht).mpr (Classical.not_not.mp hi),
        congrArg Digest.sha256Hex (Classical.not_not.mp he)⟩

/-! ## A build that reaches the decision -/

theorem Renewed.stored {text : String} {c : Cache} {d : Location}
    (h : Renewed c (Digest.sha256Hex b) text t d t') : Stored b text t' d :=
  ⟨h.directory, h.hash, h.settings⟩

/-- What is stored for the content and these settings is the record of a decision on them. -/
theorem recorded_of_stored (hu : Usable t₀ e t) (hb : t.read p = .ok h.content)
    (hst : Stored h.content (fingerprint cfg (driverManifest p cfg)) t (e ++ [cacheName]))
    (bypass : Bool) : Recorded t₀ e p (h.after (.build p cfg bypass)) t := by
  refine ⟨hu, hb, nofun, ?_⟩
  rintro _ _ ⟨⟩
  exact hst

/-- One build: how it decides, what it does then, and what it leaves. -/
theorem Recorded.built (hr : Recorded t₀ e p h s.files) (hS : Shared t₀ e [p])
    (hcomp : Spares compiler t₀ e p ((cacheOf p cfg).job cfg.compiler)) (bypass : Bool) :
    Recorded t₀ e p (h.after (.build p cfg bypass)) (build compiler p cfg bypass s).2.files ∧
    ∃ decision t, (cacheOf p cfg).resolve bypass s.files = (.ok decision, t) ∧
      (decision = .miss ↔
        (!bypass && (cacheOf p cfg).isCurrent s.files (Digest.sha256Hex h.content)) = false) ∧
      Decided e p cfg bypass h.content s decision t := by
  have hp : p ∈ [p] := List.mem_singleton.mpr rfl
  rcases hr.usable.build_cases cfg bypass hS hp hr.content with
    ⟨hcur, hres, hrun⟩ | ⟨hcur, t₁, hres, hb₁, hr₁, hread₁, hrest⟩
  · -- A hit leaves all as it is, and the digests are those of this content and these settings.
    rw [hrun compiler]
    have hst := hr.stored_of_isCurrent hS (Bool.and_eq_true_iff.mp hcur).2
    exact ⟨recorded_of_stored hr.usable hr.content hst bypass, .hit, s.files, hres, by simp [hcur],
      nofun, nofun, fun _ => hrun⟩
  have h₁ := hr.usable.renewed hb₁ hr₁
  rcases hrest with ⟨f, hdef, hrun⟩ | ⟨commands, t₂, hdef, hb₂, hw, hread₂, hcall⟩
  · rw [hrun compiler]
    have hno : ¬ Parses h.content := by
      rw [parses_iff hread₁, hdef]
      simp
    exact ⟨recorded_of_stored h₁ hread₁ hr₁.stored bypass, .miss, t₁, hres, by simp [hcur],
      fun _ hyes => absurd hyes hno, fun _ _ => ⟨f, hrun⟩, nofun⟩
  · have h₂ := h₁.prepared hb₂ hw
    have hready := hr₁.ready hw
    have hyes : Parses h.content := (parses_iff hread₂).mpr ⟨commands, hdef⟩
    have hspare := hcomp ⟨t₂, s.printed, s.jobs ++ [(cacheOf p cfg).job cfg.compiler]⟩ h₂
      hready.directory
    have hst : Stored h.content (fingerprint cfg (driverManifest p cfg)) t₂ (e ++ [cacheName]) :=
      ⟨hready.directory, hready.hash, hready.settings⟩
    rw [hcall compiler]
    refine ⟨recorded_of_stored hspare.usable (hspare.definition.trans hread₂) ?_ bypass, .miss, t₁,
      hres, by simp [hcur], fun _ _ => ⟨_, commands, hcall, rfl, rfl, hdef, hready⟩,
      fun _ hno => absurd hyes hno, nofun⟩
    exact hst.congr (hspare.directory.trans hready.directory.symm) hspare.digests

theorem Recorded.perform {act : Act} (hr : Recorded t₀ e p h s.files) (hS : Shared t₀ e [p])
    (hcomp : ∀ cfg, Spares (compilers cfg) t₀ e p ((cacheOf p cfg).job cfg.compiler))
    (hact : act.definition = p) :
    Recorded t₀ e p (h.after act) (act.perform (compilers act.configuration) s).files := by
  have hp : p ∈ [p] := List.mem_singleton.mpr rfl
  cases act with
  | rewrite q b =>
    obtain rfl : q = p := hact
    obtain ⟨t, hw, hrun, hu, hsame⟩ := hr.usable.rewrite hS hp b
    rw [Act.perform, hrun]
    refine ⟨hu, Files.Tree.read_write hw, ?_, ?_⟩
    · intro hn
      exact (hsame _ (List.prefix_refl _)).trans (hr.undecided hn)
    · intro b c hd
      exact (hr.decided b c hd).congr (hsame _ (List.prefix_refl _))
        fun n _ => hsame _ (List.prefix_append _ _)
  | build q cfg bypass =>
    obtain rfl : q = p := hact
    exact (hr.built hS (hcomp cfg) bypass).1
  | clean q =>
    obtain rfl : q = p := hact
    obtain ⟨_, t, hrun, hb, hm, hout⟩ := hS.cleaned hp hr.usable.beside hr.usable.directory
    rw [Act.perform, hrun]
    exact ⟨usable_of_missing hb hm, (hS.read_eq hp hr.usable.beside hb hout).trans hr.content,
      fun _ => hm, fun _ _ hd => by cases hd⟩

theorem Recorded.performEach {acts : List Act} (hr : Recorded t₀ e p h s.files)
    (hS : Shared t₀ e [p])
    (hcomp : ∀ cfg, Spares (compilers cfg) t₀ e p ((cacheOf p cfg).job cfg.compiler))
    (hacts : ∀ act ∈ acts, act.definition = p) :
    Recorded t₀ e p (h.afterAll acts) (performEach compilers acts s).files := by
  induction acts generalizing h s with
  | nil => exact hr
  | cons act acts ih =>
    exact ih (hr.perform hS hcomp (hacts act (.head _))) fun a ha => hacts a (.tail _ ha)

/-! ## Rebuilds -/

/-- After any acts on a definition that had no cache at first, a build decides on a miss just if it is
told to bypass the cache, or the last decision since the cache was removed was on other content or
under other settings, or there was none. A miss with a definition that can be read calls the compiler
once, on a site that is ready for it, and no other build calls it; a hit changes nothing. -/
theorem rebuild_iff_outdated (hS : Shared t₀ e [p])
    (hcomp : ∀ cfg, Spares (compilers cfg) t₀ e p ((cacheOf p cfg).job cfg.compiler))
    (hb : Beside t₀ (e ++ [cacheName]) s.files)
    (hm : s.files.root.node? (e ++ [cacheName]) = none) (hread : s.files.read p = .ok b)
    (acts : List Act) (hacts : ∀ act ∈ acts, act.definition = p) (cfg : Configuration)
    (bypass : Bool) (hcontents : NoCollision (Content s.files [p] acts))
    (htexts : NoCollision (SettingsOf (acts ++ [.build p cfg bypass]))) :
    (performEach compilers acts s).files.read p = .ok (Past.afterAll ⟨b, none⟩ acts).content ∧
    ∃ decision t,
      (cacheOf p cfg).resolve bypass (performEach compilers acts s).files = (.ok decision, t) ∧
      (decision = .miss ↔ bypass = true ∨ (Past.afterAll ⟨b, none⟩ acts).decided = none ∨
        ∃ b' c, (Past.afterAll ⟨b, none⟩ acts).decided = some (b', c) ∧
          (b' ≠ (Past.afterAll ⟨b, none⟩ acts).content ∨ ¬ Interchangeable p c cfg)) ∧
      Decided e p cfg bypass (Past.afterAll ⟨b, none⟩ acts).content (performEach compilers acts s)
        decision t := by
  have start : Recorded t₀ e p ⟨b, none⟩ s.files := ⟨usable_of_missing hb hm, hread, fun _ => hm, nofun⟩
  have hr := start.performEach hS hcomp hacts
  have hw : (Past.afterAll ⟨b, none⟩ acts).Within (Content s.files [p] acts)
      (SettingsOf (acts ++ [.build p cfg bypass])) p := by
    refine Past.Within.afterAll ⟨.inl ⟨p, .head _, hread⟩, nofun⟩ hacts ?_ ?_
    · exact fun q b hm => .inr ⟨q, hm⟩
    · exact fun q c bypass hm => ⟨q, c, bypass, List.mem_append_left _ hm, rfl⟩
  have ht : SettingsOf (acts ++ [.build p cfg bypass]) (settingsBytes p cfg) :=
    ⟨p, cfg, bypass, by simp, rfl⟩
  obtain ⟨_, decision, t, hres, hmiss, hrest⟩ := hr.built hS (hcomp cfg) bypass
  refine ⟨hr.content, decision, t, hres, ?_, hrest⟩
  have hcur := hr.isCurrent_iff_not_outdated hS hcontents htexts hw ht
  rw [hmiss, ← Past.Outdated, ← Bool.not_eq_true, Bool.and_eq_true, hcur]
  cases bypass <;> simp

/-! ## The compiler that puts files together -/

theorem spares_assembler (hS : Shared t₀ e [p]) (cfg : Configuration) :
    Spares (assembler product) t₀ e p ((cacheOf p cfg).job cfg.compiler) := by
  intro s hu hd
  have hp : p ∈ [p] := List.mem_singleton.mpr rfl
  rcases ha : assembled product ((cacheOf p cfg).job cfg.compiler) s.files with f | t
  · have hs : (assembler product ((cacheOf p cfg).job cfg.compiler) s).2 = s := by
      simp [assembler, onFiles, Procedure.within, Procedure.change, ha]
    rw [hs]
    exact ⟨hu, hd, fun _ _ => rfl, rfl⟩
  · obtain ⟨_, _, _, x, _, _, _, hs⟩ := assembled_ok (hu.opens hS hp hd) ha
    have hb := hu.beside.sets hs (List.prefix_append _ _)
    rw [assembler, onFiles_ok (Procedure.change_ok ha)]
    refine ⟨⟨hb, ?_, ?_, ?_⟩, ?_, ?_, ?_⟩
    · rw [hs.elsewhere child_ne_self]
      exact hu.directory
    · intro n hn z hz
      have hna : n ≠ artifactName := by
        rintro rfl
        exact absurd hn (by decide)
      rw [hs.elsewhere (child_ne hna)] at hz
      exact hu.plain n hn z hz
    · intro n hn
      by_cases hna : n = artifactName
      · rw [hna, hs.here]
        simp
      · rw [hs.elsewhere (child_ne hna)]
        exact hu.removable n hn
    · exact (hs.elsewhere child_ne_self).trans hd
    · intro n hn
      have hna : n ≠ artifactName := by
        rintro rfl
        exact absurd hn (by decide)
      exact hs.elsewhere (child_ne hna)
    · refine hS.read_eq hp hu.beside hb fun m hm => hs.elsewhere ?_
      rintro rfl
      exact hm (List.prefix_append _ _)

/-- The lone definition, built and written again as it was. -/
def loneActs : List Act :=
  [.build lonePath .standard false, .rewrite lonePath loneContent]

theorem noCollision_lone {acts : List Act} (hacts : acts ⊆ loneActs) :
    NoCollision (Content lone [lonePath] acts) ∧
      NoCollision (SettingsOf (acts ++ [.build lonePath .standard false])) := by
  constructor
  · apply noCollision_of_eq (a := loneContent)
    rintro x (⟨p, hp, hx⟩ | ⟨p, hm⟩)
    · exact lone_content p hp x hx
    · have hm := hacts hm
      simp only [loneActs, List.mem_cons, reduceCtorEq, Act.rewrite.injEq, List.not_mem_nil,
        or_false, false_or] at hm
      exact hm.2
  · apply noCollision_of_eq (a := settingsBytes lonePath .standard)
    rintro x ⟨p, c, bypass, hm, rfl⟩
    have hm : Act.build p c bypass ∈ loneActs ++ [.build lonePath .standard false] :=
      List.mem_append.mpr ((List.mem_append.mp hm).imp_left (@hacts _))
    simp only [loneActs, List.cons_append, List.nil_append, List.mem_cons, reduceCtorEq,
      Act.build.injEq, List.not_mem_nil, or_false, false_or] at hm
    rcases hm with ⟨rfl, rfl, _⟩ | ⟨rfl, rfl, _⟩ <;> rfl

/-- The first build calls the compiler once. After it the definition is written again as it was, and
the next build does not. -/
theorem rebuild_iff_outdated_lone :
    (∃ s₁, CallsOnce lonePath .standard false (.of lone) s₁ ∧
      s₁.jobs = [(cacheOf lonePath .standard).job Configuration.standard.compiler]) ∧
    CallsNone lonePath .standard false (performEach (fun _ => assembler glued) loneActs (.of lone))
      (.ok ⟨(cacheOf lonePath .standard).directory, (cacheOf lonePath .standard).artifactPath, false⟩,
        performEach (fun _ => assembler glued) loneActs (.of lone)) := by
  have hcomp : ∀ cfg, Spares (assembler glued) lone ["D"] lonePath
      ((cacheOf lonePath cfg).job cfg.compiler) := spares_assembler shared_lone
  have hb : Beside lone (["D"] ++ [cacheName]) (Site.of lone).files := ⟨rfl, .refl _, rfl⟩
  constructor
  · obtain ⟨hcontents, htexts⟩ := noCollision_lone (List.nil_subset _)
    obtain ⟨_, decision, t, _, hmiss, hrest⟩ := rebuild_iff_outdated (s := .of lone) shared_lone hcomp
      hb rfl lone_read [] (by simp) .standard false hcontents htexts
    have hparses : Parses loneContent :=
      (parses_iff lone_read).mpr ⟨[], readDefinition_lone lone_read⟩
    obtain ⟨s₁, _, hcall, _, hjobs, _⟩ := hrest.compiled (hmiss.mpr (.inr (.inl rfl))) hparses
    exact ⟨s₁, hcall, hjobs⟩
  · have hacts : ∀ act ∈ loneActs, act.definition = lonePath := by
      simp [loneActs, Act.definition]
    obtain ⟨hcontents, htexts⟩ := noCollision_lone (List.Subset.refl _)
    obtain ⟨_, decision, t, _, hmiss, hrest⟩ := rebuild_iff_outdated (s := .of lone) shared_lone hcomp
      hb rfl lone_read loneActs hacts .standard false hcontents htexts
    have hhit : decision = .hit := by
      cases decision with
      | hit => rfl
      | miss =>
        rcases hmiss.mp rfl with h | h | ⟨_, _, ⟨⟩, h | h⟩
        · cases h
        · cases h
        · exact absurd rfl h
        · exact absurd (.refl _ _) h
    exact hrest.found hhit

end TaskDriver.Build
