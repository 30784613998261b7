import TaskDriver.Proofs.Build.Interrupted
import TaskDriver.Proofs.Files.Followed

/-! What a resolution that succeeds does to the files, whatever was in the cache before. -/
namespace TaskDriver

namespace Procedure

variable {σ ε : Type} {p : Procedure σ ε Unit} {ps : List (Procedure σ ε Unit)} {s s' : σ}

theorem exists_of_inOrder_cons (h : inOrder (p :: ps) s = (.ok (), s')) :
    ∃ s₁, p s = (.ok (), s₁) ∧ inOrder ps s₁ = (.ok (), s') := by
  rcases hp : p s with ⟨e | _, s₁⟩
  · rw [inOrder_cons_error hp] at h
    cases h
  · rw [inOrder_cons_ok hp] at h
    exact ⟨s₁, rfl, h⟩

theorem eq_ok_of_change {f : σ → Except ε σ} (h : change f s = (.ok (), s')) : f s = .ok s' := by
  rcases change_cases f s with ⟨s₁, hf, hc⟩ | ⟨e, hc⟩
  · cases hc.symm.trans h
    exact hf
  · cases hc.symm.trans h

end Procedure

namespace Build

open Files (Path Tree Location Node Change linkLimit)

/-- The cache is asked, and it has what was made from a definition with this hash and from these
settings. -/
structure Cache.Matches (c : Cache) (bypass : Bool) (t : Tree) (hash : String) : Prop where
  asked : bypass = false
  hash : c.storedHash? t = some hash
  settings : ∀ s, c.settings = some s → c.storedSettings? t = some s

/-- The second tree has the directory of a cache with a new hash, and with new settings if there are
any. -/
structure Digested (c : Cache) (hash : String) (t : Tree) (d : Location) (t' : Tree) : Prop where
  working : t'.workingDirectory = t.workingDirectory
  directory : t'.root.node? d = some .directory
  hash : ∃ x, t'.root.node? (d ++ [hashName]) = some (.file hash.toUTF8 x)
  settings : ∀ s, c.settings = some s →
    ∃ x, t'.root.node? (d ++ [settingsName]) = some (.file s.toUTF8 x)
  noSettings : c.settings = none →
    t'.root.node? (d ++ [settingsName]) = t.root.node? (d ++ [settingsName])

/-- The cache that a miss leaves: it has no driver, and a link to the definition. All else is as it
was. -/
structure Missed (c : Cache) (hash : String) (t : Tree) (d : Location) (t' : Tree) : Prop extends
    Digested c hash t d t' where
  artifact : t'.root.node? (d ++ [artifactName]) = none
  link : ∃ q, t'.root.node? (d ++ [includedName]) = some (.link q) ∧
    (q = c.definition ∨ t.root.node? (d ++ [includedName]) = some (.link q) ∧
      q.same c.definition = true ∧ ∃ l, t'.Leads q l)
  elsewhere : ∀ m, m ≠ d → (∀ n ∈ [hashName, settingsName, artifactName, includedName],
    m ≠ d ++ [n]) → t'.root.node? m = t.root.node? m

variable {c : Cache} {t t₁ t₂ t₃ t₄ t₅ t' : Tree} {d l : Location} {p : Path} {n hash : String}
  {b : ByteArray} {bypass : Bool} {k : Nat}

/-! ## Single changes that succeed -/

theorem sets_of_writeText {s : String} (h : t.Opens p d) (hn : Path.Literal n)
    (hl : ∀ q, t.root.node? (d ++ [n]) ≠ some (.link q))
    (hw : Files.writeText (p.child n) s t = (.ok (), t')) :
    ∃ x, t.Plain (d ++ [n]) ∧ t.Sets (d ++ [n]) (some (.file s.toUTF8 x)) t' := by
  have hlink : ∀ d', t.Opens p d' → ∀ q, t.root.node? (d' ++ [n]) ≠ some (.link q) := by
    intro d' hd' q
    rw [hd'.leads.unique h.leads]
    exact hl q
  obtain ⟨d', x, hd', hplain, hs⟩ :=
    Files.Tree.write_child_ok hn hlink (Procedure.eq_ok_of_change hw)
  rw [hd'.leads.unique h.leads] at hplain hs
  exact ⟨x, hplain, hs⟩

theorem sets_of_dropFile (h : t.Opens p d) (hn : Path.Literal n)
    (hd : Files.dropFile (p.child n) t = (.ok (), t')) : t.Sets (d ++ [n]) none t' := by
  by_cases ho : t.root.node? (d ++ [n]) = some .directory
  · obtain ⟨es, hes⟩ := Files.Entry.node?_eq_some_directory.mp ho
    simp [Files.dropFile, Procedure.change, Tree.removeFile, h.reach_itself hn hes, bind,
      Except.bind] at hd
  · obtain ⟨t₁, h₁, hs⟩ := h.dropFile_child hn ho
    cases h₁.symm.trans hd
    exact hs

/-- Where there are no settings, nothing is written. -/
theorem sets_of_storing (h : t.Opens c.directory d)
    (hl : ∀ q, t.root.node? (d ++ [settingsName]) ≠ some (.link q))
    (hs : c.storing t = (.ok (), t')) :
    c.settings = none ∧ t' = t ∨ ∃ s x, c.settings = some s ∧ t.Plain (d ++ [settingsName]) ∧
      t.Sets (d ++ [settingsName]) (some (.file s.toUTF8 x)) t' := by
  rcases hset : c.settings with _ | s
  · have hpure : c.storing = pure () := by rw [Cache.storing, hset]
    rw [hpure] at hs
    cases hs
    exact .inl ⟨rfl, rfl⟩
  · have hwrite : c.storing = Files.writeText c.settingsPath s := by rw [Cache.storing, hset]
    rw [hwrite] at hs
    obtain ⟨x, hplain, hsets⟩ := sets_of_writeText h literal_settingsName hl hs
    exact .inr ⟨s, x, rfl, hplain, hsets⟩

/-! ## The hash and the settings -/

/-- Nothing else has changed yet, and nothing is lost. -/
structure Noted (c : Cache) (hash : String) (t : Tree) (d : Location) (t' : Tree) : Prop extends
    Digested c hash t d t' where
  elsewhere : ∀ m, m ≠ d → m ≠ d ++ [hashName] → m ≠ d ++ [settingsName] →
    t'.root.node? m = t.root.node? m
  kept : t.root.Extends t'.root

theorem noted_of_run (ho : t.Opens c.definition.directory d)
    (hd : ∀ y, t.root.node? (d ++ [cacheName]) = some y → y = .directory)
    (hl : ∀ m ∈ [hashName, settingsName], ∀ q,
      t.root.node? (d ++ [cacheName] ++ [m]) ≠ some (.link q))
    (e₁ : Files.makeDirectories c.directory t = (.ok (), t₁))
    (e₂ : Files.writeText c.hashPath hash t₁ = (.ok (), t₂))
    (e₃ : c.storing t₂ = (.ok (), t₃)) : Noted c hash t (d ++ [cacheName]) t₃ := by
  -- The directory.
  obtain ⟨_, h₁, s₁⟩ := ho.makeDirectories_child literal_cacheName hd
  cases h₁.symm.trans e₁
  have k₁ : t.root.Extends t₁.root := s₁.extends fun z hz => by
    rw [hd z hz]
    exact .refl _
  have o₁ : t₁.Opens c.directory (d ++ [cacheName]) :=
    (ho.extends k₁ s₁.working).child literal_cacheName s₁.here
  -- The hash.
  have hl₁ : ∀ q, t₁.root.node? (d ++ [cacheName] ++ [hashName]) ≠ some (.link q) := by
    rw [s₁.elsewhere child_ne_self.symm]
    exact hl hashName (.head _)
  obtain ⟨x₂, p₂, s₂⟩ := sets_of_writeText o₁ literal_hashName hl₁ e₂
  have k₂ := s₂.extends_of_plain p₂
  have o₂ := o₁.extends k₂ s₂.working
  -- The settings.
  have back : t₂.root.node? (d ++ [cacheName] ++ [settingsName]) =
      t.root.node? (d ++ [cacheName] ++ [settingsName]) := by
    rw [s₂.elsewhere (child_ne (by decide)), s₁.elsewhere child_ne_self.symm]
  have hl₂ : ∀ q, t₂.root.node? (d ++ [cacheName] ++ [settingsName]) ≠ some (.link q) := by
    rw [back]
    exact hl settingsName (.tail _ (.head _))
  obtain ⟨hset, rfl⟩ | ⟨s, x₃, hset, p₃, s₃⟩ := sets_of_storing o₂ hl₂ e₃
  · refine ⟨⟨s₂.working.trans s₁.working, o₂.directory, ⟨x₂, s₂.here⟩, ?_, fun _ => back⟩,
      fun m hm hm₁ _ => ?_, k₁.trans k₂⟩
    · intro s hs
      cases hset.symm.trans hs
    · rw [s₂.elsewhere hm₁, s₁.elsewhere hm]
  · have k₃ := s₃.extends_of_plain p₃
    refine ⟨⟨s₃.working.trans (s₂.working.trans s₁.working), k₃.directory o₂.directory, ⟨x₂, ?_⟩,
      ?_, ?_⟩, fun m hm hm₁ hm₂ => ?_, (k₁.trans k₂).trans k₃⟩
    · rw [s₃.elsewhere (child_ne (by decide)), s₂.here]
    · intro s' hs'
      cases hset.symm.trans hs'
      exact ⟨x₃, s₃.here⟩
    · intro hs
      cases hset.symm.trans hs
    · rw [s₃.elsewhere hm₂, s₂.elsewhere hm₁, s₁.elsewhere hm]

/-! ## The driver and the link -/

/-- A link that is kept leads somewhere. -/
theorem Cache.leads_of_isLinked (ha : c.definition.absolute = true) (h : c.isLinked t = true) :
    ∃ d, t.Opens c.directory d ∧ ∃ q, t.root.node? (d ++ [includedName]) = some (.link q) ∧
      q.same c.definition = true ∧ ∃ l, t.Leads q l := by
  obtain ⟨l, e, hr⟩ : ∃ l e, t.reach true c.linkPath = .ok (l, e) := by
    have hx := (Bool.and_eq_true_iff.mp h).1
    rcases hr : t.reach true c.linkPath with f | ⟨l, e⟩
    · simp [Tree.exists?, Tree.entry, hr, Except.map] at hx
    · exact ⟨l, e, rfl⟩
  obtain ⟨_, hc, hl, _⟩ := Files.Tree.leads_of_reach hr
  obtain ⟨d, ho⟩ := Files.Tree.opens_of_leads_child hc literal_includedName hl
  obtain ⟨q, hq, hs⟩ := node?_of_isLinked ho h
  refine ⟨d, ho, q, hq, hs, l, ?_⟩
  have hqa : q.absolute = true := (Path.same_iff.mp hs).1.trans ha
  rcases ho.leads_child_cases literal_includedName hl with ⟨rfl, x, hx, hn⟩ | ⟨q', hq', hlead⟩
  · exact absurd (Option.some.inj (hx.symm.trans hq)) (hn q)
  · cases hq.symm.trans hq'
    exact hlead hqa

/-- In the second tree there is no driver, and a link to the definition. The way to the cache is in
a tree that both of them have more than. -/
structure Relinked (c : Cache) (t : Tree) (d : Location) (t' : Tree) : Prop where
  working : t'.workingDirectory = t.workingDirectory
  artifact : t'.root.node? (d ++ [artifactName]) = none
  link : ∃ q, t'.root.node? (d ++ [includedName]) = some (.link q) ∧
    (q = c.definition ∨ t.root.node? (d ++ [includedName]) = some (.link q) ∧
      q.same c.definition = true ∧ ∃ l, t'.Leads q l)
  elsewhere : ∀ m, m ≠ d ++ [artifactName] → m ≠ d ++ [includedName] →
    t'.root.node? m = t.root.node? m
  between : ∃ t₀ : Tree, t₀.root.Extends t.root ∧ t₀.root.Extends t'.root ∧
    t₀.workingDirectory = t.workingDirectory ∧ t₀.Opens c.directory d

/-- What is in the place of the link is left there, or it is taken away. -/
theorem Cache.unlink_cases (h : c.unlink t = .ok t') :
    t' = t ∨ ∃ d, t.Opens c.directory d ∧ t.Sets (d ++ [includedName]) none t' := by
  unfold unlink at h
  split at h
  · cases h
    exact .inl rfl
  · exact .inr (Files.Tree.removeFile_ok literal_includedName h)

/-- A link that leads to the definition is kept, or one is made where there was nothing. -/
theorem Cache.link_cases (h : c.link t = .ok t') :
    c.isLinked t = true ∧ t' = t ∨
      ∃ d, t.Opens c.directory d ∧ t.root.node? (d ++ [includedName]) = none ∧
        t.Sets (d ++ [includedName]) (some (.link c.definition)) t' := by
  unfold link at h
  split at h
  · next hi =>
    cases h
    exact .inl ⟨hi, rfl⟩
  · exact .inr (Files.Tree.makeLink_ok literal_includedName h)

theorem relinked_of_run (ho : t.Opens c.directory d) (ha : c.definition.absolute = true)
    (e₁ : Files.dropFile c.artifactPath t = (.ok (), t₁)) (e₂ : c.unlink t₁ = .ok t₂)
    (e₃ : c.link t₂ = .ok t₃) : Relinked c t d t₃ := by
  have s₁ := sets_of_dropFile ho literal_artifactName e₁
  have h₂ : t₂ = t₁ ∨ t₁.Sets (d ++ [includedName]) none t₂ := by
    obtain he | ⟨d', hd', hs⟩ := c.unlink_cases e₂
    · exact .inl he
    · rw [(hd'.extends s₁.extends_of_none s₁.working.symm).leads.unique ho.leads] at hs
      exact .inr hs
  have k₂ : t₂.root.Extends t.root := by
    rcases h₂ with rfl | s₂
    · exact s₁.extends_of_none
    · exact s₂.extends_of_none.trans s₁.extends_of_none
  have w₂ : t₂.workingDirectory = t.workingDirectory := by
    rcases h₂ with rfl | s₂
    · exact s₁.working
    · exact s₂.working.trans s₁.working
  obtain ⟨hi, rfl⟩ | ⟨d', hd', hm, s₃⟩ := c.link_cases e₃
  · obtain ⟨d', hd', q, hq, hs, hlead⟩ := c.leads_of_isLinked ha hi
    obtain rfl := (hd'.extends k₂ w₂.symm).leads.unique ho.leads
    -- The link is still there, so it has not been taken away.
    obtain rfl | s₂ := h₂
    · refine ⟨w₂, s₁.here, ⟨q, hq, .inr ⟨?_, hs, hlead⟩⟩, fun m hm _ => s₁.elsewhere hm,
        _, k₂, .refl _, w₂, hd'⟩
      rw [← s₁.elsewhere (child_ne (by decide)), hq]
    · rw [s₂.here] at hq
      cases hq
  · obtain rfl := (hd'.extends k₂ w₂.symm).leads.unique ho.leads
    have other₂ : ∀ m, m ≠ d' ++ [includedName] → t₂.root.node? m = t₁.root.node? m := by
      intro m hm
      rcases h₂ with rfl | s₂
      · rfl
      · exact s₂.elsewhere hm
    have k₃ : t₂.root.Extends t₃.root := s₃.extends fun z hz => by
      rw [hm] at hz
      cases hz
    refine ⟨s₃.working.trans w₂, ?_, ⟨_, s₃.here, .inl rfl⟩, fun m hm hm' => ?_, t₂, k₂, k₃, w₂,
      hd'⟩
    · rw [s₃.elsewhere (child_ne (by decide)), other₂ _ (child_ne (by decide)), s₁.here]
    · rw [s₃.elsewhere hm', other₂ m hm', s₁.elsewhere hm]

/-! ## A miss -/

/-- Hash and settings first, then the driver and the link. -/
theorem Noted.missed (hn : Noted c hash t d t₁) (hr : Relinked c t₁ d t') :
    Missed c hash t d t' := by
  have hback : ∀ m ∈ [hashName, settingsName],
      t'.root.node? (d ++ [m]) = t₁.root.node? (d ++ [m]) := by
    intro m hm
    refine hr.elsewhere _ (child_ne ?_) (child_ne ?_) <;> rintro rfl <;> exact absurd hm (by decide)
  refine ⟨⟨hr.working.trans hn.working, ?_, ?_, ?_, ?_⟩, hr.artifact, ?_, ?_⟩
  · rw [hr.elsewhere _ child_ne_self child_ne_self, hn.directory]
  · rw [hback hashName (.head _)]
    exact hn.hash
  · rw [hback settingsName (.tail _ (.head _))]
    exact hn.settings
  · rw [hback settingsName (.tail _ (.head _))]
    exact hn.noSettings
  · obtain ⟨q, hq, hq'⟩ := hr.link
    refine ⟨q, hq, hq'.imp_right fun h => ⟨?_, h.2⟩⟩
    rw [← h.1]
    exact (hn.elsewhere _ child_ne_self.symm (child_ne (by decide)) (child_ne (by decide))).symm
  · intro m hm hne
    simp only [List.mem_cons, List.not_mem_nil, or_false, forall_eq_or_imp, forall_eq] at hne
    obtain ⟨n₁, n₂, n₃, n₄⟩ := hne
    rw [hr.elsewhere m n₃ n₄, hn.elsewhere m hm n₁ n₂]

/-- The way to the cache is one in a tree that both of them have more than. -/
theorem Relinked.leadsOver (h : Relinked c t (d ++ [cacheName]) t')
    (hk : t.LeadsOver c.definition.directory d k) : t'.LeadsOver c.definition.directory d k := by
  obtain ⟨t₀, k₀, k', w₀, ho⟩ := h.between
  obtain ⟨e, he⟩ := Files.Tree.opens_of_leads_child ho.clean literal_cacheName ho.leads
  obtain ⟨j, -, hj⟩ := he.leads.exists_over
  obtain ⟨rfl, rfl⟩ := (hj.extends k₀ w₀.symm).unique hk
  exact hj.extends k' (h.working.trans w₀.symm)

/-- The renewal leaves what it says, and the ways to the definition and to the cache are those they
were. -/
theorem missed_of_run (ha : c.definition.absolute = true)
    (ho : t.Opens c.definition.directory d) (hk : t.LeadsOver c.definition.directory d k)
    (hd : ∀ y, t.root.node? (d ++ [cacheName]) = some y → y = .directory)
    (hl : ∀ m ∈ [hashName, settingsName], ∀ q,
      t.root.node? (d ++ [cacheName] ++ [m]) ≠ some (.link q))
    (hrun : Procedure.inOrder (c.renewal hash) t = (.ok (), t')) :
    Missed c hash t (d ++ [cacheName]) t' ∧ t'.LeadsOver c.definition.directory d k ∧
      t'.LeadsOver c.directory (d ++ [cacheName]) k := by
  rw [Cache.renewal_eq, Cache.clearing] at hrun
  obtain ⟨t₁, e₁, hrun⟩ := Procedure.exists_of_inOrder_cons hrun
  obtain ⟨t₂, e₂, hrun⟩ := Procedure.exists_of_inOrder_cons hrun
  obtain ⟨t₃, e₃, hrun⟩ := Procedure.exists_of_inOrder_cons hrun
  obtain ⟨t₄, e₄, hrun⟩ := Procedure.exists_of_inOrder_cons hrun
  obtain ⟨t₅, e₅, hrun⟩ := Procedure.exists_of_inOrder_cons hrun
  obtain ⟨t₆, e₆, hrun⟩ := Procedure.exists_of_inOrder_cons hrun
  cases hrun
  have hn := noted_of_run ho hd hl e₁ e₂ e₃
  have ho₃ : t₃.Opens c.directory (d ++ [cacheName]) :=
    (ho.extends hn.kept hn.working).child literal_cacheName hn.directory
  have hr := relinked_of_run ho₃ ha e₄ (Procedure.eq_ok_of_change e₅) (Procedure.eq_ok_of_change e₆)
  have hmissed := hn.missed hr
  have hway := hr.leadsOver (hk.extends hn.kept hn.working)
  exact ⟨hmissed, hway, hway.child literal_cacheName hmissed.directory (by simp)⟩

/-- Over links that are few enough, the definition is read through the link in the cache. -/
theorem Missed.read {x : Bool} {j : Nat} (h : Missed c hash t (d ++ [cacheName]) t')
    (ha : c.definition.absolute = true) (hk : t'.LeadsOver c.definition l k)
    (hx : t'.root.node? l = some (.file b x)) (hp : p.Clean)
    (hj : t'.LeadsOver p (d ++ [cacheName]) j) :
    t'.read (p.child includedName) =
      if j + 1 + k ≤ linkLimit then .ok b else .error .tooManyLinks := by
  obtain ⟨q, hq, hq'⟩ := h.link
  obtain ⟨hqa, hqk⟩ : q.absolute = true ∧ t'.LeadsOver q l k := by
    rcases hq' with rfl | ⟨_, hs, m, hm⟩
    · exact ⟨ha, hk⟩
    · have hqa : q.absolute = true := (Path.same_iff.mp hs).1.trans ha
      exact ⟨hqa, hk.of_same hm hqa hs⟩
  exact (hj.link literal_includedName hq hqa hqk).read (Path.child_ne_empty literal_includedName p)
    (hp.child literal_includedName) hx

/-! ## The next resolution -/

theorem Cache.current_iff : (!bypass && c.isCurrent t hash) = true ↔ c.Matches bypass t hash := by
  rw [Bool.and_eq_true, isCurrent_iff, Bool.not_eq_true']
  constructor
  · rintro ⟨hb, hs, hh⟩
    refine ⟨hb, hh, fun s hsome => ?_⟩
    rw [hsome] at hs
    exact hs.resolve_left (Option.some_ne_none s)
  · rintro ⟨hb, hh, hs⟩
    refine ⟨hb, ?_, hh⟩
    rcases hset : c.settings with _ | s
    · exact .inl rfl
    · exact .inr (hs s hset)

theorem Cache.resolve_of_matches (hdef : fileHash t c.definition = .ok hash)
    (hm : c.Matches bypass t hash) : c.resolve bypass t = (.ok .hit, t) :=
  resolveUpTo_hit (r := 6) hdef (current_iff.mpr hm)

theorem Cache.resolve_of_not_matches (hdef : fileHash t c.definition = .ok hash)
    (hm : ¬ c.Matches bypass t hash) : c.resolve bypass t =
      (do
        Procedure.inOrder (c.renewal hash)
        pure .miss : Change Resolution) t := by
  have hcur : (!bypass && c.isCurrent t hash) = false := by
    rw [Bool.eq_false_iff]
    exact fun h => hm (current_iff.mp h)
  exact resolveUpTo_miss (r := 6) hdef hcur

theorem Missed.hit_iff (h : Missed c (Digest.sha256Hex b) t d t') (ho : t'.Opens c.directory d)
    (hr : t'.read c.definition = .ok b) :
    c.resolve false t' = (.ok .hit, t') ↔ ∀ s, c.settings = some s → trimmed s = s := by
  have hdef : fileHash t' c.definition = .ok (Digest.sha256Hex b) := by
    rw [fileHash, hr]
    rfl
  have hstored : c.storedHash? t' = some (Digest.sha256Hex b) := by
    obtain ⟨x, hx⟩ := h.hash
    exact (trimmedText?_child ho literal_hashName hx).trans (congrArg some (trimmed_sha256Hex b))
  have hsettings : ∀ s, c.settings = some s → c.storedSettings? t' = some (trimmed s) := by
    intro s hs
    obtain ⟨x, hx⟩ := h.settings s hs
    exact trimmedText?_child ho literal_settingsName hx
  constructor
  · intro hhit s hs
    obtain ⟨hash, _, hcur⟩ := Cache.isCurrent_of_hit (congrArg Prod.fst hhit)
    have hmatch : c.Matches false t' hash := Cache.current_iff.mp hcur
    exact Option.some.inj ((hsettings s hs).symm.trans (hmatch.settings s hs))
  · intro htrim
    have hmatch : c.Matches false t' (Digest.sha256Hex b) :=
      ⟨rfl, hstored, fun s hs => by rw [hsettings s hs, htrim s hs]⟩
    exact Cache.resolve_of_matches hdef hmatch

/-- **What a resolution does to the files.** A hit is reported only when the cache is asked and has
the hash of the definition and the settings; then nothing is changed. A miss leaves the new hash and
settings, no driver, and a link to the definition, and all else as it was. Through the link the
definition is read, by every path to the cache, as long as this takes no more links than a path may
lead over. The next resolution is a hit unless there is white space around the settings. -/
theorem resolution_effect {x : Bool} (ha : c.definition.absolute = true)
    (hdef : t.reach false c.definition = .ok (d ++ [n], .file b x))
    (hd : ∀ y, t.root.node? (d ++ [cacheName]) = some y → y = .directory)
    (hl : ∀ m ∈ [hashName, settingsName], ∀ q,
      t.root.node? (d ++ [cacheName] ++ [m]) ≠ some (.link q)) (bypass : Bool) :
    (∀ t', c.resolve bypass t = (.ok .hit, t') →
      c.Matches bypass t (Digest.sha256Hex b) ∧ t' = t) ∧
    ∀ t', c.resolve bypass t = (.ok .miss, t') →
      ¬ c.Matches bypass t (Digest.sha256Hex b) ∧
      Missed c (Digest.sha256Hex b) t (d ++ [cacheName]) t' ∧
      (∃ k, t.LeadsOver c.definition (d ++ [n]) k ∧
        t'.LeadsOver c.directory (d ++ [cacheName]) k ∧
        ∀ p j, p.Clean → t'.LeadsOver p (d ++ [cacheName]) j →
          t'.read (p.child includedName) =
            if j + 1 + k ≤ linkLimit then .ok b else .error .tooManyLinks) ∧
      (c.resolve false t' = (.ok .hit, t') ↔ ∀ s, c.settings = some s → trimmed s = s) := by
  obtain ⟨hne, hc, hentry, ho, hx⟩ := Files.Tree.entryOf_of_reach ha hdef
  obtain ⟨k, hlimit, hk⟩ := ho.leads.exists_over
  have hway := hk.entry hentry hx (by simp)
  have hread : t.read c.definition = .ok b := by
    rw [hway.read hne hc hx, if_pos hlimit]
  have hhash : fileHash t c.definition = .ok (Digest.sha256Hex b) := by
    rw [fileHash, hread]
    rfl
  by_cases hm : c.Matches bypass t (Digest.sha256Hex b)
  · rw [Cache.resolve_of_matches hhash hm]
    refine ⟨fun t' h => ⟨hm, ?_⟩, fun t' h => ?_⟩
    · cases h
      rfl
    · cases h
  · rw [Cache.resolve_of_not_matches hhash hm, Procedure.run_bind]
    rcases hren : Procedure.inOrder (c.renewal (Digest.sha256Hex b)) t with ⟨f | _, t₁⟩
    · refine ⟨fun t' h => ?_, fun t' h => ?_⟩ <;> cases h
    refine ⟨fun t' h => ?_, fun t' h => ?_⟩
    · cases h
    obtain rfl : t' = t₁ := (Prod.mk.inj h).2.symm
    obtain ⟨hmissed, hdirectory, hcache⟩ := missed_of_run ha ho hk hd hl hren
    have hx' : t'.root.node? (d ++ [n]) = some (.file b x) := by
      rw [hmissed.elsewhere, hx]
      · intro he
        rw [he] at hx
        cases hd _ hx
      · intro m _ he
        exact absurd (congrArg List.length he) (by simp)
    have hway' := hdirectory.entry hentry hx' (by simp)
    have hcacheOpens : t'.Opens c.directory (d ++ [cacheName]) :=
      ⟨ho.clean.child literal_cacheName, hcache.leads hlimit, hmissed.directory⟩
    have hread' : t'.read c.definition = .ok b := by
      rw [hway'.read hne hc hx', if_pos hlimit]
    exact ⟨hm, hmissed, ⟨k, hway, hcache, fun p j hp hj => hmissed.read ha hway' hx' hp hj⟩,
      hmissed.hit_iff hcacheOpens hread'⟩

/-! ## An outdated cache -/

/-- A cache with the driver of a former content, and a link that leads nowhere. -/
def outdated : Tree :=
  ⟨.directory [("D", .directory [("Matrfile.rs", .file presentContent false),
    (".matr", .directory [("matrfile.sha256", .file (Digest.sha256Hex formerContent).toUTF8 false),
      ("Matrfile.rs", .link ⟨true, ["gone"]⟩), ("matr", .file formerDriver true)])])], []⟩

/-- The directory without its entries. -/
def emptied : Tree :=
  ⟨.directory [("D", .directory [])], []⟩

variable {es : List (String × Files.Entry)}

theorem leadsOver_root :
    Tree.LeadsOver ⟨.directory [("D", .directory es)], []⟩ ⟨true, ["D"]⟩ ["D"] 0 :=
  .next (.down (d := .directory) (by decide) rfl (by simp))
    (.refl _)

theorem opens_root : Tree.Opens ⟨.directory [("D", .directory es)], []⟩ ⟨true, ["D"]⟩ ["D"] :=
  ⟨rfl, leadsOver_root.leads (Nat.zero_le _), rfl⟩

/-- A directory has more in it than an empty one. -/
theorem extends_emptied : emptied.root.Extends (.directory [("D", .directory es)]) := by
  intro m z hz
  rcases m with _ | ⟨k, m⟩
  · cases hz
    exact ⟨_, rfl, .refl _⟩
  obtain ⟨_, e, hes, he, hz⟩ := Files.Entry.exists_child_of_node?_cons hz
  cases hes
  rw [Keyed.get?] at he
  split at he
  · next hk =>
    subst hk
    cases he
    cases m with
    | nil =>
      cases hz
      exact ⟨_, rfl, .refl _⟩
    | cons k m => cases hz
  · cases he

theorem reach_outdated : outdated.reach false stuckCache.definition =
    .ok (["D"] ++ [includedName], .file presentContent false) :=
  opens_root.reach_itself (n := includedName) literal_includedName rfl

theorem not_matches_outdated :
    ¬ stuckCache.Matches false outdated (Digest.sha256Hex presentContent) := by
  intro hm
  have ho : outdated.Opens stuckCache.directory (["D"] ++ [cacheName]) :=
    opens_root.child literal_cacheName rfl
  have hh : stuckCache.storedHash? outdated = some (trimmed (Digest.sha256Hex formerContent)) :=
    trimmedText?_child ho literal_hashName (x := false) rfl
  rw [hm.hash, trimmed_sha256Hex] at hh
  exact sha256Hex_formerContent_ne (Option.some.inj hh).symm

theorem resolve_outdated : ∃ t, stuckCache.resolve false outdated = (.ok .miss, t) := by
  have hread : outdated.read stuckCache.definition = .ok presentContent :=
    opens_root.read_child (n := includedName) literal_includedName (x := false) rfl
  have hdef : fileHash outdated stuckCache.definition =
      .ok (Digest.sha256Hex presentContent) := by
    rw [fileHash, hread]
    rfl
  have hb : Beside emptied (["D"] ++ [cacheName]) outdated := ⟨rfl, extends_emptied, rfl⟩
  have hdriver : outdated.root.node? (["D"] ++ [cacheName] ++ [artifactName]) ≠
      some .directory := by
    intro h
    cases h
  have hlink : outdated.root.node? (["D"] ++ [cacheName] ++ [includedName]) ≠
      some .directory := by
    intro h
    cases h
  obtain ⟨t, hrun, -⟩ := Cache.renewal_run (c := stuckCache) rfl hb opens_root (by decide)
    (fun y hy => (Option.some.inj hy).symm) (Files.Tree.plain_of_file (x := false) rfl)
    (Files.Tree.plain_of_none rfl) hdriver hlink (Digest.sha256Hex presentContent)
  refine ⟨t, ?_⟩
  rw [Cache.resolve_of_not_matches hdef not_matches_outdated, Procedure.run_bind, hrun]
  rfl

theorem resolution_effect_outdated : ∃ t, stuckCache.resolve false outdated = (.ok .miss, t) ∧
    Missed stuckCache (Digest.sha256Hex presentContent) outdated (["D"] ++ [cacheName]) t ∧
    t.read stuckCache.linkPath = .ok presentContent ∧
    stuckCache.resolve false t = (.ok .hit, t) := by
  obtain ⟨t, hrun⟩ := resolve_outdated
  have hlinks : ∀ m ∈ [hashName, settingsName], ∀ q,
      outdated.root.node? (["D"] ++ [cacheName] ++ [m]) ≠ some (.link q) := by
    intro m hm q
    simp only [List.mem_cons, List.not_mem_nil, or_false] at hm
    rcases hm with rfl | rfl <;> intro h <;> cases h
  obtain ⟨-, hmiss⟩ := resolution_effect (c := stuckCache) rfl reach_outdated
    (fun y hy => (Option.some.inj hy).symm) hlinks false
  obtain ⟨-, hmissed, ⟨k, hk, hj, hread⟩, hnext⟩ := hmiss t hrun
  have hdef : outdated.LeadsOver stuckCache.definition (["D"] ++ [includedName]) 0 :=
    leadsOver_root.child (n := includedName) literal_includedName (x := .file presentContent false)
      rfl (by simp)
  obtain rfl := (hk.unique hdef).2
  refine ⟨t, hrun, hmissed, ?_, hnext.mpr fun s hs => ?_⟩
  · exact hread stuckCache.directory 0 rfl hj
  · cases hs
    decide +kernel

/-! ## A definition behind many links -/

/-- A directory with a definition and a link to the directory itself. -/
def looped : Tree :=
  ⟨.directory [("D", .directory [("Matrfile.rs", .file presentContent false),
    ("l", .link ⟨false, ["."]⟩)])], []⟩

/-- The definition with the link followed as often as a path may follow links. -/
def loopedCache : Cache :=
  ⟨⟨true, "D" :: (List.replicate linkLimit "l" ++ [includedName])⟩, some "settings"⟩

theorem goes_looped (k : Nat) :
    Files.Entry.Goes looped.root ⟨k, ["D"], List.replicate k "l"⟩ ⟨0, ["D"], []⟩ := by
  induction k with
  | zero => exact .refl _
  | succ k ih =>
    have hl : Files.Named "l" := by decide
    exact .next (.follow hl (p := ⟨false, ["."]⟩) rfl) (.next (.stay rfl (.inr rfl)) ih)

theorem leadsOver_looped :
    looped.LeadsOver loopedCache.definition.directory ["D"] linkLimit :=
  .next (.down (d := .directory) (by decide) rfl (by simp))
    (goes_looped linkLimit)

theorem opens_looped : looped.Opens loopedCache.definition.directory ["D"] :=
  ⟨rfl, leadsOver_looped.leads (Nat.le_refl _), rfl⟩

theorem looped_missing (ns : List String) (x : Node) :
    looped.root.node? (["D"] ++ [cacheName] ++ ns) ≠ some x := by
  have hnone : looped.root.node? (["D"] ++ [cacheName]) = none := rfl
  rw [Files.Entry.node?_append_none hnone]
  simp

theorem resolve_looped : ∃ t, loopedCache.resolve true looped = (.ok .miss, t) ∧
    Procedure.inOrder (loopedCache.renewal (Digest.sha256Hex presentContent)) looped =
      (.ok (), t) := by
  have hread : looped.read loopedCache.definition = .ok presentContent :=
    opens_looped.read_child (n := includedName) literal_includedName (x := false) rfl
  have hdef : fileHash looped loopedCache.definition =
      .ok (Digest.sha256Hex presentContent) := by
    rw [fileHash, hread]
    rfl
  have hb : Beside looped (["D"] ++ [cacheName]) looped := ⟨rfl, .refl _, rfl⟩
  have hasked : ¬ loopedCache.Matches true looped (Digest.sha256Hex presentContent) :=
    fun hm => Bool.noConfusion hm.asked
  obtain ⟨t, hrun, -⟩ := Cache.renewal_run (c := loopedCache) rfl hb opens_looped (by decide)
    (fun y hy => absurd hy (looped_missing [] y)) (Files.Tree.plain_of_none rfl)
    (Files.Tree.plain_of_none rfl) (looped_missing _ _) (looped_missing _ _)
    (Digest.sha256Hex presentContent)
  refine ⟨t, ?_, hrun⟩
  rw [Cache.resolve_of_not_matches hdef hasked, Procedure.run_bind, hrun]
  rfl

/-- The link that is made cannot be followed to the definition, by no path to the cache. -/
theorem link_unreadable : loopedCache.definition.absolute = true ∧
    looped.reach false loopedCache.definition =
      .ok (["D"] ++ [includedName], .file presentContent false) ∧
    looped.root.node? (["D"] ++ [cacheName]) = none ∧
    ∃ t, loopedCache.resolve true looped = (.ok .miss, t) ∧
      t.root.node? (["D"] ++ [cacheName] ++ [includedName]) =
        some (.link loopedCache.definition) ∧
      t.read ⟨true, ["D", ".matr", "Matrfile.rs"]⟩ = .error .tooManyLinks ∧
      t.read loopedCache.linkPath = .error .tooManyLinks := by
  obtain ⟨t, hrun, hren⟩ := resolve_looped
  refine ⟨rfl, opens_looped.reach_itself (n := includedName) literal_includedName rfl, rfl, t, hrun,
    ?_⟩
  obtain ⟨hmissed, hdirectory, hcache⟩ := missed_of_run (c := loopedCache) rfl opens_looped
    leadsOver_looped (fun y hy => absurd hy (looped_missing [] y))
    (fun m _ q => looped_missing [m] (.link q)) hren
  have hx : t.root.node? (["D"] ++ [includedName]) = some (.file presentContent false) := by
    rw [hmissed.elsewhere]
    · rfl
    · decide
    · decide
  have hway : t.LeadsOver loopedCache.definition (["D"] ++ [includedName]) linkLimit :=
    hdirectory.child (n := includedName) literal_includedName hx (by simp)
  have hd : t.root.node? ["D"] = some .directory := by
    rw [hmissed.elsewhere]
    · rfl
    · decide
    · decide
  have hplain : t.LeadsOver ⟨true, ["D", ".matr"]⟩ (["D"] ++ [cacheName]) 0 :=
    .next (.down (d := .directory) ⟨by decide, by decide, by decide, by decide⟩ hd (by simp))
      (.next (.down (d := .directory) literal_cacheName.toNamed hmissed.directory (by simp))
        (.refl _))
  refine ⟨?_, hmissed.read (p := ⟨true, ["D", ".matr"]⟩) rfl hway hx rfl hplain,
    hmissed.read (p := loopedCache.directory) rfl hway hx rfl hcache⟩
  obtain ⟨q, hq, rfl | ⟨hold, -⟩⟩ := hmissed.link
  · exact hq
  · cases hold

end Build

end TaskDriver
