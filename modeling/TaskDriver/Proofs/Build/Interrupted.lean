import TaskDriver.Proofs.Build.CacheFiles

/-! A resolution that stops early, because a change fails or because the process ends between two
changes. What it leaves is safe before the new hash is written and after the old driver is removed;
in between, the new hash stands beside the old driver. -/
namespace TaskDriver.Build

open Files (Path Tree Location Node Change)

/-- An artifact that can be read was made from a content with the stored hash and from settings with
the stored fingerprint, as far as these can be read. -/
def Safe (made : ByteArray → ByteArray → String → Prop) (c : Cache) (t : Tree) : Prop :=
  ∀ a, t.read c.artifactPath = .ok a → ∃ content settings, made a content settings ∧
    (∀ h, c.storedHash? t = some h → h = Digest.sha256Hex content) ∧
    ∀ s, c.storedSettings? t = some s → s = settings

/-- The new hash has been written when the resolution stops, but the old driver not removed. -/
def Cache.Mixed (c : Cache) (bypass : Bool) (k : Nat) (t : Tree) : Prop :=
  ∃ hash, fileHash t c.definition = .ok hash ∧ (!bypass && c.isCurrent t hash) = false ∧ 2 ≤ k ∧
    (Procedure.inOrder ((c.renewal hash).take 2) t).1 = .ok () ∧
    (k < 4 ∨ (Procedure.inOrder ((c.renewal hash).take 4) t).1 ≠ .ok ())

/-- None of the entries that the resolution writes or removes is a link. -/
def Cache.NoLinks (c : Cache) (t : Tree) : Prop :=
  ∀ d, t.Opens c.directory d → ∀ n ∈ [hashName, settingsName, artifactName], ∀ q,
    t.root.node? (d ++ [n]) ≠ some (.link q)

variable {made : ByteArray → ByteArray → String → Prop} {c : Cache} {t t' : Tree} {d : Location}
  {bypass : Bool} {k : Nat} {hash : String}

/-! ## Without an artifact -/

/-- There is no artifact in the cache, wherever the cache is. -/
def Cache.Bare (c : Cache) (t : Tree) : Prop :=
  ∀ d, t.Opens c.directory d → t.root.node? (d ++ [artifactName]) = none

theorem Cache.Bare.read_ne_ok (h : c.Bare t) (a : ByteArray) : t.read c.artifactPath ≠ .ok a := by
  intro hr
  obtain ⟨_, hc, l, _, hl, _⟩ := Files.Tree.read_eq_ok_iff.mp hr
  obtain ⟨d, ho⟩ := Files.Tree.opens_of_leads_child hc literal_artifactName hl
  exact ho.node?_of_leads literal_artifactName hl (h d ho)

theorem Cache.Bare.safe (h : c.Bare t) : Safe made c t :=
  fun a ha => absurd ha (h.read_ne_ok a)

/-- A dropped artifact is gone. -/
theorem Cache.bare_of_dropFile (h : Files.dropFile c.artifactPath t = (.ok (), t')) : c.Bare t' := by
  rcases hr : t.removeFile c.artifactPath with f | t₁
  · have hf : f = .missing ∧ t' = t := by
      simp only [Files.dropFile, Procedure.change, hr] at h
      cases f <;> simp at h
      exact ⟨rfl, h.symm⟩
    obtain ⟨rfl, rfl⟩ := hf
    intro d ho
    rcases hy : t'.root.node? (d ++ [artifactName]) with _ | y
    · rfl
    by_cases hd : y = .directory
    · subst hd
      obtain ⟨es, hes⟩ := Files.Entry.node?_eq_some_directory.mp hy
      have := ho.reach_itself literal_artifactName hes
      simp [Tree.removeFile, artifactPath, this, bind, Except.bind] at hr
    · obtain ⟨t₁, h₁, _⟩ := ho.removeFile_child literal_artifactName hy hd
      cases h₁.symm.trans hr
  · have ht : t' = t₁ := by
      simp only [Files.dropFile, Procedure.change, hr] at h
      exact (Prod.mk.inj h).2.symm
    subst ht
    obtain ⟨d, ho, hs⟩ := Files.Tree.removeFile_ok literal_artifactName hr
    intro d' ho'
    rw [(ho'.extends hs.extends_of_none hs.working.symm).leads.unique ho.leads]
    exact hs.here

theorem dropFile_error {p : Path} {f : Files.Fault} (h : Files.dropFile p t = (.error f, t')) :
    t' = t := by
  unfold Files.dropFile Procedure.change at h
  split at h
  · cases h
  · cases h
    rfl

theorem Cache.bare_of_unlink (h : c.Bare t) (hu : c.unlink t = .ok t') : c.Bare t' := by
  unfold unlink at hu
  split at hu
  · cases hu
    exact h
  · obtain ⟨d, _, hs⟩ := Files.Tree.removeFile_ok literal_includedName hu
    intro d' ho'
    have hb := h d' (ho'.extends hs.extends_of_none hs.working.symm)
    by_cases hd : d' ++ [artifactName] = d ++ [includedName]
    · rw [hd]
      exact hs.here
    · rw [hs.elsewhere hd, hb]

theorem Cache.bare_of_link (h : c.Bare t) (hl : c.link t = .ok t') : c.Bare t' := by
  unfold link at hl
  split at hl
  · cases hl
    exact h
  · obtain ⟨d, ho, hm, hs⟩ := Files.Tree.makeLink_ok literal_includedName hl
    have hext : t.root.Extends t'.root := hs.extends fun z hz => by
      rw [hm] at hz
      cases hz
    intro d' ho'
    -- The new link is not on the way to the cache.
    have hd : d' = d := ho'.leads.unique (ho.extends hext hs.working).leads
    subst hd
    rw [hs.elsewhere (child_ne (by decide)), h d' ho]

/-- A new directory has nothing in it. -/
theorem Cache.node?_of_sets {e : Location} (ho : t.Opens c.definition.directory e)
    (hm : t.root.node? (e ++ [cacheName]) = none)
    (hs : t.Sets (e ++ [cacheName]) (some .directory) t') (hd : t'.Opens c.directory d)
    (n : String) : t'.root.node? (d ++ [n]) = none := by
  have hext : t.root.Extends t'.root := hs.extends fun z hz => by
    rw [hm] at hz
    cases hz
  rcases (ho.extends hext hs.working).leads_child_cases literal_cacheName hd.leads with
    ⟨rfl, _⟩ | ⟨q, hq, _⟩
  · rw [hs.elsewhere child_ne_self.symm]
    exact Files.Entry.node?_append_none hm
  · rw [hs.here] at hq
    cases hq

/-- The directory of the cache is there, or it is made and then empty. -/
theorem Cache.makeDirectories_cases (hdef : fileHash t c.definition = .ok hash) :
    (Files.makeDirectories c.directory t).2 = t ∨
      c.Bare t ∧ ∀ d, (Files.makeDirectories c.directory t).2.Opens c.directory d → ∀ n,
        (Files.makeDirectories c.directory t).2.root.node? (d ++ [n]) = none := by
  rcases hr : t.read c.definition with f | b
  · simp [fileHash, hr, Except.map] at hdef
  obtain ⟨hne, hc, l, x, hl, hx⟩ := Files.Tree.read_eq_ok_iff.mp hr
  by_cases hroot : t.root.node? [] = some .directory
  · obtain ⟨e, ho⟩ := Files.Tree.opens_directory hl hne hc (by simp [hx]) hroot
    rcases ho.makeDirectories_cases literal_cacheName with h | ⟨hm, hs⟩
    · exact .inl h
    · refine .inr ⟨?_, fun d hd n => node?_of_sets ho hm hs hd n⟩
      intro d hd
      rcases ho.leads_child_cases literal_cacheName hd.leads with ⟨rfl, _⟩ | ⟨q, hq, _⟩
      · exact Files.Entry.node?_append_none hm
      · rw [hm] at hq
        cases hq
  · exact .inl (Files.Tree.makeDirectories_of_root hroot literal_cacheName)

theorem Safe.makeDirectories (h : Safe made c t) (hdef : fileHash t c.definition = .ok hash) :
    Safe made c (Files.makeDirectories c.directory t).2 := by
  rcases Cache.makeDirectories_cases hdef with he | ⟨_, hb⟩
  · rw [he]
    exact h
  · exact Cache.Bare.safe fun d hd => hb d hd artifactName

/-! ## Where the resolution stops -/

/-- The link is made last; that it is not does not matter. -/
theorem Cache.Bare.relinked (h : c.Bare t) (j : Nat) :
    c.Bare (Procedure.inOrder ([.change c.unlink, .change c.link].take j) t).2 := by
  cases j with
  | zero => exact h
  | succ j =>
    rw [List.take_succ_cons]
    rcases Procedure.change_cases c.unlink t with ⟨t₁, hu, h₁⟩ | ⟨e, h₁⟩
    · rw [Procedure.inOrder_cons_ok h₁]
      have hb := Cache.bare_of_unlink h hu
      cases j with
      | zero => exact hb
      | succ j =>
        rw [List.take_succ_cons]
        rcases Procedure.change_cases c.link t₁ with ⟨t₂, hl, h₂⟩ | ⟨e, h₂⟩
        · rw [Procedure.inOrder_cons_ok h₂, List.take_nil]
          exact Cache.bare_of_link hb hl
        · rw [Procedure.inOrder_cons_error h₂]
          exact hb
    · rw [Procedure.inOrder_cons_error h₁]
      exact h

/-- The change that stores the settings, if there are any. -/
def Cache.storing (c : Cache) : Change Unit :=
  match c.settings with
  | some s => Files.writeText c.settingsPath s
  | none => pure ()

/-- What is done once the new hash is written. -/
def Cache.clearing (c : Cache) : List (Change Unit) :=
  [c.storing, Files.dropFile c.artifactPath, .change c.unlink, .change c.link]

theorem Cache.renewal_eq (c : Cache) (hash : String) : c.renewal hash =
    Files.makeDirectories c.directory :: Files.writeText c.hashPath hash :: c.clearing :=
  rfl

theorem Cache.renewal_take {t₁ t₂ : Tree} (e₁ : Files.makeDirectories c.directory t = (.ok (), t₁))
    (e₂ : Files.writeText c.hashPath hash t₁ = (.ok (), t₂)) (j : Nat) :
    Procedure.inOrder ((c.renewal hash).take (j + 2)) t =
      Procedure.inOrder (c.clearing.take j) t₂ := by
  rw [renewal_eq, List.take_succ_cons, List.take_succ_cons, Procedure.inOrder_cons_ok e₁,
    Procedure.inOrder_cons_ok e₂]

/-- Before the new hash is written and after the old driver is removed, the state is safe. -/
theorem Safe.inOrder (h : Safe made c t) (hdef : fileHash t c.definition = .ok hash)
    (hk : 2 ≤ k → (Procedure.inOrder ((c.renewal hash).take 2) t).1 = .ok () →
      4 ≤ k ∧ (Procedure.inOrder ((c.renewal hash).take 4) t).1 = .ok ()) :
    Safe made c (Procedure.inOrder ((c.renewal hash).take k) t).2 := by
  have h₁ := h.makeDirectories hdef
  rcases k with _ | k
  · exact h
  rcases e₁ : Files.makeDirectories c.directory t with ⟨e | _, t₁⟩
  · rw [Cache.renewal_eq, List.take_succ_cons, Procedure.inOrder_cons_error e₁]
    rw [e₁] at h₁
    exact h₁
  rw [e₁] at h₁
  rcases k with _ | k
  · rw [Cache.renewal_eq, List.take_succ_cons, Procedure.inOrder_cons_ok e₁]
    exact h₁
  rcases Procedure.change_cases (Tree.write c.hashPath hash.toUTF8 none) t₁ with
    ⟨t₂, _, e₂⟩ | ⟨f, e₂⟩
  · -- The hash is written, so that the driver has to be removed too.
    obtain ⟨hk₄, hrun⟩ := hk (by omega) (by rw [Cache.renewal_take e₁ e₂ 0]; rfl)
    obtain ⟨j, rfl⟩ : ∃ j, k = j + 2 := ⟨k - 2, by omega⟩
    rw [Cache.renewal_take e₁ e₂] at hrun ⊢
    obtain ⟨t₃, t₄, e₃, e₄⟩ := Procedure.inOrder_pair_ok hrun
    rw [Cache.clearing, List.take_succ_cons, List.take_succ_cons, Procedure.inOrder_cons_ok e₃,
      Procedure.inOrder_cons_ok e₄]
    exact ((Cache.bare_of_dropFile e₄).relinked j).safe
  · have e₂ : Files.writeText c.hashPath hash t₁ = (.error f, t₁) := e₂
    rw [Cache.renewal_eq, List.take_succ_cons, List.take_succ_cons, Procedure.inOrder_cons_ok e₁,
      Procedure.inOrder_cons_error e₂]
    exact h₁

/-! ## Between the two -/

/-- Two trees give the same when the path is read, or nothing. -/
def Alike (t t' : Tree) (p : Path) : Prop :=
  ∀ b, t'.read p = .ok b ↔ t.read p = .ok b

theorem Alike.trimmedText? {p : Path} (h : Alike t t' p) :
    trimmedText? t' p = Build.trimmedText? t p := by
  rcases hr : t.read p with f | b
  · rcases hr' : t'.read p with f' | b
    · simp [Build.trimmedText?, Tree.readText, hr, hr', bind, Except.bind]
    · rw [h b, hr] at hr'
      cases hr'
  · rw [Build.trimmedText?, Build.trimmedText?, Tree.readText, Tree.readText, hr, (h b).mpr hr]

/-- What is written to one file of the cache is not seen in the others. -/
theorem Cache.NoLinks.write {n : String} {b : ByteArray} (h : c.NoLinks t)
    (hn : n = hashName ∨ n = settingsName) (hw : t.write (c.directory.child n) b none = .ok t') :
    ∃ d x, t'.Opens c.directory d ∧ t.Sets (d ++ [n]) (some (.file b x)) t' ∧ c.NoLinks t' ∧
      ∀ m ∈ [hashName, settingsName, artifactName], m ≠ n → Alike t t' (c.directory.child m) := by
  have hmem : n ∈ [hashName, settingsName, artifactName] := by
    rcases hn with rfl | rfl <;> simp
  have hlit : ∀ m ∈ [hashName, settingsName, artifactName], Path.Literal m := by
    intro m hm
    simp only [List.mem_cons, List.not_mem_nil, or_false] at hm
    rcases hm with rfl | rfl | rfl
    · exact literal_hashName
    · exact literal_settingsName
    · exact literal_artifactName
  obtain ⟨d, x, ho, hplain, hs⟩ := Files.Tree.write_child_ok (hlit n hmem)
    (fun d ho => h d ho n hmem) hw
  have ho' := ho.extends (hs.extends_of_plain hplain) hs.working
  have hl' : c.NoLinks t' := by
    intro d' hd' m hm q
    rw [hd'.leads.unique ho'.leads, hs.node?]
    split
    · simp
    · exact h d ho m hm q
  refine ⟨d, x, ho', hs, hl', fun m hm hne a => ?_⟩
  have e := ho.read_child_iff (b := a) (hlit m hm) (h d ho m hm)
  have e' := ho'.read_child_iff (b := a) (hlit m hm) (hl' d ho' m hm)
  rw [hs.elsewhere (child_ne hne)] at e'
  exact e'.trans e.symm

theorem Cache.NoLinks.makeDirectories (h : c.NoLinks t) (hdef : fileHash t c.definition = .ok hash)
    (he : Files.makeDirectories c.directory t = (.ok (), t')) :
    c.NoLinks t' ∧ Alike t t' c.artifactPath := by
  have hcases := makeDirectories_cases hdef
  rw [he] at hcases
  rcases hcases with rfl | ⟨hb, hnone⟩
  · exact ⟨h, fun _ => Iff.rfl⟩
  · refine ⟨fun d hd n _ q => by rw [hnone d hd n]; simp, fun a => ?_⟩
    have hb' : c.Bare t' := fun d hd => hnone d hd artifactName
    exact iff_of_false (hb'.read_ne_ok a) (hb.read_ne_ok a)

/-- The new hash is stored, and the artifact is the old one. -/
structure Cache.Stale (c : Cache) (hash : String) (t t' : Tree) : Prop where
  hash : c.storedHash? t' = some hash
  artifact : Alike t t' c.artifactPath

/-- The settings are stored or not, and the rest stays as it is. -/
theorem Cache.storing_cases {t₁ : Tree} (hl : c.NoLinks t₁) (hs : c.Stale hash t t₁) :
    ∃ t₂, c.Stale hash t t₂ ∧ (c.storing t₁ = (.ok (), t₂) ∨
      t₂ = t₁ ∧ ∃ f, c.storing t₁ = (.error f, t₁)) := by
  rcases hset : c.settings with _ | s
  · have h : c.storing = pure () := by rw [storing, hset]
    exact ⟨t₁, hs, .inl (by rw [h]; rfl)⟩
  have h : c.storing = Files.writeText c.settingsPath s := by rw [storing, hset]
  rw [h]
  rcases Procedure.change_cases (Tree.write c.settingsPath s.toUTF8 none) t₁ with
    ⟨t₂, hw, h₂⟩ | ⟨f, h₂⟩
  · obtain ⟨d, x, _, _, _, hsame⟩ := hl.write (.inr rfl) hw
    refine ⟨t₂, ⟨?_, fun a => ?_⟩, .inl h₂⟩
    · exact (hsame hashName (by simp) (by decide)).trimmedText?.trans hs.hash
    · exact (hsame artifactName (by simp) (by decide) a).trans (hs.artifact a)
  · exact ⟨t₁, hs, .inr ⟨rfl, f, h₂⟩⟩

/-- The new hash is written, and the artifact is not touched. -/
theorem Cache.stale_of_written {t₁ t₂ : Tree} (hl : c.NoLinks t)
    (hdef : fileHash t c.definition = .ok hash)
    (e₁ : Files.makeDirectories c.directory t = (.ok (), t₁))
    (e₂ : Files.writeText c.hashPath hash t₁ = (.ok (), t₂)) : c.Stale hash t t₂ ∧ c.NoLinks t₂ := by
  obtain ⟨hl₁, ha₁⟩ := hl.makeDirectories hdef e₁
  obtain ⟨b, rfl⟩ : ∃ b, Digest.sha256Hex b = hash := by
    rcases hr : t.read c.definition with f | b
    · simp [fileHash, hr, Except.map] at hdef
    · simp only [fileHash, hr, Except.map, Except.ok.injEq] at hdef
      exact ⟨b, hdef⟩
  rcases Procedure.change_cases (Tree.write c.hashPath (Digest.sha256Hex b).toUTF8 none) t₁ with
    ⟨t', hw, h'⟩ | ⟨f, h'⟩
  · cases h'.symm.trans e₂
    obtain ⟨d, x, ho, hs, hl₂, hsame⟩ := hl₁.write (.inl rfl) hw
    refine ⟨⟨?_, fun a => ?_⟩, hl₂⟩
    · exact (trimmedText?_child ho literal_hashName hs.here).trans
        (congrArg _ (trimmed_sha256Hex b))
    · exact (hsame artifactName (by simp) (by decide) a).trans (ha₁ a)
  · cases h'.symm.trans e₂

/-- Stopped between the two, the resolution leaves the old artifact with the new hash. -/
theorem Cache.stale_inOrder (hl : c.NoLinks t) (hdef : fileHash t c.definition = .ok hash)
    (hk : 2 ≤ k) (h₂ : (Procedure.inOrder ((c.renewal hash).take 2) t).1 = .ok ())
    (h₄ : k < 4 ∨ (Procedure.inOrder ((c.renewal hash).take 4) t).1 ≠ .ok ()) :
    c.Stale hash t (Procedure.inOrder ((c.renewal hash).take k) t).2 := by
  obtain ⟨t₁, t₂, e₁, e₂⟩ := Procedure.inOrder_pair_ok (show (Procedure.inOrder
    [Files.makeDirectories c.directory, Files.writeText c.hashPath hash] t).1 = .ok () from h₂)
  obtain ⟨hs₂, hl₂⟩ := stale_of_written hl hdef e₁ e₂
  obtain ⟨j, rfl⟩ : ∃ j, k = j + 2 := ⟨k - 2, by omega⟩
  rw [renewal_take e₁ e₂] at h₄ ⊢
  rcases j with _ | j
  · exact hs₂
  rw [clearing, List.take_succ_cons]
  obtain ⟨t₃, hs₃, e₃ | ⟨rfl, f, e₃⟩⟩ := storing_cases hl₂ hs₂
  · rw [Procedure.inOrder_cons_ok e₃]
    rcases j with _ | j
    · exact hs₃
    -- The next change fails, since the artifact is not removed.
    rcases e₄ : Files.dropFile c.artifactPath t₃ with ⟨f | _, t₄⟩
    · rw [List.take_succ_cons, Procedure.inOrder_cons_error e₄, dropFile_error e₄]
      exact hs₃
    · have hk : ¬ j + 1 + 1 + 2 < 4 := by omega
      rw [clearing, List.take_succ_cons, List.take_succ_cons, Procedure.inOrder_cons_ok e₃,
        Procedure.inOrder_cons_ok e₄] at h₄
      exact absurd rfl (h₄.resolve_left hk)
  · rw [Procedure.inOrder_cons_error e₃]
    exact hs₂

/-! ## What is left -/

/-- Nothing is changed, or the changes are made one after the other. -/
theorem Cache.resolveUpTo_cases (c : Cache) (bypass : Bool) (k : Nat) (t : Tree) :
    (c.resolveUpTo bypass k t).2 = t ∧ ¬ c.Mixed bypass k t ∨
      ∃ hash, fileHash t c.definition = .ok hash ∧ (!bypass && c.isCurrent t hash) = false ∧
        (c.resolveUpTo bypass k t).2 = (Procedure.inOrder ((c.renewal hash).take k) t).2 := by
  rcases hdef : fileHash t c.definition with f | hash
  · refine .inl ⟨by rw [resolveUpTo_error hdef], ?_⟩
    rintro ⟨hash, hok, _⟩
    rw [hdef] at hok
    cases hok
  rcases hcur : (!bypass && c.isCurrent t hash) with _ | _
  · refine .inr ⟨hash, rfl, hcur, ?_⟩
    rw [resolveUpTo_miss hdef hcur, Procedure.run_bind]
    rcases Procedure.inOrder ((c.renewal hash).take k) t with ⟨e | _, t'⟩ <;> rfl
  · refine .inl ⟨by rw [resolveUpTo_hit hdef hcur], ?_⟩
    rintro ⟨hash', hok, hmiss, _⟩
    rw [hdef] at hok
    cases hok
    rw [hcur] at hmiss
    cases hmiss

/-- A hit is reported only when the digests agree. -/
theorem Cache.isCurrent_of_hit (hhit : (c.resolve false t).1 = .ok .hit) :
    ∃ hash, fileHash t c.definition = .ok hash ∧ c.isCurrent t hash = true := by
  rw [← resolveUpTo_six] at hhit
  rcases hdef : fileHash t c.definition with f | hash
  · rw [resolveUpTo_error hdef] at hhit
    cases hhit
  refine ⟨hash, rfl, ?_⟩
  rcases hcur : c.isCurrent t hash with _ | _
  · rw [resolveUpTo_miss hdef (by simp [hcur]), Procedure.run_bind] at hhit
    rcases hr : Procedure.inOrder ((c.renewal hash).take 6) t with ⟨e | _, t'⟩
    · rw [hr] at hhit
      cases hhit
    · rw [hr] at hhit
      cases hhit
  · rfl

/-- The status is up to date only when the hashes agree. -/
theorem Cache.fileHash_of_upToDate {status : CacheStatus} (hst : c.status t = .ok status)
    (hup : status.upToDate = true) : ∃ hash, c.storedHash? t = some hash ∧
      fileHash t c.definition = .ok hash := by
  unfold Cache.status at hst
  split at hst
  · rcases hstored : c.storedHash? t with _ | hash
    · rcases hsize : t.directorySize c.directory with f | size <;>
        simp [hstored, hsize, bind, Except.bind, pure, Except.pure] at hst
      subst hst
      cases hup
    refine ⟨hash, rfl, ?_⟩
    by_cases hfile : t.isFile c.definition = true
    · rcases hdef : fileHash t c.definition with f | hash'
      · simp [hstored, hfile, hdef, bind, Except.bind] at hst
      rcases hsize : t.directorySize c.directory with f | size <;>
        simp [hstored, hfile, hdef, hsize, bind, Except.bind, pure, Except.pure] at hst
      subst hst
      rw [of_decide_eq_true hup]
    · rcases hsize : t.directorySize c.directory with f | size <;>
        simp [hstored, hfile, hsize, bind, Except.bind, pure, Except.pure] at hst
      subst hst
      cases hup
  · cases hst
    cases hup

theorem Cache.status_of_stored (ho : t.Opens c.directory d)
    (hdef : fileHash t c.definition = .ok hash) (hstored : c.storedHash? t = some hash) :
    ∃ status, c.status t = .ok status ∧ status.upToDate = true ∧
      status.artifactPresent = t.isFile c.artifactPath := by
  have hdir : t.isDirectory c.directory = true :=
    ho.isDirectory (Path.child_ne_empty literal_cacheName _)
  have hfile : t.isFile c.definition = true := by
    rcases hr : t.read c.definition with f | b
    · simp [fileHash, hr, Except.map] at hdef
    · exact Files.Tree.isFile_iff.mpr ⟨b, hr⟩
  obtain ⟨size, hsize⟩ : ∃ size, t.directorySize c.directory = .ok size := by
    rcases he : t.entry true c.directory with f | y
    · simp [Tree.isDirectory, he] at hdir
    · cases y <;> simp [Tree.isDirectory, he] at hdir
      exact ⟨_, by rw [Tree.directorySize, he]; rfl⟩
  refine ⟨⟨c.directory, true, some hash, true, t.isFile c.artifactPath, size⟩, ?_, rfl, rfl⟩
  simp [status, hdir, hstored, hfile, hdef, hsize, bind, Except.bind, pure, Except.pure]

/-- The driver of a safe state is not taken for that of another definition. -/
theorem Safe.current {a : ByteArray} (h : Safe made c t) (ha : t.read c.artifactPath = .ok a) :
    ((c.resolve false t).1 = .ok .hit → ∃ content settings, made a content settings ∧
      fileHash t c.definition = .ok (Digest.sha256Hex content) ∧
      ∀ s, c.settings = some s → s = settings) ∧
    ∀ status, c.status t = .ok status → status.upToDate = true →
      ∃ content settings, made a content settings ∧
        fileHash t c.definition = .ok (Digest.sha256Hex content) := by
  obtain ⟨content, settings, hm, hh, hs⟩ := h a ha
  constructor
  · intro hhit
    obtain ⟨hash, hdef, hcur⟩ := Cache.isCurrent_of_hit hhit
    obtain ⟨hset, hstored⟩ := Cache.isCurrent_iff.mp hcur
    refine ⟨content, settings, hm, by rw [hdef, hh hash hstored], fun s hsome => hs s ?_⟩
    rw [hsome] at hset
    exact hset.resolve_left nofun
  · intro status hst hup
    obtain ⟨hash, hstored, hdef⟩ := Cache.fileHash_of_upToDate hst hup
    exact ⟨content, settings, hm, by rw [hdef, hh hash hstored]⟩

/-- A resolution that stops keeps the state safe, unless it stops between the new hash and the
removal of the old driver. There, the state is safe only if the old driver happens to be what the new
digests say. -/
theorem interrupted_resolution (h : Safe made c t) (bypass : Bool) (k : Nat) :
    (¬ c.Mixed bypass k t → Safe made c (c.resolveUpTo bypass k t).2 ∧
      ∀ a, (c.resolveUpTo bypass k t).2.read c.artifactPath = .ok a →
        ((c.resolve false (c.resolveUpTo bypass k t).2).1 = .ok .hit →
          ∃ content settings, made a content settings ∧
            fileHash (c.resolveUpTo bypass k t).2 c.definition =
              .ok (Digest.sha256Hex content) ∧
            ∀ s, c.settings = some s → s = settings) ∧
        ∀ status, c.status (c.resolveUpTo bypass k t).2 = .ok status → status.upToDate = true →
          ∃ content settings, made a content settings ∧
            fileHash (c.resolveUpTo bypass k t).2 c.definition =
              .ok (Digest.sha256Hex content)) ∧
    (c.Mixed bypass k t → c.NoLinks t → (Safe made c (c.resolveUpTo bypass k t).2 ↔
      ∀ a, t.read c.artifactPath = .ok a → ∃ content settings, made a content settings ∧
        fileHash t c.definition = .ok (Digest.sha256Hex content) ∧
        ∀ s, c.storedSettings? (c.resolveUpTo bypass k t).2 = some s → s = settings)) := by
  constructor
  · intro hm
    have hsafe : Safe made c (c.resolveUpTo bypass k t).2 := by
      rcases c.resolveUpTo_cases bypass k t with ⟨he, _⟩ | ⟨hash, hdef, hmiss, he⟩
      · rw [he]
        exact h
      · rw [he]
        refine h.inOrder hdef fun hk hwritten => ?_
        by_cases hk₄ : k < 4
        · exact absurd ⟨hash, hdef, hmiss, hk, hwritten, .inl hk₄⟩ hm
        refine ⟨by omega, ?_⟩
        by_cases hr : (Procedure.inOrder ((c.renewal hash).take 4) t).1 = .ok ()
        · exact hr
        · exact absurd ⟨hash, hdef, hmiss, hk, hwritten, .inr hr⟩ hm
    exact ⟨hsafe, fun a ha => hsafe.current ha⟩
  · rintro ⟨hash, hdef, hmiss, hk, hwritten, hstop⟩ hl
    rcases c.resolveUpTo_cases bypass k t with ⟨_, hn⟩ | ⟨hash', hdef', _, he⟩
    · exact absurd ⟨hash, hdef, hmiss, hk, hwritten, hstop⟩ hn
    obtain rfl : hash' = hash := Except.ok.inj (hdef'.symm.trans hdef)
    have hstale := c.stale_inOrder hl hdef hk hwritten hstop
    rw [he, hdef]
    constructor
    · intro hsafe a ha
      obtain ⟨content, settings, hmade, hh, hs⟩ := hsafe a ((hstale.artifact a).mpr ha)
      exact ⟨content, settings, hmade, congrArg _ (hh _ hstale.hash), hs⟩
    · intro hall a ha
      obtain ⟨content, settings, hmade, hh, hs⟩ := hall a ((hstale.artifact a).mp ha)
      refine ⟨content, settings, hmade, fun h' hstored => ?_, hs⟩
      rw [hstale.hash] at hstored
      exact (Option.some.inj hstored).symm.trans (Except.ok.inj hh)

/-! ## Settings that cannot be stored -/

def formerContent : ByteArray :=
  "1".toUTF8

def presentContent : ByteArray :=
  "2".toUTF8

def formerDriver : ByteArray :=
  "driver".toUTF8

/-- A definition that has changed since its driver was made, with a directory in the place of the
settings. -/
def stuck : Tree :=
  ⟨.directory [("D", .directory [("Matrfile.rs", .file presentContent false),
    (".matr", .directory [("matrfile.sha256", .file (Digest.sha256Hex formerContent).toUTF8 false),
      ("matrfile.config", .directory []), ("matr", .file formerDriver true)])])], []⟩

def stuckCache : Cache :=
  ⟨⟨true, ["D", "Matrfile.rs"]⟩, some "settings"⟩

/-- The driver was made from the former content. -/
def FormerMade (a content : ByteArray) (_ : String) : Prop :=
  a = formerDriver ∧ content = formerContent

theorem sha256Hex_formerContent_ne :
    Digest.sha256Hex formerContent ≠ Digest.sha256Hex presentContent := by
  decide +kernel

theorem stuck_opens : stuck.Opens stuckCache.definition.directory ["D"] := by
  have hl : stuck.Leads stuckCache.definition.directory ["D"] :=
    ⟨_, .next (.down (d := .directory) (by decide) rfl nofun)
      (.refl _)⟩
  exact ⟨rfl, hl, rfl⟩

theorem stuck_opens_cache : stuck.Opens stuckCache.directory (["D"] ++ [cacheName]) :=
  stuck_opens.child literal_cacheName rfl

theorem stuck_read : stuck.read stuckCache.definition = .ok presentContent :=
  stuck_opens.read_child (n := includedName) literal_includedName (x := false) rfl

theorem stuck_artifact : stuck.read stuckCache.artifactPath = .ok formerDriver :=
  stuck_opens_cache.read_child literal_artifactName (x := true) rfl

theorem stuck_noLinks : stuckCache.NoLinks stuck := by
  intro d ho n hn q hq
  rw [ho.leads.unique stuck_opens_cache.leads] at hq
  simp only [List.mem_cons, List.not_mem_nil, or_false] at hn
  rcases hn with rfl | rfl | rfl <;> cases hq

theorem stuck_safe : Safe FormerMade stuckCache stuck := by
  intro a ha
  have hh : stuckCache.storedHash? stuck = some (trimmed (Digest.sha256Hex formerContent)) :=
    trimmedText?_child stuck_opens_cache literal_hashName (x := false) rfl
  refine ⟨formerContent, (stuckCache.storedSettings? stuck).getD "", ⟨?_, rfl⟩, ?_, ?_⟩
  · exact Except.ok.inj (ha.symm.trans stuck_artifact)
  · intro h hstored
    rw [hh, trimmed_sha256Hex] at hstored
    exact (Option.some.inj hstored).symm
  · intro s hs
    rw [hs]
    rfl

theorem stuck_fileHash :
    fileHash stuck stuckCache.definition = .ok (Digest.sha256Hex presentContent) := by
  rw [fileHash, stuck_read]
  rfl

theorem stuck_not_current :
    stuckCache.isCurrent stuck (Digest.sha256Hex presentContent) = false := by
  rw [Bool.eq_false_iff]
  intro hcur
  have hh : stuckCache.storedHash? stuck = some (trimmed (Digest.sha256Hex formerContent)) :=
    trimmedText?_child stuck_opens_cache literal_hashName (x := false) rfl
  rw [(Cache.isCurrent_iff.mp hcur).2, trimmed_sha256Hex] at hh
  exact sha256Hex_formerContent_ne (Option.some.inj hh).symm

theorem stuck_extends {x : Bool} {b : ByteArray}
    (h : stuck.Sets (["D"] ++ [cacheName] ++ [hashName]) (some (.file b x)) t) :
    stuck.root.Extends t.root :=
  h.extends_of_plain (Files.Tree.plain_of_file (x := false) rfl)

/-- The hash is written, and then the settings are not. -/
theorem stuck_renewal : ∃ x t f,
    Files.makeDirectories stuckCache.directory stuck = (.ok (), stuck) ∧
    Files.writeText stuckCache.hashPath (Digest.sha256Hex presentContent) stuck = (.ok (), t) ∧
    stuckCache.storing t = (.error f, t) ∧
    stuck.Sets (["D"] ++ [cacheName] ++ [hashName])
      (some (.file (Digest.sha256Hex presentContent).toUTF8 x)) t := by
  obtain ⟨t₁, h₁, _⟩ := stuck_opens.makeDirectories_child literal_cacheName
    (fun y hy => (Option.some.inj hy).symm)
  have hsame : t₁ = stuck := by
    rcases stuck_opens.makeDirectories_cases literal_cacheName with he | ⟨hm, _⟩
    · rw [h₁] at he
      exact he
    · cases hm
  subst hsame
  obtain ⟨x, t, h₂, s₂⟩ := stuck_opens_cache.write_child literal_hashName
    (Files.Tree.plain_of_file (x := false) rfl) (Digest.sha256Hex presentContent).toUTF8 none
  obtain ⟨f, h₃⟩ : ∃ f, stuckCache.storing t = (.error f, t) := by
    rcases Procedure.change_cases (Tree.write stuckCache.settingsPath "settings".toUTF8 none) t with
      ⟨t', hw, _⟩ | ⟨f, h₃⟩
    · have hdir : ∀ d, t.Opens stuckCache.directory d →
          t.root.node? (d ++ [settingsName]) = some .directory := by
        intro d ho
        rw [ho.leads.unique (stuck_opens_cache.extends (stuck_extends s₂) s₂.working).leads,
          s₂.elsewhere (child_ne (by decide))]
        rfl
      obtain ⟨d, _, ho, hplain, _⟩ := Files.Tree.write_child_ok literal_settingsName
        (fun d ho q hq => by rw [hdir d ho] at hq; cases hq) hw
      exact absurd (hdir d ho) hplain.not_directory
    · exact ⟨f, h₃⟩
  exact ⟨x, t, f, h₁, Procedure.change_ok h₂, h₃, s₂⟩

theorem stuck_mixed : stuckCache.Mixed false 6 stuck := by
  obtain ⟨_, t, f, h₁, h₂, h₃, _⟩ := stuck_renewal
  refine ⟨_, stuck_fileHash, stuck_not_current, by omega, ?_, .inr ?_⟩
  · rw [Cache.renewal_take h₁ h₂ 0]
    rfl
  · rw [Cache.renewal_take h₁ h₂ 2, Cache.clearing, List.take_succ_cons,
      Procedure.inOrder_cons_error h₃]
    simp

/-- The resolution fails, and the status takes the driver of the former content for that of the
present one. -/
theorem resolve_stuck : Safe FormerMade stuckCache stuck ∧
    (∃ f, (stuckCache.resolve false stuck).1 = .error f) ∧
    ¬ Safe FormerMade stuckCache (stuckCache.resolve false stuck).2 ∧
    ∃ status, stuckCache.status (stuckCache.resolve false stuck).2 = .ok status ∧
      status.upToDate = true ∧ status.artifactPresent = true := by
  obtain ⟨x, t, f, h₁, h₂, h₃, hs⟩ := stuck_renewal
  have hrun : stuckCache.resolve false stuck = (.error f, t) := by
    rw [← Cache.resolveUpTo_six, Cache.resolveUpTo_miss stuck_fileHash
      (by rw [stuck_not_current]; rfl), Procedure.run_bind, Cache.renewal_take h₁ h₂ 4,
      Cache.clearing, List.take_succ_cons, Procedure.inOrder_cons_error h₃]
  have ho : t.Opens stuckCache.definition.directory ["D"] :=
    stuck_opens.extends (stuck_extends hs) hs.working
  have hoc : t.Opens stuckCache.directory (["D"] ++ [cacheName]) :=
    stuck_opens_cache.extends (stuck_extends hs) hs.working
  have hstored : stuckCache.storedHash? t = some (Digest.sha256Hex presentContent) :=
    (trimmedText?_child hoc literal_hashName hs.here).trans (congrArg _ (trimmed_sha256Hex _))
  have hread : t.read stuckCache.definition = .ok presentContent :=
    ho.read_child (n := includedName) literal_includedName (x := false)
      ((hs.elsewhere (by decide)).trans rfl)
  have hart : t.read stuckCache.artifactPath = .ok formerDriver :=
    hoc.read_child literal_artifactName (x := true)
      ((hs.elsewhere (child_ne (by decide))).trans rfl)
  rw [hrun]
  refine ⟨stuck_safe, ⟨f, rfl⟩, ?_, ?_⟩
  · intro hsafe
    obtain ⟨content, _, ⟨_, rfl⟩, hh, _⟩ := hsafe _ hart
    exact sha256Hex_formerContent_ne (hh _ hstored).symm
  · have hdef : fileHash t stuckCache.definition = .ok (Digest.sha256Hex presentContent) := by
      rw [fileHash, hread]
      rfl
    obtain ⟨status, hst, hup, hpresent⟩ := Cache.status_of_stored hoc hdef hstored
    exact ⟨status, hst, hup, hpresent.trans (Files.Tree.isFile_iff.mpr ⟨_, hart⟩)⟩

/-- Stopped before the hash is written, the state is safe; stopped by the settings, it is safe only
if the driver happens to be that of the present content. -/
theorem interrupted_resolution_stuck : Safe FormerMade stuckCache stuck ∧
    Safe FormerMade stuckCache (stuckCache.resolveUpTo false 1 stuck).2 ∧
    (Safe FormerMade stuckCache (stuckCache.resolveUpTo false 6 stuck).2 ↔
      ∀ a, stuck.read stuckCache.artifactPath = .ok a → ∃ content settings,
        FormerMade a content settings ∧
        fileHash stuck stuckCache.definition = .ok (Digest.sha256Hex content) ∧
        ∀ s, stuckCache.storedSettings? (stuckCache.resolveUpTo false 6 stuck).2 = some s →
          s = settings) := by
  refine ⟨stuck_safe, ?_, ?_⟩
  · have hm : ¬ stuckCache.Mixed false 1 stuck := by
      rintro ⟨_, _, _, hk, _⟩
      omega
    exact ((interrupted_resolution stuck_safe false 1).1 hm).1
  · exact (interrupted_resolution stuck_safe false 6).2 stuck_mixed stuck_noLinks

end TaskDriver.Build
