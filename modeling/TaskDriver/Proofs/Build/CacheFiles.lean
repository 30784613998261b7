import TaskDriver.Build.Build
import TaskDriver.Proofs.Files.Change

/-! The entries of a cache: what is read of them, and what they are after the driver has to be made
anew. -/
namespace TaskDriver

/-! ## Steps in order -/

namespace Procedure

variable {σ ε : Type} {p : Procedure σ ε Unit} {ps : List (Procedure σ ε Unit)} {s s' : σ}

theorem inOrder_cons_ok (h : p s = (.ok (), s')) : inOrder (p :: ps) s = inOrder ps s' := by
  rw [inOrder, run_bind, h]

theorem inOrder_cons_error {e : ε} (h : p s = (.error e, s')) :
    inOrder (p :: ps) s = (.error e, s') := by
  rw [inOrder, run_bind, h]

theorem change_ok {f : σ → Except ε σ} (h : f s = .ok s') : change f s = (.ok (), s') := by
  rw [change, h]

theorem change_error {f : σ → Except ε σ} {e : ε} (h : f s = .error e) :
    change f s = (.error e, s) := by
  rw [change, h]

theorem change_cases (f : σ → Except ε σ) (s : σ) :
    (∃ s', f s = .ok s' ∧ change f s = (.ok (), s')) ∨ ∃ e, change f s = (.error e, s) := by
  rcases h : f s with e | s'
  · exact .inr ⟨e, change_error h⟩
  · exact .inl ⟨s', rfl, change_ok h⟩

theorem inOrder_pair_ok {q : Procedure σ ε Unit} (h : (inOrder [p, q] s).1 = .ok ()) :
    ∃ s₁ s₂, p s = (.ok (), s₁) ∧ q s₁ = (.ok (), s₂) := by
  rcases hp : p s with ⟨e | _, s₁⟩
  · rw [inOrder_cons_error hp] at h
    cases h
  rcases hq : q s₁ with ⟨e | _, s₂⟩
  · rw [inOrder_cons_ok hp, inOrder_cons_error hq] at h
    cases h
  exact ⟨s₁, s₂, rfl, hq⟩

end Procedure

namespace Build

open Files (Path Tree Location Node Change)

/-! ## Names -/

def hashName : String := "matrfile.sha256"

def settingsName : String := "matrfile.config"

def manifestName : String := "Cargo.toml"

def targetName : String := "target"

theorem literal_cacheName : Path.Literal cacheName := by
  decide

theorem literal_hashName : Path.Literal hashName := by
  decide

theorem literal_settingsName : Path.Literal settingsName := by
  decide

theorem literal_includedName : Path.Literal includedName := by
  decide

theorem literal_driverSourceName : Path.Literal driverSourceName := by
  decide

theorem literal_manifestName : Path.Literal manifestName := by
  decide

theorem literal_artifactName : Path.Literal artifactName := by
  decide

/-! ## Texts -/

theorem fromUTF8?_toUTF8 (s : String) : String.fromUTF8? s.toUTF8 = some s :=
  dif_pos s.isValidUTF8

variable {t t' : Tree} {c : Cache} {p q : Path} {d m : Location} {n k : String}
  {y : Option Node} {s : String}

theorem trimmedText?_child {x : Bool} (h : t.Opens p d) (hn : Path.Literal n)
    (hx : t.root.node? (d ++ [n]) = some (.file s.toUTF8 x)) :
    trimmedText? t (p.child n) = some (trimmed s) := by
  have hr : t.readText (p.child n) = .ok s := by
    rw [Tree.readText, h.read_child hn hx]
    simp only [bind, Except.bind, fromUTF8?_toUTF8]
    rfl
  rw [trimmedText?, hr]

theorem isBlank_hexByte (b : UInt8) : ∀ c ∈ Digest.hexByte b, Text.isBlank c = false := by
  have hd : ∀ m : Fin 16,
      Text.isBlank (Char.ofNat (if m.val < 10 then 48 + m.val else 87 + m.val)) = false := by
    decide
  have h₁ : b.toNat / 16 < 16 := by
    have := b.toNat_lt
    omega
  have h₂ : b.toNat % 16 < 16 := Nat.mod_lt _ (by decide)
  intro c hc
  simp only [Digest.hexByte, List.mem_cons, List.not_mem_nil, or_false] at hc
  rcases hc with rfl | rfl
  · exact hd ⟨_, h₁⟩
  · exact hd ⟨_, h₂⟩

theorem trim_eq_self {s : List Char} (h : ∀ c ∈ s, Text.isBlank c = false) : Text.trim s = s := by
  have hd : ∀ u : List Char, (∀ c ∈ u, Text.isBlank c = false) → u.dropWhile Text.isBlank = u := by
    intro u hu
    cases u with
    | nil => rfl
    | cons c u => rw [List.dropWhile_cons_of_neg (by simp [hu c (.head _)])]
  have hr : ∀ c ∈ s.reverse, Text.isBlank c = false := fun c hc => h c (List.mem_reverse.mp hc)
  rw [Text.trim, Text.trimStart, hd s h, Text.trimEnd, Text.cutEnd, hd _ hr, List.reverse_reverse]

theorem trimmed_sha256Hex (b : ByteArray) : trimmed (Digest.sha256Hex b) = Digest.sha256Hex b := by
  have h : ∀ c ∈ (Digest.sha256Hex b).toList, Text.isBlank c = false := by
    intro c hc
    simp only [Digest.sha256Hex, String.toList_ofList, List.mem_flatMap] at hc
    obtain ⟨x, _, hc⟩ := hc
    exact isBlank_hexByte x c hc
  rw [trimmed, trim_eq_self h, String.ofList_toList]

theorem Cache.isCurrent_iff {hash : String} : c.isCurrent t hash = true ↔
    (c.settings = none ∨ c.storedSettings? t = c.settings) ∧ c.storedHash? t = some hash := by
  simp [isCurrent]

/-! ## Entries of one directory -/

theorem child_ne (h : k ≠ n) : d ++ [k] ≠ d ++ [n] := by
  simpa using h

theorem child_ne_self : d ≠ d ++ [n] := by
  simp

/-- A tree with all that another one has, in which there is nothing at a location. What the first
tree has at this location and below is its own. -/
structure Beside (t₀ : Tree) (d : Location) (t : Tree) : Prop where
  working : t.workingDirectory = t₀.workingDirectory
  kept : t₀.root.Extends t.root
  missing : t₀.root.node? d = none

theorem Beside.of_outside {t₀ : Tree} (h : Beside t₀ d t)
    (hw : t'.workingDirectory = t.workingDirectory)
    (hout : ∀ m, ¬ d <+: m → t'.root.node? m = t.root.node? m) : Beside t₀ d t' := by
  refine ⟨hw.trans h.working, ?_, h.missing⟩
  intro m z hz
  rw [hout]
  · exact h.kept m z hz
  · rintro ⟨r, rfl⟩
    rw [Files.Entry.node?_append_none h.missing] at hz
    cases hz

theorem Beside.sets {t₀ : Tree} {l : Location} (h : Beside t₀ d t) (hs : t.Sets l y t')
    (hl : d <+: l) : Beside t₀ d t' := by
  refine ⟨hs.working.trans h.working, ?_, h.missing⟩
  intro m z hz
  obtain ⟨z', hz', ha⟩ := h.kept m z hz
  have hm : m ≠ l := by
    rintro rfl
    obtain ⟨r, rfl⟩ := hl
    rw [Files.Entry.node?_append_none h.missing] at hz
    cases hz
  exact ⟨z', by rw [hs.elsewhere hm, hz'], ha⟩

theorem Beside.opens {t₀ : Tree} {e : Location} (h : Beside t₀ (e ++ [n]) t)
    (ho : t₀.Opens p e) (hn : Path.Literal n)
    (hd : t.root.node? (e ++ [n]) = some .directory) : t.Opens (p.child n) (e ++ [n]) :=
  (ho.extends h.kept h.working).child hn hd

/-! ## The link -/

theorem readLink_child (h : t.Opens p d) (hn : Path.Literal n) :
    t.readLink (p.child n) = .ok q ↔ t.root.node? (d ++ [n]) = some (.link q) := by
  rcases he : t.root.find? (d ++ [n]) with _ | e
  · have hm := Files.Entry.node?_eq_none.mpr he
    simp [Tree.readLink, h.entry_missing hn hm, hm, bind, Except.bind]
  · have hr := h.reach_itself hn he
    cases e <;>
      simp [Tree.readLink, Tree.entry, hr, Files.Entry.node?, he, Files.Entry.node, bind,
        Except.bind, Except.map, pure, Except.pure]

theorem exists?_child (h : t.Opens p d) (hn : Path.Literal n) :
    t.exists? false (p.child n) = true ↔ t.root.node? (d ++ [n]) ≠ none := by
  rcases he : t.root.find? (d ++ [n]) with _ | e
  · have hm := Files.Entry.node?_eq_none.mpr he
    simp [Tree.exists?, h.entry_missing hn hm, hm]
  · have hr := h.reach_itself hn he
    simp [Tree.exists?, Tree.entry, hr, Files.Entry.node?, he, Except.map]

theorem exists?_missing (h : t.Opens p d) (hn : Path.Literal n)
    (hm : t.root.node? (d ++ [n]) = none) (follow : Bool) :
    t.exists? follow (p.child n) = false := by
  rw [Tree.exists?, h.entry_missing hn hm]

theorem Cache.node?_of_isLinked (h : t.Opens c.directory d) (hl : c.isLinked t = true) :
    ∃ q, t.root.node? (d ++ [includedName]) = some (.link q) ∧ q.same c.definition = true := by
  rw [isLinked, Bool.and_eq_true] at hl
  rcases hr : t.readLink c.linkPath with f | q
  · simp [hr] at hl
  · rw [hr] at hl
    exact ⟨q, (readLink_child h literal_includedName).mp hr, hl.2⟩

theorem Cache.not_isLinked_of_missing (h : t.Opens c.directory d)
    (hm : t.root.node? (d ++ [includedName]) = none) : c.isLinked t = false := by
  rw [isLinked, linkPath, exists?_missing h literal_includedName hm]
  rfl

section

variable {t₀ : Tree} {e : Location}

/-- The directory of a cache is there, beside all that another tree has. -/
structure Placed (t₀ : Tree) (c : Cache) (e : Location) (t : Tree) : Prop where
  beside : Beside t₀ (e ++ [cacheName]) t
  around : t₀.Opens c.definition.directory e
  directory : t.root.node? (e ++ [cacheName]) = some .directory

namespace Placed

theorem opens (h : Placed t₀ c e t) : t.Opens c.directory (e ++ [cacheName]) :=
  h.beside.opens h.around literal_cacheName h.directory

theorem sets (h : Placed t₀ c e t) (hs : t.Sets (e ++ [cacheName] ++ [n]) y t') :
    Placed t₀ c e t' :=
  ⟨h.beside.sets hs (List.prefix_append _ _), h.around,
    (hs.elsewhere child_ne_self).trans h.directory⟩

theorem write (h : Placed t₀ c e t) (hn : Path.Literal n)
    (hp : t.Plain (e ++ [cacheName] ++ [n])) (text : String) :
    ∃ x t', t.write (c.directory.child n) text.toUTF8 none = .ok t' ∧ Placed t₀ c e t' ∧
      t.Sets (e ++ [cacheName] ++ [n]) (some (.file text.toUTF8 x)) t' := by
  obtain ⟨x, t', ht, hs⟩ := h.opens.write_child hn hp text.toUTF8 none
  exact ⟨x, t', ht, h.sets hs, hs⟩

/-- What is in the place of the link is taken away, so that nothing is there. -/
theorem unlink (h : Placed t₀ c e t)
    (hl : t.root.node? (e ++ [cacheName] ++ [includedName]) ≠ some .directory)
    (hi : c.isLinked t = false) :
    ∃ t', c.unlink t = .ok t' ∧ t.Sets (e ++ [cacheName] ++ [includedName]) none t' := by
  rcases hy : t.root.node? (e ++ [cacheName] ++ [includedName]) with _ | y
  · have hx := exists?_missing h.opens literal_includedName hy false
    exact ⟨t, by simp [Cache.unlink, Cache.linkPath, hx], Files.Tree.sets_self hy⟩
  · have hx : t.exists? false c.linkPath = true :=
      (exists?_child h.opens literal_includedName).mpr (by rw [hy]; simp)
    obtain ⟨t', ht, hs⟩ := h.opens.removeFile_child literal_includedName hy fun hd => hl (hd ▸ hy)
    refine ⟨t', ?_, hs⟩
    simp only [Cache.unlink, hi, hx, Bool.not_true, Bool.or_false, Bool.false_eq_true, ↓reduceIte]
    exact ht

/-- The link ends up at this definition; one that is already there stays as it is. -/
theorem relink (h : Placed t₀ c e t) (hc : c.definition ≠ ⟨false, []⟩)
    (hl : t.root.node? (e ++ [cacheName] ++ [includedName]) ≠ some .directory) :
    ∃ q t₁ t₂, c.unlink t = .ok t₁ ∧ c.link t₁ = .ok t₂ ∧
      t.Sets (e ++ [cacheName] ++ [includedName]) (some (.link q)) t₂ ∧
      (q = c.definition ∨
        t.root.node? (e ++ [cacheName] ++ [includedName]) = some (.link q) ∧
          q.same c.definition = true) := by
  rcases hi : c.isLinked t with _ | _
  · obtain ⟨t₁, h₁, hs₁⟩ := h.unlink hl hi
    have hop := (h.sets hs₁).opens
    obtain ⟨t₂, h₂, hs₂⟩ := hop.makeLink_child literal_includedName hs₁.here hc
    refine ⟨c.definition, t₁, t₂, h₁, ?_, ?_, .inl rfl⟩
    · simp only [Cache.link, Cache.not_isLinked_of_missing hop hs₁.here, Bool.false_eq_true,
        ↓reduceIte]
      exact h₂
    · refine ⟨hs₂.working.trans hs₁.working, fun m => ?_⟩
      rw [hs₂.node?, hs₁.node?]
      split <;> rfl
  · obtain ⟨q, hq, hs⟩ := Cache.node?_of_isLinked h.opens hi
    exact ⟨q, t, t, by simp [Cache.unlink, hi], by simp [Cache.link, hi], Files.Tree.sets_self hq,
      .inr ⟨hq, hs⟩⟩

end Placed

/-! ## The renewal of a cache -/

/-- The second tree has a cache that was renewed in the first one: a hash, settings and a link, but
no driver. -/
structure Renewed (c : Cache) (hash settings : String) (t : Tree) (d : Location) (t' : Tree) :
    Prop where
  directory : t'.root.node? d = some .directory
  hash : ∃ x, t'.root.node? (d ++ [hashName]) = some (.file hash.toUTF8 x)
  settings : ∃ x, t'.root.node? (d ++ [settingsName]) = some (.file settings.toUTF8 x)
  artifact : t'.root.node? (d ++ [artifactName]) = none
  link : ∃ q, t'.root.node? (d ++ [includedName]) = some (.link q) ∧
    (q = c.definition ∨
      t.root.node? (d ++ [includedName]) = some (.link q) ∧ q.same c.definition = true)
  elsewhere : ∀ m, m ≠ d → (∀ n ∈ [hashName, settingsName, artifactName, includedName],
    m ≠ d ++ [n]) → t'.root.node? m = t.root.node? m

section

variable {hash settings : String}

theorem Renewed.plain (h : Renewed c hash settings t d t') (hn : n ∈ [hashName, settingsName]) :
    t'.Plain (d ++ [n]) := by
  simp only [List.mem_cons, List.not_mem_nil, or_false] at hn
  rcases hn with rfl | rfl
  · exact Files.Tree.plain_of_file h.hash.choose_spec
  · exact Files.Tree.plain_of_file h.settings.choose_spec

theorem Renewed.included (h : Renewed c hash settings t d t') :
    t'.root.node? (d ++ [includedName]) ≠ some .directory := by
  obtain ⟨q, hq, _⟩ := h.link
  rw [hq]
  simp

end

/-- In a cache without strange entries every change of the renewal goes through. -/
theorem Cache.renewal_run {settings : String} (hset : c.settings = some settings)
    (hb : Beside t₀ (e ++ [cacheName]) t) (ho : t₀.Opens c.definition.directory e)
    (hc : c.definition ≠ ⟨false, []⟩)
    (hd : ∀ y, t.root.node? (e ++ [cacheName]) = some y → y = .directory)
    (hh : t.Plain (e ++ [cacheName] ++ [hashName]))
    (hs : t.Plain (e ++ [cacheName] ++ [settingsName]))
    (ha : t.root.node? (e ++ [cacheName] ++ [artifactName]) ≠ some .directory)
    (hl : t.root.node? (e ++ [cacheName] ++ [includedName]) ≠ some .directory)
    (hash : String) :
    ∃ t', Procedure.inOrder (c.renewal hash) t = (.ok (), t') ∧
      Beside t₀ (e ++ [cacheName]) t' ∧ Renewed c hash settings t (e ++ [cacheName]) t' := by
  obtain ⟨t₁, h₁, s₁⟩ :=
    (ho.extends hb.kept hb.working).makeDirectories_child literal_cacheName hd
  have p₁ : Placed t₀ c e t₁ := ⟨hb.sets s₁ (List.prefix_refl _), ho, s₁.here⟩
  have same₁ : ∀ n, t₁.root.node? (e ++ [cacheName] ++ [n]) =
      t.root.node? (e ++ [cacheName] ++ [n]) := fun n => s₁.elsewhere child_ne_self.symm
  obtain ⟨x₂, t₂, h₂, p₂, s₂⟩ := p₁.write literal_hashName (hh.congr (same₁ _)) hash
  have same₂ : ∀ n, n ≠ hashName → t₂.root.node? (e ++ [cacheName] ++ [n]) =
      t.root.node? (e ++ [cacheName] ++ [n]) := fun n hn =>
    (s₂.elsewhere (child_ne hn)).trans (same₁ n)
  obtain ⟨x₃, t₃, h₃, p₃, s₃⟩ :=
    p₂.write literal_settingsName (hs.congr (same₂ _ (by decide))) settings
  have same₃ : ∀ n, n ≠ hashName → n ≠ settingsName → t₃.root.node? (e ++ [cacheName] ++ [n]) =
      t.root.node? (e ++ [cacheName] ++ [n]) := fun n hn hn' =>
    (s₃.elsewhere (child_ne hn')).trans (same₂ n hn)
  obtain ⟨t₄, h₄, s₄⟩ := p₃.opens.dropFile_child literal_artifactName
    (same₃ artifactName (by decide) (by decide) ▸ ha)
  have p₄ := p₃.sets s₄
  have back : t₄.root.node? (e ++ [cacheName] ++ [includedName]) =
      t.root.node? (e ++ [cacheName] ++ [includedName]) :=
    (s₄.elsewhere (child_ne (by decide))).trans (same₃ _ (by decide) (by decide))
  obtain ⟨q, t₅, t₆, h₅, h₆, s₆, hq⟩ := p₄.relink hc (back ▸ hl)
  rw [back] at hq
  have p₆ := p₄.sets s₆
  refine ⟨t₆, ?_, p₆.beside, p₆.directory, ⟨x₂, ?_⟩, ⟨x₃, ?_⟩, ?_, ⟨q, s₆.here, hq⟩, ?_⟩
  · rw [renewal, hset]
    refine (Procedure.inOrder_cons_ok h₁).trans ?_
    refine (Procedure.inOrder_cons_ok (Procedure.change_ok h₂)).trans ?_
    refine (Procedure.inOrder_cons_ok (Procedure.change_ok h₃)).trans ?_
    refine (Procedure.inOrder_cons_ok h₄).trans ?_
    refine (Procedure.inOrder_cons_ok (Procedure.change_ok h₅)).trans ?_
    exact Procedure.inOrder_cons_ok (Procedure.change_ok h₆)
  · rw [s₆.elsewhere (child_ne (by decide)), s₄.elsewhere (child_ne (by decide)),
      s₃.elsewhere (child_ne (by decide)), s₂.here]
  · rw [s₆.elsewhere (child_ne (by decide)), s₄.elsewhere (child_ne (by decide)), s₃.here]
  · rw [s₆.elsewhere (child_ne (by decide)), s₄.here]
  · intro m hm hn
    simp only [List.mem_cons, List.not_mem_nil, or_false, forall_eq_or_imp, forall_eq] at hn
    obtain ⟨n₁, n₂, n₃, n₄⟩ := hn
    rw [s₆.elsewhere n₄, s₄.elsewhere n₃, s₃.elsewhere n₂, s₂.elsewhere n₁, s₁.elsewhere hm]

end

/-! ## The resolution -/

/-- The resolution that is cut off after the first changes of the cache. -/
def Cache.resolveUpTo (c : Cache) (bypass : Bool) (k : Nat) : Change Resolution := do
  let t ← Procedure.state
  let hash ← Procedure.look fun t => fileHash t c.definition
  if !bypass && c.isCurrent t hash then pure .hit
  else
    Procedure.inOrder ((c.renewal hash).take k)
    pure .miss

section

variable {bypass : Bool} {r : Nat} {hash : String}

/-- The whole resolution makes six changes. -/
theorem Cache.resolveUpTo_six : c.resolveUpTo bypass 6 = c.resolve bypass :=
  rfl

theorem Cache.resolveUpTo_error {f : Files.Fault} (h : fileHash t c.definition = .error f) :
    c.resolveUpTo bypass r t = (.error f, t) := by
  simp [resolveUpTo, Procedure.run_bind, Procedure.state, Procedure.look, h]

theorem Cache.resolveUpTo_hit (h : fileHash t c.definition = .ok hash)
    (hcur : (!bypass && c.isCurrent t hash) = true) :
    c.resolveUpTo bypass r t = (.ok .hit, t) := by
  simp only [resolveUpTo, Procedure.run_bind, Procedure.state, Procedure.look, h, hcur, ↓reduceIte]
  rfl

theorem Cache.resolveUpTo_miss (h : fileHash t c.definition = .ok hash)
    (hcur : (!bypass && c.isCurrent t hash) = false) :
    c.resolveUpTo bypass r t = (do
      Procedure.inOrder ((c.renewal hash).take r)
      pure .miss : Change Resolution) t := by
  simp only [resolveUpTo, Procedure.run_bind, Procedure.state, Procedure.look, h, hcur,
    Bool.false_eq_true, ↓reduceIte]

end

end Build

end TaskDriver
