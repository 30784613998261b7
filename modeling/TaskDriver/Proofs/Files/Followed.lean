import TaskDriver.Proofs.Files.Lead

/-! How many links a path leads over. The number is the same in all trees with more in them, and a
walk that may follow fewer links fails. -/
namespace TaskDriver.Files

namespace Entry

variable {root : Entry} {u v w : Walker}

/-! ## One way only -/

theorem Step.unique (h : Step root u v) (h' : Step root u w) : v = w := by
  cases h with
  | stay _ hn =>
    cases h' with
    | stay _ _ => rfl
    | up _ => rcases hn with hn | hn <;> exact absurd hn (by decide)
    | down hm _ _ => exact absurd hn (not_or.mpr ⟨hm.ne_empty, hm.ne_dot⟩)
    | follow hm _ => exact absurd hn (not_or.mpr ⟨hm.ne_empty, hm.ne_dot⟩)
  | up _ =>
    cases h' with
    | stay _ hn => rcases hn with hn | hn <;> exact absurd hn (by decide)
    | up _ => rfl
    | down hm _ _ => exact absurd rfl hm.ne_up
    | follow hm _ => exact absurd rfl hm.ne_up
  | down hm hd hl =>
    cases h' with
    | stay _ hn => exact absurd hn (not_or.mpr ⟨hm.ne_empty, hm.ne_dot⟩)
    | up _ => exact absurd rfl hm.ne_up
    | down _ _ _ => rfl
    | follow _ hd' => exact absurd (Option.some.inj (hd.symm.trans hd')) (hl _)
  | follow hm hd =>
    cases h' with
    | stay _ hn => exact absurd hn (not_or.mpr ⟨hm.ne_empty, hm.ne_dot⟩)
    | up _ => exact absurd rfl hm.ne_up
    | down _ hd' hl => exact absurd (Option.some.inj (hd'.symm.trans hd)) (hl _)
    | follow _ hd' =>
      cases hd.symm.trans hd'
      rfl

theorem Goes.unique (h : Goes root u v) (h' : Goes root u w) (hv : v.names = [])
    (hw : w.names = []) : v = w := by
  induction h with
  | refl u =>
    cases h' with
    | refl => rfl
    | next s _ => exact absurd hv s.ne_nil
  | next s _ ih =>
    cases h' with
    | refl => exact absurd hw s.ne_nil
    | next s' h' => exact ih (s.unique s' ▸ h') hv

/-! ## Fewer links -/

theorem Step.dropLinks (h : Step root u v) {j : Nat} (hj : j ≤ v.links) :
    Step root ⟨u.links - j, u.here, u.names⟩ ⟨v.links - j, v.here, v.names⟩ := by
  cases h with
  | stay hd hn => exact .stay hd hn
  | up hd => exact .up hd
  | down hn hd hp => exact .down hn hd hp
  | @follow k l n ns p hn hd =>
    have hk : k + 1 - j = k - j + 1 := Nat.succ_sub hj
    rw [hk]
    exact .follow hn hd

/-- Links that are not followed need not be allowed. -/
theorem Goes.dropLinks (h : Goes root u v) {j : Nat} (hj : j ≤ v.links) :
    Goes root ⟨u.links - j, u.here, u.names⟩ ⟨v.links - j, v.here, v.names⟩ := by
  induction h with
  | refl w => exact .refl _
  | next s hg ih => exact .next (s.dropLinks (Nat.le_trans hj hg.links_le)) (ih hj)

/-- A walk that needs more links than it may follow fails. -/
theorem Goes.walk_tooMany (h : Goes root u w) (hw : w.names = []) {j : Nat}
    (hj : j + w.links < u.links) :
    root.walk true j u.here u.names = .error .tooManyLinks := by
  induction h generalizing j with
  | refl w => omega
  | @next u v w s hg ih =>
    have hj' : v.links = u.links → root.walk true j v.here v.names = .error .tooManyLinks :=
      fun he => ih hw (he ▸ hj)
    -- A step at this number of links, unless it needs one itself.
    have same : ∀ {l ns l' ns'}, Step root ⟨j, l, ns⟩ ⟨j, l', ns'⟩ →
        root.walk true j l ns = root.walk true j l' ns' := by
      intro l ns l' ns' hs
      have he : root.walk true j l (ns ++ []) = root.walk true j l' (ns' ++ []) :=
        hs.walk_eq (.inl rfl)
      rwa [List.append_nil, List.append_nil] at he
    cases s with
    | stay hd hn => exact (same (.stay hd hn)).trans (hj' rfl)
    | up hd => exact (same (.up hd)).trans (hj' rfl)
    | down hn hd hp => exact (same (.down hn hd hp)).trans (hj' rfl)
    | @follow k l n ns p hn hd =>
      have hl : root.node? l = some .directory :=
        node?_parent (List.cons_ne_nil n []) (by simp [hd])
      have hw' := walk_named true j hn hl ns
      rw [node?_eq_some_link.mp hd] at hw'
      rw [hw']
      simp only [Bool.not_true, Bool.and_false, Bool.false_eq_true, ↓reduceIte]
      cases j with
      | zero => rfl
      | succ j => exact ih hw (by simp only at hj ⊢; omega)

end Entry

namespace Tree

/-- The path leads to the location, over this number of links. -/
def LeadsOver (t : Tree) (p : Path) (l : Location) (k : Nat) : Prop :=
  Entry.Goes t.root ⟨k, t.start p, p.names⟩ ⟨0, l, []⟩

variable {t t' : Tree} {p q : Path} {l d : Location} {n : String} {k j : Nat}

theorem Leads.exists_over (h : t.Leads p l) : ∃ k ≤ linkLimit, t.LeadsOver p l k := by
  obtain ⟨j, hj⟩ := h
  refine ⟨linkLimit - j, Nat.sub_le _ _, ?_⟩
  have hd := hj.dropLinks (Nat.le_refl j)
  rwa [Nat.sub_self] at hd

theorem LeadsOver.leads (h : t.LeadsOver p l k) (hk : k ≤ linkLimit) : t.Leads p l := by
  have ha := Entry.Goes.addLinks h (linkLimit - k)
  exact ⟨0 + (linkLimit - k), by rwa [Nat.add_sub_cancel' hk] at ha⟩

/-- The location and the number of links of a path are known. -/
theorem LeadsOver.unique (h : t.LeadsOver p l k) (h' : t.LeadsOver p d j) : l = d ∧ k = j := by
  have hl := Entry.Goes.addLinks h j
  have hd := Entry.Goes.addLinks h' k
  rw [Nat.add_comm j k] at hd
  obtain ⟨hk, hld, -⟩ := Walker.mk.inj (hl.unique hd rfl rfl)
  exact ⟨hld, Nat.add_left_cancel hk.symm⟩

theorem LeadsOver.extends (h : t.LeadsOver p l k) (he : t.root.Extends t'.root)
    (hw : t'.workingDirectory = t.workingDirectory) : t'.LeadsOver p l k := by
  rw [LeadsOver, start, hw]
  exact Entry.Goes.extends h he

/-- A path with the same names that count leads over the same links. -/
theorem LeadsOver.of_same (h : t.LeadsOver p l k) (h' : t.Leads q d) (hq : q.absolute = true)
    (hs : q.same p = true) : t.LeadsOver q l k := by
  obtain ⟨j, -, hj⟩ := h'.exists_over
  obtain ⟨ha, hn⟩ := Path.same_iff.mp hs
  rw [Path.parts_of_absolute hq, Path.parts_of_absolute (ha ▸ hq)] at hn
  have hp' := (Entry.Goes.filter h rfl).addLinks j
  have hq' := (Entry.Goes.filter hj rfl).addLinks k
  simp only [start, hn, ha, Nat.add_comm j k] at hp' hq'
  obtain ⟨hk, rfl, -⟩ := Walker.mk.inj (hp'.unique hq' rfl rfl)
  obtain rfl := Nat.add_left_cancel hk
  exact hj

/-! ## What is read over links -/

theorem LeadsOver.read (h : t.LeadsOver p l k) (hp : p ≠ ⟨false, []⟩) (hc : p.Clean)
    {b : ByteArray} {x : Bool} (hl : t.root.node? l = some (.file b x)) :
    t.read p = if k ≤ linkLimit then .ok b else .error .tooManyLinks := by
  split
  · next hk => exact read_eq_ok_iff.mpr ⟨hp, hc, l, x, h.leads hk, hl⟩
  · next hk =>
    have hw := Entry.Goes.walk_tooMany h rfl (j := linkLimit) (by simp only; omega)
    simp [Tree.read, Tree.entry, Tree.reach, spot_eq true hp hc, hw, bind, Except.bind, Except.map]

/-! ## Entries of a directory -/

theorem LeadsOver.stem (h : t.LeadsOver p d k) :
    Entry.Goes t.root ⟨k, t.start p, p.stem⟩ ⟨0, d, []⟩ := by
  obtain ⟨bs, hbs, hb⟩ := p.names_eq_stem_append
  obtain ⟨k₁, l₁, h₁, h₂⟩ := Entry.Goes.split h p.stem hbs rfl
  rcases hb with rfl | rfl
  · cases h₂ with
    | refl => exact h₁
    | next s _ => exact absurd rfl s.ne_nil
  · obtain ⟨rfl, rfl⟩ := h₂.over_dot (.inl rfl)
    exact h₁

theorem LeadsOver.child {x : Node} (h : t.LeadsOver p d k) (hn : Path.Literal n)
    (hx : t.root.node? (d ++ [n]) = some x) (hl : ∀ q, x ≠ .link q) :
    t.LeadsOver (p.child n) (d ++ [n]) k := by
  rw [LeadsOver, Path.child_eq hn]
  exact h.stem.join (.next (.down hn.toNamed hx hl) (.refl _))

/-- The path of a link to an absolute path leads over the link and then over those of its target. -/
theorem LeadsOver.link (h : t.LeadsOver p d k) (hn : Path.Literal n)
    (hq : t.root.node? (d ++ [n]) = some (.link q)) (ha : q.absolute = true)
    (h' : t.LeadsOver q l j) : t.LeadsOver (p.child n) l (k + 1 + j) := by
  have hs := h.stem.addLinks (1 + j)
  rw [LeadsOver, Path.child_eq hn]
  have hg : Entry.Goes t.root ⟨j, if q.absolute then [] else d, q.names ++ []⟩ ⟨0, l, []⟩ := by
    have hstart : t.start q = if q.absolute then [] else d := by rw [start, ha]; rfl
    rw [List.append_nil, ← hstart]
    exact h'
  have hf : Entry.Goes t.root ⟨0 + (1 + j), d, [n]⟩ ⟨0, l, []⟩ := by
    rw [Nat.zero_add, Nat.add_comm]
    exact .next (.follow hn.toNamed hq) hg
  rw [Nat.add_assoc]
  exact hs.join hf

/-! ## The directory of a file -/

/-- Names of the directory, and then one that counts. -/
structure EntryOf (q : Path) (n : String) (p : Path) : Prop where
  absolute : q.absolute = p.absolute
  names : ∃ bs, p.names = q.names ++ (bs ++ [n]) ∧ ∀ b ∈ bs, b = "" ∨ b = "."
  named : Named n

/-- Names that do not count lead nowhere else. -/
theorem goes_dots {root : Entry} {bs : List String} {k : Nat} (hd : root.node? d = some .directory)
    (hb : ∀ b ∈ bs, b = "" ∨ b = ".") : Entry.Goes root ⟨k, d, bs⟩ ⟨k, d, []⟩ := by
  induction bs with
  | nil => exact .refl _
  | cons b bs ih =>
    exact .next (.stay hd (hb b (.head _))) (ih fun c hc => hb c (.tail _ hc))

theorem goes_dots_eq {root : Entry} {bs : List String} {k j : Nat}
    (h : Entry.Goes root ⟨k, d, bs⟩ ⟨j, l, []⟩) (hb : ∀ b ∈ bs, b = "" ∨ b = ".") :
    j = k ∧ l = d := by
  have hf := h.filter rfl
  rw [Path.filter_eq_nil_of_dots hb] at hf
  cases hf with
  | refl => exact ⟨rfl, rfl⟩
  | next s _ => exact absurd rfl s.ne_nil

theorem LeadsOver.entry {x : Node} (h : t.LeadsOver q d k) (hp : EntryOf q n p)
    (hx : t.root.node? (d ++ [n]) = some x) (hl : ∀ q, x ≠ .link q) :
    t.LeadsOver p (d ++ [n]) k := by
  obtain ⟨bs, hbs, hb⟩ := hp.names
  have hd : t.root.node? d = some .directory :=
    Entry.node?_parent (List.cons_ne_nil n []) (by simp [hx])
  have hs : t.start p = t.start q := by rw [start, start, hp.absolute]
  rw [LeadsOver, hbs, hs]
  exact h.join ((goes_dots hd hb).join (.next (.down hp.named hx hl) (.refl _)))

/-- The last name that counts is that of the file, if the walk stops at a last link. -/
theorem last_of_file {root : Entry} {e : Location} {m : String} {cs : List String} {s : Spot}
    {b : ByteArray} {x : Bool} (hm : m ≠ "" ∧ m ≠ ".") (hcs : ∀ c ∈ cs, c = "" ∨ c = ".")
    (h : Entry.Goes root ⟨k, e, m :: cs⟩ ⟨j, d ++ [n], []⟩)
    (hx : root.node? (d ++ [n]) = some (.file b x))
    (hs : root.walk false k e (m :: cs) = .ok s) (he : s.entry = some (.file b x)) :
    cs = [] ∧ e = d ∧ m = n ∧ Named n := by
  obtain ⟨k₁, e₁, h₁, h₂⟩ := h.split [m] rfl rfl
  obtain ⟨-, rfl⟩ := goes_dots_eq h₂ hcs
  have hnil : cs = [] := by
    cases h₂ with
    | refl => rfl
    | next s _ =>
      have hd := s.directory
      rw [hx] at hd
      cases hd
  subst hnil
  refine ⟨rfl, ?_⟩
  cases h₁ with
  | next s hg =>
    have hdir := s.directory
    cases s with
    | stay _ hn => exact absurd hn (not_or.mpr hm)
    | up _ =>
      -- The directory above is no file.
      have hl : d ++ [n] = e.dropLast := (goes_dots_eq hg nofun).2
      rcases List.eq_nil_or_concat e with rfl | ⟨e, c, rfl⟩
      · simp at hl
      · rw [List.concat_eq_append] at hdir hl
        rw [List.dropLast_concat] at hl
        have := Entry.node?_parent (List.cons_ne_nil c []) (by rw [hdir]; simp)
        rw [← hl, hx] at this
        cases this
    | down hn _ _ =>
      have hl : d ++ [n] = e ++ [m] := (goes_dots_eq hg nofun).2
      obtain ⟨rfl, hmn⟩ := List.append_inj' hl rfl
      obtain rfl := (List.cons.inj hmn).1
      exact ⟨rfl, rfl, hn⟩
    | @follow k _ _ _ q hn hq =>
      rw [Entry.walk_named false (k + 1) hn hdir, Entry.node?_eq_some_link.mp hq] at hs
      simp only [Bool.not_false, Bool.and_true, decide_true, ↓reduceIte, Except.ok.injEq] at hs
      subst hs
      cases he

theorem exists_spot_of_reach {follow : Bool} {e : Entry} (h : t.reach follow p = .ok (l, e)) :
    ∃ s, t.spot follow p = .ok s ∧ s.location = l ∧ s.entry = some e := by
  rcases hs : t.spot follow p with f | s
  · simp [Tree.reach, hs, bind, Except.bind] at h
  rw [Tree.reach, hs] at h
  rcases he : s.entry with _ | e'
  · simp [he, bind, Except.bind] at h
  · obtain ⟨hl, rfl⟩ : s.location = l ∧ e' = e := by
      simpa [he, bind, Except.bind, pure, Except.pure] using h
    exact ⟨s, rfl, hl, he⟩

/-- No link is left over before a file. -/
theorem goes_of_walk_file {root : Entry} {e : Location} {ns : List String} {s : Spot}
    {b : ByteArray} {x : Bool} (h : root.walk false k e ns = .ok s)
    (he : s.entry = some (.file b x)) :
    ∃ j, Entry.Goes root ⟨k, e, ns⟩ ⟨j, s.location, []⟩ ∧
      root.node? s.location = some (.file b x) := by
  obtain ⟨w, hw, hend⟩ := Entry.exists_goes_of_walk h
  cases hend with
  | @there j l => exact ⟨j, hw, Entry.node?_eq_some_file.mpr he⟩
  | link _ _ _ => cases he
  | missing _ _ _ _ => cases he

/-- A file that is reached without a link at the end is an entry of its directory. -/
theorem entryOf_of_reach {b : ByteArray} {x : Bool} (ha : p.absolute = true)
    (h : t.reach false p = .ok (d ++ [n], .file b x)) :
    p ≠ ⟨false, []⟩ ∧ p.Clean ∧ EntryOf p.directory n p ∧ t.Opens p.directory d ∧
      t.root.node? (d ++ [n]) = some (.file b x) := by
  obtain ⟨s, hs, hloc, hent⟩ := exists_spot_of_reach h
  obtain ⟨hp, hc⟩ := clean_of_spot hs
  rw [spot_eq false hp hc] at hs
  obtain ⟨k, hw, hx⟩ := goes_of_walk_file hs hent
  rw [hloc] at hw hx
  rcases hq : p.parent? with _ | q
  · -- Without names that count the path would lead to the root.
    have hr := (goes_dots_eq hw (Path.names_of_no_parent hq)).2
    simp [start, ha] at hr
  obtain ⟨hqa, m, bs, cs, hns, hm, hdots⟩ := Path.names_of_parent?_counted hq
  have hbs : ∀ c ∈ bs, c = "" ∨ c = "." := fun c hc => hdots c (List.mem_append_left _ hc)
  have hcs : ∀ c ∈ cs, c = "" ∨ c = "." := fun c hc => hdots c (List.mem_append_right _ hc)
  rw [List.append_assoc] at hns
  obtain ⟨k₁, e, h₁, h₂⟩ := hw.split q.names hns rfl
  obtain ⟨k₂, e₂, h₃, h₄⟩ := h₂.split bs rfl rfl
  obtain ⟨rfl, rfl⟩ := goes_dots_eq h₃ hbs
  have hs₁ : t.root.walk false k₂ e₂ (m :: cs) = .ok s := by
    rw [hns] at hs
    rw [h₁.walk_eq (.inr (by simp))] at hs
    rw [← hs]
    exact (h₃.walk_eq (.inr (List.cons_ne_nil m cs))).symm
  obtain ⟨rfl, rfl, rfl, hnamed⟩ := last_of_file ⟨hm.1, hm.2 ha⟩ hcs h₄ hx hs₁ hent
  have hclean : q.Clean := by
    rw [Path.Clean, hns, List.any_append, Bool.or_eq_false_iff] at hc
    exact hc.1
  have hstart : t.start q = t.start p := by rw [start, start, hqa]
  rw [Path.directory, hq, Option.getD_some]
  refine ⟨hp, hc, ⟨hqa, ⟨bs, hns, hbs⟩, hnamed⟩,
    ⟨hclean, ⟨k₂, by rw [hstart]; exact h₁⟩, ?_⟩, hx⟩
  exact Entry.node?_parent (List.cons_ne_nil m []) (by simp [hx])

end Tree

end TaskDriver.Files
