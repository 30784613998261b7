import TaskDriver.Proofs.Files.Lead

/-! What the changes of a tree do: each sets what stands at one location. What is written to a path
is read from it afterwards, and only what is taken away can make a path lead nowhere. -/
namespace TaskDriver.Files

namespace Tree

/-- The second tree has this at the location, and all else from the first one. -/
structure Sets (t : Tree) (l : Location) (y : Option Node) (t' : Tree) : Prop where
  working : t'.workingDirectory = t.workingDirectory
  node? : ∀ m, t'.root.node? m = if m = l then y else t.root.node? m

variable {t t' : Tree} {p q : Path} {l d m : Location} {n : String} {y : Option Node}

theorem Sets.here (h : t.Sets l y t') : t'.root.node? l = y := by
  rw [h.node?, if_pos rfl]

theorem Sets.elsewhere (h : t.Sets l y t') (hm : m ≠ l) : t'.root.node? m = t.root.node? m := by
  rw [h.node?, if_neg hm]

theorem sets_self (h : t.root.node? l = y) : t.Sets l y t := by
  refine ⟨rfl, fun m => ?_⟩
  split
  · next hm => rw [hm, h]
  · rfl

theorem Sets.extends {x : Node} (h : t.Sets l (some x) t')
    (hx : ∀ z, t.root.node? l = some z → z.Alike x) : t.root.Extends t'.root := by
  intro m z hz
  by_cases hm : m = l
  · subst hm
    exact ⟨x, h.here, hx z hz⟩
  · exact ⟨z, by rw [h.elsewhere hm, hz], .refl z⟩

theorem Sets.extends_of_none (h : t.Sets l none t') : t'.root.Extends t.root := by
  intro m z hz
  by_cases hm : m = l
  · subst hm
    rw [h.here] at hz
    cases hz
  · exact ⟨z, by rw [← h.elsewhere hm, hz], .refl z⟩

/-- There is nothing at the location, or a file. -/
def Plain (t : Tree) (l : Location) : Prop :=
  ∀ z, t.root.node? l = some z → ∃ b x, z = .file b x

theorem Sets.extends_of_plain {b : ByteArray} {x : Bool} (h : t.Sets l (some (.file b x)) t')
    (hp : t.Plain l) : t.root.Extends t'.root := by
  refine h.extends fun z hz => ?_
  obtain ⟨b', x', rfl⟩ := hp z hz
  exact .file

theorem plain_of_none (h : t.root.node? l = none) : t.Plain l := by
  intro z hz
  rw [h] at hz
  cases hz

theorem plain_of_file {b : ByteArray} {x : Bool} (h : t.root.node? l = some (.file b x)) :
    t.Plain l := by
  intro z hz
  cases h.symm.trans hz
  exact ⟨b, x, rfl⟩

theorem Plain.congr (h : t.Plain l) (hs : t'.root.node? l = t.root.node? l) : t'.Plain l :=
  fun z hz => h z (hs ▸ hz)

theorem Plain.not_directory (h : t.Plain l) : t.root.node? l ≠ some .directory := by
  intro hl
  obtain ⟨_, _, hf⟩ := h _ hl
  cases hf

theorem sets_put_file (hd : t.root.node? d = some .directory) (ho : t.Plain (d ++ [n]))
    (b : ByteArray) (x : Bool) :
    t.Sets (d ++ [n]) (some (.file b x)) (t.put (d ++ [n]) (.file b x)) :=
  ⟨rfl, Entry.node?_put_leaf hd (Entry.leaf_file b x) ho.not_directory⟩

theorem sets_put_missing {e : Entry} (hd : t.root.node? d = some .directory) (he : e.Leaf)
    (hm : t.root.node? (d ++ [n]) = none) :
    t.Sets (d ++ [n]) (some e.node) (t.put (d ++ [n]) e) :=
  ⟨rfl, Entry.node?_put_leaf hd he (by simp [hm])⟩

/-! ## Writing -/

/-- Where something is written: at a file that is there, or at a missing place in a directory. -/
theorem write_ok {b : ByteArray} {x : Option Bool} (h : t.write p b x = .ok t') :
    ∃ l c, t.Sets l (some (.file b c)) t' ∧ t.Plain l ∧ p ≠ ⟨false, []⟩ ∧ p.Clean ∧ t'.Leads p l := by
  rcases hs : t.spot true p with f | s
  · simp [write, hs, bind, Except.bind] at h
  · obtain ⟨hp, hc⟩ := clean_of_spot hs
    rw [write, hs] at h
    rw [spot_eq true hp hc] at hs
    obtain ⟨w, hw, he⟩ := Entry.exists_goes_of_walk hs
    cases he with
    | @there k l =>
      rcases hl : t.root.find? l with _ | (⟨b', x'⟩ | q | es)
      · exact absurd (Entry.node?_eq_none.mpr hl) (Leads.node?_ne_none ⟨k, hw⟩ hp)
      · simp only [hl, bind, Except.bind, pure, Except.pure, Except.ok.injEq] at h
        subst h
        have hn := Entry.node?_eq_some_file.mpr hl
        have hset : t.Sets l (some (.file b (x.getD x'))) (t.put l (.file b (x.getD x'))) :=
          ⟨rfl, Entry.node?_put_file hn⟩
        have hplain := plain_of_file hn
        exact ⟨l, _, hset, hplain, hp, hc, Leads.extends ⟨k, hw⟩ (hset.extends_of_plain hplain) rfl⟩
      · simp [hl, bind, Except.bind] at h
      · simp [hl, bind, Except.bind] at h
    | link _ _ hf => cases hf
    | @missing k l n bs hn hl hm hb =>
      by_cases hbs : bs = []
      · subst hbs
        simp only [bind, Except.bind, pure, Except.pure, ne_eq, not_true_eq_false, decide_false,
          Bool.false_eq_true, ↓reduceIte, Except.ok.injEq] at h
        subst h
        have hplain := plain_of_none (Entry.node?_eq_none.mpr hm)
        have hset := sets_put_file hl hplain b (x.getD false)
        have hw' := hw.extends (hset.extends_of_plain hplain)
        exact ⟨l ++ [n], _, hset, hplain, hp, hc, k,
          hw'.trans (.next (.down hn hset.here (fun _ => Node.noConfusion)) (.refl _))⟩
      · simp [hbs, bind, Except.bind] at h

theorem read_write {b : ByteArray} {x : Option Bool} (h : t.write p b x = .ok t') :
    t'.read p = .ok b := by
  obtain ⟨l, c, hs, _, hp, hc, hl⟩ := write_ok h
  exact read_eq_ok_iff.mpr ⟨hp, hc, l, c, hl, hs.here⟩

/-- A file that can be read can be written. -/
theorem exists_write {b : ByteArray} (h : t.read p = .ok b) (b' : ByteArray) (x : Option Bool) :
    ∃ t', t.write p b' x = .ok t' := by
  obtain ⟨hp, hc, l, y, ⟨k, hk⟩, hl⟩ := read_eq_ok_iff.mp h
  have hs : t.spot true p = .ok { location := l, entry := t.root.find? l } := by
    rw [spot_eq true hp hc]
    exact hk.walk_ok .there
  simp [write, hs, Entry.node?_eq_some_file.mp hl, bind, Except.bind, pure, Except.pure]

/-- A file is copied whole, unless it is the target itself. -/
theorem read_copy (h : t.copy p q = .ok t') (hq : ∀ l, t.Leads p l → ¬ t.Leads q l) :
    t'.read q = t.read p := by
  rcases hr : t.reach true p with f | ⟨l, e⟩
  · simp [copy, hr, bind, Except.bind] at h
  obtain ⟨_, _, hl, he⟩ := leads_of_reach hr
  cases e with
  | file b x =>
    rcases hs : t.spot true q with f | s
    · simp [copy, hr, hs, bind, Except.bind] at h
    have hne : s.location ≠ l := by
      obtain ⟨hne, hc⟩ := clean_of_spot hs
      rw [spot_eq true hne hc] at hs
      obtain ⟨w, hw, hends⟩ := Entry.exists_goes_of_walk hs
      cases hends with
      | @there k m =>
        rintro rfl
        exact hq m hl ⟨k, hw⟩
      | link _ _ hf => cases hf
      | missing _ _ hm _ =>
        rintro rfl
        rw [he] at hm
        cases hm
    simp only [copy, hr, hs, hne, bind, Except.bind, ↓reduceIte] at h
    rw [read_write h]
    simp [read, entry, hr, Except.map, bind, Except.bind, pure, Except.pure]
  | link _ => simp [copy, hr, bind, Except.bind] at h
  | directory _ => simp [copy, hr, bind, Except.bind] at h

/-! ## Changes of the entries of a directory -/

theorem Opens.write_child (h : t.Opens p d) (hn : Path.Literal n) (ho : t.Plain (d ++ [n]))
    (b : ByteArray) (c : Option Bool) :
    ∃ x t', t.write (p.child n) b c = .ok t' ∧ t.Sets (d ++ [n]) (some (.file b x)) t' := by
  rcases hf : t.root.find? (d ++ [n]) with _ | e
  · have hm := Entry.node?_eq_none.mpr hf
    refine ⟨c.getD false, _, ?_, sets_put_file h.directory ho b _⟩
    simp [write, h.spot_missing hn hm, bind, Except.bind, pure, Except.pure]
  · obtain ⟨b', x, he⟩ := ho e.node (by rw [Entry.node?, hf, Option.map_some])
    cases e with
    | file b₀ x₀ =>
      refine ⟨c.getD x₀, _, ?_, sets_put_file h.directory ho b _⟩
      have hs := h.spot_entry hn hf true (fun _ _ => Entry.noConfusion)
      simp [write, hs, bind, Except.bind, pure, Except.pure]
    | link q => cases he
    | directory es => cases he

theorem write_child_ok {b : ByteArray} (hn : Path.Literal n)
    (hl : ∀ d, t.Opens p d → ∀ q, t.root.node? (d ++ [n]) ≠ some (.link q))
    (h : t.write (p.child n) b none = .ok t') :
    ∃ d x, t.Opens p d ∧ t.Plain (d ++ [n]) ∧ t.Sets (d ++ [n]) (some (.file b x)) t' := by
  rcases hs : t.spot true (p.child n) with f | s
  · simp [Tree.write, hs, bind, Except.bind] at h
  obtain ⟨d, ho⟩ := opens_of_spot_child hn hs
  have hplain : t.Plain (d ++ [n]) := by
    intro z hz
    cases z with
    | file b x => exact ⟨b, x, rfl⟩
    | link q => exact absurd hz (hl d ho q)
    | directory =>
      obtain ⟨es, hes⟩ := Entry.node?_eq_some_directory.mp hz
      simp [Tree.write, ho.spot_entry hn hes true (fun _ _ => Entry.noConfusion), bind,
        Except.bind] at h
  obtain ⟨x, t₁, h₁, hs₁⟩ := ho.write_child hn hplain b none
  cases h₁.symm.trans h
  exact ⟨d, x, ho, hplain, hs₁⟩

theorem Opens.copy_child {b : ByteArray} (h : t.Opens p d) (hn : Path.Literal n)
    (ho : t.Plain (d ++ [n])) (hr : t.read q = .ok b) : ∃ t', t.copy q (p.child n) = .ok t' := by
  obtain ⟨hne, hc, l, x, hl, hx⟩ := read_eq_ok_iff.mp hr
  have hreach := hl.reach hne hc (Entry.node?_eq_some_file.mp hx)
  rcases hs : t.spot true (p.child n) with f | s
  · obtain ⟨_, _, hw, _⟩ := h.write_child hn ho b none
    simp [write, hs, bind, Except.bind] at hw
  · obtain ⟨_, t', hw, _⟩ := h.write_child hn ho (if s.location = l then .empty else b) (some x)
    exact ⟨t', by simp only [copy, hreach, hs, bind, Except.bind, hw]⟩

theorem Opens.makeDirectory_child (h : t.Opens p d) (hn : Path.Literal n)
    (hm : t.root.node? (d ++ [n]) = none) :
    ∃ t', t.makeDirectory (p.child n) = .ok t' ∧ t.Sets (d ++ [n]) (some .directory) t' := by
  refine ⟨_, ?_, sets_put_missing h.directory Entry.leaf_empty hm⟩
  simp [makeDirectory, h.spot_missing hn hm, bind, Except.bind, pure, Except.pure]

theorem Opens.makeLink_child (h : t.Opens p d) (hn : Path.Literal n)
    (hm : t.root.node? (d ++ [n]) = none) (hq : q ≠ ⟨false, []⟩) :
    ∃ t', t.makeLink q (p.child n) = .ok t' ∧ t.Sets (d ++ [n]) (some (.link q)) t' := by
  refine ⟨_, ?_, sets_put_missing h.directory (Entry.leaf_link q) hm⟩
  simp [makeLink, h.spot_missing hn hm, hq, bind, Except.bind, pure, Except.pure]

theorem Opens.removeFile_child {y : Node} (h : t.Opens p d) (hn : Path.Literal n)
    (hy : t.root.node? (d ++ [n]) = some y) (ho : y ≠ .directory) :
    ∃ t', t.removeFile (p.child n) = .ok t' ∧ t.Sets (d ++ [n]) none t' := by
  obtain ⟨e, he, hey⟩ := Option.map_eq_some_iff.mp hy
  refine ⟨t.remove (d ++ [n]), ?_, rfl, Entry.node?_remove_leaf (by simpa [hy] using ho)⟩
  have hr := h.reach_itself hn he
  cases e with
  | file b x => simp [removeFile, hr, bind, Except.bind, pure, Except.pure]
  | link q => simp [removeFile, hr, bind, Except.bind, pure, Except.pure]
  | directory es => exact absurd hey.symm ho

theorem removeFile_ok (hn : Path.Literal n) (h : t.removeFile (p.child n) = .ok t') :
    ∃ d, t.Opens p d ∧ t.Sets (d ++ [n]) none t' := by
  rcases hs : t.spot false (p.child n) with f | s
  · simp [removeFile, reach, hs, bind, Except.bind] at h
  · obtain ⟨d, hd⟩ := opens_of_spot_child hn hs
    refine ⟨d, hd, ?_⟩
    rcases he : t.root.find? (d ++ [n]) with _ | e
    · simp [removeFile, reach, hd.spot_missing hn (Entry.node?_eq_none.mpr he), bind,
        Except.bind] at h
    · have hy : t.root.node? (d ++ [n]) = some e.node := by simp [Entry.node?, he]
      by_cases ho : e.node = .directory
      · obtain ⟨es, rfl⟩ : ∃ es, e = .directory es := by
          cases e with
          | directory es => exact ⟨es, rfl⟩
          | file b x => cases ho
          | link q => cases ho
        simp [removeFile, hd.reach_itself hn he, bind, Except.bind] at h
      · obtain ⟨t₁, h₁, hs₁⟩ := hd.removeFile_child hn hy ho
        cases h.symm.trans h₁
        exact hs₁

theorem makeLink_ok (hn : Path.Literal n) (h : t.makeLink q (p.child n) = .ok t') :
    ∃ d, t.Opens p d ∧ t.root.node? (d ++ [n]) = none ∧ t.Sets (d ++ [n]) (some (.link q)) t' := by
  rcases hs : t.spot false (p.child n) with f | s
  · simp [makeLink, hs, bind, Except.bind] at h
  · obtain ⟨d, hd⟩ := opens_of_spot_child hn hs
    rcases he : t.root.find? (d ++ [n]) with _ | e
    · have hm := Entry.node?_eq_none.mpr he
      by_cases hq : q = ⟨false, []⟩
      · simp [makeLink, hd.spot_missing hn hm, hq, bind, Except.bind] at h
      · obtain ⟨t₁, h₁, hs₁⟩ := hd.makeLink_child hn hm hq
        cases h.symm.trans h₁
        exact ⟨d, hd, hm, hs₁⟩
    · simp [makeLink, hd.spot_itself hn he, bind, Except.bind] at h

/-- A file is dropped whether or not it is there. -/
theorem Opens.dropFile_child (h : t.Opens p d) (hn : Path.Literal n)
    (ho : t.root.node? (d ++ [n]) ≠ some .directory) :
    ∃ t', dropFile (p.child n) t = (.ok (), t') ∧ t.Sets (d ++ [n]) none t' := by
  rcases hy : t.root.node? (d ++ [n]) with _ | y
  · refine ⟨t, ?_, sets_self hy⟩
    simp [dropFile, Procedure.change, removeFile, reach, h.spot_missing hn hy, bind, Except.bind]
  · obtain ⟨t', ht, hs⟩ := h.removeFile_child hn hy (by simpa [hy] using ho)
    exact ⟨t', by simp [dropFile, Procedure.change, ht], hs⟩

theorem Opens.makeDirectories_child (h : t.Opens p d) (hn : Path.Literal n)
    (ho : ∀ y, t.root.node? (d ++ [n]) = some y → y = .directory) :
    ∃ t', makeDirectories (p.child n) t = (.ok (), t') ∧
      t.Sets (d ++ [n]) (some .directory) t' := by
  rcases hy : t.root.node? (d ++ [n]) with _ | y
  · obtain ⟨t', ht, hs⟩ := h.makeDirectory_child hn hy
    exact ⟨t', by rw [makeDirectories, ht], hs⟩
  · obtain rfl := ho y hy
    obtain ⟨es, hes⟩ := Entry.node?_eq_some_directory.mp hy
    have hm : t.makeDirectory (p.child n) = .error .alreadyThere := by
      simp [makeDirectory, h.spot_itself hn hes, bind, Except.bind]
    refine ⟨t, ?_, sets_self hy⟩
    rw [makeDirectories, hm]
    simp [(h.child hn hy).isDirectory (Path.child_ne_empty hn p)]

/-- Below a directory that is there, at most one directory is made. -/
theorem Opens.makeDirectories_cases (h : t.Opens p d) (hn : Path.Literal n) :
    (makeDirectories (p.child n) t).2 = t ∨
      t.root.node? (d ++ [n]) = none ∧
        t.Sets (d ++ [n]) (some .directory) (makeDirectories (p.child n) t).2 := by
  rcases he : t.root.find? (d ++ [n]) with _ | e
  · have hm := Entry.node?_eq_none.mpr he
    obtain ⟨t', ht, hs⟩ := h.makeDirectory_child hn hm
    exact .inr ⟨hm, by rw [makeDirectories, ht]; exact hs⟩
  · have hm : t.makeDirectory (p.child n) = .error .alreadyThere := by
      simp [makeDirectory, h.spot_itself hn he, bind, Except.bind]
    exact .inl (by rw [makeDirectories, hm]; rfl)

/-- Where the root is no directory, nothing is made. -/
theorem makeDirectories_of_root (hr : t.root.node? [] ≠ some .directory) (hn : Path.Literal n) :
    (makeDirectories (p.child n) t).2 = t := by
  have hs : ∃ f, t.spot false (p.child n) = .error f ∧ f ≠ .missing := by
    by_cases hc : (p.child n).Clean
    · refine ⟨.notDirectory, ?_, by decide⟩
      obtain ⟨m, ms, hms⟩ := List.exists_cons_of_ne_nil (l := p.stem ++ [n]) (by simp)
      rw [spot_eq false (Path.child_ne_empty hn p) hc, Path.child_eq hn, hms]
      exact Entry.walk_of_root hr
    · have hc : (p.child n).names.any (·.toList.contains '\x00') = true := by
        simpa [Path.Clean] using hc
      exact ⟨.zeroInPath, by rw [spot, if_neg (Path.child_ne_empty hn p), if_pos hc], by decide⟩
  obtain ⟨f, hf, hne⟩ := hs
  have hm : t.makeDirectory (p.child n) = .error f := by
    simp [makeDirectory, hf, bind, Except.bind]
  rw [makeDirectories, hm]
  simp [hne]

theorem Opens.removeAll_missing (h : t.Opens p d) (hn : Path.Literal n)
    (hm : t.root.node? (d ++ [n]) = none) : t.removeAll (p.child n) = .error .missing := by
  simp [removeAll, reach, h.spot_missing hn hm, bind, Except.bind]

theorem Opens.removeAll_child (h : t.Opens p d) (hn : Path.Literal n)
    (hd : t.root.node? (d ++ [n]) = some .directory) :
    t.removeAll (p.child n) = .ok (t.remove (d ++ [n])) := by
  obtain ⟨es, hes⟩ := Entry.node?_eq_some_directory.mp hd
  simp [removeAll, h.reach_itself hn hes, bind, Except.bind, pure, Except.pure]

end Tree

end TaskDriver.Files
