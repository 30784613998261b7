import TaskDriver.Proofs.Files.Walk

/-! Where a path leads. A path that leads to a location in one tree leads to it in every tree with
more in it; a path of an entry leads to what stands below the directory that its first part leads
to. -/
namespace TaskDriver.Files

namespace Path

/-- The path holds no character that the system refuses. -/
def Clean (p : Path) : Prop :=
  p.names.any (·.toList.contains '\x00') = false

/-- The names before that of an entry of the directory. -/
def stem (p : Path) : List String :=
  if p.names.getLast? = some "" then p.names.dropLast else p.names

/-- A name that is its own path. -/
structure Literal (n : String) : Prop extends Named n where
  ofText_eq : ofText n = ⟨false, [n]⟩
  clean : n.toList.contains '\x00' = false

instance (n : String) : Decidable (Literal n) :=
  decidable_of_iff (Named n ∧ ofText n = ⟨false, [n]⟩ ∧ n.toList.contains '\x00' = false)
    ⟨fun h => ⟨h.1, h.2.1, h.2.2⟩, fun h => ⟨h.toNamed, h.ofText_eq, h.clean⟩⟩

theorem child_eq {n : String} (hn : Literal n) (p : Path) :
    p.child n = ⟨p.absolute, p.stem ++ [n]⟩ := by
  unfold child join stem
  rw [hn.ofText_eq]
  by_cases hp : p.names = []
  · simp [hp]
  · simp [hp]

theorem child_ne_empty {n : String} (hn : Literal n) (p : Path) : p.child n ≠ ⟨false, []⟩ := by
  rw [child_eq hn]
  simp

theorem names_eq_stem_append (p : Path) :
    ∃ bs, p.names = p.stem ++ bs ∧ (bs = [] ∨ bs = [""]) := by
  unfold stem
  split
  · next h =>
    obtain ⟨ns, hns⟩ := List.getLast?_eq_some_iff.mp h
    exact ⟨[""], by rw [hns]; simp, .inr rfl⟩
  · exact ⟨[], by simp, .inl rfl⟩

theorem Clean.child {n : String} (hn : Literal n) {p : Path} (h : p.Clean) : (p.child n).Clean := by
  obtain ⟨bs, hbs, _⟩ := p.names_eq_stem_append
  rw [Clean, hbs, List.any_append, Bool.or_eq_false_iff] at h
  rw [Clean, child_eq hn, List.any_append, h.1, List.any_cons, hn.clean]
  rfl

theorem cut_spec (absolute : Bool) (ns : List String) :
    ∃ bs, ns = bs ++ cut absolute ns ∧ ∀ b ∈ bs, b = "" ∨ b = "." := by
  induction ns with
  | nil => exact ⟨[], rfl, by simp⟩
  | cons n ns ih =>
    unfold cut
    split
    · next hn =>
      obtain ⟨bs, hbs, hb⟩ := ih
      have hn : n = "" ∨ n = "." := by
        simp only [Bool.or_eq_true, Bool.and_eq_true, decide_eq_true_eq] at hn
        exact hn.imp id And.left
      exact ⟨n :: bs, congrArg (n :: ·) hbs, List.forall_mem_cons.mpr ⟨hn, hb⟩⟩
    · exact ⟨[], rfl, by simp⟩

theorem cut_head {absolute : Bool} {n : String} {ns ms : List String}
    (h : cut absolute ns = n :: ms) : n ≠ "" ∧ (absolute = true → n ≠ ".") := by
  induction ns with
  | nil => cases h
  | cons m ns ih =>
    rw [cut] at h
    split at h
    · exact ih h
    · next hm =>
      cases h
      simp only [Bool.or_eq_true, Bool.and_eq_true, decide_eq_true_eq, not_or, not_and] at hm
      exact ⟨hm.1, fun ha he => (hm.2 he).1 ha⟩

/-- The names of the parent come first, then one name that counts, among others that do not. -/
theorem names_of_parent?_counted {p q : Path} (h : p.parent? = some q) :
    q.absolute = p.absolute ∧ ∃ n bs cs, p.names = q.names ++ bs ++ n :: cs ∧
      (n ≠ "" ∧ (p.absolute = true → n ≠ ".")) ∧ ∀ b ∈ bs ++ cs, b = "" ∨ b = "." := by
  unfold parent? at h
  obtain ⟨cs, hcs, hc⟩ := cut_spec p.absolute p.names.reverse
  split at h
  · cases h
  · next n ns hn =>
    cases h
    obtain ⟨bs, hbs, hb⟩ := cut_spec p.absolute ns
    refine ⟨rfl, n, bs.reverse, cs.reverse, ?_, cut_head hn, ?_⟩
    · have hr : ns.reverse = (cut p.absolute ns).reverse ++ bs.reverse := by
        rw [← List.reverse_append, ← hbs]
      have hp := congrArg List.reverse hcs
      rw [hn, List.reverse_reverse, List.reverse_append, List.reverse_cons, hr] at hp
      simpa using hp
    · intro b hmem
      rcases List.mem_append.mp hmem with hmem | hmem
      · exact hb b (List.mem_reverse.mp hmem)
      · exact hc b (List.mem_reverse.mp hmem)

theorem names_of_parent? {p q : Path} (h : p.parent? = some q) :
    q.absolute = p.absolute ∧ ∃ ms, ms ≠ [] ∧ p.names = q.names ++ ms := by
  obtain ⟨ha, n, bs, cs, hns, _⟩ := names_of_parent?_counted h
  exact ⟨ha, bs ++ n :: cs, by simp, by rw [hns, List.append_assoc]⟩

theorem names_of_no_parent {p : Path} (h : p.parent? = none) :
    ∀ n ∈ p.names, n = "" ∨ n = "." := by
  unfold parent? at h
  obtain ⟨bs, hbs, hb⟩ := cut_spec p.absolute p.names.reverse
  split at h
  · next hc =>
    rw [hc, List.append_nil] at hbs
    intro n hn
    exact hb n (by rw [← hbs]; exact List.mem_reverse.mpr hn)
  · cases h

theorem filter_eq_nil_of_dots {ns : List String} (h : ∀ n ∈ ns, n = "" ∨ n = ".") :
    ns.filter (fun n => n ≠ "" && n ≠ ".") = [] := by
  rw [List.filter_eq_nil_iff]
  intro n hn
  rcases h n hn with rfl | rfl <;> decide

theorem same_iff {p q : Path} : p.same q = true ↔ p.absolute = q.absolute ∧ p.parts = q.parts := by
  simp [same]

theorem parts_of_absolute {p : Path} (h : p.absolute = true) :
    p.parts = p.names.filter fun n => n ≠ "" && n ≠ "." := by
  unfold parts
  split
  · next hn => rw [hn, List.filter_nil]
  · next hn => simp [h, hn]

end Path

namespace Tree

def start (t : Tree) (p : Path) : Location :=
  if p.absolute then [] else t.workingDirectory

/-- The path leads to the location, with all links followed. -/
def Leads (t : Tree) (p : Path) (l : Location) : Prop :=
  ∃ k, Entry.Goes t.root ⟨linkLimit, t.start p, p.names⟩ ⟨k, l, []⟩

variable {t t' : Tree} {p q : Path} {l d : Location} {n : String}

theorem spot_eq (follow : Bool) (hp : p ≠ ⟨false, []⟩) (hc : p.Clean) :
    t.spot follow p = t.root.walk follow linkLimit (t.start p) p.names := by
  unfold spot
  rw [if_neg hp, hc]
  rfl

theorem clean_of_spot {follow : Bool} {s : Spot} (h : t.spot follow p = .ok s) :
    p ≠ ⟨false, []⟩ ∧ p.Clean := by
  unfold spot at h
  split at h
  · cases h
  · next hp =>
    split at h
    · cases h
    · next hc => exact ⟨hp, by simpa [Path.Clean] using hc⟩

/-- Only an absolute path can do without names. -/
theorem absolute_of_names_nil (hp : p ≠ ⟨false, []⟩) (hn : p.names = []) : p.absolute = true := by
  obtain ⟨a, ns⟩ := p
  cases a
  · exact absurd (congrArg (Path.mk false) hn) hp
  · rfl

theorem Leads.unique (h : t.Leads p l) (h' : t.Leads p d) : l = d := by
  obtain ⟨k, hk⟩ := h
  obtain ⟨j, hj⟩ := h'
  have := (hk.walk_ok .there).symm.trans (hj.walk_ok .there)
  cases this
  rfl

/-- Paths with the same names that count lead to the same place. -/
theorem Leads.unique_of_same (h : t.Leads p l) (h' : t.Leads q d) (hp : p.absolute = true)
    (hs : p.same q = true) : l = d := by
  obtain ⟨ha, hn⟩ := Path.same_iff.mp hs
  rw [Path.parts_of_absolute hp, Path.parts_of_absolute (ha ▸ hp)] at hn
  obtain ⟨k, hk⟩ := h
  obtain ⟨j, hj⟩ := h'
  have hk' := (hk.filter rfl).walk_ok .there
  have hj' := (hj.filter rfl).walk_ok .there
  simp only [hn, start, ha] at hk' hj'
  cases hk'.symm.trans hj'
  rfl

theorem Leads.reach {e : Entry} (h : t.Leads p l) (hp : p ≠ ⟨false, []⟩) (hc : p.Clean)
    (he : t.root.find? l = some e) : t.reach true p = .ok (l, e) := by
  obtain ⟨k, hk⟩ := h
  have hs : t.spot true p = .ok { location := l, entry := t.root.find? l } := by
    rw [spot_eq true hp hc]
    exact hk.walk_ok .there
  rw [Tree.reach, hs]
  simp [he, bind, Except.bind, pure, Except.pure]

theorem leads_of_reach {e : Entry} (h : t.reach true p = .ok (l, e)) :
    p ≠ ⟨false, []⟩ ∧ p.Clean ∧ t.Leads p l ∧ t.root.find? l = some e := by
  rcases hs : t.spot true p with f | s
  · simp [Tree.reach, hs, bind, Except.bind] at h
  · obtain ⟨hp, hc⟩ := clean_of_spot hs
    rw [Tree.reach, hs] at h
    rw [spot_eq true hp hc] at hs
    obtain ⟨w, hw, he⟩ := Entry.exists_goes_of_walk hs
    refine ⟨hp, hc, ?_⟩
    cases he with
    | @there k l =>
      rcases hl : t.root.find? l with _ | e'
      · simp [hl, bind, Except.bind] at h
      · simp only [hl, bind, Except.bind, pure, Except.pure] at h
        cases h
        exact ⟨⟨k, hw⟩, hl⟩
    | link _ _ hf => cases hf
    | missing _ _ _ _ => simp [bind, Except.bind] at h

theorem read_eq_ok_iff {b : ByteArray} :
    t.read p = .ok b ↔ p ≠ ⟨false, []⟩ ∧ p.Clean ∧
      ∃ l x, t.Leads p l ∧ t.root.node? l = some (.file b x) := by
  constructor
  · intro h
    rcases hr : t.reach true p with f | ⟨l, e⟩
    · simp [read, entry, hr, Except.map, bind, Except.bind] at h
    · obtain ⟨hp, hc, hl, he⟩ := leads_of_reach hr
      refine ⟨hp, hc, l, ?_⟩
      cases e with
      | file b' x =>
        simp only [read, entry, hr, Except.map, bind, Except.bind, pure, Except.pure] at h
        cases h
        exact ⟨x, hl, Entry.node?_eq_some_file.mpr he⟩
      | link q => simp [read, entry, hr, Except.map, bind, Except.bind] at h
      | directory es => simp [read, entry, hr, Except.map, bind, Except.bind] at h
  · rintro ⟨hp, hc, l, x, hl, hx⟩
    have := hl.reach hp hc (Entry.node?_eq_some_file.mp hx)
    simp [read, entry, this, Except.map, bind, Except.bind, pure, Except.pure]

theorem isFile_iff : t.isFile p = true ↔ ∃ b, t.read p = .ok b := by
  unfold isFile read
  rcases t.entry true p with f | (_ | _ | _) <;>
    simp [bind, Except.bind, pure, Except.pure]

theorem isDirectory_iff :
    t.isDirectory p = true ↔ p ≠ ⟨false, []⟩ ∧ p.Clean ∧
      ∃ l, t.Leads p l ∧ t.root.node? l = some .directory := by
  constructor
  · intro h
    rcases hr : t.reach true p with f | ⟨l, e⟩
    · simp [isDirectory, entry, hr, Except.map] at h
    · obtain ⟨hp, hc, hl, he⟩ := leads_of_reach hr
      cases e with
      | directory es => exact ⟨hp, hc, l, hl, Entry.node?_eq_some_directory.mpr ⟨es, he⟩⟩
      | file b x => simp [isDirectory, entry, hr, Except.map] at h
      | link q => simp [isDirectory, entry, hr, Except.map] at h
  · rintro ⟨hp, hc, l, hl, hd⟩
    obtain ⟨es, hes⟩ := Entry.node?_eq_some_directory.mp hd
    simp [isDirectory, entry, hl.reach hp hc hes, Except.map]

theorem Leads.extends (h : t.Leads p l) (he : t.root.Extends t'.root)
    (hw : t'.workingDirectory = t.workingDirectory) : t'.Leads p l := by
  obtain ⟨k, hk⟩ := h
  refine ⟨k, ?_⟩
  rw [start, hw]
  exact hk.extends he

theorem Leads.node?_ne_none (h : t.Leads p l) (hp : p ≠ ⟨false, []⟩) : t.root.node? l ≠ none := by
  obtain ⟨k, hk⟩ := h
  rcases hns : p.names with _ | ⟨n, ns⟩
  · have ha : p.absolute = true := absolute_of_names_nil hp hns
    exact hk.node?_ne_none (by simp [start, ha, Entry.node?])
  · rw [hns] at hk
    cases hk with
    | next s hs => exact hs.node?_ne_none s.node?_ne_none

/-! ## The entries of a directory -/

/-- What is known of the paths of the entries of a directory. -/
structure Opens (t : Tree) (p : Path) (d : Location) : Prop where
  clean : p.Clean
  leads : t.Leads p d
  directory : t.root.node? d = some .directory

theorem Opens.isDirectory (h : t.Opens p d) (hp : p ≠ ⟨false, []⟩) : t.isDirectory p = true :=
  isDirectory_iff.mpr ⟨hp, h.clean, d, h.leads, h.directory⟩

theorem Opens.extends (h : t.Opens p d) (he : t.root.Extends t'.root)
    (hw : t'.workingDirectory = t.workingDirectory) : t'.Opens p d :=
  ⟨h.clean, h.leads.extends he hw, he.directory h.directory⟩

/-- The names before that of an entry lead to the directory. -/
theorem Opens.goes (h : t.Opens p d) :
    ∃ k, Entry.Goes t.root ⟨linkLimit, t.start p, p.stem⟩ ⟨k, d, []⟩ := by
  obtain ⟨k, hk⟩ := h.leads
  obtain ⟨bs, hbs, hb⟩ := p.names_eq_stem_append
  obtain ⟨k₁, l₁, h₁, h₂⟩ := hk.split p.stem hbs rfl
  refine ⟨k₁, ?_⟩
  rcases hb with rfl | rfl
  · cases h₂ with
    | refl => exact h₁
    | next s _ => exact absurd rfl s.ne_nil
  · obtain ⟨rfl, rfl⟩ := h₂.over_dot (Or.inl rfl)
    exact h₁

/-- Paths of one entry have one directory. -/
theorem Opens.unique_of_child {m : String} (h : t.Opens p d) (h' : t.Opens q l)
    (hn : Path.Literal n) (hm : Path.Literal m) (he : p.child n = q.child m) : d = l := by
  rw [Path.child_eq hn, Path.child_eq hm, Path.mk.injEq] at he
  obtain ⟨ha, hstem⟩ := he
  obtain ⟨k, hk⟩ := h.goes
  obtain ⟨j, hj⟩ := h'.goes
  rw [start, ha, (List.append_inj' hstem rfl).1] at hk
  have := (hk.walk_ok .there).symm.trans (hj.walk_ok .there)
  cases this
  rfl

theorem opens_of_goes {k : Nat} (hc : p.Clean)
    (h : Entry.Goes t.root ⟨linkLimit, t.start p, p.stem⟩ ⟨k, d, []⟩)
    (hd : t.root.node? d = some .directory) : t.Opens p d := by
  obtain ⟨bs, hbs, hb⟩ := p.names_eq_stem_append
  refine ⟨hc, ⟨k, ?_⟩, hd⟩
  rw [hbs]
  apply h.join
  rcases hb with rfl | rfl
  · exact .refl _
  · exact .next (.stay hd (.inl rfl)) (.refl _)

/-- From the directory on, the walk to an entry is that over its name. -/
theorem Opens.spot_child (h : t.Opens p d) (hn : Path.Literal n) (follow : Bool) :
    ∃ k, t.spot follow (p.child n) = t.root.walk follow k d [n] := by
  obtain ⟨k, hk⟩ := h.goes
  refine ⟨k, ?_⟩
  rw [spot_eq follow (Path.child_ne_empty hn p) (h.clean.child hn), Path.child_eq hn]
  exact hk.walk_eq (.inr (List.cons_ne_nil n []))

theorem Opens.spot_missing (h : t.Opens p d) (hn : Path.Literal n)
    (hm : t.root.node? (d ++ [n]) = none) (follow : Bool) :
    t.spot follow (p.child n) = .ok ⟨d ++ [n], none, false⟩ := by
  obtain ⟨k, hk⟩ := h.spot_child hn follow
  rw [hk, Entry.walk_named follow k hn.toNamed h.directory, Entry.node?_eq_none.mp hm]
  simp

/-- A link is reached itself only if it is not followed. -/
theorem Opens.spot_entry {e : Entry} (h : t.Opens p d) (hn : Path.Literal n)
    (he : t.root.find? (d ++ [n]) = some e) (follow : Bool)
    (hl : follow = true → ∀ q, e ≠ .link q) :
    t.spot follow (p.child n) = .ok { location := d ++ [n], entry := some e } := by
  obtain ⟨k, hk⟩ := h.spot_child hn follow
  rw [hk, Entry.walk_named follow k hn.toNamed h.directory, he]
  cases e with
  | file b x => simp only [Entry.walk_nil, he]
  | directory es => simp only [Entry.walk_nil, he]
  | link q =>
    cases follow with
    | false => simp
    | true => exact absurd rfl (hl rfl q)

theorem Opens.entry_missing (h : t.Opens p d) (hn : Path.Literal n)
    (hm : t.root.node? (d ++ [n]) = none) (follow : Bool) :
    t.entry follow (p.child n) = .error .missing := by
  simp [Tree.entry, Tree.reach, h.spot_missing hn hm, bind, Except.bind, Except.map]

/-- The path of a link leads to the link itself, unless it is followed. -/
theorem Opens.spot_itself {e : Entry} (h : t.Opens p d) (hn : Path.Literal n)
    (he : t.root.find? (d ++ [n]) = some e) :
    t.spot false (p.child n) = .ok { location := d ++ [n], entry := some e } :=
  h.spot_entry hn he false fun hf => Bool.noConfusion hf

theorem Opens.reach_itself {e : Entry} (h : t.Opens p d) (hn : Path.Literal n)
    (he : t.root.find? (d ++ [n]) = some e) : t.reach false (p.child n) = .ok (d ++ [n], e) := by
  simp [Tree.reach, h.spot_itself hn he, bind, Except.bind, pure, Except.pure]

theorem Opens.leads_child {x : Node} (h : t.Opens p d) (hn : Path.Literal n)
    (hx : t.root.node? (d ++ [n]) = some x) (hl : ∀ q, x ≠ .link q) :
    t.Leads (p.child n) (d ++ [n]) := by
  obtain ⟨k, hk⟩ := h.goes
  refine ⟨k, ?_⟩
  rw [Path.child_eq hn]
  exact hk.join (.next (.down hn.toNamed hx hl) (.refl _))

theorem Opens.child (h : t.Opens p d) (hn : Path.Literal n)
    (hx : t.root.node? (d ++ [n]) = some .directory) : t.Opens (p.child n) (d ++ [n]) :=
  ⟨h.clean.child hn, h.leads_child hn hx (fun _ => Node.noConfusion), hx⟩

theorem Opens.read_child {b : ByteArray} {x : Bool} (h : t.Opens p d) (hn : Path.Literal n)
    (hx : t.root.node? (d ++ [n]) = some (.file b x)) : t.read (p.child n) = .ok b :=
  read_eq_ok_iff.mpr ⟨Path.child_ne_empty hn p, h.clean.child hn, d ++ [n], x,
    h.leads_child hn hx (fun _ => Node.noConfusion), hx⟩

/-- A path of an entry that leads anywhere leads through a directory. -/
theorem opens_of_spot_child {follow : Bool} {s : Spot} (hn : Path.Literal n)
    (h : t.spot follow (p.child n) = .ok s) : ∃ d, t.Opens p d := by
  obtain ⟨hp, hc⟩ := clean_of_spot h
  rw [spot_eq follow hp hc, Path.child_eq hn] at h
  obtain ⟨w, hw, he⟩ := Entry.exists_goes_of_walk h
  have hc : p.Clean := by
    rw [Path.Clean, Path.child_eq hn, List.any_append, Bool.or_eq_false_iff] at hc
    obtain ⟨bs, hbs, hb⟩ := p.names_eq_stem_append
    rw [Path.Clean, hbs, List.any_append, hc.1]
    rcases hb with rfl | rfl <;> rfl
  rcases hw.split_or p.stem rfl with ⟨k, d, h₁, h₂⟩ | ⟨ms, hms, hw⟩
  · refine ⟨d, opens_of_goes hc h₁ ?_⟩
    cases h₂ with
    | next s _ => exact s.directory
    | refl =>
      cases he with
      | link _ hl _ =>
        exact Entry.node?_parent (List.cons_ne_nil n []) (by simp [Entry.node?, hl])
      | missing _ hl _ _ => exact hl
  · obtain ⟨m, ms, rfl⟩ := List.exists_cons_of_ne_nil hms
    cases he with
    | there => cases hw
    | link _ _ _ => simp at hw
    | missing _ _ _ hb =>
      -- The last name is not empty, so that it does not come after the missing one.
      cases hw
      exact absurd (hb n (by simp)) hn.ne_empty

theorem opens_of_leads_child (hc : (p.child n).Clean) (hn : Path.Literal n)
    (h : t.Leads (p.child n) l) : ∃ d, t.Opens p d := by
  obtain ⟨k, hk⟩ := h
  have hs : t.spot true (p.child n) = .ok { location := l, entry := t.root.find? l } := by
    rw [spot_eq true (Path.child_ne_empty hn p) hc]
    exact hk.walk_ok .there
  exact opens_of_spot_child hn hs

/-- A path of an entry leads to the entry, or, if that is a link, to where the link leads. -/
theorem Opens.leads_child_cases (h : t.Opens p d) (hn : Path.Literal n)
    (hl : t.Leads (p.child n) l) :
    (l = d ++ [n] ∧ ∃ x, t.root.node? l = some x ∧ ∀ q, x ≠ .link q) ∨
      ∃ q, t.root.node? (d ++ [n]) = some (.link q) ∧ (q.absolute = true → t.Leads q l) := by
  obtain ⟨k₀, hk₀⟩ := h.goes
  obtain ⟨k, hk⟩ := hl
  rw [Path.child_eq hn] at hk
  obtain ⟨k₁, d₁, h₁, h₂⟩ := hk.split p.stem rfl rfl
  have hd : d₁ = d := by
    have := (h₁.walk_ok .there).symm.trans (hk₀.walk_ok .there)
    cases this
    rfl
  subst hd
  cases h₂ with
  | next s hs =>
    cases s with
    | stay _ hn' => exact absurd hn' (not_or.mpr ⟨hn.ne_empty, hn.ne_dot⟩)
    | up _ => exact absurd rfl hn.ne_up
    | @down _ _ _ _ x _ hx hq =>
      cases hs with
      | refl => exact .inl ⟨rfl, x, hx, hq⟩
      | next s _ => exact absurd rfl s.ne_nil
    | @follow k₂ _ _ _ q _ hq =>
      refine .inr ⟨q, hq, fun ha => ⟨k + (linkLimit - k₂), ?_⟩⟩
      have hk₂ : k₂ + (linkLimit - k₂) = linkLimit := by
        have := h₁.links_le
        simp only at this
        omega
      have := hs.addLinks (linkLimit - k₂)
      simp only [ha, ↓reduceIte, List.append_nil, hk₂] at this
      simpa [start, ha] using this

theorem Opens.read_child_iff {b : ByteArray} (ho : t.Opens p d)
    (hn : Path.Literal n) (hl : ∀ q, t.root.node? (d ++ [n]) ≠ some (.link q)) :
    t.read (p.child n) = .ok b ↔ ∃ x, t.root.node? (d ++ [n]) = some (.file b x) := by
  constructor
  · intro hr
    obtain ⟨_, _, l, x, hlead, hx⟩ := read_eq_ok_iff.mp hr
    rcases ho.leads_child_cases hn hlead with ⟨rfl, _⟩ | ⟨q, hq, _⟩
    · exact ⟨x, hx⟩
    · exact absurd hq (hl q)
  · rintro ⟨x, hx⟩
    exact ho.read_child hn hx

theorem Opens.node?_of_leads (h : t.Opens p d) (hn : Path.Literal n) (hl : t.Leads (p.child n) l) :
    t.root.node? (d ++ [n]) ≠ none := by
  rcases h.leads_child_cases hn hl with ⟨rfl, x, hx, _⟩ | ⟨q, hq, _⟩
  · rw [hx]
    exact Option.some_ne_none x
  · rw [hq]
    exact Option.some_ne_none _

/-! ## The directory of a file -/

/-- The directory of a path that leads to a file or a link can be opened. -/
theorem opens_directory (h : t.Leads p l) (hp : p ≠ ⟨false, []⟩) (hc : p.Clean)
    (hl : t.root.node? l ≠ some .directory) (hr : t.root.node? [] = some .directory) :
    ∃ d, t.Opens p.directory d := by
  obtain ⟨k, hk⟩ := h
  rcases hq : p.parent? with _ | q
  · -- All names are left out, so that the path leads to where it starts.
    have hf := Path.filter_eq_nil_of_dots (Path.names_of_no_parent hq)
    have hf' := hk.filter rfl
    rw [hf] at hf'
    have hl' : l = t.start p := by
      cases hf' with
      | refl => rfl
      | next s _ => exact absurd rfl s.ne_nil
    rcases hns : p.names with _ | ⟨n, ns⟩
    · rw [hl', start, absolute_of_names_nil hp hns] at hl
      exact absurd hr hl
    · rw [hns] at hk
      cases hk with
      | next s _ => exact absurd s.directory (hl' ▸ hl)
  · obtain ⟨ha, ms, hms, hns⟩ := Path.names_of_parent? hq
    obtain ⟨k₁, d, h₁, h₂⟩ := hk.split q.names hns rfl
    have hc : q.Clean := by
      rw [Path.Clean, hns, List.any_append, Bool.or_eq_false_iff] at hc
      exact hc.1
    have hs : t.start q = t.start p := by rw [start, start, ha]
    rw [Path.directory, hq, Option.getD_some]
    refine ⟨d, hc, ⟨k₁, by rw [hs]; exact h₁⟩, ?_⟩
    cases h₂ with
    | refl => exact absurd rfl hms
    | next s _ => exact s.directory

end Tree

end TaskDriver.Files
