import Mathlib.Data.List.Induction
import TaskDriver.Proofs.Files.Lead

/-! The directories that a path leads through, in a tree in which no link leads to a directory. One
name leads one step down or up. So every directory above that of the path is among those that its
ancestors lead to, and they come in the order of their depth. -/
namespace TaskDriver.Files

/-! ## Names one after the other -/

/-- Where a name leads to that is no link. -/
def stepOver (l : Location) (n : String) : Location :=
  if n = "" ∨ n = "." then l else if n = ".." then l.dropLast else l ++ [n]

def along (l : Location) (ns : List String) : Location :=
  ns.foldl stepOver l

section

variable {l e : Location} {n : String} {ns : List String}

theorem stepOver_dot (l : Location) (h : n = "" ∨ n = ".") : stepOver l n = l :=
  if_pos h

theorem stepOver_up (l : Location) : stepOver l ".." = l.dropLast := by
  simp [stepOver]

theorem stepOver_named (l : Location) (h : Named n) : stepOver l n = l ++ [n] := by
  simp [stepOver, h.ne_empty, h.ne_dot, h.ne_up]

theorem along_append (l : Location) (ns ms : List String) :
    along l (ns ++ ms) = along (along l ns) ms :=
  List.foldl_append

theorem along_filter (l : Location) (ns : List String) :
    along l (ns.filter fun n => n ≠ "" && n ≠ ".") = along l ns := by
  induction ns generalizing l with
  | nil => rfl
  | cons n ns ih =>
    by_cases hn : n = "" ∨ n = "."
    · have hf : (n ≠ "" && n ≠ ".") = false := by rcases hn with rfl | rfl <;> rfl
      rw [List.filter_cons, if_neg (by rw [hf]; decide), ih]
      exact congrArg (along · ns) (stepOver_dot l hn).symm
    · have hf : (n ≠ "" && n ≠ ".") = true := by simpa [not_or] using hn
      rw [List.filter_cons, if_pos hf]
      exact ih (stepOver l n)

theorem mem_along {m : String} (h : m ∈ along l ns) : m ∈ l ∨ m ∈ ns := by
  induction ns generalizing l with
  | nil => exact .inl h
  | cons n ns ih =>
    rcases ih h with hm | hm
    · simp only [stepOver] at hm
      split at hm
      · exact .inl hm
      · split at hm
        · exact .inl ((List.dropLast_sublist l).subset hm)
        · exact (List.mem_append.mp hm).imp id fun hm =>
            List.mem_cons.mpr (.inl (List.mem_singleton.mp hm))
    · exact .inr (.tail _ hm)

theorem prefix_of_prefix_stepOver (h : e <+: stepOver l n) : e = stepOver l n ∨ e <+: l := by
  simp only [stepOver] at h ⊢
  split at h
  · exact .inr h
  · split at h
    · exact .inr (h.trans (List.dropLast_prefix l))
    · next hd hu =>
      rw [if_neg hd, if_neg hu]
      exact (List.prefix_concat_iff.mp h).imp id id

/-- The way to a location comes by all those above it, except that it need not come by those that
are above its start. -/
theorem exists_along_of_prefix (h : e <+: along l ns) :
    e <+: l ∧ e ≠ l ∨ ∃ xs ys, ns = xs ++ ys ∧ along l xs = e := by
  -- The induction is on the last name. It leads one step away, so that only its end can be new.
  induction ns using List.reverseRecOn with
  | nil =>
    by_cases he : e = l
    · exact .inr ⟨[], [], rfl, he.symm⟩
    · exact .inl ⟨h, he⟩
  | append_singleton ns n ih =>
    rw [along_append] at h
    rcases prefix_of_prefix_stepOver h with rfl | h
    · exact .inr ⟨ns ++ [n], [], (List.append_nil _).symm, along_append l ns [n]⟩
    · rcases ih h with h | ⟨xs, ys, rfl, hxs⟩
      · exact .inl h
      · exact .inr ⟨xs, ys ++ [n], List.append_assoc .., hxs⟩

/-- Without a step up, a way leads down from each of its locations. -/
theorem prefix_along (h : ".." ∉ ns) : l <+: along l ns := by
  induction ns generalizing l with
  | nil => exact List.prefix_rfl
  | cons n ns ih =>
    have hstep : l <+: stepOver l n := by
      rw [stepOver]
      split
      · exact List.prefix_rfl
      · rw [if_neg (by rintro rfl; exact h (.head _))]
        exact List.prefix_append l [n]
    exact hstep.trans (ih fun hm => h (.tail _ hm))

end

/-! ## Trees in which no link leads to a directory -/

/-- Symbolic links lead to files, or nowhere. -/
def Tree.NoLinkedDirectory (t : Tree) : Prop :=
  ∀ l target e, t.root.node? l = some (.link target) → t.Leads (pathOf l) e →
    t.root.node? e ≠ some .directory

theorem Entry.Goes.directory {root : Entry} {u w : Walker} (h : Goes root u w)
    (hw : root.node? w.here = some .directory) : root.node? u.here = some .directory := by
  cases h with
  | refl => exact hw
  | next s _ => exact s.directory

/-- The way to a directory over its own names. -/
theorem Entry.goes_down {root : Entry} (k : Nat) {l : Location} (hn : ∀ n ∈ l, Named n)
    (hl : root.node? l = some .directory) : Goes root ⟨k, [], l⟩ ⟨k, l, []⟩ := by
  induction l using List.reverseRecOn with
  | nil => exact .refl _
  | append_singleton l n ih =>
    have hparent : root.node? l = some .directory :=
      node?_parent (List.cons_ne_nil n []) (by rw [hl]; exact Option.some_ne_none _)
    have hdown : Step root ⟨k, l, [n]⟩ ⟨k, l ++ [n], []⟩ :=
      .down (hn n (by simp)) hl fun _ => Node.noConfusion
    exact (ih (fun m hm => hn m (List.mem_append_left _ hm)) hparent).join
      (.next hdown (.refl _))

namespace Tree

variable {t : Tree} {p q : Path} {l d e : Location} {n : String} {ns : List String}

theorem NoLinkedDirectory.goes {k : Nat} (hl : t.NoLinkedDirectory)
    (h : Entry.Goes t.root ⟨linkLimit, l, ns⟩ ⟨k, d, []⟩) (hd : t.root.node? d = some .directory)
    (hn : ∀ n ∈ l, Named n) : k = linkLimit ∧ d = along l ns ∧ ∀ n ∈ d, Named n := by
  induction ns generalizing l with
  | nil =>
    cases h with
    | refl => exact ⟨rfl, rfl, hn⟩
    | next s _ => exact absurd rfl s.ne_nil
  | cons n ns ih =>
    have hdir := h.directory hd
    obtain ⟨k₁, l₁, h₁, h₂⟩ := h.split [n] rfl rfl
    cases h₁ with
    | next s hg =>
      cases s with
      | stay _ hdot =>
        cases hg with
        | refl =>
          have := ih h₂ hn
          rwa [← stepOver_dot l hdot] at this
        | next s _ => exact absurd rfl s.ne_nil
      | up _ =>
        cases hg with
        | refl =>
          have := ih h₂ fun m hm => hn m ((List.dropLast_sublist l).subset hm)
          rwa [← stepOver_up] at this
        | next s _ => exact absurd rfl s.ne_nil
      | down hname _ _ =>
        cases hg with
        | refl =>
          have := ih h₂ fun m hm => (List.mem_append.mp hm).elim (hn m)
            fun hm => List.mem_singleton.mp hm ▸ hname
          rwa [← stepOver_named l hname] at this
        | next s _ => exact absurd rfl s.ne_nil
      | follow hname hlink =>
        -- A link on the way to a directory would lead to one itself.
        have hlead : t.Leads (pathOf (l ++ [n])) l₁ :=
          ⟨k₁, (Entry.goes_down linkLimit hn hdir).join (.next (.follow hname hlink) hg)⟩
        exact absurd (h₂.directory hd) (hl _ _ _ hlink hlead)

end Tree

/-! ## The ancestors of a path -/

namespace Path

variable {p q : Path}

/-- The location that an absolute path leads to if none of its names is a link. -/
def location (p : Path) : Location :=
  along [] p.names

theorem location_eq (h : p.absolute = true) : p.location = along [] p.parts := by
  rw [parts_of_absolute h, along_filter]
  rfl

theorem ancestors_of_parent? (h : p.parent? = some q) : p.ancestors = p :: q.ancestors := by
  rw [ancestors]
  split
  · next hp => rw [h] at hp; cases hp
  · next hp => rw [h] at hp; cases hp; rfl

theorem ancestors_of_no_parent (h : p.parent? = none) : p.ancestors = [p] := by
  rw [ancestors]
  split
  · rfl
  · next hp => rw [h] at hp; cases hp

/-- The parent lacks the last of the names that count. -/
theorem parts_of_parent? (ha : p.absolute = true) (h : p.parent? = some q) :
    q.absolute = true ∧ ∃ n, p.parts = q.parts ++ [n] := by
  obtain ⟨hq, n, bs, cs, hns, hn, hdots⟩ := names_of_parent?_counted h
  have hn : (n ≠ "" && n ≠ ".") = true := by simpa using ⟨hn.1, hn.2 ha⟩
  have hbs := filter_eq_nil_of_dots fun b hb => hdots b (List.mem_append_left _ hb)
  have hcs := filter_eq_nil_of_dots fun c hc => hdots c (List.mem_append_right _ hc)
  refine ⟨hq.trans ha, n, ?_⟩
  rw [parts_of_absolute ha, parts_of_absolute (hq.trans ha), hns, List.filter_append,
    List.filter_append, List.filter_cons, if_pos hn, hbs, hcs, List.append_nil]

theorem parts_of_no_parent (ha : p.absolute = true) (h : p.parent? = none) : p.parts = [] := by
  rw [parts_of_absolute ha]
  exact filter_eq_nil_of_dots (names_of_no_parent h)

/-- There is an ancestor for each first part of the names that count. -/
theorem exists_ancestor {xs : List String} (ha : p.absolute = true) (h : xs <+: p.parts) :
    ∃ q ∈ p.ancestors, q.parts = xs := by
  induction p using ancestors.induct with
  | case1 p hp =>
    rw [parts_of_no_parent ha hp] at h
    refine ⟨p, ?_, ?_⟩
    · rw [ancestors_of_no_parent hp]
      exact .head _
    · rw [parts_of_no_parent ha hp, List.prefix_nil.mp h]
  | case2 p q hp _ ih =>
    obtain ⟨hq, n, hn⟩ := parts_of_parent? ha hp
    rw [ancestors_of_parent? hp]
    rw [hn] at h
    rcases List.prefix_concat_iff.mp h with rfl | h
    · exact ⟨p, .head _, hn⟩
    · obtain ⟨r, hr, hxs⟩ := ih hq h
      exact ⟨r, .tail _ hr, hxs⟩

theorem parts_of_mem_ancestors (ha : p.absolute = true) (h : q ∈ p.ancestors) :
    q.absolute = true ∧ q.parts <+: p.parts := by
  induction p using ancestors.induct with
  | case1 p hp =>
    rw [ancestors_of_no_parent hp] at h
    obtain rfl := List.mem_singleton.mp h
    exact ⟨ha, List.prefix_rfl⟩
  | case2 p r hp _ ih =>
    obtain ⟨hr, n, hn⟩ := parts_of_parent? ha hp
    rw [ancestors_of_parent? hp] at h
    rcases List.mem_cons.mp h with rfl | h
    · exact ⟨ha, List.prefix_rfl⟩
    · obtain ⟨hq, hpre⟩ := ih hr h
      rw [hn]
      exact ⟨hq, hpre.trans (List.prefix_append _ _)⟩

/-- Each ancestor has fewer names that count than those before it. -/
theorem pairwise_ancestors (ha : p.absolute = true) :
    p.ancestors.Pairwise fun q r => r.parts.length < q.parts.length := by
  induction p using ancestors.induct with
  | case1 p hp =>
    rw [ancestors_of_no_parent hp]
    exact List.pairwise_singleton _ _
  | case2 p r hp _ ih =>
    obtain ⟨hr, n, hn⟩ := parts_of_parent? ha hp
    rw [ancestors_of_parent? hp]
    refine List.pairwise_cons.mpr ⟨fun q hq => ?_, ih hr⟩
    have := (parts_of_mem_ancestors hr hq).2.length_le
    rw [hn, List.length_append, List.length_singleton]
    exact Nat.lt_succ_of_le this

/-- What has more names than an ancestor comes before it. -/
theorem mem_before {r : Path} {as bs : List Path} (ha : p.absolute = true)
    (has : p.ancestors = as ++ q :: bs) (hr : r ∈ p.ancestors)
    (hlen : q.parts.length < r.parts.length) : r ∈ as := by
  have hpair := pairwise_ancestors ha
  rw [has] at hr hpair
  rcases List.mem_append.mp hr with hr | hr
  · exact hr
  rcases List.mem_cons.mp hr with rfl | hr
  · exact absurd hlen (Nat.lt_irrefl _)
  · have hless := (List.pairwise_cons.mp (List.pairwise_append.mp hpair).2.1).1 r hr
    exact absurd hless (Nat.lt_asymm hlen)

end Path

namespace Tree

variable {t : Tree} {p q : Path} {d e : Location} {n : String}

/-- An absolute path to a directory, in a tree in which no link leads to one. -/
structure Reaches (t : Tree) (p : Path) (d : Location) : Prop where
  links : t.NoLinkedDirectory
  absolute : p.absolute = true
  opens : t.Opens p d

theorem Reaches.location_eq (h : t.Reaches p d) : d = p.location ∧ ∀ n ∈ d, Named n := by
  obtain ⟨k, hk⟩ := h.opens.leads
  rw [start, if_pos h.absolute] at hk
  exact (h.links.goes hk h.opens.directory fun _ hm => absurd hm List.not_mem_nil).2

theorem Reaches.self (h : t.Reaches p d) : t.Reaches p p.location :=
  h.location_eq.1 ▸ h

theorem Reaches.parent (h : t.Reaches p d) (hq : p.parent? = some q) :
    t.Reaches q q.location := by
  obtain ⟨ha, ms, hms, hns⟩ := Path.names_of_parent? hq
  obtain ⟨k, hk⟩ := h.opens.leads
  obtain ⟨k₁, l, h₁, h₂⟩ := hk.split q.names hns rfl
  have hc : q.Clean := by
    have := h.opens.clean
    rw [Path.Clean, hns, List.any_append, Bool.or_eq_false_iff] at this
    exact this.1
  have hstart : t.start p = t.start q := by rw [start, start, ha]
  have hopens : t.Opens q l := ⟨hc, ⟨k₁, hstart ▸ h₁⟩, h₂.directory h.opens.directory⟩
  exact Reaches.self ⟨h.links, ha.trans h.absolute, hopens⟩

/-- All ancestors of a path to a directory lead to directories. -/
theorem Reaches.ancestor (h : t.Reaches p d) (hq : q ∈ p.ancestors) :
    t.Reaches q q.location := by
  induction p using Path.ancestors.induct generalizing d with
  | case1 p hp =>
    rw [Path.ancestors_of_no_parent hp] at hq
    obtain rfl := List.mem_singleton.mp hq
    exact h.self
  | case2 p r hp _ ih =>
    rw [Path.ancestors_of_parent? hp] at hq
    rcases List.mem_cons.mp hq with rfl | hq
    · exact h.self
    · exact ih (h.parent hp) hq

/-- The names that an ancestor lacks lead from its location to that of the path. -/
theorem Reaches.along_of_mem (h : t.Reaches p d) (hq : q ∈ p.ancestors) :
    ∃ ns, p.parts = q.parts ++ ns ∧ d = along q.location ns := by
  obtain ⟨ha, ns, hns⟩ := Path.parts_of_mem_ancestors h.absolute hq
  refine ⟨ns, hns.symm, ?_⟩
  rw [h.location_eq.1, Path.location_eq h.absolute, ← hns, along_append, Path.location_eq ha]

/-- An ancestor leads to each directory above that of the path. -/
theorem Reaches.exists_ancestor (h : t.Reaches p d) (he : e <+: d) :
    ∃ q ∈ p.ancestors, q.location = e := by
  rw [h.location_eq.1, Path.location_eq h.absolute] at he
  rcases exists_along_of_prefix he with ⟨hnil, hne⟩ | ⟨xs, ys, hparts, hxs⟩
  · exact absurd (List.prefix_nil.mp hnil) hne
  · obtain ⟨q, hq, rfl⟩ := Path.exists_ancestor h.absolute (hparts ▸ List.prefix_append xs ys)
    exact ⟨q, hq, (Path.location_eq (h.ancestor hq).absolute).trans hxs⟩

/-- A directory on the way from that of the path up to that of an ancestor comes before it. -/
theorem Reaches.exists_ancestor_before {as bs : List Path} (h : t.Reaches p d)
    (has : p.ancestors = as ++ q :: bs) (he : e <+: d) (hlen : q.location.length < e.length) :
    ∃ r ∈ as, r.location = e := by
  have hq : q ∈ p.ancestors := has ▸ List.mem_append_cons_self
  obtain ⟨ns, hns, hd⟩ := h.along_of_mem hq
  rw [hd] at he
  rcases exists_along_of_prefix he with ⟨hpre, _⟩ | ⟨xs, ys, rfl, hxs⟩
  · exact absurd hpre.length_le (Nat.not_le.mpr hlen)
  have hpre : q.parts ++ xs <+: p.parts := by
    rw [hns, ← List.append_assoc]
    exact List.prefix_append _ _
  obtain ⟨r, hr, hparts⟩ := Path.exists_ancestor h.absolute hpre
  have hloc : r.location = e := by
    rw [Path.location_eq (h.ancestor hr).absolute, hparts, along_append,
      ← Path.location_eq (h.ancestor hq).absolute, hxs]
  have hne : xs ≠ [] := by
    rintro rfl
    rw [← hxs] at hlen
    exact Nat.lt_irrefl _ hlen
  have hmore : q.parts.length < r.parts.length := by
    rw [hparts, List.length_append]
    exact Nat.lt_add_of_pos_right (List.length_pos_iff.mpr hne)
  exact ⟨r, Path.mem_before h.absolute has hr hmore, hloc⟩

/-- A path without a step up leads only through directories above its end. -/
theorem Reaches.prefix_of_no_up (h : t.Reaches p d) (hu : ".." ∉ p.names)
    (hq : q ∈ p.ancestors) : q.location <+: d := by
  obtain ⟨ns, hns, hd⟩ := h.along_of_mem hq
  rw [hd]
  refine prefix_along fun hmem => hu ?_
  have hmem : ".." ∈ p.parts := hns ▸ List.mem_append_right _ hmem
  rw [Path.parts_of_absolute h.absolute] at hmem
  exact (List.mem_filter.mp hmem).1

theorem Reaches.spot_child (h : t.Reaches p d) (hn : Path.Literal n) :
    t.spot true (p.child n) = t.root.walk true linkLimit d [n] := by
  obtain ⟨k, hk⟩ := h.opens.goes
  rw [start, if_pos h.absolute] at hk
  obtain ⟨rfl, _⟩ := h.links.goes hk h.opens.directory fun _ hm => absurd hm List.not_mem_nil
  rw [spot_eq true (Path.child_ne_empty hn p) (h.opens.clean.child hn), Path.child_eq hn, start,
    if_pos h.absolute]
  exact hk.walk_eq (.inr (List.cons_ne_nil n []))

/-- The names of a directory come from the path to it. -/
theorem Reaches.clean_pathOf (h : t.Reaches p d) (hn : Path.Literal n) :
    (pathOf (d ++ [n])).Clean := by
  refine List.any_eq_false.mpr fun m hm => ?_
  rcases List.mem_append.mp hm with hm | hm
  · rw [h.location_eq.1] at hm
    have hmem : m ∈ p.names := (mem_along hm).resolve_left List.not_mem_nil
    exact List.any_eq_false.mp h.opens.clean m hmem
  · rw [List.mem_singleton.mp hm, hn.clean]
    exact Bool.false_ne_true

/-- An entry is the same over every path to its directory. -/
theorem Reaches.isFile_child (h : t.Reaches p d) (hn : Path.Literal n) :
    t.isFile (p.child n) = t.isFile (pathOf (d ++ [n])) := by
  have hpath : t.spot true (pathOf (d ++ [n])) = t.root.walk true linkLimit d [n] := by
    rw [spot_eq true (by simp [pathOf]) (h.clean_pathOf hn)]
    exact (Entry.goes_down linkLimit h.location_eq.2 h.opens.directory).walk_eq
      (.inr (List.cons_ne_nil n []))
  unfold isFile entry reach
  rw [h.spot_child hn, hpath]

end Tree

end TaskDriver.Files
