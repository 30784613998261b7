import Mathlib.Data.List.Find
import TaskDriver.Configuration.Load
import TaskDriver.Proofs.Files.Ancestors

/-! The search for a file of settings. It goes over the ancestors of a path as they are written, so
that a step up in the path brings it to directories below the one that the path leads to. Unless it
meets with settings there first, it finds those of the nearest directory on the way to the root. -/
namespace TaskDriver.Configuration

open Files (Path Tree Location)

/-- The first choice among the files of settings in a directory. -/
def choice? (t : Tree) (e : Location) : Option String :=
  fileNames.find? fun n => t.isFile (Tree.pathOf (e ++ [n]))

/-- What a search from a directory should find: the first choice in the nearest directory with
settings among itself and those above it. -/
inductive Nearest (t : Tree) (d : Location) : Option Path → Prop
  | none : (∀ e, e <+: d → choice? t e = .none) → Nearest t d .none
  | some {q : Path} {e : Location} {n : String} : t.Opens q e → e <+: d → choice? t e = .some n →
      (∀ e', e' <+: d → e.length < e'.length → choice? t e' = .none) →
      Nearest t d (.some (q.child n))

/-- The first directory with settings that the path leads through is not above its end. -/
def Misled (t : Tree) (start : Path) (d : Location) : Prop :=
  ∃ as q bs e, start.ancestors = as ++ q :: bs ∧ t.Leads q e ∧ choice? t e ≠ none ∧ ¬ e <+: d ∧
    ∀ r ∈ as, ∀ l, t.Leads r l → choice? t l = none

variable {t : Tree} {start p q : Path} {d e : Location} {n : String}

theorem literal_of_mem (h : n ∈ fileNames) : Path.Literal n := by
  simp only [fileNames, List.mem_cons, List.not_mem_nil, or_false] at h
  rcases h with rfl | rfl | rfl <;> decide

/-! ## What is found -/

/-- In a directory the search takes the first choice. -/
theorem find_candidates (h : t.Reaches p d) :
    (candidates p).find? t.isFile = (choice? t d).map p.child := by
  have hname : fileNames.find? (t.isFile ∘ p.child) = choice? t d :=
    List.find?_congr fun n hn => h.isFile_child (literal_of_mem hn)
  rw [candidates, List.find?_map, hname]

theorem find_eq_none_iff (h : t.Reaches start d) :
    find? t start = none ↔ ∀ q ∈ start.ancestors, choice? t q.location = none := by
  rw [find?, List.find?_flatMap, List.findSome?_eq_none_iff]
  refine forall₂_congr fun q hq => ?_
  rw [find_candidates (h.ancestor hq), Option.map_eq_none_iff]

theorem find_eq_some_iff (h : t.Reaches start d) :
    find? t start = some p ↔ ∃ as q bs n, start.ancestors = as ++ q :: bs ∧
      choice? t q.location = some n ∧ p = q.child n ∧ ∀ r ∈ as, choice? t r.location = none := by
  have hfind := fun q (hq : q ∈ start.ancestors) => find_candidates (h.ancestor hq)
  rw [find?, List.find?_flatMap, List.findSome?_eq_some_iff]
  constructor
  · rintro ⟨as, q, bs, has, hq, hbefore⟩
    rw [hfind q (has ▸ List.mem_append_cons_self), Option.map_eq_some_iff] at hq
    obtain ⟨n, hn, rfl⟩ := hq
    refine ⟨as, q, bs, n, has, hn, rfl, fun r hr => ?_⟩
    have := hbefore r hr
    rwa [hfind r (has ▸ List.mem_append_left _ hr), Option.map_eq_none_iff] at this
  · rintro ⟨as, q, bs, n, has, hn, rfl, hbefore⟩
    refine ⟨as, q, bs, has, ?_, fun r hr => ?_⟩
    · rw [hfind q (has ▸ List.mem_append_cons_self), hn, Option.map_some]
    · rw [hfind r (has ▸ List.mem_append_left _ hr), hbefore r hr, Option.map_none]

/-! ## Whether it is the nearest -/

theorem misled_iff (h : t.Reaches start d) :
    Misled t start d ↔ ∃ as q bs, start.ancestors = as ++ q :: bs ∧ choice? t q.location ≠ none ∧
      ¬ q.location <+: d ∧ ∀ r ∈ as, choice? t r.location = none := by
  have hleads := fun q (hq : q ∈ start.ancestors) => (h.ancestor hq).opens.leads
  constructor
  · rintro ⟨as, q, bs, e, has, hlead, hc, hd, hbefore⟩
    cases hlead.unique (hleads q (has ▸ List.mem_append_cons_self))
    exact ⟨as, q, bs, has, hc, hd, fun r hr =>
      hbefore r hr _ (hleads r (has ▸ List.mem_append_left _ hr))⟩
  · rintro ⟨as, q, bs, has, hc, hd, hbefore⟩
    refine ⟨as, q, bs, _, has, hleads q (has ▸ List.mem_append_cons_self), hc, hd,
      fun r hr l hlead => ?_⟩
    cases hlead.unique (hleads r (has ▸ List.mem_append_left _ hr))
    exact hbefore r hr

theorem nearest_of_not_misled (h : t.Reaches start d) (hm : ¬ Misled t start d) :
    Nearest t d (find? t start) := by
  rcases hf : find? t start with _ | p
  · refine .none fun e he => ?_
    obtain ⟨q, hq, rfl⟩ := h.exists_ancestor he
    exact (find_eq_none_iff h).mp hf q hq
  · obtain ⟨as, q, bs, n, has, hn, rfl, hbefore⟩ := (find_eq_some_iff h).mp hf
    have hq : q.location <+: d := by
      by_contra hq
      exact hm ((misled_iff h).mpr ⟨as, q, bs, has, by simp [hn], hq, hbefore⟩)
    have hopens := (h.ancestor (has ▸ List.mem_append_cons_self)).opens
    refine .some hopens hq hn fun e he hlen => ?_
    obtain ⟨r, hr, rfl⟩ := h.exists_ancestor_before has he hlen
    exact hbefore r hr

theorem not_nearest_of_misled (h : t.Reaches start d) (hm : Misled t start d) :
    ¬ Nearest t d (find? t start) := by
  obtain ⟨as, q, bs, has, hc, hd, hbefore⟩ := (misled_iff h).mp hm
  obtain ⟨n, hn⟩ := Option.ne_none_iff_exists'.mp hc
  rw [(find_eq_some_iff h).mpr ⟨as, q, bs, n, has, hn, rfl, hbefore⟩]
  intro hnear
  have hopens := (h.ancestor (has ▸ List.mem_append_cons_self)).opens
  -- The file could be that of another path, but then this leads to the same directory.
  generalize hp : q.child n = p at hnear
  cases hnear with
  | some hopens' he hn' _ =>
    have hlit := literal_of_mem (List.mem_of_find?_eq_some hn)
    have hlit' := literal_of_mem (List.mem_of_find?_eq_some hn')
    exact hd (hopens.unique_of_child hopens' hlit hlit' hp ▸ he)

theorem choice_ne_none_iff :
    choice? t e ≠ none ↔ ∃ n ∈ fileNames, t.isFile (Tree.pathOf (e ++ [n])) = true := by
  rw [choice?, Ne, List.find?_eq_none]
  simp

theorem Nearest.isSome_iff {found : Option Path} (h : Nearest t d found) :
    found.isSome ↔ ∃ e, e <+: d ∧ ∃ n ∈ fileNames, t.isFile (Tree.pathOf (e ++ [n])) = true := by
  cases h with
  | none hnone =>
    refine ⟨nofun, fun ⟨e, he, hn⟩ => ?_⟩
    exact absurd (hnone e he) (choice_ne_none_iff.mpr hn)
  | @some _ e _ _ he hn _ =>
    exact ⟨fun _ => ⟨e, he, choice_ne_none_iff.mp (by simp [hn])⟩, fun _ => rfl⟩

/-- The search always finds something if there is anything on the way to the root. It finds the
first choice in the nearest directory just if it meets with no settings elsewhere before; so it does
for each path without a step up, and wherever the directories that the path leaves again have no
settings. -/
theorem search_nearest_iff (hl : t.NoLinkedDirectory) (ha : start.absolute = true)
    (ho : t.Opens start d) :
    (Nearest t d (find? t start) ↔ ¬ Misled t start d) ∧
    (¬ Misled t start d → ((find? t start).isSome ↔
      ∃ e, e <+: d ∧ ∃ n ∈ fileNames, t.isFile (Tree.pathOf (e ++ [n])) = true)) ∧
    ((∀ q ∈ start.ancestors, ∀ e, t.Leads q e → choice? t e ≠ none → e <+: d) →
      ¬ Misled t start d) ∧
    (".." ∉ start.names → ¬ Misled t start d) ∧
    (∀ e, e <+: d → choice? t e ≠ none → find? t start ≠ none) := by
  have h : t.Reaches start d := ⟨hl, ha, ho⟩
  have hnearest := nearest_of_not_misled h
  refine ⟨⟨fun hn hm => not_nearest_of_misled h hm hn, hnearest⟩,
    fun hm => (hnearest hm).isSome_iff, fun habove hm => ?_, fun hu hm => ?_,
    fun e he hc hnone => ?_⟩
  · obtain ⟨as, q, bs, e, has, hlead, hc, hd, _⟩ := hm
    exact hd (habove q (has ▸ List.mem_append_cons_self) e hlead hc)
  · obtain ⟨as, q, bs, has, _, hd, _⟩ := (misled_iff h).mp hm
    exact hd (h.prefix_of_no_up hu (has ▸ List.mem_append_cons_self))
  · obtain ⟨q, hq, rfl⟩ := h.exists_ancestor he
    exact hc ((find_eq_none_iff h).mp hnone q hq)

/-! ## Settings below the directory of a path -/

/-- A directory with settings in a directory without. -/
def nested : Tree :=
  ⟨.directory [("sub", .directory [("matr.toml", .file .empty false)])], []⟩

theorem noLinkedDirectory_nested : nested.NoLinkedDirectory := by
  intro l target e hlink _
  have hfind := Files.Entry.node?_eq_some_link.mp hlink
  rcases l with _ | ⟨n, _ | ⟨m, l⟩⟩
  · cases hfind
  · simp only [nested, Files.Entry.find?, Keyed.get?] at hfind
    split at hfind <;> cases hfind
  · simp only [nested, Files.Entry.find?, Keyed.get?] at hfind
    split at hfind
    · simp only [Option.bind_some, Files.Entry.find?, Keyed.get?] at hfind
      split at hfind
      · cases l <;> cases hfind
      · cases hfind
    · cases hfind

theorem step_nested (ns : List String) : Files.Entry.Step nested.root
    ⟨Files.linkLimit, [], "sub" :: ns⟩ ⟨Files.linkLimit, ["sub"], ns⟩ :=
  .down (d := .directory) (by decide) rfl nofun

theorem opens_nested : nested.Opens ⟨true, ["sub"]⟩ ["sub"] :=
  ⟨rfl, ⟨Files.linkLimit, .next (step_nested []) (.refl _)⟩, rfl⟩

theorem opens_nested_up : nested.Opens ⟨true, ["sub", ".."]⟩ [] :=
  ⟨rfl, ⟨Files.linkLimit, .next (step_nested [".."]) (.next (.up rfl) (.refl _))⟩, rfl⟩

theorem search_nearest_iff_nested : Nearest nested ["sub"] (find? nested ⟨true, ["sub"]⟩) := by
  have h := search_nearest_iff noLinkedDirectory_nested rfl opens_nested
  exact h.1.mpr (h.2.2.2.1 (by decide))

theorem choice_nested : choice? nested ["sub"] = some "matr.toml" := by
  have hread : nested.read ((⟨true, ["sub"]⟩ : Path).child "matr.toml") = .ok .empty :=
    opens_nested.read_child (literal_of_mem (.head _)) (x := false) rfl
  rw [choice?, fileNames, List.find?_cons_of_pos]
  exact Files.Tree.isFile_iff.mpr ⟨_, hread⟩

theorem choice_nested_root : choice? nested [] = none := by
  have hroot : nested.Opens ⟨true, []⟩ [] := ⟨rfl, ⟨Files.linkLimit, .refl _⟩, rfl⟩
  refine List.find?_eq_none.mpr fun n hn => ?_
  have hm : nested.root.node? ([] ++ [n]) = none := by
    simp only [fileNames, List.mem_cons, List.not_mem_nil, or_false] at hn
    rcases hn with rfl | rfl | rfl <;> rfl
  have hlit := literal_of_mem hn
  have hmissing := hroot.entry_missing hlit hm true
  rw [Path.child_eq hlit] at hmissing
  rw [Files.Tree.isFile, Tree.pathOf]
  change nested.entry true ⟨true, [] ++ [n]⟩ = _ at hmissing
  rw [hmissing]
  exact Bool.false_ne_true

/-- The search from `/sub/..` comes by `/sub`, which is not above the root. -/
theorem search_nested_up : nested.NoLinkedDirectory ∧ nested.Opens ⟨true, ["sub", ".."]⟩ [] ∧
    find? nested ⟨true, ["sub", ".."]⟩ = some ⟨true, ["sub", "matr.toml"]⟩ ∧
    ¬ Nearest nested [] (find? nested ⟨true, ["sub", ".."]⟩) := by
  have has : Path.ancestors ⟨true, ["sub", ".."]⟩ =
      [⟨true, ["sub", ".."]⟩] ++ ⟨true, ["sub"]⟩ :: Path.ancestors ⟨true, []⟩ := by
    rw [Path.ancestors_of_parent? (q := ⟨true, ["sub"]⟩) (by decide),
      Path.ancestors_of_parent? (q := ⟨true, []⟩) (by decide)]
    rfl
  have hfind : find? nested ⟨true, ["sub", ".."]⟩ = some ⟨true, ["sub", "matr.toml"]⟩ := by
    have h : nested.Reaches ⟨true, ["sub", ".."]⟩ [] :=
      ⟨noLinkedDirectory_nested, rfl, opens_nested_up⟩
    refine (find_eq_some_iff h).mpr
      ⟨_, _, _, "matr.toml", has, choice_nested, by decide, fun r hr => ?_⟩
    rw [List.mem_singleton.mp hr]
    exact choice_nested_root
  refine ⟨noLinkedDirectory_nested, opens_nested_up, hfind, ?_⟩
  rw [hfind]
  generalize (⟨true, ["sub", "matr.toml"]⟩ : Path) = p
  intro hnear
  cases hnear with
  | some _ he hn _ =>
    rw [List.prefix_nil.mp he, choice_nested_root] at hn
    cases hn

end TaskDriver.Configuration
