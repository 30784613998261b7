import TaskDriver.Proofs.Files.Node

/-! The walk along the names of a path as single steps. Where a walk ends depends only on the
directories and links that it meets, so that it ends there in every tree that keeps these. -/
namespace TaskDriver.Files

/-- A walk on its way: how many links it may still follow, where it is, and the names ahead. -/
structure Walker where
  links : Nat
  here : Location
  names : List String

/-- A name that an entry of a directory can have. -/
structure Named (n : String) : Prop where
  ne_empty : n ≠ ""
  ne_dot : n ≠ "."
  ne_up : n ≠ ".."
  short : n.utf8ByteSize ≤ nameLimit

instance (n : String) : Decidable (Named n) :=
  decidable_of_iff (n ≠ "" ∧ n ≠ "." ∧ n ≠ ".." ∧ n.utf8ByteSize ≤ nameLimit)
    ⟨fun h => ⟨h.1, h.2.1, h.2.2.1, h.2.2.2⟩, fun h => ⟨h.ne_empty, h.ne_dot, h.ne_up, h.short⟩⟩

namespace Entry

/-- One step over a name, with all links followed. -/
inductive Step (root : Entry) : Walker → Walker → Prop
  | stay {k l n ns} : root.node? l = some .directory → n = "" ∨ n = "." →
      Step root ⟨k, l, n :: ns⟩ ⟨k, l, ns⟩
  | up {k l ns} : root.node? l = some .directory → Step root ⟨k, l, ".." :: ns⟩ ⟨k, l.dropLast, ns⟩
  | down {k l n ns d} : Named n → root.node? (l ++ [n]) = some d → (∀ p, d ≠ .link p) →
      Step root ⟨k, l, n :: ns⟩ ⟨k, l ++ [n], ns⟩
  | follow {k l n ns p} : Named n → root.node? (l ++ [n]) = some (.link p) →
      Step root ⟨k + 1, l, n :: ns⟩ ⟨k, if p.absolute then [] else l, p.names ++ ns⟩

inductive Goes (root : Entry) : Walker → Walker → Prop
  | refl (w : Walker) : Goes root w w
  | next {u v w : Walker} : Step root u v → Goes root v w → Goes root u w

/-- Where a walk ends: at the end of its names, at a last link that it does not follow, or at the
place of a last name that is missing. -/
inductive Ends (root : Entry) (follow : Bool) : Walker → Spot → Prop
  | there {k l} : Ends root follow ⟨k, l, []⟩ { location := l, entry := root.find? l }
  | link {k l n p} : Named n → root.find? (l ++ [n]) = some (.link p) → follow = false →
      Ends root follow ⟨k, l, [n]⟩ { location := l ++ [n], entry := some (.link p) }
  | missing {k l n bs} : Named n → root.node? l = some .directory → root.find? (l ++ [n]) = none →
      (∀ b ∈ bs, b = "") → Ends root follow ⟨k, l, n :: bs⟩ ⟨l ++ [n], none, bs ≠ []⟩

variable {root r r' : Entry} {u v w : Walker}

theorem Goes.trans (h : Goes root u v) (h' : Goes root v w) : Goes root u w := by
  induction h with
  | refl => exact h'
  | next s _ ih => exact .next s (ih h')

/-- Steps start in directories. -/
theorem Step.directory (h : Step root u v) : root.node? u.here = some .directory := by
  cases h with
  | stay hd _ => exact hd
  | up hd => exact hd
  | down _ hd _ => exact node?_parent (List.cons_ne_nil _ []) (by rw [hd]; simp)
  | follow _ hd => exact node?_parent (List.cons_ne_nil _ []) (by rw [hd]; simp)

theorem Step.ne_nil (h : Step root u v) : u.names ≠ [] := by
  cases h <;> simp

/-- Names that come after those ahead do not matter yet. -/
theorem Step.append (h : Step root u v) (ns : List String) :
    Step root ⟨u.links, u.here, u.names ++ ns⟩ ⟨v.links, v.here, v.names ++ ns⟩ := by
  cases h with
  | stay hd hn => exact .stay hd hn
  | up hd => exact .up hd
  | down hn hd hp => exact .down hn hd hp
  | follow hn hd => simpa using Step.follow hn hd

theorem Goes.append (h : Goes root u v) (ns : List String) :
    Goes root ⟨u.links, u.here, u.names ++ ns⟩ ⟨v.links, v.here, v.names ++ ns⟩ := by
  induction h with
  | refl w => exact .refl _
  | next s _ ih => exact .next (s.append ns) ih

/-- More links than are needed do no harm. -/
theorem Step.addLinks (h : Step root u v) (j : Nat) :
    Step root ⟨u.links + j, u.here, u.names⟩ ⟨v.links + j, v.here, v.names⟩ := by
  cases h with
  | stay hd hn => exact .stay hd hn
  | up hd => exact .up hd
  | down hn hd hp => exact .down hn hd hp
  | @follow k l n ns p hn hd =>
    have : Step root ⟨k + j + 1, l, n :: ns⟩
        ⟨k + j, if p.absolute then [] else l, p.names ++ ns⟩ := .follow hn hd
    rwa [Nat.add_right_comm] at this

theorem Goes.addLinks (h : Goes root u v) (j : Nat) :
    Goes root ⟨u.links + j, u.here, u.names⟩ ⟨v.links + j, v.here, v.names⟩ := by
  induction h with
  | refl w => exact .refl _
  | next s _ ih => exact .next (s.addLinks j) ih

theorem Step.links_le (h : Step root u v) : v.links ≤ u.links := by
  cases h with
  | follow _ _ => exact Nat.le_succ _
  | _ => exact Nat.le_refl _

theorem Goes.links_le (h : Goes root u v) : v.links ≤ u.links := by
  induction h with
  | refl w => exact Nat.le_refl _
  | next s _ ih => exact Nat.le_trans ih s.links_le

/-- Steps end at something. -/
theorem Step.node?_ne_none (h : Step root u v) : root.node? v.here ≠ none := by
  have hr : root.node? [] ≠ none := by simp [node?]
  have hd := h.directory
  cases h with
  | stay _ _ => simp [hd]
  | @up k l ns _ =>
    rcases List.eq_nil_or_concat l with rfl | ⟨l, n, rfl⟩
    · exact hr
    · rw [List.concat_eq_append] at hd
      have hl : root.node? l = some .directory :=
        node?_parent (List.cons_ne_nil n []) (by simp [hd])
      simp [hl]
  | down _ hx _ => simp [hx]
  | @follow k l n ns p _ _ =>
    by_cases hp : p.absolute = true
    · simpa [hp] using hr
    · simp [hp, hd]

theorem Goes.node?_ne_none (h : Goes root u v) (hu : root.node? u.here ≠ none) :
    root.node? v.here ≠ none := by
  induction h with
  | refl w => exact hu
  | next s _ ih => exact ih s.node?_ne_none

/-! ## The function that walks -/

theorem walk_nil (follow : Bool) (k : Nat) (l : Location) :
    root.walk follow k l [] = .ok { location := l, entry := root.find? l } := by
  rw [walk]

/-- Where the root is no directory, no walk gets anywhere. -/
theorem walk_of_root (hr : root.node? [] ≠ some .directory) {follow : Bool} {k : Nat}
    {l : Location} {n : String} {ns : List String} :
    root.walk follow k l (n :: ns) = .error .notDirectory := by
  have hl : ∀ es, root.find? l ≠ some (.directory es) := by
    intro es he
    have hd : root.node? l = some .directory := node?_eq_some_directory.mpr ⟨es, he⟩
    by_cases hn : l = []
    · exact hr (hn ▸ hd)
    · exact hr (node?_parent hn (by simp [hd]))
  rw [walk]
  split
  · next es he => exact absurd he (hl es)
  · rfl

/-- The walk over the name of an entry. -/
theorem walk_named (follow : Bool) (k : Nat) {l : Location} {n : String} (hn : Named n)
    (hl : root.node? l = some .directory) (ns : List String) :
    root.walk follow k l (n :: ns) =
      match root.find? (l ++ [n]) with
      | none => if ns.all (· = "") then .ok ⟨l ++ [n], none, ns ≠ []⟩ else .error .missing
      | some (.link p) =>
        if ns = [] && !follow then .ok { location := l ++ [n], entry := some (.link p) }
        else
          match k with
          | 0 => .error .tooManyLinks
          | k + 1 => root.walk follow k (if p.absolute then [] else l) (p.names ++ ns)
      | some _ => root.walk follow k (l ++ [n]) ns := by
  obtain ⟨es, hes⟩ := node?_eq_some_directory.mp hl
  have hs : ¬ nameLimit < n.utf8ByteSize := Nat.not_lt.mpr hn.short
  rw [walk, hes, find?_snoc hes]
  simp only [hn.ne_empty, hn.ne_dot, hn.ne_up, hs, ↓reduceIte]
  rcases Keyed.get? n es with _ | (_ | p | _)
  · rfl
  · rfl
  · cases k <;> rfl
  · rfl

theorem Step.walk_eq {follow : Bool} {ns : List String} (h : Step root u v)
    (hf : follow = true ∨ ns ≠ []) :
    root.walk follow u.links u.here (u.names ++ ns) =
      root.walk follow v.links v.here (v.names ++ ns) := by
  have hl := h.directory
  obtain ⟨es, hes⟩ := node?_eq_some_directory.mp hl
  cases h with
  | stay _ hn =>
    rw [List.cons_append, walk, hes]
    simp [hn]
  | up _ =>
    rw [List.cons_append, walk, hes]
    simp
  | @down k l n ms d hn hd hp =>
    rw [List.cons_append, walk_named follow k hn hl]
    rcases hf : root.find? (l ++ [n]) with _ | (_ | p | _)
    · simp [node?, hf] at hd
    · rfl
    · exact absurd hd (by simpa [node?, hf, node] using fun e => hp p e.symm)
    · rfl
  | @follow k l n ms p hn hd =>
    have hlast : (decide (ms ++ ns = []) && !follow) = false := by
      rcases hf with rfl | hf <;> simp [*]
    rw [List.cons_append, walk_named follow (k + 1) hn hl, node?_eq_some_link.mp hd]
    simp only [hlast, Bool.false_eq_true, ↓reduceIte, List.append_assoc]

theorem Goes.walk_eq {follow : Bool} {ns : List String} (h : Goes root u v)
    (hf : follow = true ∨ ns ≠ []) :
    root.walk follow u.links u.here (u.names ++ ns) =
      root.walk follow v.links v.here (v.names ++ ns) := by
  induction h with
  | refl w => rfl
  | next s _ ih => rw [s.walk_eq hf, ih]

theorem Ends.walk_eq {s : Spot} (h : Ends root true w s) :
    root.walk true w.links w.here w.names = .ok s := by
  cases h with
  | there => rw [walk_nil]
  | link _ _ hf => cases hf
  | missing hn hl hd hb =>
    rw [walk_named true _ hn hl, hd]
    simpa using hb

theorem Goes.walk_ok {s : Spot} (h : Goes root u w) (he : Ends root true w s) :
    root.walk true u.links u.here u.names = .ok s := by
  have : root.walk true u.links u.here (u.names ++ []) =
      root.walk true w.links w.here (w.names ++ []) := h.walk_eq (Or.inl rfl)
  rw [List.append_nil, List.append_nil] at this
  rw [this, he.walk_eq]

theorem named_of_not {n : String} (hn : ¬ (decide (n = "") || decide (n = ".")) = true)
    (hu : ¬ n = "..") (hs : ¬ nameLimit < n.utf8ByteSize) : Named n := by
  simp only [Bool.or_eq_true, decide_eq_true_eq, not_or] at hn
  exact ⟨hn.1, hn.2, hu, Nat.not_lt.mp hs⟩

theorem exists_goes_of_walk {follow : Bool} {k : Nat} {l : Location} {ns : List String} {s : Spot}
    (h : root.walk follow k l ns = .ok s) :
    ∃ w, Goes root ⟨k, l, ns⟩ w ∧ Ends root follow w s := by
  fun_induction walk root follow k l ns with
  | case1 k l =>
    cases h
    exact ⟨_, .refl _, .there⟩
  | case2 k l n ns es hes hn ih =>
    obtain ⟨w, hw, he⟩ := ih h
    have hn : n = "" ∨ n = "." := by simpa using hn
    exact ⟨w, .next (.stay (node?_eq_some_directory.mpr ⟨es, hes⟩) hn) hw, he⟩
  | case3 k l ns es hes _ ih =>
    obtain ⟨w, hw, he⟩ := ih h
    exact ⟨w, .next (.up (node?_eq_some_directory.mpr ⟨es, hes⟩)) hw, he⟩
  | case4 => cases h
  | case5 k l n ns es hes hn hu hs hc hb =>
    cases h
    rw [← find?_snoc hes] at hc
    refine ⟨_, .refl _, .missing (named_of_not hn hu hs)
      (node?_eq_some_directory.mpr ⟨es, hes⟩) hc (by simpa using hb)⟩
  | case6 => cases h
  | case7 k l n ns es hes hn hu hs p hc hlast =>
    cases h
    rw [← find?_snoc hes] at hc
    obtain ⟨rfl, rfl⟩ : ns = [] ∧ follow = false := by simpa using hlast
    exact ⟨_, .refl _, .link (named_of_not hn hu hs) hc rfl⟩
  | case8 => cases h
  | case9 l n ns es hes hn hu hs p hc hlast k ih =>
    obtain ⟨w, hw, he⟩ := ih h
    rw [← find?_snoc hes] at hc
    exact ⟨w, .next (.follow (named_of_not hn hu hs) (node?_eq_some_link.mpr hc)) hw, he⟩
  | case10 k l n ns es hes hn hu hs e hp hc ih =>
    obtain ⟨w, hw, he⟩ := ih h
    rw [← find?_snoc hes] at hc
    have hd : root.node? (l ++ [n]) = some e.node := by rw [node?, hc, Option.map_some]
    have hp : ∀ p, e.node ≠ .link p := by
      intro p hp'
      cases e with
      | link q => exact hp q rfl
      | _ => cases hp'
    exact ⟨w, .next (.down (named_of_not hn hu hs) hd hp) hw, he⟩
  | case11 => cases h

/-! ## Walks in trees with more in them -/

theorem Step.extends (h : Step r u v) (he : r.Extends r') : Step r' u v := by
  cases h with
  | stay hl hn => exact .stay (he.directory hl) hn
  | up hl => exact .up (he.directory hl)
  | down hn hd hp =>
    obtain ⟨d', hd', ha⟩ := he _ _ hd
    refine .down hn hd' ?_
    rintro p rfl
    cases ha
    exact hp p rfl
  | follow hn hd => exact .follow hn (he.link hd)

theorem Goes.extends (h : Goes r u v) (he : r.Extends r') : Goes r' u v := by
  induction h with
  | refl w => exact .refl w
  | next s _ ih => exact .next (s.extends he) ih

/-! ## Walks along parts of the names -/

/-- What is ahead after a step over the first of some names. -/
theorem Step.split {k l n ns} (h : Step root ⟨k, l, n :: ns⟩ v) :
    ∃ ms, v.names = ms ++ ns ∧ Step root ⟨k, l, [n]⟩ ⟨v.links, v.here, ms⟩ := by
  cases h with
  | stay hl hn => exact ⟨[], rfl, .stay hl hn⟩
  | up hl => exact ⟨[], rfl, .up hl⟩
  | down hn hd hp => exact ⟨[], rfl, .down hn hd hp⟩
  | @follow k l n ns p hn hd =>
    have : Step root ⟨k + 1, l, [n]⟩ ⟨k, if p.absolute then [] else l, p.names ++ []⟩ :=
      .follow hn hd
    rw [List.append_nil] at this
    exact ⟨p.names, rfl, this⟩

/-- A walk is either still on the first part of its names, or it has passed the end of that. -/
theorem Goes.split_or (h : Goes root u w) (xs : List String) {ys : List String}
    (hu : u.names = xs ++ ys) :
    (∃ k l, Goes root ⟨u.links, u.here, xs⟩ ⟨k, l, []⟩ ∧ Goes root ⟨k, l, ys⟩ w) ∨
      ∃ ms, ms ≠ [] ∧ w.names = ms ++ ys := by
  induction h generalizing xs with
  | refl w =>
    obtain ⟨k, l, ns⟩ := w
    cases hu
    by_cases hx : xs = []
    · subst hx
      exact .inl ⟨k, l, .refl _, .refl _⟩
    · exact .inr ⟨xs, hx, rfl⟩
  | @next u v w s hg ih =>
    obtain ⟨k, l, ns⟩ := u
    cases xs with
    | nil =>
      cases hu
      exact .inl ⟨k, l, .refl _, .next s hg⟩
    | cons x xs =>
      cases hu
      obtain ⟨ms, hms, hs⟩ := s.split
      rcases ih (ms ++ xs) (hms.trans (List.append_assoc ..).symm) with ⟨k₁, l₁, h₁, h₂⟩ | h
      · exact .inl ⟨k₁, l₁, .next (hs.append xs) h₁, h₂⟩
      · exact .inr h

/-- A walk to the end of its names passes the end of every first part of them. -/
theorem Goes.split (h : Goes root u w) (xs : List String) {ys : List String}
    (hu : u.names = xs ++ ys) (hw : w.names = []) :
    ∃ k l, Goes root ⟨u.links, u.here, xs⟩ ⟨k, l, []⟩ ∧ Goes root ⟨k, l, ys⟩ w := by
  rcases h.split_or xs hu with h | ⟨ms, hms, h⟩
  · exact h
  · rw [hw] at h
    exact absurd (List.append_eq_nil_iff.mp h.symm).1 hms

theorem Goes.join {k l k₁ l₁ xs ys} (h : Goes root ⟨k, l, xs⟩ ⟨k₁, l₁, []⟩)
    (h' : Goes root ⟨k₁, l₁, ys⟩ w) : Goes root ⟨k, l, xs ++ ys⟩ w :=
  (h.append ys).trans h'

theorem Goes.over_dot {k l n k₁ l₁} (h : Goes root ⟨k, l, [n]⟩ ⟨k₁, l₁, []⟩)
    (hn : n = "" ∨ n = ".") : k₁ = k ∧ l₁ = l := by
  cases h with
  | next s hg =>
    cases s with
    | stay _ _ =>
      cases hg with
      | refl => exact ⟨rfl, rfl⟩
      | next s _ => exact absurd rfl s.ne_nil
    | up _ => rcases hn with hn | hn <;> exact absurd hn (by decide)
    | down hm _ _ => exact absurd hn (not_or.mpr ⟨hm.ne_empty, hm.ne_dot⟩)
    | follow hm _ => exact absurd hn (not_or.mpr ⟨hm.ne_empty, hm.ne_dot⟩)

/-- Empty names and the name `.` can be left out. -/
theorem Goes.filter {k l ns} (h : Goes root ⟨k, l, ns⟩ w) (hw : w.names = []) :
    Goes root ⟨k, l, ns.filter fun n => n ≠ "" && n ≠ "."⟩ w := by
  induction ns generalizing k l with
  | nil => exact h
  | cons n ns ih =>
    obtain ⟨k₁, l₁, h₁, h₂⟩ := h.split [n] rfl hw
    by_cases hn : n = "" ∨ n = "."
    · obtain ⟨rfl, rfl⟩ := h₁.over_dot hn
      have hn : (n ≠ "" && n ≠ ".") = false := by rcases hn with rfl | rfl <;> rfl
      simp only [List.filter_cons, hn]
      exact ih h₂
    · have hn : (n ≠ "" && n ≠ ".") = true := by simpa [not_or] using hn
      simp only [List.filter_cons, hn]
      exact h₁.join (ih h₂)

end Entry

end TaskDriver.Files
