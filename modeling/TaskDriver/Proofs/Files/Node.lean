import TaskDriver.Files.Change

/-! What stands at each location of a tree. An entry that is put or removed changes this at its
location and below, and nowhere else. -/
namespace TaskDriver.Files

/-- What stands at a location, without what is below it. -/
inductive Node
  | file (content : ByteArray) (executable : Bool)
  | link (target : Path)
  | directory

/-- Files are alike whatever they hold; a link or a directory is like itself only. -/
inductive Node.Alike : Node → Node → Prop
  | file {content x content' x'} : Alike (.file content x) (.file content' x')
  | refl (d : Node) : Alike d d

theorem Node.Alike.trans {a b c : Node} (h : a.Alike b) (h' : b.Alike c) : a.Alike c := by
  cases h with
  | refl => exact h'
  | file => cases h' <;> exact .file

namespace Entry

def node : Entry → Node
  | .file content x => .file content x
  | .link target => .link target
  | .directory _ => .directory

def node? (e : Entry) (l : Location) : Option Node :=
  (e.find? l).map node

@[simp] theorem find?_nil (e : Entry) : e.find? [] = some e := by
  cases e <;> rfl

@[simp] theorem find?_directory_cons (es : List (String × Entry)) (n : String) (l : Location) :
    (directory es).find? (n :: l) = (Keyed.get? n es).bind (·.find? l) := by
  simp [find?]

theorem find?_append (e : Entry) (l m : Location) :
    e.find? (l ++ m) = (e.find? l).bind (·.find? m) := by
  induction l generalizing e with
  | nil => simp
  | cons n l ih =>
    cases e with
    | file content x => simp [find?]
    | link target => simp [find?]
    | directory es =>
      rw [List.cons_append, find?_directory_cons, find?_directory_cons, Option.bind_assoc]
      exact congrArg _ (funext fun e => ih e)

theorem find?_snoc {e : Entry} {l : Location} {es : List (String × Entry)}
    (h : e.find? l = some (directory es)) (n : String) : e.find? (l ++ [n]) = Keyed.get? n es := by
  rw [find?_append, h, Option.bind_some, find?_directory_cons]
  cases Keyed.get? n es <;> simp

theorem node?_eq_some_directory {e : Entry} {l : Location} :
    e.node? l = some .directory ↔ ∃ es, e.find? l = some (directory es) := by
  unfold node?
  rcases e.find? l with _ | (_ | _ | es) <;> simp [node]

theorem node?_eq_some_file {e : Entry} {l : Location} {content : ByteArray} {x : Bool} :
    e.node? l = some (.file content x) ↔ e.find? l = some (file content x) := by
  unfold node?
  rcases e.find? l with _ | (_ | _ | es) <;> simp [node]

theorem node?_eq_some_link {e : Entry} {l : Location} {target : Path} :
    e.node? l = some (.link target) ↔ e.find? l = some (link target) := by
  unfold node?
  rcases e.find? l with _ | (_ | _ | es) <;> simp [node]

theorem node?_eq_none {e : Entry} {l : Location} : e.node? l = none ↔ e.find? l = none := by
  simp [node?]

/-- Only directories have something below them. -/
theorem node?_parent {e : Entry} {l m : Location} (hm : m ≠ []) (h : e.node? (l ++ m) ≠ none) :
    e.node? l = some .directory := by
  rw [Ne, node?_eq_none, find?_append] at h
  obtain ⟨n, m, rfl⟩ := List.exists_cons_of_ne_nil hm
  rw [node?_eq_some_directory]
  rcases hl : e.find? l with _ | (_ | _ | es)
  · simp [hl] at h
  · simp [hl, find?] at h
  · simp [hl, find?] at h
  · exact ⟨es, rfl⟩

theorem node?_append_none {e : Entry} {l m : Location} (h : e.node? l = none) :
    e.node? (l ++ m) = none := by
  rw [node?_eq_none] at h ⊢
  rw [find?_append, h, Option.bind_none]

theorem node?_nil_eq_some_directory {e : Entry} :
    e.node? [] = some .directory ↔ ∃ es, e = directory es := by
  simp [node?_eq_some_directory]

theorem exists_child_of_node?_cons {e : Entry} {n : String} {l : Location} {d : Node}
    (h : e.node? (n :: l) = some d) :
    ∃ es c, e = directory es ∧ Keyed.get? n es = some c ∧ c.node? l = some d := by
  have he : e.node? [] = some .directory :=
    node?_parent (List.cons_ne_nil n l) (by simp [h])
  obtain ⟨es, rfl⟩ := node?_nil_eq_some_directory.mp he
  rcases hn : Keyed.get? n es with _ | c
  · simp [node?, hn] at h
  · exact ⟨es, c, rfl, hn, by simpa [node?, hn] using h⟩

/-! ## Putting -/

/-- An entry lands in a directory that is there. -/
theorem find?_put_self {e : Entry} {l : Location} (h : e.node? l = some .directory) (n : String)
    (x : Entry) : (e.put (l ++ [n]) x).find? (l ++ [n]) = some x := by
  induction l generalizing e with
  | nil =>
    obtain ⟨es, rfl⟩ := node?_nil_eq_some_directory.mp h
    simp [put, Keyed.get?_insert_self]
  | cons m l ih =>
    obtain ⟨es, c, rfl, hm, hc⟩ := exists_child_of_node?_cons h
    simp [put, Keyed.get?_insert_self, hm, ih hc]

theorem find?_put_below {e : Entry} {l : Location} (h : e.node? l = some .directory) (n : String)
    (x : Entry) (m : Location) : (e.put (l ++ [n]) x).find? (l ++ [n] ++ m) = x.find? m := by
  rw [find?_append, find?_put_self h, Option.bind_some]

theorem node?_put_self {e : Entry} {l : Location} (h : e.node? l = some .directory) (n : String)
    (x : Entry) : (e.put (l ++ [n]) x).node? (l ++ [n]) = some x.node := by
  simp [node?, find?_put_self h]

theorem node?_put_outside {e : Entry} {l : Location} (h : e.node? l = some .directory)
    (n : String) (x : Entry) {m : Location} (hm : ¬ l ++ [n] <+: m) :
    (e.put (l ++ [n]) x).node? m = e.node? m := by
  induction l generalizing e m with
  | nil =>
    obtain ⟨es, rfl⟩ := node?_nil_eq_some_directory.mp h
    rcases m with _ | ⟨k, m⟩
    · simp [put, node?, node]
    · have hk : k ≠ n := by
        rintro rfl
        exact hm ⟨m, rfl⟩
      simp [put, node?, Keyed.get?_insert_of_ne _ _ hk]
  | cons b l ih =>
    obtain ⟨es, c, rfl, hb, hc⟩ := exists_child_of_node?_cons h
    rcases m with _ | ⟨k, m⟩
    · simp [put, node?, node]
    by_cases hk : k = b
    · subst hk
      have hn : ¬ l ++ [n] <+: m := fun hp => hm (by simpa using hp)
      simpa [put, node?, Keyed.get?_insert_self, hb] using ih hc hn
    · simp [put, node?, Keyed.get?_insert_of_ne _ _ hk]

/-! ## Removing -/

theorem find?_remove_self (e : Entry) (l : Location) (n : String) :
    (e.remove (l ++ [n])).find? (l ++ [n]) = none := by
  induction l generalizing e with
  | nil =>
    cases e with
    | file content x => simp [remove, find?]
    | link target => simp [remove, find?]
    | directory es => simp [remove, Keyed.get?_erase_self]
  | cons b l ih =>
    obtain ⟨m, ms, hms⟩ := List.exists_cons_of_ne_nil (l := l ++ [n]) (by simp)
    cases e with
    | file content x => simp [remove, find?]
    | link target => simp [remove, find?]
    | directory es =>
      rcases hb : Keyed.get? b es with _ | c
      · simp [remove, hms, hb]
      · have := ih c
        simp [remove, hms, hb, Keyed.get?_insert_self] at this ⊢
        exact this

theorem node?_remove_below (e : Entry) (l : Location) (n : String) {m : Location}
    (hm : l ++ [n] <+: m) : (e.remove (l ++ [n])).node? m = none := by
  obtain ⟨k, rfl⟩ := hm
  exact node?_append_none (node?_eq_none.mpr (find?_remove_self e l n))

theorem node?_remove_outside (e : Entry) (l : Location) (n : String) {m : Location}
    (hm : ¬ l ++ [n] <+: m) : (e.remove (l ++ [n])).node? m = e.node? m := by
  induction l generalizing e m with
  | nil =>
    cases e with
    | file content x => simp [remove]
    | link target => simp [remove]
    | directory es =>
      rcases m with _ | ⟨k, m⟩
      · simp [remove, node?, node]
      · have hk : k ≠ n := by
          rintro rfl
          exact hm ⟨m, rfl⟩
        simp [remove, node?, Keyed.get?_erase_of_ne _ hk]
  | cons b l ih =>
    obtain ⟨c, cs, hcs⟩ := List.exists_cons_of_ne_nil (l := l ++ [n]) (by simp)
    cases e with
    | file content x => simp [remove]
    | link target => simp [remove]
    | directory es =>
      rcases hb : Keyed.get? b es with _ | d
      · simp [remove, hcs, hb]
      · rcases m with _ | ⟨k, m⟩
        · simp [remove, hcs, hb, node?, node]
        by_cases hk : k = b
        · subst hk
          have hn : ¬ l ++ [n] <+: m := fun hp => hm (by simpa using hp)
          have := ih d hn
          simp [remove, hcs, hb, node?, Keyed.get?_insert_self] at this ⊢
          exact this
        · simp [remove, hcs, hb, node?, Keyed.get?_insert_of_ne _ _ hk]

/-! ## Entries with nothing below them -/

def Leaf (e : Entry) : Prop :=
  ∀ m, m ≠ [] → e.node? m = none

theorem leaf_of_node {e : Entry} (h : e.node ≠ .directory) : e.Leaf := by
  intro m hm
  rcases hd : e.node? m with _ | d
  · rfl
  · have he : e.node? [] = some .directory := node?_parent hm (by simp [hd])
    obtain ⟨es, rfl⟩ := node?_nil_eq_some_directory.mp he
    exact absurd rfl h

theorem leaf_file (b : ByteArray) (x : Bool) : (file b x).Leaf :=
  leaf_of_node (by simp [node])

theorem leaf_link (p : Path) : (link p).Leaf :=
  leaf_of_node (by simp [node])

theorem leaf_empty : empty.Leaf := by
  intro m hm
  obtain ⟨n, m, rfl⟩ := List.exists_cons_of_ne_nil hm
  rfl

/-- Nothing stands below what is no directory. -/
theorem node?_below {e : Entry} {l m : Location} (h : e.node? l ≠ some .directory) (hm : m ≠ []) :
    e.node? (l ++ m) = none := by
  rcases hd : e.node? (l ++ m) with _ | d
  · rfl
  · exact absurd (node?_parent hm (by simp [hd])) h

theorem node?_put_leaf {e x : Entry} {l : Location} {n : String}
    (h : e.node? l = some .directory) (hx : x.Leaf) (ho : e.node? (l ++ [n]) ≠ some .directory)
    (m : Location) :
    (e.put (l ++ [n]) x).node? m = if m = l ++ [n] then some x.node else e.node? m := by
  by_cases hm : l ++ [n] <+: m
  · obtain ⟨k, rfl⟩ := hm
    by_cases hk : k = []
    · subst hk
      rw [List.append_nil, if_pos rfl, node?_put_self h]
    · rw [if_neg (by simpa using hk), node?_below ho hk, node?, find?_put_below h]
      exact hx k hk
  · rw [node?_put_outside h n x hm, if_neg]
    rintro rfl
    exact hm (List.prefix_refl _)

/-- A file may be put in the place of another one, even at the root. -/
theorem node?_put_file {e : Entry} {l : Location} {b b' : ByteArray} {x x' : Bool}
    (h : e.node? l = some (.file b x)) (m : Location) :
    (e.put l (.file b' x')).node? m = if m = l then some (.file b' x') else e.node? m := by
  rcases List.eq_nil_or_concat l with rfl | ⟨l, n, rfl⟩
  · rcases m with _ | ⟨k, m⟩
    · simp [put, node?, node]
    · rw [if_neg (List.cons_ne_nil k m), put]
      have hb : e.node? [] ≠ some .directory := by rw [h]; simp
      rw [leaf_file b' x' _ (List.cons_ne_nil k m)]
      exact (node?_below hb (List.cons_ne_nil k m)).symm
  · rw [List.concat_eq_append] at h ⊢
    have hl : e.node? l = some .directory := node?_parent (List.cons_ne_nil n []) (by rw [h]; simp)
    exact node?_put_leaf hl (leaf_file b' x') (by rw [h]; simp) m

theorem node?_remove_leaf {e : Entry} {l : Location} {n : String}
    (ho : e.node? (l ++ [n]) ≠ some .directory) (m : Location) :
    (e.remove (l ++ [n])).node? m = if m = l ++ [n] then none else e.node? m := by
  by_cases hm : l ++ [n] <+: m
  · rw [node?_remove_below e l n hm]
    obtain ⟨k, rfl⟩ := hm
    by_cases hk : k = []
    · subst hk
      rw [List.append_nil, if_pos rfl]
    · rw [if_neg (by simpa using hk), node?_below ho hk]
  · rw [node?_remove_outside e l n hm, if_neg]
    rintro rfl
    exact hm (List.prefix_refl _)

/-! ## Trees with more in them -/

/-- All that stands in the first tree stands in the second one, up to the content of files. -/
def Extends (r r' : Entry) : Prop :=
  ∀ l d, r.node? l = some d → ∃ d', r'.node? l = some d' ∧ d.Alike d'

namespace Extends

variable {r r' : Entry}

theorem refl (r : Entry) : r.Extends r :=
  fun _ d h => ⟨d, h, .refl d⟩

theorem trans {r'' : Entry} (h : r.Extends r') (h' : r'.Extends r'') : r.Extends r'' := by
  intro l d hd
  obtain ⟨d₁, hd₁, ha₁⟩ := h l d hd
  obtain ⟨d₂, hd₂, ha₂⟩ := h' l d₁ hd₁
  exact ⟨d₂, hd₂, ha₁.trans ha₂⟩

theorem directory (h : r.Extends r') {l : Location} (hl : r.node? l = some .directory) :
    r'.node? l = some .directory := by
  obtain ⟨d, hd, ha⟩ := h l _ hl
  cases ha
  exact hd

theorem link (h : r.Extends r') {l : Location} {p : Path} (hl : r.node? l = some (.link p)) :
    r'.node? l = some (.link p) := by
  obtain ⟨d, hd, ha⟩ := h l _ hl
  cases ha
  exact hd

end Extends

end Entry

end TaskDriver.Files
