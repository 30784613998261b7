import Mathlib.Data.List.Basic
import TaskDriver.Toml.Item

/-! A file read so far: what a header does to it, seen from the place in the file where the table of
the header belongs. -/
namespace TaskDriver.Toml

variable {es fs : Entries} {q key : Key} {k : String} {v u : Item}

/-! ## Entries -/

theorem Entries.find?_append (k : String) (es fs : Entries) :
    Entries.find? k (es ++ fs) = (Entries.find? k es).or (Entries.find? k fs) := by
  induction es with
  | nil => rfl
  | cons e es ih =>
    simp only [List.cons_append, Entries.find?, ih]
    split <;> rfl

theorem Entries.find?_eq_none_iff : Entries.find? k es = none ↔ k ∉ es.map fun e => e.1.name := by
  induction es with
  | nil => simp [Entries.find?]
  | cons e es ih =>
    by_cases h : e.1.name = k
    · simp [Entries.find?, h]
    · simp [Entries.find?, h, ih, Ne.symm h]

theorem Entries.find?_last (hk : key.name = k) (h : Entries.find? k es = none) (v : Item) :
    Entries.find? k (es ++ [(key, v)]) = some v := by
  rw [Entries.find?_append, h]
  simp [Entries.find?, hk]

theorem Entries.replace_last (hk : key.name = k) (h : Entries.find? k es = none) (u v : Item) :
    Entries.replace k v (es ++ [(key, u)]) = es ++ [(key, v)] := by
  induction es with
  | nil => simp [Entries.replace, hk]
  | cons e es ih =>
    simp only [Entries.find?] at h
    split at h
    · cases h
    · next hne => simp [Entries.replace, hne, ih h]

/-! ## Places -/

theorem descend_append (w : Way) (f : Origin → Entries → Option Entries) (o : Origin) (es : Entries)
    (P Q : List Key) :
    descend w f o es (P ++ Q) = descend w (fun o es => descend w f o es Q) o es P := by
  induction P generalizing o es with
  | nil => rfl
  | cons k P ih => simp only [List.cons_append, descend, ih]

theorem lookIn_append (es : Entries) (P Q : List Key) :
    Draft.openTable.lookIn es (P ++ Q) =
      (Draft.openTable.lookIn es P).bind fun es => Draft.openTable.lookIn es Q := by
  induction P generalizing es with
  | nil => rfl
  | cons k P ih =>
    simp only [List.cons_append, Draft.openTable.lookIn, ih]
    split
    · rfl
    · rfl
    · split <;> rfl
    · rfl

/-- In every file that `fill` makes, the table named by `ns` is what it is made of. -/
def Stable (fill : Entries → Entries) (ns : List String) (o : Origin) : Prop :=
  ∀ es P, P.map Key.name = ns → Draft.openTable.lookIn (fill es) P = some es ∧
    ∀ f, descend .header f .header (fill es) P = (f o es).map fill

/-- The table at `P` has the entries `es`, and what changes it makes `fill` of its new entries. A
table that is missing has no entries, and the keys on the way to it are taken from `P`. -/
structure Spot (root : Entries) (P : List Key) (o : Origin) (es : Entries)
    (fill : Entries → Entries) : Prop where
  look : Draft.openTable.lookIn root P = some es
  change : ∀ f, descend .header f .header root P = (f o es).map fill
  stable : Stable fill (P.map Key.name) o

variable {root : Entries} {P : List Key} {ns : List String} {o : Origin} {fill : Entries → Entries}

theorem Stable.spot (h : Stable fill ns o) (hP : P.map Key.name = ns) (es : Entries) :
    Spot (fill es) P o es fill :=
  ⟨(h es P hP).1, (h es P hP).2, hP ▸ h⟩

theorem stable_root : Stable id [] .header := by
  intro es P hP
  rw [List.map_eq_nil_iff.mp hP]
  exact ⟨rfl, fun f => Option.map_id'.symm⟩

/-- The last step of a path goes on from the place of the others. -/
theorem Stable.step (h : Stable fill ns o) (item : Entries → Item) {o' : Origin}
    (hlook : ∀ x q, q.name = k → Draft.openTable.lookIn (es ++ [(key, item x)]) [q] = some x)
    (hchange : ∀ x q f, q.name = k → descend .header f o (es ++ [(key, item x)]) [q] =
      (f o' x).map fun y => es ++ [(key, item y)]) :
    Stable (fun x => fill (es ++ [(key, item x)])) (ns ++ [k]) o' := by
  intro x P hnames
  obtain ⟨P, l, rfl, hP, hl⟩ := List.map_eq_append_iff.mp hnames
  obtain ⟨q, rfl, hq⟩ : ∃ q, l = [q] ∧ q.name = k := by
    obtain ⟨q, l, rfl, hq, hl⟩ := List.map_eq_cons_iff.mp hl
    exact ⟨q, by rw [List.map_eq_nil_iff.mp hl], hq⟩
  obtain ⟨h₁, h₂⟩ := h (es ++ [(key, item x)]) P hP
  refine ⟨?_, fun f => ?_⟩
  · rw [lookIn_append, h₁, Option.bind_some, hlook x q hq]
  · rw [descend_append, h₂, hchange x q f hq, Option.map_map]
    rfl

/-- A table that headers may lead through. -/
theorem Stable.table (h : Stable fill ns o) (hk : key.name = k) (hn : Entries.find? k es = none)
    {o' : Origin} (ho : Way.header.enters o' = true) (place : Option Nat) :
    Stable (fun x => fill (es ++ [(key, .table o' place x)])) (ns ++ [k]) o' := by
  refine h.step (fun x => .table o' place x) (fun x q hq => ?_) fun x q f hq => ?_
  · simp only [Draft.openTable.lookIn, hq, Entries.find?_last hk hn]
  · simp only [descend, hq, Entries.find?_last hk hn, ho, ↓reduceIte]
    cases f o' x <;> simp [Entries.replace_last hk hn]

/-- The last table of an array of tables. -/
theorem Stable.last (h : Stable fill ns o) (hk : key.name = k) (hn : Entries.find? k es = none)
    (items : List Item) (o' : Origin) (place : Option Nat) :
    Stable (fun x => fill (es ++ [(key, .tables (items ++ [.table o' place x]))])) (ns ++ [k])
      o' := by
  refine h.step (fun x => .tables (items ++ [.table o' place x])) (fun x q hq => ?_)
    fun x q f hq => ?_
  · simp [Draft.openTable.lookIn, hq, Entries.find?_last hk hn]
  · simp only [descend, hq, Entries.find?_last hk hn]
    cases hx : f o' x <;> simp [hx, Entries.replace_last hk hn]

/-- A table that no header has led through so far is made on the way. -/
theorem Spot.missing (h : Spot root P o es fill) (hn : Entries.find? q.name es = none) :
    Spot root (P ++ [q]) .path [] fun x => fill (es ++ [(q, .table .path none x)]) where
  look := by
    rw [lookIn_append, h.look, Option.bind_some]
    simp only [Draft.openTable.lookIn, hn]
  change f := by
    rw [descend_append, h.change]
    simp only [descend, hn, Way.origin]
    cases f .path [] <;> rfl
  stable := by
    rw [List.map_append]
    exact h.stable.table rfl hn rfl none

/-- Every path with these names leads to a place, of a kind `C`. -/
def Room (root : Entries) (ns : List String) (o : Origin) (es : Entries)
    (C : (Entries → Entries) → Prop) : Prop :=
  ∀ P, P.map Key.name = ns → ∃ fill, C fill ∧ Spot root P o es fill

variable {C : (Entries → Entries) → Prop}

theorem Stable.room (h : Stable fill ns o) (es : Entries) : Room (fill es) ns o es (· = fill) :=
  fun _ hP => ⟨fill, rfl, h.spot hP es⟩

theorem Room.missing (h : Room root ns o es C) (hn : Entries.find? k es = none) :
    Room root (ns ++ [k]) .path [] fun f => ∃ fill q, C fill ∧ Stable fill ns o ∧ q.name = k ∧
      f = fun x => fill (es ++ [(q, .table .path none x)]) := by
  intro P hnames
  obtain ⟨P, l, rfl, hP, hl⟩ := List.map_eq_append_iff.mp hnames
  obtain ⟨q, l, rfl, hq, hl⟩ := List.map_eq_cons_iff.mp hl
  obtain rfl := List.map_eq_nil_iff.mp hl
  obtain ⟨fill, hC, hspot⟩ := h P hP
  exact ⟨_, ⟨fill, q, hC, hP ▸ hspot.stable, hq, rfl⟩, hspot.missing (hq.symm ▸ hn)⟩

/-! ## Headers -/

variable {d : Draft}

/-- What the file is, for every possible table that is being read. -/
def Filling (d : Draft) (fill : Entries → Entries) : Prop :=
  ∀ es, ({ d with current := es } : Draft).complete = some (fill es)

theorem filling_start : Filling .start id :=
  fun _ => rfl

theorem complete_at (root : Entries) (P : List Key) (q : Key) (inArray : Bool) (place : Option Nat)
    (es : Entries) : (⟨root, P ++ [q], inArray, place, es⟩ : Draft).complete =
      descend .header (fun _ fs => if inArray then appendTable q (.table .header place es) fs
        else some (fs ++ [(q, .table .header place es)])) .header root P := by
  simp [Draft.complete]

/-- The header of a table with a new name. -/
theorem openTable_spot (hd : d.complete = some root) (h : Spot root P o es fill)
    (hn : Entries.find? q.name es = none) (place : Nat) :
    ∃ d', d.openTable (P ++ [q]) place = some d' ∧ d'.current = [] ∧
      Filling d' fun x => fill (es ++ [(q, .table .header (some place) x)]) := by
  have hclaim : claim q es = some ([], es) := by simp [claim, hn]
  refine ⟨⟨fill es, P ++ [q], false, some place, []⟩, ?_, rfl, fun x => ?_⟩
  · simp [Draft.openTable, hd, h.look, h.change, hclaim]
  · rw [complete_at, (h.stable es P rfl).2]
    rfl

theorem openArrayTable_spot (hd : d.complete = some root) (h : Spot root P o es fill)
    (hn : Entries.find? q.name es = none) (place : Nat) :
    ∃ d', d.openArrayTable (P ++ [q]) place = some d' ∧ d'.current = [] ∧
      Filling d' fun x => fill (es ++ [(q, .tables [.table .header (some place) x])]) := by
  have harray : isTableArray? q es = true := by simp [isTableArray?, hn]
  refine ⟨⟨fill es, P ++ [q], true, some place, []⟩, ?_, rfl, fun x => ?_⟩
  · simp [Draft.openArrayTable, hd, h.change, harray]
  · rw [complete_at, (h.stable es P rfl).2]
    simp [appendTable, hn]

/-- The header of one more table of an array. -/
theorem openArrayTable_stable {items : List Item} (h : Stable fill (P.map Key.name) o)
    (hd : d.complete = some (fill (es ++ [(key, .tables items)]))) (hk : key.name = q.name)
    (hn : Entries.find? q.name es = none) (place : Nat) :
    ∃ d', d.openArrayTable (P ++ [q]) place = some d' ∧ d'.current = [] ∧
      Filling d' fun x =>
        fill (es ++ [(key, .tables (items ++ [.table .header (some place) x]))]) := by
  have hfind := fun v => Entries.find?_last hk hn v
  have harray : isTableArray? q (es ++ [(key, .tables items)]) = true := by
    simp [isTableArray?, hfind]
  have hchange := (h (es ++ [(key, .tables items)]) P rfl).2
  refine ⟨⟨fill (es ++ [(key, .tables items)]), P ++ [q], true, some place, []⟩, ?_, rfl,
    fun x => ?_⟩
  · simp [Draft.openArrayTable, hd, hchange, harray]
  · rw [complete_at, hchange]
    simp [appendTable, hfind, Entries.replace_last hk hn]

/-- A plain entry with a new name. -/
theorem add_spot (hn : Entries.find? q.name d.current = none) (v : Item) :
    d.add [] q v = some { d with current := d.current ++ [(q, v)] } := by
  simp [Draft.add, addAt, descend, addEntry, Origin.isDotted, hn]

end TaskDriver.Toml
