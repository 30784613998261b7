import TaskDriver.Configuration.Toml
import TaskDriver.Proofs.Keyed
import TaskDriver.Proofs.Toml.Datetime
import TaskDriver.Toml.Writer

/-! What a file of settings says, whatever the places and the order in which it says it. -/
namespace TaskDriver.Toml

mutual

/-- The value that an item stands for, without its places. -/
def Item.value : Item → Value
  | .leaf v _ => Configuration.leafValue v
  | .array items _ => .array (itemValues items)
  | .tables items => .array (itemValues items)
  | .table _ _ es => .table (Keyed.ofList (entryValues es))

def itemValues : List Item → List Value
  | [] => []
  | v :: vs => v.value :: itemValues vs

def entryValues : Entries → List (String × Value)
  | [] => []
  | (k, v) :: es => (k.name, v.value) :: entryValues es

end

/-- The table that the entries of a file stand for. -/
def Entries.table (es : Entries) : Table :=
  Keyed.ofList (entryValues es)

mutual

/-- With the entries of each table in the order of their names. -/
def Value.ordered : Value → Value
  | .array items => .array (orderedItems items)
  | .table es => .table (Keyed.ofList (orderedEntries es))
  | v => v

def orderedItems : List Value → List Value
  | [] => []
  | v :: vs => v.ordered :: orderedItems vs

def orderedEntries : List (String × Value) → List (String × Value)
  | [] => []
  | (k, v) :: es => (k, v.ordered) :: orderedEntries es

end

mutual

/-- How deep arrays and tables are nested. -/
def Value.depth : Value → Nat
  | .array items => itemsDepth items + 1
  | .table es => entriesDepth es + 1
  | _ => 0

def itemsDepth : List Value → Nat
  | [] => 0
  | v :: vs => max v.depth (itemsDepth vs)

def entriesDepth : List (String × Value) → Nat
  | [] => 0
  | (_, v) :: es => max v.depth (entriesDepth es)

end

mutual

/-- The values that a file can hold: numbers and dates in their ranges, and each name of a table
once. -/
def Value.Valid : Value → Prop
  | .integer i => InRange i
  | .float x => IsFloat x
  | .datetime d => d.Valid
  | .array items => itemsValid items
  | .table es => Keyed.Distinct es ∧ entriesValid es
  | _ => True

def itemsValid : List Value → Prop
  | [] => True
  | v :: vs => v.Valid ∧ itemsValid vs

def entriesValid : List (String × Value) → Prop
  | [] => True
  | (_, v) :: es => v.Valid ∧ entriesValid es

end

mutual

/-- Each table is in the order of its names. -/
def Value.InOrder : Value → Prop
  | .array items => itemsInOrder items
  | .table es => Keyed.Sorted es ∧ entriesInOrder es
  | _ => True

def itemsInOrder : List Value → Prop
  | [] => True
  | v :: vs => v.InOrder ∧ itemsInOrder vs

def entriesInOrder : List (String × Value) → Prop
  | [] => True
  | (_, v) :: es => v.InOrder ∧ entriesInOrder es

end

variable {k : String} {v : Value} {vs : List Value} {es : List (String × Value)}

theorem itemValues_eq (items : List Item) : itemValues items = items.map Item.value := by
  induction items with
  | nil => rfl
  | cons v vs ih => rw [itemValues, ih, List.map_cons]

theorem entryValues_eq (es : Entries) : entryValues es = es.map fun e => (e.1.name, e.2.value) := by
  induction es with
  | nil => rfl
  | cons e es ih => rw [entryValues, ih, List.map_cons]

theorem orderedItems_eq (vs : List Value) : orderedItems vs = vs.map Value.ordered := by
  induction vs with
  | nil => rfl
  | cons v vs ih => rw [orderedItems, ih, List.map_cons]

theorem orderedEntries_eq (es : List (String × Value)) :
    orderedEntries es = es.map fun e => (e.1, e.2.ordered) := by
  induction es with
  | nil => rfl
  | cons e es ih => rw [orderedEntries, ih, List.map_cons]

theorem orderedEntries_names (es : List (String × Value)) :
    (orderedEntries es).map (·.1) = es.map (·.1) := by
  rw [orderedEntries_eq, List.map_map]
  rfl

theorem depth_le_of_mem_items (h : v ∈ vs) : v.depth ≤ itemsDepth vs := by
  induction vs with
  | nil => cases h
  | cons u vs ih =>
    rw [itemsDepth]
    rcases List.mem_cons.mp h with rfl | h
    · exact Nat.le_max_left _ _
    · exact Nat.le_trans (ih h) (Nat.le_max_right _ _)

theorem depth_le_of_mem_entries (h : (k, v) ∈ es) : v.depth ≤ entriesDepth es := by
  induction es with
  | nil => cases h
  | cons e es ih =>
    rw [entriesDepth]
    rcases List.mem_cons.mp h with rfl | h
    · exact Nat.le_max_left _ _
    · exact Nat.le_trans (ih h) (Nat.le_max_right _ _)

theorem valid_of_mem_items (hv : itemsValid vs) (h : v ∈ vs) : v.Valid := by
  induction vs with
  | nil => cases h
  | cons u vs ih =>
    rcases List.mem_cons.mp h with rfl | h
    · exact hv.1
    · exact ih hv.2 h

theorem entriesValid_iff : entriesValid es ↔ ∀ e ∈ es, e.2.Valid := by
  induction es with
  | nil => simp [entriesValid]
  | cons e es ih => simp [entriesValid, ih]

theorem valid_of_mem_entries (hv : entriesValid es) (h : (k, v) ∈ es) : v.Valid :=
  entriesValid_iff.mp hv (k, v) h

theorem entriesInOrder_iff : entriesInOrder es ↔ ∀ e ∈ es, e.2.InOrder := by
  induction es with
  | nil => simp [entriesInOrder]
  | cons e es ih => simp [entriesInOrder, ih]

mutual

/-- Ordering changes nothing in what is in order. -/
theorem Value.ordered_eq (v : Value) (h : v.InOrder) : v.ordered = v :=
  match v, h with
  | .array items, h => congrArg Value.array (orderedItems_eq_self items h)
  | .table es, h => by
    rw [Value.ordered, orderedEntries_eq_self es h.2, Keyed.ofList_of_sorted h.1]
  | .string _, _ => rfl
  | .integer _, _ => rfl
  | .float _, _ => rfl
  | .boolean _, _ => rfl
  | .datetime _, _ => rfl

theorem orderedItems_eq_self (vs : List Value) (h : itemsInOrder vs) : orderedItems vs = vs :=
  match vs, h with
  | [], _ => rfl
  | v :: vs, h => by rw [orderedItems, v.ordered_eq h.1, orderedItems_eq_self vs h.2]

theorem orderedEntries_eq_self (es : List (String × Value)) (h : entriesInOrder es) :
    orderedEntries es = es :=
  match es, h with
  | [], _ => rfl
  | (k, v) :: es, h => by rw [orderedEntries, v.ordered_eq h.1, orderedEntries_eq_self es h.2]

end

end TaskDriver.Toml
