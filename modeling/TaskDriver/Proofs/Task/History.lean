import Mathlib.Data.List.Induction
import TaskDriver.Proofs.Task.Selection

/-! What a registry holds after a history of registrations and runs: to each name the task that was
registered under it last, and the names in the order in which each was registered first. -/
namespace TaskDriver.Task

variable {ε : Type}

/-! ## Tasks by their names, and the names in order -/

/-- A map from names to tasks, and beside it a list of the names. -/
structure Index (ε : Type) where
  tasks : String → Option (Entry ε)
  order : List String

def Index.empty : Index ε :=
  ⟨fun _ => none, []⟩

/-- A task takes the place of one of the same name; only a new name is added to the list. -/
def Index.insert (i : Index ε) (e : Entry ε) : Index ε where
  tasks n := if e.name = n then some e else i.tasks n
  order := if (i.tasks e.name).isSome then i.order else i.order ++ [e.name]

def Registry.index (r : Registry ε) : Index ε :=
  ⟨r.get?, r.names⟩

section

variable {r : Registry ε} {e d : Entry ε} {es : List (Entry ε)} {n : String}

theorem Registry.isSome_get? : (r.get? n).isSome ↔ n ∈ r.names := by
  simp [get?, names]

/-- The one list of tasks does what the map and the list of names do together. -/
theorem Registry.index_handle (r : Registry ε) (e : Entry ε) :
    (r.handle e).index = r.index.insert e.named := by
  have htasks : (r.handle e).get? = (r.index.insert e.named).tasks := by
    funext n
    simp only [get?, handle, Index.insert, index]
    split
    · next h => rw [← h, find?_place_self]
    · next h => rw [find?_place_of_ne h]
  have horder : (r.handle e).names = (r.index.insert e.named).order := by
    simp only [Index.insert, index, isSome_get?]
    exact map_name_place
  rw [index, htasks, horder]

/-! ## Many tasks -/

/-- The task is the last one of its name. -/
def Latest (es : List (Entry ε)) (n : String) (e : Entry ε) : Prop :=
  e.name = n ∧ ∃ before after, es = before ++ e :: after ∧ ∀ d ∈ after, d.name ≠ n

theorem latest_snoc : Latest (es ++ [d]) n e ↔ if d.name = n then d = e else Latest es n e := by
  constructor
  · rintro ⟨he, before, after, hsplit, hafter⟩
    rcases List.eq_nil_or_concat after with rfl | ⟨after, a, rfl⟩
    · obtain ⟨_, hd⟩ := List.append_inj' hsplit rfl
      cases hd
      rw [if_pos he]
    · rw [List.concat_eq_append, ← List.cons_append, ← List.append_assoc] at hsplit
      obtain ⟨rfl, ha⟩ := List.append_inj' hsplit rfl
      cases ha
      rw [if_neg (hafter _ (by simp))]
      exact ⟨he, before, after, rfl, fun b hb => hafter b (by simp [hb])⟩
  · split
    · next hd =>
      rintro rfl
      exact ⟨hd, es, [], rfl, by simp⟩
    · next hd =>
      rintro ⟨he, before, after, rfl, hafter⟩
      refine ⟨he, before, after ++ [d], by simp, ?_⟩
      intro b hb
      rcases List.mem_append.mp hb with hb | hb
      · exact hafter b hb
      · rw [List.mem_singleton.mp hb]
        exact hd

theorem Index.tasks_insertAll (es : List (Entry ε)) (n : String) (e : Entry ε) :
    (es.foldl Index.insert .empty).tasks n = some e ↔ Latest es n e := by
  induction es using List.reverseRecOn generalizing n e with
  | nil => simp [empty, Latest]
  | append_singleton es d ih =>
    rw [List.foldl_append, List.foldl_cons, List.foldl_nil, latest_snoc]
    simp only [insert]
    split
    · simp
    · exact ih n e

theorem exists_latest : (∃ e, Latest es n e) ↔ n ∈ es.map (·.name) := by
  induction es using List.reverseRecOn with
  | nil => simp [Latest]
  | append_singleton es d ih =>
    simp only [latest_snoc, List.map_append, List.map_cons, List.map_nil, List.mem_append,
      List.mem_singleton, ← ih]
    by_cases h : d.name = n
    · simp [h]
    · simp [h, Ne.symm h]

theorem eraseDups_snoc (l : List String) (s : String) :
    (l ++ [s]).eraseDups = if s ∈ l then l.eraseDups else l.eraseDups ++ [s] := by
  rw [List.eraseDups_append]
  by_cases h : s ∈ l <;> simp [List.removeAll, h, List.eraseDups_cons]

/-- Every name is listed where it came first. -/
theorem Index.order_insertAll (es : List (Entry ε)) :
    (es.foldl Index.insert .empty).order = (es.map (·.name)).eraseDups := by
  induction es using List.reverseRecOn with
  | nil => rfl
  | append_singleton es d ih =>
    -- A name has a task just if it has come before.
    have hsome : ((es.foldl Index.insert .empty).tasks d.name).isSome ↔
        d.name ∈ es.map (·.name) := by
      rw [Option.isSome_iff_exists, ← exists_latest]
      exact exists_congr fun e => tasks_insertAll es d.name e
    rw [List.foldl_append, List.foldl_cons, List.foldl_nil, List.map_append, List.map_cons,
      List.map_nil, eraseDups_snoc]
    simp only [insert, hsome, ih]

end

/-! ## Histories -/

inductive Operation (ε : Type)
  | handle (e : Entry ε)
  | onExit (hook : ExitHook ε)
  | withPolicy (p : Policy)
  | run (c : Context) (args : List String) (w : World ε)

def Operation.apply : Operation ε → Registry ε → Registry ε
  | .handle e, r => r.handle e
  | .onExit hook, r => r.onExit hook
  | .withPolicy p, r => r.withPolicy p
  | .run c args w, r => (r.run c args w).2.1

/-- The task that is registered, under the name that it is registered under. -/
def Operation.task? : Operation ε → Option (Entry ε)
  | .handle e => some e.named
  | _ => none

def registrations (history : List (Operation ε)) : List (Entry ε) :=
  history.filterMap Operation.task?

def Registry.after (r : Registry ε) (history : List (Operation ε)) : Registry ε :=
  history.foldl (fun r o => o.apply r) r

/-- A registry without tasks, with its two streams. -/
def Registry.new (out err : Sink) : Registry ε :=
  { Registry.empty false with out := out, err := err }

theorem Registry.reachable_after {r : Registry ε} (h : Reachable r) (history : List (Operation ε)) :
    Reachable (r.after history) := by
  induction history generalizing r with
  | nil => exact h
  | cons o history ih =>
    refine ih ?_
    cases o with
    | handle e => exact h.handle e
    | onExit hook => exact h.onExit hook
    | withPolicy p => exact h.withPolicy p
    | run c args w => exact h.run c args w

/-- Only a registration changes which tasks there are. -/
theorem Operation.index_apply (o : Operation ε) (r : Registry ε) :
    (o.apply r).index = o.task?.elim r.index r.index.insert := by
  cases o with
  | handle e => exact r.index_handle e
  | onExit hook => rfl
  | withPolicy p => rfl
  | run c args w =>
    have hentries : ((Operation.run c args w).apply r).entries = r.entries :=
      Registry.run_entries c args w
    have hget : ((Operation.run c args w).apply r).get? = r.get? := by
      funext n
      rw [Registry.get?, Registry.get?, hentries]
    rw [Registry.index, Registry.names, hget, hentries]
    rfl

theorem Registry.index_after (r : Registry ε) (history : List (Operation ε)) :
    (r.after history).index = (registrations history).foldl Index.insert r.index := by
  induction history generalizing r with
  | nil => rfl
  | cons o history ih =>
    have ho := o.index_apply r
    refine (ih (o.apply r)).trans ?_
    rw [ho, registrations, registrations, List.filterMap_cons]
    cases o.task? <;> rfl

end TaskDriver.Task
