import TaskDriver.Proofs.Task.Naming
import TaskDriver.Task.Registry

/-! Tasks by their names. Of tasks that are registered under one name the last one is found, and it
is listed once. -/
namespace TaskDriver.Task

variable {ε : Type} {r : Registry ε} {e d : Entry ε} {es : List (Entry ε)} {n : String}

/-! ## The tasks that are registered -/

theorem find?_place_self : (place e es).find? (·.name = e.name) = some e := by
  induction es with
  | nil => simp [place]
  | cons c cs ih =>
    unfold place
    split
    · simp
    · next h => rw [List.find?_cons_of_neg (by simpa using h), ih]

theorem find?_place_of_ne (h : e.name ≠ n) :
    (place e es).find? (·.name = n) = es.find? (·.name = n) := by
  induction es with
  | nil => simp [place, h]
  | cons c cs ih =>
    unfold place
    split
    · next hc =>
      rw [List.find?_cons_of_neg (by simpa using h),
        List.find?_cons_of_neg (by simpa [hc] using h)]
    · rw [List.find?_cons, List.find?_cons, ih]

theorem named_of_ne (h : e.name ≠ "") : e.named = e :=
  if_neg h

theorem Registry.get?_handle_self (h : e.name ≠ "") : (r.handle e).get? e.name = some e := by
  rw [get?, handle, named_of_ne h]
  exact find?_place_self

theorem Registry.get?_handle_of_ne (he : e.name ≠ "") (h : e.name ≠ n) :
    (r.handle e).get? n = r.get? n := by
  rw [get?, handle, named_of_ne he]
  exact find?_place_of_ne h

/-- Registers tasks one after the other. -/
def Registry.handleAll (r : Registry ε) (es : List (Entry ε)) : Registry ε :=
  es.foldl Registry.handle r

theorem Registry.handleAll_append (r : Registry ε) (es ds : List (Entry ε)) :
    r.handleAll (es ++ ds) = (r.handleAll es).handleAll ds :=
  List.foldl_append

theorem Registry.get?_handleAll_of_ne (hes : ∀ e ∈ es, e.name ≠ "" ∧ e.name ≠ n) :
    (r.handleAll es).get? n = r.get? n := by
  induction es generalizing r with
  | nil => rfl
  | cons e es ih =>
    obtain ⟨he, hn⟩ := hes e (.head _)
    exact (ih fun d hd => hes d (.tail _ hd)).trans (get?_handle_of_ne he hn)

/-- The last task of a name is the one that is found. -/
theorem Registry.get?_handleAll (before after : List (Entry ε)) (he : e.name ≠ "")
    (h : ∀ d ∈ after, d.name ≠ "" ∧ d.name ≠ e.name) :
    (r.handleAll (before ++ e :: after)).get? e.name = some e := by
  rw [handleAll_append]
  exact (get?_handleAll_of_ne h).trans (get?_handle_self he)

/-! ## Running one of them -/

theorem not_isHelpFlag {s : String} {c : Char} {r : List Char} (h : s.toList = c :: r)
    (hc : c ≠ '-') : isHelpFlag s = false := by
  have hne : ∀ r' : List Char, s ≠ String.ofList ('-' :: r') := by
    intro r' he
    rw [he, String.toList_ofList] at h
    exact hc (List.cons.inj h).1.symm
  simp only [isHelpFlag, Bool.or_eq_false_iff, decide_eq_false_iff_not]
  exact ⟨hne ['h'], hne "-help".toList⟩

/-- A command line that asks for no help calls the task that it names. -/
theorem Registry.run_call {rest : List String} (hn : isHelpFlag n = false)
    (hrest : rest.head?.any isHelpFlag = false) (h : r.get? n = some e) (c : Context) (w : World ε) :
    r.run c (n :: rest) w = { r with progress := .idle }.call { c with args := rest } e w := by
  have hg : ({ r with progress := .idle } : Registry ε).get? n = some e := h
  simp [run, request, hn, hrest, hg]

/-- Without a hook a run leaves what the task has left. -/
theorem Registry.call_world (h : r.hook = none) (c : Context) (e : Entry ε) (w : World ε) :
    (r.call c e w).2.2 = ((e.handler c).run c w).2 := by
  unfold call
  rcases (e.handler c).run c w with ⟨ending, w'⟩
  simp only [h]
  rcases outcomeOf e.name ending with _ | ⟨fault, result⟩ <;> rfl

/-! ## The listing -/

theorem join_between {α : Type} (line : α → String) (first last : String) {l ds bs : List α} {a : α}
    (h : l = ds ++ a :: bs) : first ++ String.join (l.map line) ++ last =
      (first ++ String.join (ds.map line)) ++ line a ++ (String.join (bs.map line) ++ last) := by
  rw [h, List.map_append, List.map_cons, String.join_append, String.join_cons]
  simp only [String.append_assoc]

/-- Every task but the default one has its line in the listing. -/
theorem Registry.listed (h : r.get? n = some e) (hn : n ≠ defaultName) :
    ∃ width before after, r.usage = before ++ listingLine width e ++ after := by
  have hname : e.name = n := by simpa using List.find?_some h
  have hmem : e ∈ r.entries.filter (·.name ≠ defaultName) :=
    List.mem_filter.mpr ⟨List.mem_of_find?_eq_some h, by simpa [hname] using hn⟩
  obtain ⟨ds, bs, hsplit⟩ := List.append_of_mem hmem
  exact ⟨_, _, _, join_between _ _ _ hsplit⟩

end TaskDriver.Task
