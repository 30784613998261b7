import TaskDriver.Build.Driver
import TaskDriver.Proofs.Definition.Commands
import TaskDriver.Proofs.Task.Noted
import TaskDriver.Proofs.Task.Registry

/-! Which function a task name reaches. The driver registers the exported functions in the order of
the source, so that of functions with one task name the last one is called, once and no other. -/
namespace TaskDriver

namespace Task

open Definition (Command)

variable {ε : Type}

/-! ## Functions that are watched -/

structure Call where
  function : String
  args : List String
  deriving DecidableEq

/-- The functions, each of which notes that it is called. -/
def watched (functions : String → Handler ε) (function : String) : Handler (Call ⊕ ε) := fun c =>
  .note (.inl ⟨function, c.args⟩) ((functions function c).relabel .inr)

/-! ## The registry of a driver -/

/-- The task that a driver registers for a command. -/
def Entry.ofCommand (functions : String → Handler ε) (c : Command) : Entry ε :=
  ⟨Task.name c.name, Build.trimmed c.summary, Build.trimmed c.doc, functions c.name⟩

def Registry.ofCommands (policy : Policy) (functions : String → Handler ε)
    (commands : List Command) : Registry ε :=
  ((Registry.empty false).withPolicy policy).handleAll
    ((commands.filter (·.exported)).map (.ofCommand functions))

theorem Registry.handleAll_hook (r : Registry ε) (es : List (Entry ε)) :
    (r.handleAll es).hook = r.hook := by
  induction es generalizing r with
  | nil => rfl
  | cons e es ih => exact ih _

/-- The last of the elements of a list that have a property. -/
theorem exists_last {β : Type} (p : β → Prop) {l : List β} {b : β} (hb : b ∈ l) (hp : p b) :
    ∃ before d after, l = before ++ d :: after ∧ p d ∧ ∀ e ∈ after, ¬ p e := by
  induction l generalizing b with
  | nil => cases hb
  | cons a l ih =>
    by_cases h : ∃ e ∈ l, p e
    · obtain ⟨e, he, hpe⟩ := h
      obtain ⟨before, d, after, rfl, hd, hafter⟩ := ih he hpe
      exact ⟨a :: before, d, after, rfl, hd, hafter⟩
    · rcases List.mem_cons.mp hb with rfl | hb
      · exact ⟨[], b, l, rfl, hp, fun e he hpe => h ⟨e, he, hpe⟩⟩
      · exact absurd ⟨b, hb, hp⟩ h

/-- The last one is met in every way to take the list apart. -/
theorem last_unique {β : Type} {p : β → Prop} {l before after before' after' : List β} {c d : β}
    (h : l = before ++ d :: after) (hd : p d) (hafter : ∀ e ∈ after, ¬ p e)
    (h' : l = before' ++ c :: after') (hc : p c) (hafter' : ∀ e ∈ after', ¬ p e) : d = c := by
  rw [h] at h'
  rcases List.append_eq_append_iff.mp h' with ⟨m, _, hm⟩ | ⟨m, _, hm⟩
  · cases m with
    | nil => exact (List.cons.inj hm).1
    | cons x m =>
      refine absurd hc (hafter c ?_)
      rw [(List.cons.inj hm).2]
      simp
  · cases m with
    | nil => exact (List.cons.inj hm).1.symm
    | cons x m =>
      refine absurd hd (hafter' d ?_)
      rw [(List.cons.inj hm).2]
      simp

/-- Among functions with names of their own a name tells the function. -/
theorem eq_of_name_eq {commands : List Command} {c d : Command}
    (hnodup : (commands.map (·.name)).Nodup) (hc : c ∈ commands) (hd : d ∈ commands)
    (h : c.name = d.name) : c = d := by
  obtain ⟨before, after, rfl⟩ := List.append_of_mem hd
  simp only [List.map_append, List.map_cons, List.nodup_append, List.nodup_cons] at hnodup
  obtain ⟨_, ⟨hafter, _⟩, hbefore⟩ := hnodup
  rcases List.mem_append.mp hc with hc | hc
  · exact absurd h (hbefore _ (List.mem_map_of_mem hc) _ (.head _))
  · rcases List.mem_cons.mp hc with rfl | hc
    · rfl
    · exact absurd (h ▸ List.mem_map_of_mem hc) hafter

section

variable {source : List Char} {commands before after : List Command} {c d : Command} {n : String}
  {functions : String → Handler ε} {policy : Policy}

/-- The command is exported under the task name. -/
def Exports (n : String) (c : Command) : Prop :=
  c.exported = true ∧ Task.name c.name = n

/-- The task of the last command that is exported under a name is found by it. -/
theorem Registry.get?_ofCommands (h : Definition.commandsOf source = .ok commands)
    (hsplit : commands = before ++ d :: after) (hd : Exports n d)
    (hlast : ∀ e ∈ after, ¬ Exports n e) :
    (Registry.ofCommands policy functions commands).get? n = some (.ofCommand functions d) := by
  have hne : ∀ e ∈ commands, e.exported = true → Task.name e.name ≠ "" := by
    intro e he hexp hempty
    obtain ⟨x, s, hname, _⟩ := exists_toList_name (Definition.isUppercase_of_exported h he hexp)
    rw [hempty] at hname
    cases hname
  have hafter : ∀ e ∈ (after.filter (·.exported)).map (Entry.ofCommand functions),
      e.name ≠ "" ∧ e.name ≠ Task.name d.name := by
    intro e he
    obtain ⟨c, hc, rfl⟩ := List.mem_map.mp he
    obtain ⟨hc, hexp⟩ := List.mem_filter.mp hc
    have hmem : c ∈ commands := hsplit ▸ List.mem_append_right _ (.tail _ hc)
    exact ⟨hne c hmem hexp, fun hn => hlast c hc ⟨hexp, hn.trans hd.2⟩⟩
  have hmem : d ∈ commands := hsplit ▸ List.mem_append_right _ (.head _)
  rw [ofCommands, hsplit, List.filter_append, List.filter_cons_of_pos (by exact hd.1),
    List.map_append, List.map_cons, ← hd.2]
  exact get?_handleAll _ _ (e := Entry.ofCommand functions d) (hne d hmem hd.1) hafter

end

/-- The function that a task name reaches is that of the last command exported under it. It is called
once, with the rest of the arguments, and no other function is called. -/
theorem task_reaches_last {source : List Char} {commands : List Command} {c : Command}
    (h : Definition.commandsOf source = .ok commands) (hnodup : (commands.map (·.name)).Nodup)
    (hc : c ∈ commands) (hexp : c.exported = true) (functions : String → Handler ε)
    (policy : Policy) (context : Context) {rest : List String}
    (hrest : rest.head?.any isHelpFlag = false) (w : World (Call ⊕ ε)) :
    ∃ before d after, commands = before ++ d :: after ∧ Exports (Task.name c.name) d ∧
      (∀ e ∈ after, ¬ Exports (Task.name c.name) e) ∧
      ((Registry.ofCommands policy (watched functions) commands).run context
        (Task.name c.name :: rest) w).2.2.notes = w.notes ++ [⟨d.name, rest⟩] ∧
      (d.name = c.name ↔ ∃ before after, commands = before ++ c :: after ∧
        ∀ e ∈ after, ¬ Exports (Task.name c.name) e) ∧
      (Task.name c.name ≠ defaultName → ∃ width top bottom,
        (Registry.ofCommands policy (watched functions) commands).usage =
          top ++ listingLine width (Entry.ofCommand (watched functions) d) ++ bottom) := by
  have hcn : Exports (Task.name c.name) c := ⟨hexp, rfl⟩
  obtain ⟨before, d, after, hsplit, hd, hlast⟩ := exists_last (Exports (Task.name c.name)) hc hcn
  have hget : (Registry.ofCommands policy (watched functions) commands).get? (Task.name c.name) =
      some (.ofCommand (watched functions) d) := Registry.get?_ofCommands h hsplit hd hlast
  refine ⟨before, d, after, hsplit, hd, hlast, ?_, ?_, fun hn => Registry.listed hget hn⟩
  · obtain ⟨x, s, hname, hx⟩ :=
      exists_toList_name (Definition.isUppercase_of_exported h hc hexp)
    rw [Registry.run_call (not_isHelpFlag hname hx) hrest hget, Registry.call_world]
    · obtain ⟨_, hrun, _, hnotes⟩ :=
        (functions d.name { context with args := rest }).run_note_relabel (⟨d.name, rest⟩ : Call)
          { context with args := rest } w
      exact (congrArg (fun x => x.2.notes) hrun).trans hnotes
    · exact Registry.handleAll_hook _ _
  · constructor
    · intro he
      have hmem : d ∈ commands := hsplit ▸ List.mem_append_right _ (.head _)
      obtain rfl := eq_of_name_eq hnodup hmem hc he
      exact ⟨before, after, hsplit, hlast⟩
    · rintro ⟨before', after', hsplit', hlast'⟩
      rw [last_unique hsplit hd hlast hsplit' hcn hlast']

/-! ## Two functions with one task name -/

def twoDockers : List Char :=
  "// matr:build\nfn BuildDocker() {}\nfn Build_Docker() {}\n".toList

def twoCommands : List Command :=
  [⟨"BuildDocker", "", "", true⟩, ⟨"Build_Docker", "", "", true⟩]

theorem commandsOf_twoDockers : Definition.commandsOf twoDockers = .ok twoCommands :=
  Definition.commandsOf_of_toOption (by decide +kernel)

/-- What is called when the name of the first function is given. -/
def calledForFirst : List Call :=
  ((Registry.ofCommands .strict (watched fun _ _ => .done (.ok ())) twoCommands).run
    ⟨[], none⟩ [Task.name "BuildDocker"] (World.quiet 0 false : World (Call ⊕ Empty))).2.2.notes

/-- The first function is exported and is not reached. -/
theorem first_not_reached : Definition.commandsOf twoDockers = .ok twoCommands ∧
    (twoCommands.map (·.name)).Nodup ∧ (∀ c ∈ twoCommands, c.exported = true) ∧
    calledForFirst = [⟨"Build_Docker", []⟩] := by
  refine ⟨commandsOf_twoDockers, by decide, by decide, ?_⟩
  decide +kernel

/-- The second function is called for the name of the first one. -/
theorem task_reaches_last_docker : ∃ d ∈ twoCommands, Exports (Task.name "BuildDocker") d ∧
    calledForFirst = [⟨d.name, []⟩] := by
  obtain ⟨before, d, after, hsplit, hd, _, hcalls, _⟩ :=
    task_reaches_last commandsOf_twoDockers (by decide) (.head _) rfl
      (fun _ _ => (.done (.ok ()) : Work Empty _)) .strict ⟨[], none⟩
      (show ([] : List String).head?.any isHelpFlag = false from rfl) (World.quiet 0 false)
  exact ⟨d, hsplit ▸ List.mem_append_right _ (.head _), hd, hcalls⟩

end Task

end TaskDriver
