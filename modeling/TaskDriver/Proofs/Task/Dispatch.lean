import TaskDriver.Proofs.Task.Noted
import TaskDriver.Proofs.Task.Selection

/-! What a run calls. To tell the calls, all tasks and the hook are watched: they note that they are
called, and then do as before. A run notes the one task that the command line selects and after it
the hook, or nothing. -/
namespace TaskDriver.Task

variable {ε : Type}

/-! ## Calls that are watched -/

/-- What is noted of a run: that a task is called, or that the hook is called and what failure it is
told of. -/
inductive Event
  | task (name : String) (c : Context)
  | hook (c : Context) (fault : Option Fault)

def Entry.watched (e : Entry ε) : Entry (Event ⊕ ε) :=
  { e with handler := fun c => .note (.inl (.task e.name c)) ((e.handler c).relabel .inr) }

def ExitHook.watched (hook : ExitHook ε) : ExitHook (Event ⊕ ε) := fun c fault =>
  .note (.inl (.hook c fault)) ((hook c fault).relabel .inr)

/-- The registry with all its tasks and its hook watched. -/
def Registry.watched (r : Registry ε) : Registry (Event ⊕ ε) :=
  ⟨r.entries.map Entry.watched, r.policy, r.hook.map ExitHook.watched, r.progress, r.out, r.err⟩

/-- What is noted of the hook, if there is one. -/
def Registry.hookEvents (r : Registry ε) (c : Context) (fault : Option Fault) : List Event :=
  if r.hook.isSome then [.hook c fault] else []

/-- The second run ends as the first one, and it leaves the same but for what was noted. -/
structure Seen (x : Conclusion × Registry ε × World ε)
    (y : Conclusion × Registry (Event ⊕ ε) × World (Event ⊕ ε)) : Prop where
  conclusion : y.1 = x.1
  registry : y.2.1 = x.2.1.watched
  world : y.2.2.plain = x.2.2

section

variable {r : Registry ε} {c : Context} {e : Entry ε} {w : World (Event ⊕ ε)} {w₁ : World ε}
  {ending : Ending (Except Fault Unit)} {fault : Option Fault} {success : Bool}
  {result : Except DispatchError Dispatch}

theorem Registry.runHook_watched (r : Registry ε) (c : Context) (fault : Option Fault)
    (w : World (Event ⊕ ε)) :
    ∃ w', r.watched.runHook c fault w = ((r.runHook c fault w.plain).1, w') ∧
      w'.plain = (r.runHook c fault w.plain).2 ∧
      w'.notes = w.notes ++ r.hookEvents c fault := by
  rcases hh : r.hook with _ | hook
  · have hw : r.watched.hook = none := by simp [watched, hh]
    exact ⟨w, by simp only [runHook, hw, hh], by simp only [runHook, hh], by simp [hookEvents, hh]⟩
  · have hw : r.watched.hook = some hook.watched := by simp [watched, hh]
    obtain ⟨w', hrun, hw', he⟩ := (hook c fault).run_note_relabel (.hook c fault) c w
    refine ⟨w', ?_, ?_, ?_⟩
    · simp only [runHook, hw, hh]
      exact hrun
    · simp only [runHook, hh]
      exact hw'
    · simpa [hookEvents, hh] using he

theorem Registry.concluded_watched (r : Registry ε) (task : String) (success : Bool)
    (result : Except DispatchError Dispatch) (x : Ending Unit × World ε) (h : w.plain = x.2) :
    Seen (r.concluded task success result x) (r.watched.concluded task success result (x.1, w)) ∧
      (r.watched.concluded task success result (x.1, w)).2.2 = w := by
  rcases x with ⟨_ | _ | _, w₂⟩ <;> exact ⟨⟨rfl, rfl, h⟩, rfl⟩

/-- A call that is watched: the task is noted, and after it the hook. -/
theorem Registry.call_of_ends_watched (h : (e.handler c).run c w.plain = (ending, w₁))
    (hends : Ends e.name ending fault success result) :
    Seen (r.call c e w.plain) (r.watched.call c e.watched w) ∧
      (r.watched.call c e.watched w).2.2.notes =
        w.notes ++ .task e.name c :: r.hookEvents c fault := by
  obtain ⟨w₂, hrun, hw₂, he₂⟩ := (e.handler c).run_note_relabel (.task e.name c) c w
  rw [h] at hrun hw₂
  obtain ⟨w₃, hhook, hw₃, he₃⟩ := r.runHook_watched c fault w₂
  rw [hw₂] at hhook hw₃
  have hcall : r.watched.call c e.watched w = _ := call_of_ends hrun hends
  obtain ⟨hseen, hworld⟩ := r.concluded_watched e.name success result _ hw₃
  rw [call_of_ends h hends, hcall, hhook]
  refine ⟨hseen, (congrArg World.notes hworld).trans ?_⟩
  rw [he₃, he₂, List.append_assoc]
  rfl

theorem Registry.call_of_waiting_watched (h : (e.handler c).run c w.plain = (.waiting, w₁)) :
    Seen (r.call c e w.plain) (r.watched.call c e.watched w) ∧
      (r.watched.call c e.watched w).2.2.notes = w.notes ++ [.task e.name c] := by
  obtain ⟨w₂, hrun, hw₂, he₂⟩ := (e.handler c).run_note_relabel (.task e.name c) c w
  rw [h] at hrun hw₂
  have hcall : r.watched.call c e.watched w = _ := call_of_waiting hrun
  rw [call_of_waiting h, hcall]
  exact ⟨⟨rfl, rfl, hw₂⟩, he₂⟩

/-- The first thing that is noted of a call is the task, and no task is noted after it. -/
theorem Registry.call_watched (r : Registry ε) (c : Context) (e : Entry ε)
    (w : World (Event ⊕ ε)) :
    Seen (r.call c e w.plain) (r.watched.call c e.watched w) ∧
      ∃ l, (r.watched.call c e.watched w).2.2.notes = w.notes ++ .task e.name c :: l := by
  rcases h : (e.handler c).run c w.plain with ⟨ending, w₁⟩
  rcases ends_or_waiting e.name ending with rfl | ⟨fault, success, result, hends⟩
  · obtain ⟨hseen, he⟩ := r.call_of_waiting_watched h
    exact ⟨hseen, _, he⟩
  · obtain ⟨hseen, he⟩ := r.call_of_ends_watched h hends
    exact ⟨hseen, _, he⟩

end

/-! ## Runs that are watched -/

section

variable {r : Registry ε} {e : Entry ε} {args residual : List String}

theorem Registry.get?_watched (r : Registry ε) (n : String) :
    r.watched.get? n = (r.get? n).map Entry.watched := by
  simp only [get?, watched, List.find?_map]
  rfl

def Request.watched : Request ε → Request (Event ⊕ ε)
  | .usage => .usage
  | .taskUsage n => .taskUsage n
  | .noHandler n => .noHandler n
  | .noDefault n => .noDefault n
  | .call e args => .call e.watched args

theorem Registry.request_watched (r : Registry ε) (args : List String) :
    r.watched.request args = (r.request args).watched := by
  rcases args with _ | ⟨first, rest⟩
  · rfl
  have hp : r.watched.policy = r.policy := rfl
  simp only [request, get?_watched, hp]
  split
  · cases rest <;> rfl
  split
  · rfl
  rcases r.get? first with _ | e
  · rcases r.policy with _ | _
    · rfl
    · rcases r.get? defaultName with _ | e <;> rfl
  · rfl

theorem Registry.usage_watched (r : Registry ε) : r.watched.usage = r.usage := by
  have hshown : r.watched.entries.filter (·.name ≠ defaultName) =
      (r.entries.filter (·.name ≠ defaultName)).map Entry.watched := by
    rw [watched, List.filter_map]
    rfl
  have hline : ∀ width, listingLine width ∘ Entry.watched = @listingLine ε width := by
    intro width
    funext e
    simp only [Function.comp_apply, listingLine, Entry.watched]
  have hsize : (fun e : Entry (Event ⊕ ε) => e.name.utf8ByteSize) ∘ Entry.watched =
      fun e : Entry ε => e.name.utf8ByteSize := rfl
  unfold usage
  simp only [hshown, List.map_map, hsize, hline]

theorem Registry.printUsage_watched (r : Registry ε) :
    r.watched.printUsage = r.printUsage.watched := by
  rw [printUsage, usage_watched]
  rfl

theorem Registry.printNoHandler_watched (r : Registry ε) (n : String) :
    r.watched.printNoHandler n = (r.printNoHandler n).watched :=
  printUsage_watched { r with err := r.err.write ("ERROR: " ++ noHandlerText n ++ "\n") }

theorem Registry.printTaskUsage_watched (r : Registry ε) (n : String) :
    r.watched.printTaskUsage n = ((r.printTaskUsage n).1, (r.printTaskUsage n).2.watched) := by
  rw [printTaskUsage, printTaskUsage, get?_watched]
  rcases r.get? n with _ | e
  · exact congrArg (Prod.mk _) (r.printNoHandler_watched n)
  · rfl

/-- What is watched runs as before. -/
theorem Registry.run_watched (r : Registry ε) (c : Context) (args : List String)
    (w : World (Event ⊕ ε)) : Seen (r.run c args w.plain) (r.watched.run c args w) := by
  have idle : ({ r.watched with progress := .idle } : Registry (Event ⊕ ε)) =
      ({ r with progress := .idle } : Registry ε).watched := rfl
  have hr : ({ r with progress := .idle } : Registry ε).watched.request args =
      (r.request args).watched := request_watched _ args
  rcases h : r.request args <;> rw [h] at hr <;>
    simp only [run, request_idle, h, hr, Request.watched, idle]
  case usage => exact ⟨rfl, printUsage_watched _, rfl⟩
  case taskUsage n =>
    rw [printTaskUsage_watched]
    exact ⟨rfl, rfl, rfl⟩
  case noHandler n => exact ⟨rfl, printNoHandler_watched _ n, rfl⟩
  case noDefault n => exact ⟨rfl, rfl, rfl⟩
  case call e residual => exact (call_watched _ _ e w).1

/-! ## The law of dispatch -/

theorem Registry.nodup_watched (h : r.names.Nodup) : r.watched.names.Nodup := by
  have hn : r.watched.names = r.names := by simp [names, watched, Function.comp_def, Entry.watched]
  rw [hn]
  exact h

theorem Registry.Registered.watched {n : String} (h : r.Registered n e) :
    r.watched.Registered n e.watched :=
  ⟨List.mem_map_of_mem h.1, h.2⟩

theorem Registry.not_registered_watched {n : String} (h : ∀ d, ¬ r.Registered n d) :
    ∀ d, ¬ r.watched.Registered n d := by
  rintro _ ⟨hmem, hn⟩
  obtain ⟨d, hd, rfl⟩ := List.mem_map.mp hmem
  exact h d ⟨hd, hn⟩

theorem Selects.watched (h : Selects r args e residual) :
    Selects r.watched args e.watched residual := by
  cases h with
  | exact hno he => exact .exact hno he.watched
  | fallback hno hn hp he =>
    exact .fallback hno (Registry.not_registered_watched hn) hp he.watched

theorem Refused.watched {result : Except DispatchError Dispatch} (h : Refused r args result) :
    Refused r.watched args result := by
  cases h with
  | nothing => exact .nothing
  | help hf => exact .help hf
  | taskHelp hask he => exact .taskHelp hask he.watched
  | noTaskHelp hask hn => exact .noTaskHelp hask (Registry.not_registered_watched hn)
  | unknown hno hn hp => exact .unknown hno (Registry.not_registered_watched hn) hp
  | noDefault hno hn hp hd =>
    exact .noDefault hno (Registry.not_registered_watched hn) hp
      (Registry.not_registered_watched hd)

/-- What is noted of a run, from the start of the run on. -/
def Registry.eventsOf (r : Registry ε) (c : Context) (args : List String) (w : World ε) :
    List Event :=
  (r.watched.run c args w.unnoted).2.2.notes

theorem Registry.eventsOf_selects (hr : r.names.Nodup) (h : Selects r args e residual) (c : Context)
    (w : World ε) : ∃ l, r.eventsOf c args w = .task e.name { c with args := residual } :: l := by
  rw [eventsOf, run_of_selects (nodup_watched hr) h.watched]
  obtain ⟨_, l, hl⟩ := call_watched { r with progress := .idle } { c with args := residual } e
    w.unnoted
  refine ⟨l, hl.trans ?_⟩
  rw [World.notes_unnoted, List.nil_append]

theorem Registry.eventsOf_refused (hr : r.names.Nodup) {result : Except DispatchError Dispatch}
    (h : Refused r args result) (c : Context) (w : World ε) : r.eventsOf c args w = [] := by
  obtain ⟨out, err, hrun⟩ := run_of_refused (nodup_watched hr) h.watched c w.unnoted
  rw [eventsOf, hrun, World.notes_unnoted]

/-- A task is called just if the command line asks for no help and its first word is registered, or
in its stead the default task under the policy for that. The task is called once, with the words after
its name or, as the default task, with all words; after it the hook, which is told whether it failed;
and that is the state and the result of the run. Otherwise nothing is called, and the run is idle. A
run that is watched ends as one that is not. -/
theorem dispatch_law (hr : Reachable r) (c : Context) (args : List String) (w : World ε) :
    ((∃ n c', .task n c' ∈ r.eventsOf c args w) ↔
      args ≠ [] ∧ AsksNoHelp args ∧ ((∃ e, r.Registered (args.headD "") e) ∨
        r.policy = .fallback ∧ ∃ e, r.Registered defaultName e)) ∧
    (∀ e residual, Selects r args e residual →
      ∀ ending w₁, (e.handler { c with args := residual }).run { c with args := residual } w =
        (ending, w₁) →
      ∀ fault success result, Ends e.name ending fault success result →
        (∀ hook, r.hook = some hook →
          ((hook { c with args := residual } fault).run { c with args := residual } w₁).1 =
            .value ()) →
        r.eventsOf c args w = .task e.name { c with args := residual } ::
          (if r.hook.isSome then [.hook { c with args := residual } fault] else []) ∧
        (r.run c args w).2.1.progress = .completed e.name success ∧
        (r.run c args w).1 = .returned result) ∧
    ((¬ ∃ e residual, Selects r args e residual) →
      r.eventsOf c args w = [] ∧ (r.run c args w).2.1.progress = .idle ∧
        ∃ result, Refused r args result ∧ (r.run c args w).1 = .returned result) ∧
    Seen (r.run c args w) (r.watched.run c args w.unnoted) := by
  have hn := hr.nodup
  refine ⟨?_, ?_, ?_, ?_⟩
  · rw [← exists_selects_iff]
    constructor
    · rintro ⟨n, c', hmem⟩
      rcases selects_or_refused r args with hsel | ⟨result, href⟩
      · exact hsel
      · rw [Registry.eventsOf_refused hn href] at hmem
        cases hmem
    · rintro ⟨e, residual, hsel⟩
      obtain ⟨l, hl⟩ := Registry.eventsOf_selects hn hsel c w
      exact ⟨_, _, by rw [hl]; exact .head l⟩
  · intro e residual hsel ending w₁ hrun fault success result hends hhook
    have hw : (w.unnoted : World (Event ⊕ ε)).plain = w := w.plain_unnoted
    obtain ⟨_, hev⟩ := Registry.call_of_ends_watched (r := { r with progress := .idle })
      (w := w.unnoted) (by rw [hw]; exact hrun) hends
    refine ⟨?_, ?_⟩
    · rw [Registry.eventsOf, Registry.run_of_selects (Registry.nodup_watched hn) hsel.watched]
      refine hev.trans ?_
      rw [World.notes_unnoted, List.nil_append]
      rfl
    · have hvalue : (({ r with progress := .idle } : Registry ε).runHook
          { c with args := residual } fault w₁).1 = .value () := by
        rcases hh : r.hook with _ | hook
        · simp only [Registry.runHook]
        · simp only [Registry.runHook]
          exact hhook hook hh
      rw [Registry.run_of_selects hn hsel, Registry.call_of_ends hrun hends,
        Registry.concluded_of_value hvalue]
      exact ⟨rfl, rfl⟩
  · intro hno
    obtain ⟨result, href⟩ := (selects_or_refused r args).resolve_left hno
    obtain ⟨out, err, hrun⟩ := Registry.run_of_refused hn href c w
    exact ⟨Registry.eventsOf_refused hn href c w, by rw [hrun], result, href, by rw [hrun]⟩
  · have hseen := r.run_watched c args (w.unnoted : World (Event ⊕ ε))
    rwa [World.plain_unnoted] at hseen

/-- A default task that always fails. -/
def refusing : Entry Unit :=
  ⟨"", "", "", fun _ => .done (.error (.of "refused"))⟩

def silentHook : ExitHook Unit := fun _ _ => .done ()

def refusingRegistry : Registry Unit :=
  (((Registry.empty true).handle refusing).onExit silentHook).withPolicy .fallback

theorem reachable_refusingRegistry : Reachable refusingRegistry :=
  .withPolicy _ (.onExit _ (.handle _ (.new ⟨true, ""⟩ ⟨true, ""⟩)))

/-- The default task is given all words, and the hook is told that it failed. -/
theorem dispatch_law_refusing :
    refusingRegistry.eventsOf ⟨[], none⟩ ["deploy", "now"] (.quiet 0 false) =
        [.task defaultName ⟨["deploy", "now"], none⟩,
          .hook ⟨["deploy", "now"], none⟩ (some (.of "refused"))] ∧
      (refusingRegistry.run ⟨[], none⟩ ["deploy", "now"] (.quiet 0 false)).2.1.progress =
        .completed defaultName false := by
  have hsel : Selects refusingRegistry ["deploy", "now"] refusing.named ["deploy", "now"] := by
    refine .fallback (by decide) ?_ rfl ⟨.head _, rfl⟩
    rintro d ⟨hmem, hn⟩
    rw [List.mem_singleton.mp (show d ∈ [refusing.named] from hmem)] at hn
    exact absurd hn (by decide)
  obtain ⟨hev, hprogress, _⟩ := (dispatch_law reachable_refusingRegistry ⟨[], none⟩
    ["deploy", "now"] (.quiet 0 false)).2.1 _ _ hsel _ _ rfl _ _ _ (.failed _)
      (by rintro hook ⟨⟩; rfl)
  exact ⟨hev, hprogress⟩

end

end TaskDriver.Task
