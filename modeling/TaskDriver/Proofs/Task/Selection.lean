import Mathlib.Data.List.Nodup
import TaskDriver.Proofs.Task.Registry

/-! What a command line comes to. Either it selects one task, or it is answered without a call; which
of them it is can be told from the words, the registered names and the policy alone. -/
namespace TaskDriver.Task

variable {ε : Type}

/-! ## A call -/

/-- What the end of a handler means: the failure that the hook is told of, whether the task counts as
successful, and the result of the run. -/
inductive Ends (task : String) : Ending (Except Fault Unit) → Option Fault → Bool →
    Except DispatchError Dispatch → Prop
  | succeeded : Ends task (.value (.ok ())) none true (.ok (.completed task))
  | failed (f : Fault) : Ends task (.value (.error f)) (some f) false (.error (.failed task f))
  | panicked (t : Option String) : Ends task (.panicked t)
      (some (.of ("task panicked: " ++ panicText t))) false (.error (.panicked (panicText t)))

theorem ends_or_waiting (task : String) (ending : Ending (Except Fault Unit)) :
    ending = .waiting ∨ ∃ fault success result, Ends task ending fault success result := by
  rcases ending with (f | _) | t | _
  · exact .inr ⟨_, _, _, .failed f⟩
  · exact .inr ⟨_, _, _, .succeeded⟩
  · exact .inr ⟨_, _, _, .panicked t⟩
  · exact .inl rfl

/-- The hook, if there is one. -/
def Registry.runHook (r : Registry ε) (c : Context) (fault : Option Fault) (w : World ε) :
    Ending Unit × World ε :=
  match r.hook with
  | some hook => (hook c fault).run c w
  | none => (.value (), w)

/-- How a call ends whose hook has ended. -/
def Registry.concluded (r : Registry ε) (task : String) (success : Bool)
    (result : Except DispatchError Dispatch) :
    Ending Unit × World ε → Conclusion × Registry ε × World ε
  | (.value _, w) => (.returned result, { r with progress := .completed task success }, w)
  | (.panicked t, w) => (.unwound t, { r with progress := .dispatching task }, w)
  | (.waiting, w) => (.unfinished, { r with progress := .dispatching task }, w)

section

variable {r : Registry ε} {c : Context} {e : Entry ε} {w w₁ : World ε}
  {ending : Ending (Except Fault Unit)} {fault : Option Fault} {success : Bool}
  {result : Except DispatchError Dispatch}

theorem Registry.call_of_waiting (h : (e.handler c).run c w = (.waiting, w₁)) :
    r.call c e w = (.unfinished, { r with progress := .dispatching e.name }, w₁) := by
  simp only [call, h, outcomeOf]

theorem Registry.concluded_of_value {task : String} {x : Ending Unit × World ε}
    (h : x.1 = .value ()) : r.concluded task success result x =
      (.returned result, { r with progress := .completed task success }, x.2) := by
  rcases x with ⟨_, w₂⟩
  subst h
  rfl

theorem Registry.call_of_ends (h : (e.handler c).run c w = (ending, w₁))
    (hends : Ends e.name ending fault success result) :
    r.call c e w = r.concluded e.name success result (r.runHook c fault w₁) := by
  have hout : outcomeOf e.name ending = some (fault, result) ∧ fault.isNone = success := by
    cases hends <;> exact ⟨rfl, rfl⟩
  obtain ⟨hout, rfl⟩ := hout
  rcases hh : r.hook with _ | hook
  · simp only [call, h, hout, hh, runHook, concluded]
  · rcases hhook : (hook c fault).run c w₁ with ⟨_ | _ | _, w₂⟩ <;>
      simp only [call, h, hout, hh, hhook, runHook, concluded]

end

/-! ## Registries that can be met -/

inductive Reachable : Registry ε → Prop
  | new (out err : Sink) : Reachable { Registry.empty false with out := out, err := err }
  | handle {r} (e : Entry ε) : Reachable r → Reachable (r.handle e)
  | onExit {r} (hook : ExitHook ε) : Reachable r → Reachable (r.onExit hook)
  | withPolicy {r} (p : Policy) : Reachable r → Reachable (r.withPolicy p)
  | run {r} (c : Context) (args : List String) (w : World ε) :
      Reachable r → Reachable (r.run c args w).2.1

section

variable {r : Registry ε} {e d : Entry ε} {es : List (Entry ε)} {n : String}

theorem map_name_place : (place e es).map (·.name) =
    if e.name ∈ es.map (·.name) then es.map (·.name) else es.map (·.name) ++ [e.name] := by
  induction es with
  | nil => simp [place]
  | cons d ds ih =>
    by_cases h : d.name = e.name
    · simp [place, h]
    · simp only [place, h, ↓reduceIte, List.map_cons, ih, List.mem_cons, Ne.symm h, false_or]
      split <;> rfl

theorem Registry.call_entries (c : Context) (e : Entry ε) (w : World ε) :
    (r.call c e w).2.1.entries = r.entries := by
  rcases hrun : (e.handler c).run c w with ⟨ending, w₁⟩
  rcases ends_or_waiting e.name ending with rfl | ⟨fault, success, result, hends⟩
  · rw [call_of_waiting hrun]
  · rw [call_of_ends hrun hends]
    rcases r.runHook c fault w₁ with ⟨_ | _ | _, w₂⟩ <;> rfl

/-- Only the output is changed. -/
theorem Registry.printTaskUsage_snd (r : Registry ε) (n : String) :
    ∃ out err, (r.printTaskUsage n).2 = { r with out := out, err := err } := by
  unfold printTaskUsage
  split
  · exact ⟨_, _, rfl⟩
  · exact ⟨_, _, rfl⟩

/-- What is asked for does not depend on how far a run has come. -/
theorem Registry.request_idle (r : Registry ε) (args : List String) :
    ({ r with progress := .idle } : Registry ε).request args = r.request args :=
  rfl

theorem Registry.run_entries (c : Context) (args : List String) (w : World ε) :
    (r.run c args w).2.1.entries = r.entries := by
  rcases h : r.request args <;> simp only [run, request_idle, h]
  case usage => rfl
  case taskUsage n =>
    obtain ⟨out, err, ho⟩ := printTaskUsage_snd { r with progress := .idle } n
    rw [ho]
  case noHandler n => rfl
  case call e residual => exact call_entries _ e w

theorem Reachable.nodup (h : Reachable r) : r.names.Nodup := by
  induction h with
  | new out err => exact List.nodup_nil
  | handle e _ ih =>
    rw [Registry.names, Registry.handle, map_name_place]
    split
    · exact ih
    · next hn => exact List.nodup_append.mpr ⟨ih, List.nodup_singleton _, by simpa using hn⟩
  | onExit _ _ ih => exact ih
  | withPolicy _ _ ih => exact ih
  | run c args w _ ih =>
    rw [Registry.names, Registry.run_entries]
    exact ih

/-- The task is registered under the name. -/
def Registry.Registered (r : Registry ε) (n : String) (e : Entry ε) : Prop :=
  e ∈ r.entries ∧ e.name = n

theorem Registry.get?_eq_none_iff : r.get? n = none ↔ ∀ e, ¬ r.Registered n e := by
  simp [get?, Registered]

theorem Registry.get?_eq_some_iff (h : r.names.Nodup) : r.get? n = some e ↔ r.Registered n e := by
  constructor
  · intro hg
    exact ⟨List.mem_of_find?_eq_some hg, by simpa using List.find?_some hg⟩
  · rintro ⟨hmem, rfl⟩
    rcases hg : r.get? e.name with _ | d
    · exact absurd ⟨hmem, rfl⟩ (get?_eq_none_iff.mp hg e)
    · have hd : d.name = e.name := by simpa using List.find?_some hg
      rw [List.inj_on_of_nodup_map h (List.mem_of_find?_eq_some hg) hmem hd]

end

/-! ## What a command line selects -/

/-- Neither of the first two words asks for help. -/
def AsksNoHelp (args : List String) : Prop :=
  ∀ a ∈ args.take 2, isHelpFlag a = false

instance (args : List String) : Decidable (AsksNoHelp args) :=
  inferInstanceAs (Decidable (∀ a ∈ args.take 2, isHelpFlag a = false))

/-- The task that a command line calls, and the words that it is given. -/
inductive Selects (r : Registry ε) : List String → Entry ε → List String → Prop
  | exact {first rest e} : AsksNoHelp (first :: rest) → r.Registered first e →
      Selects r (first :: rest) e rest
  | fallback {first rest e} : AsksNoHelp (first :: rest) → (∀ d, ¬ r.Registered first d) →
      r.policy = .fallback → r.Registered defaultName e →
      Selects r (first :: rest) e (first :: rest)

/-- A word of the command line is a help flag, and the other one of the first two names a task. -/
inductive AsksHelp : List String → String → Prop
  | before {flag name rest} : isHelpFlag flag = true → AsksHelp (flag :: name :: rest) name
  | after {flag name rest} : isHelpFlag name = false → isHelpFlag flag = true →
      AsksHelp (name :: flag :: rest) name

/-- What a command line is answered that calls no task. -/
inductive Refused (r : Registry ε) : List String → Except DispatchError Dispatch → Prop
  | nothing : Refused r [] (.ok .usage)
  | help {flag} : isHelpFlag flag = true → Refused r [flag] (.ok .usage)
  | taskHelp {args name e} : AsksHelp args name → r.Registered name e →
      Refused r args (.ok (.taskUsage name))
  | noTaskHelp {args name} : AsksHelp args name → (∀ d, ¬ r.Registered name d) →
      Refused r args (.ok (.noHandler name))
  | unknown {first rest} : AsksNoHelp (first :: rest) → (∀ d, ¬ r.Registered first d) →
      r.policy = .strict → Refused r (first :: rest) (.ok (.noHandler first))
  | noDefault {first rest} : AsksNoHelp (first :: rest) → (∀ d, ¬ r.Registered first d) →
      r.policy = .fallback → (∀ d, ¬ r.Registered defaultName d) →
      Refused r (first :: rest) (.error (.noDefault first))

section

variable {r : Registry ε} {e d : Entry ε} {args residual : List String} {first : String}
  {rest : List String}

theorem asksNoHelp_iff : AsksNoHelp (first :: rest) ↔
    isHelpFlag first = false ∧ rest.head?.any isHelpFlag = false := by
  cases rest <;> simp [AsksNoHelp]

theorem asksNoHelp_or (args : List String) :
    args = [] ∨ AsksNoHelp args ∨ (∃ name, AsksHelp args name) ∨
      ∃ flag, args = [flag] ∧ isHelpFlag flag = true := by
  rcases args with _ | ⟨first, rest⟩
  · exact .inl rfl
  rcases hf : isHelpFlag first with _ | _
  · rcases rest with _ | ⟨second, rest⟩
    · exact .inr (.inl (asksNoHelp_iff.mpr ⟨hf, rfl⟩))
    · rcases hs : isHelpFlag second with _ | _
      · exact .inr (.inl (asksNoHelp_iff.mpr ⟨hf, hs⟩))
      · exact .inr (.inr (.inl ⟨first, .after hf hs⟩))
  · rcases rest with _ | ⟨second, rest⟩
    · exact .inr (.inr (.inr ⟨first, rfl, hf⟩))
    · exact .inr (.inr (.inl ⟨second, .before hf⟩))

theorem exists_selects_iff : (∃ e residual, Selects r args e residual) ↔
    args ≠ [] ∧ AsksNoHelp args ∧ ((∃ e, r.Registered (args.headD "") e) ∨
      r.policy = .fallback ∧ ∃ e, r.Registered defaultName e) := by
  constructor
  · rintro ⟨e, _, ⟨hno, he⟩ | ⟨hno, _, hp, he⟩⟩
    · exact ⟨List.cons_ne_nil _ _, hno, .inl ⟨e, he⟩⟩
    · exact ⟨List.cons_ne_nil _ _, hno, .inr ⟨hp, e, he⟩⟩
  · rintro ⟨hne, hno, hor⟩
    obtain ⟨first, rest, rfl⟩ := List.exists_cons_of_ne_nil hne
    by_cases h : ∃ e, r.Registered first e
    · obtain ⟨e, he⟩ := h
      exact ⟨e, rest, .exact hno he⟩
    · obtain ⟨hp, e, he⟩ := hor.resolve_left h
      exact ⟨e, _, .fallback hno (not_exists.mp h) hp he⟩

theorem selects_or_refused (r : Registry ε) (args : List String) :
    (∃ e residual, Selects r args e residual) ∨ ∃ result, Refused r args result := by
  rcases asksNoHelp_or args with rfl | hno | ⟨name, hask⟩ | ⟨flag, rfl, hf⟩
  · exact .inr ⟨_, .nothing⟩
  · rcases args with _ | ⟨first, rest⟩
    · exact .inr ⟨_, .nothing⟩
    by_cases h : ∃ e, r.Registered first e
    · obtain ⟨e, he⟩ := h
      exact .inl ⟨e, rest, .exact hno he⟩
    have hn := not_exists.mp h
    rcases hp : r.policy with _ | _
    · exact .inr ⟨_, .unknown hno hn hp⟩
    · by_cases hd : ∃ e, r.Registered defaultName e
      · obtain ⟨e, he⟩ := hd
        exact .inl ⟨e, _, .fallback hno hn hp he⟩
      · exact .inr ⟨_, .noDefault hno hn hp (not_exists.mp hd)⟩
  · by_cases h : ∃ e, r.Registered name e
    · exact .inr ⟨_, .taskHelp hask h.choose_spec⟩
    · exact .inr ⟨_, .noTaskHelp hask (not_exists.mp h)⟩
  · exact .inr ⟨_, .help hf⟩

/-! ## What a run does with it -/

theorem Selects.request (hr : r.names.Nodup) (h : Selects r args e residual) :
    r.request args = .call e residual := by
  cases h with
  | exact hno he =>
    obtain ⟨hf, hrest⟩ := asksNoHelp_iff.mp hno
    simp [Registry.request, hf, hrest, (Registry.get?_eq_some_iff hr).mpr he]
  | fallback hno hn hp he =>
    obtain ⟨hf, hrest⟩ := asksNoHelp_iff.mp hno
    simp [Registry.request, hf, hrest, Registry.get?_eq_none_iff.mpr hn, hp,
      (Registry.get?_eq_some_iff hr).mpr he]

theorem AsksHelp.request {name : String} (h : AsksHelp args name) :
    r.request args = .taskUsage name := by
  cases h with
  | before hf => simp [Registry.request, hf]
  | after hn hf => simp [Registry.request, hn, hf]

theorem Registry.run_of_selects (hr : r.names.Nodup) (h : Selects r args e residual) (c : Context)
    (w : World ε) :
    r.run c args w = { r with progress := .idle }.call { c with args := residual } e w := by
  simp only [run, request_idle, h.request hr]

/-- Nothing is called, and nothing but the output is changed. -/
theorem Registry.run_of_refused (hr : r.names.Nodup) {result : Except DispatchError Dispatch}
    (h : Refused r args result) (c : Context) (w : World ε) :
    ∃ out err, r.run c args w =
      (.returned result, { r with progress := .idle, out := out, err := err }, w) := by
  cases h with
  | nothing => exact ⟨_, _, rfl⟩
  | @help flag hf =>
    have hreq : r.request [flag] = .usage := by simp [request, hf]
    simp only [run, request_idle, hreq]
    exact ⟨_, _, rfl⟩
  | @taskHelp _ name e hask he =>
    have hget : ({ r with progress := .idle } : Registry ε).get? name = some e :=
      (get?_eq_some_iff hr).mpr he
    simp only [run, hask.request, printTaskUsage, hget]
    exact ⟨_, _, rfl⟩
  | @noTaskHelp _ name hask hn =>
    have hget : ({ r with progress := .idle } : Registry ε).get? name = none :=
      get?_eq_none_iff.mpr hn
    simp only [run, hask.request, printTaskUsage, hget]
    exact ⟨_, _, rfl⟩
  | @unknown first rest hno hn hpol =>
    obtain ⟨hf, hrest⟩ := asksNoHelp_iff.mp hno
    have hreq : r.request (first :: rest) = .noHandler first := by
      simp [request, hf, hrest, get?_eq_none_iff.mpr hn, hpol]
    simp only [run, request_idle, hreq]
    exact ⟨_, _, rfl⟩
  | @noDefault first rest hno hn hpol hd =>
    obtain ⟨hf, hrest⟩ := asksNoHelp_iff.mp hno
    have hreq : r.request (first :: rest) = .noDefault first := by
      simp [request, hf, hrest, get?_eq_none_iff.mpr hn, hpol, get?_eq_none_iff.mpr hd]
    simp only [run, request_idle, hreq]
    exact ⟨_, _, rfl⟩

end

end TaskDriver.Task
