import TaskDriver.Proofs.Task.Contest

/-! What a race comes to, whatever its order of events: one outcome, which the events bear out, and
after a deadline or a request a run that refuses to go on. The race of a worker that is left to itself
is one of these. -/
namespace TaskDriver.Task

variable {ε : Type}

/-! ## The report -/

theorem Outcome.report_eq_empty_iff (o : Outcome) : o.report = "" ↔ o.exitCode = 0 := by
  rcases o with (e | d) | _ | _
  · have hne : Outcome.report (.completed (.error e)) ≠ "" := by
      intro h
      have hl := congrArg String.toList h
      simp [report] at hl
    exact ⟨fun h => absurd h hne, fun h => absurd h Nat.one_ne_zero⟩
  · exact ⟨fun _ => rfl, fun _ => rfl⟩
  · exact ⟨fun h => absurd h (by decide), fun h => absurd h (by decide)⟩
  · exact ⟨fun h => absurd h (by decide), fun h => absurd h (by decide)⟩

theorem Outcome.report_of_failed {o : Outcome} (h : o.exitCode = 1 ∨ o.exitCode = 124) :
    ∃ s, o.report = "ERROR: " ++ s := by
  rcases o with (e | d) | _ | _
  · exact ⟨e.message ++ "\n", String.append_assoc⟩
  · exact absurd h (by simp [exitCode])
  · exact ⟨"Context timed out\n", by decide⟩
  · exact absurd h (by simp [exitCode])

theorem Outcome.report_of_interrupted {o : Outcome} (h : o.exitCode = 130) :
    ∃ s, o.report = "INFO: " ++ s := by
  rcases o with (e | d) | _ | _
  · exact absurd h (by simp [exitCode])
  · exact absurd h (by simp [exitCode])
  · exact absurd h (by simp [exitCode])
  · exact ⟨"Received signal, shutting down\n", by decide⟩

theorem Finish.cancels_iff (f : Finish) :
    f.cancels = true ↔ f.outcome = .timedOut ∨ f.outcome = .interrupted := by
  cases f <;> simp [cancels, outcome]

namespace Contest

/-! ## What an outcome says -/

/-- The events bear out the outcome. -/
inductive Supports (deadline : Nat) (s : Contest ε) : Outcome → Prop
  | finished {result} : s.worker.thread = .ended (.returned result) →
      Supports deadline s (.completed result)
  | unwound {text} : s.worker.thread = .ended (.unwound text) →
      Supports deadline s (.completed (.error (.panicked (unwoundText text))))
  | timedOut : s.fired = true → deadline ≤ s.world.now → Supports deadline s .timedOut
  | interrupted : s.asked = true → Supports deadline s .interrupted

/-- A check that is made now fails, whatever the work that makes it does next. -/
def Refuses (s : Contest ε) : Prop :=
  s.world.cancelled = true ∧
    ∀ {α : Type} (c : Context) (next : Except Fault Unit → Work ε α),
      (ensureActive.bind next).step? c s.world =
        some (next (.error (.of "run cancelled")), s.world)

section

variable {args : List String} {deadline : Nat} {s t : Contest ε} {f : Finish} {o : Outcome}

theorem Sound.supports (h : s.Sound deadline) (hr : s.Ready f) : s.Supports deadline f.outcome := by
  cases hr with
  | worker he => exact .finished he
  | unwound he => exact .unwound he
  | timer hf => exact .timedOut hf (h.fired hf)
  | shutdown ha => exact .interrupted ha

theorem Sound.outcome (h : s.Sound deadline) (ho : s.arm = .returned o) :
    s.Supports deadline o ∧ (s.stopped = true ↔ o = .timedOut ∨ o = .interrupted) := by
  cases h.founded with
  | @returned f hr ha hstop =>
    rw [ho] at ha
    cases ha
    rw [hstop]
    exact ⟨h.supports hr, f.cancels_iff⟩
  | selecting ha _ | taken _ ha _ | leaving _ ha _ => rw [ho] at ha; cases ha

theorem refuses_of_cancelled (h : s.world.cancelled = true) : s.Refuses := by
  refine ⟨h, fun {α} c next => ?_⟩
  rw [ensureActive, Work.bind, Work.step?, refusal_of_cancelled c h]
  rfl

/-! ## Races that can be -/

/-- The race that has taken this event and returned. -/
def settled (s : Contest ε) (f : Finish) : Contest ε :=
  { s.withWorld (if f.cancels then s.world.cancel else s.world) with
    arm := .returned f.outcome, stopped := f.cancels }

/-- An event that is there can become the outcome. -/
theorem Ready.steps_settled (hr : s.Ready f) (ha : s.arm = .selecting) (hstop : s.stopped = false) :
    Steps args deadline s (s.settled f) := by
  have hselect : Steps args deadline s { s with arm := .taken f } :=
    .single (.move (.select ha hr))
  rcases hc : f.cancels with _ | _
  · have hs : s.settled f = { s with arm := .returned f.outcome } := by
      simp only [settled, hc, hstop, withWorld]
      rfl
    rw [hs]
    exact (hselect.tail (.move (.keep rfl hc))).tail (.move (.return rfl))
  · have hs : s.settled f =
        { s.withWorld s.world.cancel with arm := .returned f.outcome, stopped := true } := by
      simp only [settled, hc, if_true]
    rw [hs]
    exact (hselect.tail (.move (.cancel rfl hc))).tail (.move (.return rfl))

theorem steps_worker {u v : Worker ε} (fired asked : Bool) (arm : Arm) (stopped : Bool)
    (h : Worker.Steps ⟨[], some deadline⟩ args u v) :
    Steps args deadline ⟨u, fired, asked, arm, stopped⟩ ⟨v, fired, asked, arm, stopped⟩ :=
  Relation.ReflTransGen.lift (fun u => (⟨u, fired, asked, arm, stopped⟩ : Contest ε))
    (fun u _ hs => Step.worker (s := ⟨u, fired, asked, arm, stopped⟩) hs) _ _ h

/-- The race as far as its outcome when the worker is left to itself first, until it makes no step any
more. The end is asked for just if `shutdown` says so, and the timer fires just if the worker is left
waiting and nobody asks for the end. -/
structure Undisturbed (args : List String) (deadline : Nat) (shutdown : Bool) (r : Registry ε)
    (w : World ε) (raced : Raced ε) (s : Contest ε) : Prop where
  steps : Steps args deadline (start r w) s
  worker : ∃ w', Worker.Steps ⟨[], some deadline⟩ args ⟨.ready, r, w⟩
      ⟨s.worker.thread, s.worker.registry, w'⟩ ∧
    ∀ v, ¬ Worker.Step ⟨[], some deadline⟩ args ⟨s.worker.thread, s.worker.registry, w'⟩ v
  asked : s.asked = shutdown
  fired : s.fired = true ↔
    (r.run ⟨[], some deadline⟩ args w).1 = .unfinished ∧ shutdown = false
  outcome : s.arm = .returned raced.outcome
  registry : s.worker.registry = raced.registry
  world : ∃ t, s.world = raced.world.pass t

/-- What happens first when the worker is left to itself is one of the orders of events. The clock
goes on until the timer fires if there is nothing else to wait for. -/
theorem exists_undisturbed {r : Registry ε} {w : World ε} {timeout : Nat} {shutdown : Bool}
    {raced : Raced ε} (hd : deadlineAfter w.now timeout = some deadline)
    (h : race r args timeout shutdown w = some raced) :
    ∃ s, Undisturbed args deadline shutdown r w raced s := by
  rw [race, hd] at h
  obtain ⟨thread, hsteps, hend⟩ := r.steps_run ⟨[], some deadline⟩ args w
  rcases hrun : r.run ⟨[], some deadline⟩ args w with ⟨k, r', w'⟩
  simp only [Option.map_some, hrun, Option.some.injEq] at h hsteps hend
  subst h
  have hrest : ∀ v, ¬ Worker.Step ⟨[], some deadline⟩ args ⟨thread, r', w'⟩ v := by
    rcases hend with rfl | ⟨_, hrest⟩
    · intro v hv
      cases hv
    · exact hrest
  have hasked : Steps args deadline (start r w)
      ⟨⟨thread, r', w'⟩, false, shutdown, .selecting, false⟩ := by
    have hworker : Steps args deadline (start r w) _ := steps_worker false false .selecting false hsteps
    cases shutdown with
    | false => exact hworker
    | true => exact hworker.tail .ask
  -- A worker that does not end waits, so that one of the other events has to come.
  rcases k with result | text | _
  · obtain rfl : thread = .ended (.returned result) := by simpa using hend
    exact ⟨_, hasked.trans ((Ready.worker rfl).steps_settled rfl rfl), ⟨w', hsteps, hrest⟩, rfl,
      by simp [hrun, settled, withWorld], rfl, rfl, 0, rfl⟩
  · obtain rfl : thread = .ended (.unwound text) := by simpa using hend
    exact ⟨_, hasked.trans ((Ready.unwound rfl).steps_settled rfl rfl), ⟨w', hsteps, hrest⟩, rfl,
      by simp [hrun, settled, withWorld], rfl, rfl, 0, rfl⟩
  cases shutdown with
  | true =>
    exact ⟨_, hasked.trans ((Ready.shutdown rfl).steps_settled rfl rfl), ⟨w', hsteps, hrest⟩, rfl,
      by simp [settled, withWorld], rfl, rfl, 0, rfl⟩
  | false =>
    have hfired := (hasked.tail (.tick deadline)).tail (.fire (Nat.le_add_left deadline w'.now))
    exact ⟨_, hfired.trans ((Ready.timer rfl).steps_settled rfl rfl), ⟨w', hsteps, hrest⟩, rfl,
      by simp [hrun, settled, withWorld], rfl, rfl, deadline, rfl⟩

/-- What a race returns whose worker is left to itself first, by what becomes of the run. -/
structure Reflects (shutdown : Bool) (k : Conclusion) (r : Registry ε) (w : World ε)
    (raced : Raced ε) : Prop where
  registry : raced.registry = r
  returned : ∀ result, k = .returned result →
    raced.outcome = .completed result ∧ raced.world = w
  unwound : ∀ text, k = .unwound text →
    raced.outcome = .completed (.error (.panicked (unwoundText text))) ∧ raced.world = w
  waiting : k = .unfinished →
    raced.outcome = (if shutdown then .interrupted else .timedOut) ∧ raced.world = w.cancel

theorem reflects_race {r r' : Registry ε} {w w' : World ε} {timeout : Nat} {shutdown : Bool}
    {raced : Raced ε} {k : Conclusion} (hd : deadlineAfter w.now timeout = some deadline)
    (h : race r args timeout shutdown w = some raced)
    (hrun : r.run ⟨[], some deadline⟩ args w = (k, r', w')) :
    Reflects shutdown k r' w' raced := by
  simp only [race, hd, Option.map_some, hrun, Option.some.injEq] at h
  subst h
  refine ⟨rfl, ?_, ?_, ?_⟩
  · rintro result rfl
    exact ⟨rfl, rfl⟩
  · rintro text rfl
    exact ⟨rfl, rfl⟩
  · rintro rfl
    cases shutdown <;> exact ⟨rfl, rfl⟩

/-- The race in which the thread of the run does not get a turn. -/
def starved (deadline : Nat) (r : Registry ε) (w : World ε) : Nat → Contest ε
  | 0 => start r w
  | 1 => ⟨⟨.ready, r, w.pass deadline⟩, false, false, .selecting, false⟩
  | 2 => ⟨⟨.ready, r, w.pass deadline⟩, true, false, .selecting, false⟩
  | 3 => ⟨⟨.ready, r, w.pass deadline⟩, true, false, .taken .timer, false⟩
  | 4 => ⟨⟨.ready, r, (w.pass deadline).cancel⟩, true, false, .leaving .timedOut, true⟩
  | n + 5 => ⟨⟨.ready, r, (w.pass deadline).cancel.pass n⟩, true, false, .returned .timedOut, true⟩

theorem starved_step (deadline : Nat) (r : Registry ε) (w : World ε) (n : Nat) :
    Step args deadline (starved deadline r w n) (starved deadline r w (n + 1)) := by
  match n with
  | 0 => exact .tick deadline
  | 1 => exact .fire (Nat.le_add_left _ _)
  | 2 => exact .move (.select rfl (.timer rfl))
  | 3 => exact .move (.cancel (s := starved deadline r w 3) (f := .timer) rfl rfl)
  | 4 => exact .move (.return rfl)
  | n + 5 => exact .tick 1

/-- Fairness can be had from every start. -/
theorem exists_fair (args : List String) (deadline : Nat) (r : Registry ε) (w : World ε) :
    ∃ σ, Fair args deadline σ ∧ σ 0 = start r w := by
  refine ⟨starved deadline r w, ⟨fun n => .inr (starved_step deadline r w n), ?_, ?_, ?_⟩, rfl⟩
  · exact fun m => ⟨m + 5, Nat.le_add_left _ _⟩
  · exact fun _ => ⟨2, rfl⟩
  · rintro n ⟨t, ht⟩
    by_cases hn : n ≤ 4
    · exact ⟨4, hn, .return rfl⟩
    · obtain ⟨m, rfl⟩ := Nat.exists_eq_add_of_le' (Nat.lt_of_not_le hn)
      exact absurd ht (not_moves_of_returned rfl)

/-! ## The protocol -/

/-- Of every race with a deadline that the clock can show: an outcome stays the only one, the events
bear it out, and the race has cancelled the run just if it is not that of the worker. From that moment
on every check fails, and no dependency is started but one that was next to be started then. If time
goes on and the race is not kept from its steps, there is an outcome, and this can be had. A worker
that is left to itself ends as the run as a whole does. Its race is one of these: it completes with what
the run returns, or with the panic of a run that unwinds, and only a run that waits is interrupted, or
timed out if nobody asks for the end. The report is empty just for a run that ended well. -/
theorem race_protocol {r : Registry ε} {args : List String} {timeout deadline : Nat} {w : World ε}
    (hd : deadlineAfter w.now timeout = some deadline) :
    (∀ s, Steps args deadline (start r w) s →
      (∀ o, s.arm = .returned o →
        s.Supports deadline o ∧ (s.stopped = true ↔ o = .timedOut ∨ o = .interrupted) ∧
          ∀ t, Steps args deadline s t → t.arm = .returned o) ∧
      (s.stopped = true → ∀ t, Steps args deadline s t → t.Refuses ∧
        ∀ starts, r.Orderly starts → ∃ l, t.world.journal = s.world.journal ++ l ∧
          l.filter starts <+: s.worker.thread.pending starts)) ∧
    (∀ σ, Fair args deadline σ → σ 0 = start r w → ∃! o, ∃ n, (σ n).arm = .returned o) ∧
    (∃ σ, Fair args deadline σ ∧ σ 0 = start r w) ∧
    (∀ k r' w', Worker.Steps ⟨[], some deadline⟩ args ⟨.ready, r, w⟩ ⟨.ended k, r', w'⟩ →
      r.run ⟨[], some deadline⟩ args w = (k, r', w')) ∧
    (∀ shutdown, ∃ raced, race r args timeout shutdown w = some raced ∧
      (∃ s, Undisturbed args deadline shutdown r w raced s) ∧
      ∀ k r' w', r.run ⟨[], some deadline⟩ args w = (k, r', w') →
        Reflects shutdown k r' w' raced) ∧
    ∀ o : Outcome, (o.report = "" ↔ o.exitCode = 0) ∧
      (o.exitCode = 1 ∨ o.exitCode = 124 → ∃ s, o.report = "ERROR: " ++ s) ∧
      (o.exitCode = 130 → ∃ s, o.report = "INFO: " ++ s) := by
  refine ⟨fun s hs => ⟨fun o ho => ?_, fun hstop t ht => ?_⟩, fun σ hσ _ => hσ.returns,
    exists_fair args deadline r w, fun _ _ _ h => h.run_eq, fun shutdown => ?_,
    fun o => ⟨o.report_eq_empty_iff, Outcome.report_of_failed, Outcome.report_of_interrupted⟩⟩
  · obtain ⟨hsupports, hstop⟩ := ((sound_start r w).steps hs).outcome ho
    exact ⟨hsupports, hstop, fun t ht => ht.returned ho⟩
  · have hcancelled := ((sound_start r w).steps hs).stopped hstop
    refine ⟨refuses_of_cancelled (ht.cancelled hcancelled), fun starts ho => ?_⟩
    have hadm := admitted_steps (s := start r w) ho hs
    obtain ⟨l, hl, hp⟩ := journal_of_cancelled hadm hcancelled ht
    exact ⟨l, hl, _, hp⟩
  · rcases hrace : race r args timeout shutdown w with _ | raced
    · simp [race, hd] at hrace
    · exact ⟨raced, rfl, exists_undisturbed hd hrace, fun _ _ _ => reflects_race hd hrace⟩

end

/-- A task that waits for the run to be cancelled and only then comes to what it depends on. -/
def build : Entry String :=
  ⟨"build", "", "", fun c => .untilCancelled
    ((dependencies c ([⟨"clean", fun _ => .done (.ok ())⟩].map Dependency.start)).bind .done)⟩

def builder : Registry String :=
  (Registry.empty false).handle build

theorem orderly_builder : builder.Orderly (· == "clean") := by
  refine ⟨fun e he c => ?_, fun hook hh => by cases hh⟩
  obtain rfl := List.mem_singleton.mp he
  refine .untilCancelled (.dependencies (fun d hd c => ?_) fun a => .done a)
  obtain rfl := List.mem_singleton.mp hd
  exact .done _

/-- The race of this task after its deadline. -/
def builderStopped : Contest String :=
  ⟨⟨.task build ⟨[], some 5⟩ (build.handler ⟨[], some 5⟩),
    { builder with progress := .dispatching "build" }, ⟨5, true, []⟩⟩, true, false,
    .returned .timedOut, true⟩

theorem steps_builderStopped :
    Steps ["build"] 5 (start builder (.quiet 0 false)) builderStopped := by
  have hcall : Steps ["build"] 5 (start builder (.quiet 0 false)) _ := .single (.worker (.call rfl))
  have hfire := (hcall.tail (.tick 5)).tail (.fire (by decide))
  have hselect := hfire.tail (.move (.select (f := .timer) rfl (.timer rfl)))
  exact (hselect.tail (.move (.cancel rfl rfl))).tail (.move (.return rfl))

theorem race_protocol_builder : deadlineAfter 0 5 = some 5 ∧
    builderStopped.Supports 5 .timedOut ∧
    ∀ t, Steps ["build"] 5 builderStopped t → "clean" ∉ t.world.journal := by
  have hd : deadlineAfter (World.quiet 0 false : World String).now 5 = some 5 := by decide
  have hstopped := (race_protocol hd).1 _ steps_builderStopped
  refine ⟨hd, (hstopped.1 _ rfl).1, fun t ht => ?_⟩
  obtain ⟨l, hl, hp⟩ := (hstopped.2 rfl t ht).2 _ orderly_builder
  have hnone : l.filter (· == "clean") = [] := List.prefix_nil.mp hp
  rw [hl]
  intro hmem
  exact List.not_mem_nil (hnone ▸ List.mem_filter.mpr ⟨hmem, rfl⟩)

end Contest

end TaskDriver.Task
