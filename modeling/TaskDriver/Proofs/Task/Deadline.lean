import TaskDriver.Configuration.Basic
import TaskDriver.Task.Race

/-! Whether a driver can start. The deadline of a run is the timeout of its configuration after the
present moment, and a clock shows it only if it lies before the end of the clock; no bound on the
timeout in an accepted configuration sees to that. -/
namespace TaskDriver.Task

variable {ε : Type}

theorem Outcome.exitCode_mem (o : Outcome) : o.exitCode ∈ [0, 1, 124, 130] := by
  rcases o with (_ | _) | _ | _ <;> simp [exitCode]

theorem deadlineAfter_eq_none_iff {now timeout : Nat} :
    deadlineAfter now timeout = none ↔ clockEnd ≤ now + timeout := by
  simp [deadlineAfter]

theorem deadlineAfter_eq_some_iff {now timeout deadline : Nat} :
    deadlineAfter now timeout = some deadline ↔
      now + timeout < clockEnd ∧ deadline = now + timeout := by
  simp [deadlineAfter, eq_comm]

theorem race_eq_none_iff (r : Registry ε) (args : List String) (timeout : Nat) (shutdown : Bool)
    (w : World ε) : race r args timeout shutdown w = none ↔ clockEnd ≤ w.now + timeout := by
  rw [race, Option.map_eq_none_iff, deadlineAfter_eq_none_iff]

theorem timeoutSecs_pos {c : Configuration} (h : c.objection = none) : 0 < c.timeoutSecs := by
  refine Nat.pos_of_ne_zero fun hz => ?_
  rw [Configuration.objection, if_pos hz] at h
  cases h

/-- A driver whose configuration has been accepted fails to start just if its deadline lies beyond
the end of the clock. Otherwise the deadline is still ahead at the start, and the run ends in an
outcome with one of four exit codes. -/
theorem race_of_accepted {c : Configuration} (hc : c.objection = none) (r : Registry ε)
    (args : List String) (shutdown : Bool) (w : World ε) :
    (race r args c.timeout shutdown w = none ↔ clockEnd ≤ w.now + c.timeout) ∧
    (w.now + c.timeout < clockEnd → ∃ deadline raced,
      deadlineAfter w.now c.timeout = some deadline ∧ w.now < deadline ∧
      race r args c.timeout shutdown w = some raced ∧
      raced.outcome.exitCode ∈ [0, 1, 124, 130]) := by
  refine ⟨race_eq_none_iff r args c.timeout shutdown w, fun h => ?_⟩
  have hpos := timeoutSecs_pos hc
  have hrace : race r args c.timeout shutdown w ≠ none := by
    rw [Ne, race_eq_none_iff]
    exact Nat.not_le.mpr h
  obtain ⟨raced, hraced⟩ := Option.ne_none_iff_exists'.mp hrace
  refine ⟨w.now + c.timeout, raced, deadlineAfter_eq_some_iff.mpr ⟨h, rfl⟩, ?_, hraced,
    raced.outcome.exitCode_mem⟩
  rw [Configuration.timeout]
  omega

/-- Accepted, and within the numbers that a configuration can hold. -/
def longestRun : Configuration :=
  { Configuration.standard with timeoutSecs := 0xffffffffffffffff }

theorem race_of_longestRun : longestRun.objection = none ∧
    longestRun.timeoutSecs < 0x10000000000000000 ∧
    (race (Registry.empty false : Registry Empty) [] longestRun.timeout false
      (.quiet 0 false)).isNone = true :=
  ⟨by decide, by decide, by decide⟩

theorem race_of_accepted_standard : ∃ deadline raced,
    deadlineAfter 0 Configuration.standard.timeout = some deadline ∧ 0 < deadline ∧
      race (Registry.empty false : Registry Empty) [] Configuration.standard.timeout false
        (.quiet 0 false) = some raced ∧ raced.outcome.exitCode ∈ [0, 1, 124, 130] :=
  (race_of_accepted (by decide) (Registry.empty false : Registry Empty) [] false
    (.quiet 0 false)).2 (by decide)

end TaskDriver.Task
