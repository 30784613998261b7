import TaskDriver.Proofs.Configuration.Search
import TaskDriver.Proofs.Keyed

/-! What becomes of the settings for a directory. The file that the search finds decides, and after
it the environment; whatever is wrong with the file is reported and nothing else is taken in its
place. -/
namespace TaskDriver.Configuration

open Files (Path Tree)

/-- The content of a file as settings, or the first thing that is wrong with it. -/
inductive Tells (p : Path) :
    Except Files.Fault ByteArray → Except ConfigurationFault Configuration → Prop
  | unread (f : Files.Fault) : Tells p (.error f) (.error (.file f))
  | undecoded {b : ByteArray} : String.fromUTF8? b = none →
      Tells p (.ok b) (.error (.file .notText))
  | unparsed {b : ByteArray} {s : String} {e : ConfigurationFault} : String.fromUTF8? b = some s →
      ofText p s = .error e → Tells p (.ok b) (.error e)
  | refused {b : ByteArray} {s : String} {c : Configuration} {o : Objection} :
      String.fromUTF8? b = some s → ofText p s = .ok c → c.objection = some o →
      Tells p (.ok b) (.error (.objection o))
  | valid {b : ByteArray} {s : String} {c : Configuration} : String.fromUTF8? b = some s →
      ofText p s = .ok c → c.objection = none → Tells p (.ok b) (.ok c)

/-- The second configuration is the first one with the compiler and the path of the runtime library
replaced, each if its variable is set and not empty. -/
structure Overridden (environment : String → Option String) (c c' : Configuration) : Prop where
  cargo_set : ∀ v, environment "MATR_CARGO" = some v → v ≠ "" → c'.compiler.cargo = v
  cargo_kept : (∀ v, environment "MATR_CARGO" = some v → v = "") →
    c'.compiler.cargo = c.compiler.cargo
  path_set : ∀ v, environment "MATR_RUNTIME_PATH" = some v → v ≠ "" → c'.runtime.path = some v
  path_kept : (∀ v, environment "MATR_RUNTIME_PATH" = some v → v = "") →
    c'.runtime.path = c.runtime.path
  rest : c' = { c with
    compiler := { c.compiler with cargo := c'.compiler.cargo }
    runtime := { c.runtime with path := c'.runtime.path } }

/-- The environment names a compiler with no more than white space. -/
def NamesBlank (environment : String → Option String) : Prop :=
  ∃ v, environment "MATR_CARGO" = some v ∧ v ≠ "" ∧ isBlankText v = true

/-- What comes of a valid configuration once the environment has had its say. -/
inductive Settled (environment : String → Option String) (c : Configuration) (file : Option Path) :
    Except ConfigurationFault (Configuration × Option Path) → Prop
  | accepted {c' : Configuration} : ¬ NamesBlank environment → Overridden environment c c' →
      Settled environment c file (.ok (c', file))
  | refused : NamesBlank environment →
      Settled environment c file (.error (.objection ⟨"compiler.cargo", "cannot be empty"⟩))

variable {t t' : Tree} {p start start' : Path} {environment : String → Option String}
  {c : Configuration} {file : Option Path} {o : Overrides}

/-! ## The file -/

theorem accepted_eq (c : Configuration) :
    accepted c = match c.objection with
      | some o => .error (.objection o)
      | none => .ok c :=
  rfl

theorem load_eq (t : Tree) (p : Path) : load t p =
    match t.read p with
    | .error f => .error (.file f)
    | .ok b =>
      match String.fromUTF8? b with
      | none => .error (.file .notText)
      | some s =>
        match ofText p s with
        | .error e => .error e
        | .ok c => accepted c := by
  unfold load Tree.readText
  rcases t.read p with f | b
  · rfl
  simp only [bind, Except.bind]
  rcases String.fromUTF8? b with _ | s
  · rfl
  simp only [pure, Except.pure, Except.mapError]
  rcases ofText p s with e | c <;> rfl

theorem load_tells (t : Tree) (p : Path) : Tells p (t.read p) (load t p) := by
  rw [load_eq]
  rcases t.read p with f | b
  · exact .unread f
  rcases hs : String.fromUTF8? b with _ | s
  · simpa [hs] using Tells.undecoded hs
  rcases hc : ofText p s with e | c
  · simpa [hs, hc] using Tells.unparsed hs hc
  rcases ho : c.objection with _ | o
  · simpa [hs, hc, accepted_eq, ho] using Tells.valid hs hc ho
  · simpa [hs, hc, accepted_eq, ho] using Tells.refused hs hc ho

/-- A file tells one thing only. -/
theorem Tells.unique {content : Except Files.Fault ByteArray}
    {r r' : Except ConfigurationFault Configuration} (h : Tells p content r)
    (h' : Tells p content r') : r = r' := by
  cases h <;> cases h' <;> simp_all

theorem objection_of_load (h : load t p = .ok c) : c.objection = none := by
  have hs := load_tells t p
  rw [h] at hs
  generalize t.read p = content at hs
  cases hs with
  | valid _ _ ho => exact ho

/-- A file of settings has no fault that stands for there being none. -/
theorem load_ne_notFound (t : Tree) (p : Path) (path : String) :
    load t p ≠ .error (.notFound path) := by
  intro h
  have hs := load_tells t p
  rw [h] at hs
  generalize t.read p = content at hs
  cases hs with
  | unparsed _ hp =>
    unfold ofText at hp
    split at hp
    · next s _ _ =>
      rcases he : ofToml s.toList with e | c <;> rw [he] at hp <;> cases hp
    · split at hp <;> cases hp

/-! ## The environment -/

theorem said_eq_some_iff {v : Option String} {s : String} :
    said v = some s ↔ v = some s ∧ s ≠ "" := by
  simp [said, Option.filter_eq_some_iff]

theorem said_eq_none {v : Option String} (h : ∀ s, v = some s → s = "") : said v = none := by
  simp only [said, Option.filter_eq_none_iff]
  intro s hs
  simp [h s hs]

theorem overridden_override (environment : String → Option String) (c : Configuration) :
    Overridden environment c (c.override (overridesOf environment)) := by
  refine ⟨fun v hv hne => ?_, fun hv => ?_, fun v hv hne => ?_, fun hv => ?_, rfl⟩
  · have hsaid : said (overridesOf environment).cargo = some v := said_eq_some_iff.mpr ⟨hv, hne⟩
    simp [override, hsaid]
  · have hsaid : said (overridesOf environment).cargo = none := said_eq_none hv
    simp [override, hsaid]
  · have hsaid : said (overridesOf environment).runtimePath = some v :=
      said_eq_some_iff.mpr ⟨hv, hne⟩
    simp [override, hsaid]
  · have hsaid : said (overridesOf environment).runtimePath = none := said_eq_none hv
    simp [override, hsaid]

/-- A configuration passes when nothing can be objected to any of its parts. -/
theorem objection_eq_none_iff : c.objection = none ↔
    c.timeoutSecs ≠ 0 ∧ Task.Policy.ofWord? c.dispatch ≠ none ∧
      isBlankText c.compiler.cargo = false ∧
      (c.runtime.path = none → isBlankText c.runtime.version = false) ∧
      c.dependencies.contains runtimeName = false := by
  unfold objection
  split
  · simp_all
  split
  · simp_all
  split
  · simp_all
  split
  · simp_all
  split <;> simp_all

theorem objection_override (h : c.objection = none) (hn : ¬ NamesBlank environment) :
    (c.override (overridesOf environment)).objection = none := by
  obtain ⟨htime, hword, hcargo, hversion, hdeps⟩ := objection_eq_none_iff.mp h
  have ho := overridden_override environment c
  refine objection_eq_none_iff.mpr ⟨htime, hword, ?_, fun hp => ?_, hdeps⟩
  · by_cases hv : ∀ v, environment "MATR_CARGO" = some v → v = ""
    · rw [ho.cargo_kept hv]
      exact hcargo
    · push Not at hv
      obtain ⟨v, hv, hne⟩ := hv
      rw [ho.cargo_set v hv hne]
      exact Bool.eq_false_iff.mpr fun hb => hn ⟨v, hv, hne, hb⟩
  · refine hversion ?_
    by_cases hv : ∀ v, environment "MATR_RUNTIME_PATH" = some v → v = ""
    · rw [← ho.path_kept hv, hp]
    · push Not at hv
      obtain ⟨v, hv, hne⟩ := hv
      rw [ho.path_set v hv hne] at hp
      cases hp

theorem objection_override_of_blank (h : c.objection = none) (hn : NamesBlank environment) :
    (c.override (overridesOf environment)).objection =
      some ⟨"compiler.cargo", "cannot be empty"⟩ := by
  obtain ⟨htime, hword, _⟩ := objection_eq_none_iff.mp h
  obtain ⟨v, hv, hne, hb⟩ := hn
  have hcargo := (overridden_override environment c).cargo_set v hv hne
  have hword : ¬ (Task.Policy.ofWord? c.dispatch).isNone = true := by simpa using hword
  unfold objection
  rw [hcargo]
  exact (if_neg htime).trans ((if_neg hword).trans (if_pos hb))

theorem settled_override (h : c.objection = none) :
    Settled environment c file
      ((accepted (c.override (overridesOf environment))).map (·, file)) := by
  rw [accepted_eq]
  by_cases hn : NamesBlank environment
  · rw [objection_override_of_blank h hn]
    exact .refused hn
  · rw [objection_override h hn]
    exact .accepted hn (overridden_override environment c)

/-! ## Both together -/

theorem loadOrStandard_none (h : find? t start = none) (o : Overrides) :
    loadOrStandard t start o = (accepted (standard.override o)).map (·, none) := by
  unfold loadOrStandard
  rw [h]
  rcases he : accepted (standard.override o) with e | c <;>
    simp [he, bind, Except.bind, pure, Except.pure, Except.map]

theorem loadOrStandard_some (h : find? t start = some p) (o : Overrides) :
    loadOrStandard t start o = match load t p with
      | .error e => .error e
      | .ok c => (accepted (c.override o)).map (·, some p) := by
  unfold loadOrStandard
  rw [h]
  dsimp only
  rcases load t p with e | c
  · rfl
  · rcases he : accepted (c.override o) with e | c' <;>
      simp [he, bind, Except.bind, pure, Except.pure, Except.map]

/-- Of all faults only that there is no file makes way for the standard configuration. -/
theorem loadOrStandard_eq (t : Tree) (start : Path) (o : Overrides) :
    loadOrStandard t start o = match loadFrom t start with
      | .ok (c, p) => (accepted (c.override o)).map (·, some p)
      | .error (.notFound _) => (accepted (standard.override o)).map (·, none)
      | .error e => .error e := by
  unfold loadFrom
  rcases hf : find? t start with _ | p
  · exact loadOrStandard_none hf o
  · rw [loadOrStandard_some hf]
    dsimp only
    rcases hl : load t p with e | c
    · cases e with
      | notFound path => exact absurd hl (load_ne_notFound t p path)
      | objection o => rfl
      | yaml => rfl
      | toml position => rfl
      | file f => rfl
    · rfl

theorem name_ne_of_contains {k : String} {entries : Toml.Table}
    (h : Keyed.contains k entries = false) : ∀ e ∈ entries, e.1 ≠ k := by
  rintro e he rfl
  have hnone : Keyed.get? e.1 entries = none := by simpa [Keyed.contains] using h
  exact Keyed.get?_eq_none_iff.mp hnone (List.mem_map_of_mem he)

theorem policy_of_objection (h : c.objection = none) :
    Task.Policy.ofWord? c.dispatch = some c.policy := by
  obtain ⟨p, hp⟩ := Option.ne_none_iff_exists'.mp (objection_eq_none_iff.mp h).2.1
  rw [policy, hp]
  rfl

theorem objection_of_accepted {r : Configuration × Option Path}
    (h : (accepted c).map (·, file) = .ok r) : r.1.objection = none := by
  rw [accepted_eq] at h
  rcases ho : c.objection with _ | o <;> rw [ho] at h <;> cases h
  exact ho

theorem objection_of_loadOrStandard {r : Configuration × Option Path}
    (h : loadOrStandard t start o = .ok r) : r.1.objection = none := by
  rcases hf : find? t start with _ | p
  · rw [loadOrStandard_none hf] at h
    exact objection_of_accepted h
  · rw [loadOrStandard_some hf] at h
    rcases hl : load t p with e | c
    · rw [hl] at h
      cases h
    · rw [hl] at h
      exact objection_of_accepted h

/-- **A file of settings decides, or it is reported.** Without one the standard configuration holds,
as the environment has it. The file that is found is either wrong in itself, which is reported, or
it says which configuration the environment then changes; nothing else plays a part. Only a compiler
that the environment names by white space makes a valid configuration fail. A configuration that
comes out is valid, so that its policy is the one that it names, and no dependency takes the name of
the runtime library. -/
theorem settings_settled (t : Tree) (start : Path) (environment : String → Option String) :
    (find? t start = none →
      Settled environment standard none (loadOrStandard t start (overridesOf environment))) ∧
    (∀ p, find? t start = some p → ∃ said, Tells p (t.read p) said ∧
      (∀ e, said = .error e → loadOrStandard t start (overridesOf environment) = .error e) ∧
      ∀ c, said = .ok c →
        Settled environment c (some p) (loadOrStandard t start (overridesOf environment))) ∧
    (∀ p, find? t start = some p → ∀ t' start', find? t' start' = some p →
      t'.read p = t.read p → loadOrStandard t' start' (overridesOf environment) =
        loadOrStandard t start (overridesOf environment)) ∧
    loadOrStandard t start (overridesOf environment) = (match loadFrom t start with
      | .ok (c, p) => (accepted (c.override (overridesOf environment))).map (·, some p)
      | .error (.notFound _) =>
        (accepted (standard.override (overridesOf environment))).map (·, none)
      | .error e => .error e) ∧
    ∀ c file, loadOrStandard t start (overridesOf environment) = .ok (c, file) →
      c.objection = none ∧ Task.Policy.ofWord? c.dispatch = some c.policy ∧
        ∀ e ∈ c.dependencies, e.1 ≠ runtimeName := by
  refine ⟨fun hf => ?_, fun p hf => ?_, fun p hf t' start' hf' hread => ?_,
    loadOrStandard_eq t start _, fun c file h => ?_⟩
  · rw [loadOrStandard_none hf]
    exact settled_override rfl
  · refine ⟨load t p, load_tells t p, fun e he => ?_, fun c hc => ?_⟩
    · rw [loadOrStandard_some hf, he]
    · rw [loadOrStandard_some hf, hc]
      exact settled_override (objection_of_load hc)
  · rw [loadOrStandard_some hf, loadOrStandard_some hf', load_eq, load_eq, hread]
  · have hc : c.objection = none := objection_of_loadOrStandard h
    exact ⟨hc, policy_of_objection hc, name_ne_of_contains (objection_eq_none_iff.mp hc).2.2.2.2⟩

/-! ## An empty file of settings -/

theorem find_nested : find? nested ⟨true, ["sub"]⟩ = some ⟨true, ["sub", "matr.toml"]⟩ := by
  have has : Path.ancestors ⟨true, ["sub"]⟩ =
      [] ++ ⟨true, ["sub"]⟩ :: Path.ancestors ⟨true, []⟩ := by
    rw [Path.ancestors_of_parent? (q := ⟨true, []⟩) (by decide)]
    rfl
  exact (find_eq_some_iff ⟨noLinkedDirectory_nested, rfl, opens_nested⟩).mpr
    ⟨_, _, _, "matr.toml", has, choice_nested, by decide, nofun⟩

theorem read_nested : nested.read ⟨true, ["sub", "matr.toml"]⟩ = .ok .empty :=
  opens_nested.read_child (n := "matr.toml") (literal_of_mem (.head _)) (x := false) rfl

theorem ofText_empty : ofText ⟨true, ["sub", "matr.toml"]⟩ "" = .ok standard := by
  have h : Path.extension? ⟨true, ["sub", "matr.toml"]⟩ = some "toml" := by decide
  rw [ofText, if_pos h]
  cbv

theorem tells_nested : Tells ⟨true, ["sub", "matr.toml"]⟩
    (nested.read ⟨true, ["sub", "matr.toml"]⟩) (.ok standard) := by
  rw [read_nested]
  exact .valid (s := "") rfl ofText_empty rfl

theorem load_nested : load nested ⟨true, ["sub", "matr.toml"]⟩ = .ok standard :=
  (load_tells _ _).unique tells_nested

/-- An environment with this compiler and no path of the runtime library. -/
def compilerOnly (cargo : String) (variableName : String) : Option String :=
  if variableName = "MATR_CARGO" then some cargo else none

theorem settings_settled_nested :
    find? nested ⟨true, ["sub"]⟩ = some ⟨true, ["sub", "matr.toml"]⟩ ∧
    ∃ c, loadOrStandard nested ⟨true, ["sub"]⟩ (overridesOf (compilerOnly "cross")) =
        .ok (c, some ⟨true, ["sub", "matr.toml"]⟩) ∧
      Overridden (compilerOnly "cross") standard c ∧ c.compiler.cargo = "cross" ∧
      c.objection = none ∧ Task.Policy.ofWord? c.dispatch = some c.policy := by
  obtain ⟨-, hsome, -, -, hok⟩ :=
    settings_settled nested ⟨true, ["sub"]⟩ (compilerOnly "cross")
  obtain ⟨said, hsaid, -, hsettled⟩ := hsome _ find_nested
  have hsettled := hsettled _ (hsaid.unique tells_nested)
  generalize hr : loadOrStandard nested ⟨true, ["sub"]⟩ (overridesOf (compilerOnly "cross")) = r
    at hsettled
  cases hsettled with
  | refused h =>
    obtain ⟨v, hv, -, hb⟩ := h
    cases hv
    exact absurd hb (by decide)
  | @accepted c _ ho =>
    obtain ⟨hc, hp, -⟩ := hok _ _ hr
    exact ⟨find_nested, c, rfl, ho, ho.cargo_set "cross" rfl (by decide), hc, hp⟩

/-- With a compiler of white space there is no configuration, though nothing is wrong with the
file. -/
theorem settings_refused :
    find? nested ⟨true, ["sub"]⟩ = some ⟨true, ["sub", "matr.toml"]⟩ ∧
    Tells ⟨true, ["sub", "matr.toml"]⟩ (nested.read ⟨true, ["sub", "matr.toml"]⟩) (.ok standard) ∧
    ¬ ∃ c, loadOrStandard nested ⟨true, ["sub"]⟩ (overridesOf (compilerOnly " ")) =
      .ok (c, some ⟨true, ["sub", "matr.toml"]⟩) := by
  refine ⟨find_nested, tells_nested, ?_⟩
  rintro ⟨c, hc⟩
  have hb : NamesBlank (compilerOnly " ") := ⟨" ", rfl, by decide, by decide⟩
  rw [loadOrStandard_some find_nested, load_nested] at hc
  simp only [accepted_eq, objection_override_of_blank (c := standard) rfl hb] at hc
  cases hc

end TaskDriver.Configuration
