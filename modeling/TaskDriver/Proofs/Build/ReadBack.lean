import TaskDriver.Proofs.Build.Layout
import TaskDriver.Proofs.Definition.Statements

/-! The grammar reads the driver as a program with one function. -/
namespace TaskDriver.Build.Layout
open Definition (Reader Piece Command Token Name Reads Rules IsWord Word keywords atPunct tokensAt
  tokensAt_append)
open Definition.Grammar

variable {self : Rules} {rest : List Token} {d : Nat}

/-! ## Calls -/

/-- A text that is a word and can name something. -/
def IsName (s : String) : Prop :=
  IsWord s.toList ∧ s ∉ keywords

instance (s : String) : Decidable (IsName s) :=
  inferInstanceAs (Decidable (_ ∧ _))

theorem tokens_name {s : String} (h : IsName s) :
    ∃ w : Word, w.isName = true ∧ ∀ o, (Piece.word s).tokens o = [.word w o] := by
  refine ⟨⟨false, s, h.1, fun hraw => Bool.noConfusion hraw⟩, ?_, fun o => ?_⟩
  · simp [Word.isName, h.2]
  · rw [Piece.tokens, dif_pos h.1]

theorem tokensAt_path {names : List String} (h : ∀ s ∈ names, IsName s) {s : String} (hs : IsName s)
    (o : Nat) : ∃ w ts, w.isName = true ∧ PathTail ts ∧
      tokensAt o (path (s :: names)) = .word w o :: ts := by
  induction names generalizing o s with
  | nil =>
    obtain ⟨w, hw, ht⟩ := tokens_name hs
    refine ⟨w, [], hw, .nil, ?_⟩
    rw [path, tokensAt, ht]
    rfl
  | cons t names ih =>
    obtain ⟨w, hw, ht⟩ := tokens_name hs
    obtain ⟨v, ts, hv, hts, hp⟩ := ih (fun u hu => h u (.tail _ hu)) (h t (.head _))
      (o + s.toList.length + 1 + 1)
    refine ⟨w, .punct ':' true (o + s.toList.length) ::
      .punct ':' false (o + s.toList.length + 1) :: .word v (o + s.toList.length + 1 + 1) :: ts,
      hw, .cons hv _ _ _ hts, ?_⟩
    have hrest : tokensAt o (path (s :: t :: names)) = (Piece.word s).tokens o ++
        (.punct ':' true (o + s.toList.length) :: .punct ':' false (o + s.toList.length + 1) ::
          tokensAt (o + s.toList.length + 1 + 1) (path (t :: names))) := rfl
    rw [hrest, ht, hp]
    rfl

theorem head_path {names : List String} {s : String} (h : ∀ t ∈ s :: names, IsName t) (o : Nat) :
    Head (tokensAt o (path (s :: names))) := by
  obtain ⟨w, ts, hw, hts, hp⟩ := tokensAt_path (fun t ht => h t (.tail _ ht)) (h s (.head _)) o
  rw [hp]
  exact .path hw o hts

/-- A path with calls of it and of its methods is read as an expression. -/
theorem readsExpr_path {names : List String} {s : String} {calls : List Piece}
    (h : ∀ t ∈ s :: names, IsName t) (hc : ∀ o, Trailers (rules d) (tokensAt o calls)) (o : Nat) :
    ReadsExpr (rules (d + 2)) (tokensAt o (path (s :: names) ++ calls)) := by
  rw [tokensAt_append]
  exact readsExpr (head_path h o) (hc _)

theorem arguments_nil (o : Nat) : Arguments self (tokensAt o []) :=
  .nil

theorem trailers_nil (o : Nat) : Trailers self (tokensAt o []) :=
  .nil

theorem arguments_cons {ps qs : List Piece} (h : ∀ o, ReadsExpr self (tokensAt o ps))
    (hs : ∀ o, Arguments self (tokensAt o qs)) (o : Nat) :
    Arguments self (tokensAt o (ps ++ mark ',' :: qs)) := by
  rw [tokensAt_append]
  exact .cons (h o) _ _ (hs _)

theorem trailers_call {args calls : List Piece} (ha : ∀ o, Arguments self (tokensAt o args))
    (hc : ∀ o, Trailers self (tokensAt o calls)) (o : Nat) :
    Trailers self (tokensAt o (parens args :: calls)) :=
  .call (ha _) _ _ (hc _)

theorem trailers_method (name : String) {args calls : List Piece} (hn : IsName name)
    (ha : ∀ o, Arguments self (tokensAt o args)) (hc : ∀ o, Trailers self (tokensAt o calls))
    (o : Nat) : Trailers self (tokensAt o (method name args ++ calls)) := by
  obtain ⟨w, hw, ht⟩ := tokens_name hn
  have hm : tokensAt o (method name args ++ calls) = .punct '.' false o ::
      ((Piece.word name).tokens (o + 1) ++
        tokensAt (o + 1 + name.toList.length) (parens args :: calls)) :=
    rfl
  rw [hm, ht]
  exact .method hw (ha _) _ _ _ _ (hc _)

theorem arguments_last {ps : List Piece} (h : ∀ o, ReadsExpr self (tokensAt o ps)) (o : Nat) :
    Arguments self (tokensAt o ps) :=
  .last (h o)

theorem readsExpr_text (s : List Char) (d o : Nat) :
    ReadsExpr (rules (d + 2)) (tokensAt o [.text s]) :=
  readsExpr (.literal _ o) .nil

theorem readsExpr_number (n d o : Nat) :
    ReadsExpr (rules (d + 2)) (tokensAt o [.number n]) :=
  readsExpr (.literal _ o) .nil

theorem readsExpr_word {s : String} (h : IsName s) (d o : Nat) :
    ReadsExpr (rules (d + 2)) (tokensAt o [.word s]) := by
  have hs : ∀ t ∈ [s], IsName t := by simpa using h
  exact readsExpr_path hs trailers_nil o

theorem trailers_line {ps : List Piece} (h : ∀ o, Trailers self (tokensAt o ps)) (n o : Nat) :
    Trailers self (tokensAt o (line n :: ps)) :=
  h _

theorem readsExpr_mutReference {names : List String} {s : String} {calls : List Piece}
    (h : ∀ t ∈ s :: names, IsName t) (hc : ∀ o, Trailers (rules d) (tokensAt o calls)) (o : Nat) :
    ReadsExpr (rules (d + 3))
      (tokensAt o ([mark '&', .word "mut", blank] ++ (path (s :: names) ++ calls))) := by
  have ht : tokensAt o ([mark '&', .word "mut", blank] ++ (path (s :: names) ++ calls)) =
      .punct '&' false o :: .word mutWord (o + 1) ::
        tokensAt (o + 5) (path (s :: names) ++ calls) := rfl
  rw [ht, tokensAt_append]
  exact readsExpr_reference (head_path h _) (hc _) _ _

/-! ## Statements -/

/-- A call with a semicolon is read as a statement. -/
theorem readsStatement_path {names : List String} {s : String} {calls : List Piece}
    (h : ∀ t ∈ s :: names, IsName t) (hc : ∀ o, Trailers (rules d) (tokensAt o calls)) (o : Nat) :
    ReadsStatement (rules (d + 2)) (tokensAt o (path (s :: names) ++ calls ++ [mark ';'])) := by
  obtain ⟨w, ts, hw, hts, hp⟩ := tokensAt_path (fun t ht => h t (.tail _ ht)) (h s (.head _)) o
  rw [tokensAt_append, tokensAt_append, hp]
  exact readsStatement_call hw hts (hc _)

theorem tokensAt_bind (o : Nat) (name value : List Piece) :
    ∃ o₁ o₂ o₃ o₄ o₅, tokensAt o (bind name value) =
      .word letWord o₁ :: (tokensAt o₂ name ++
        (.punct '=' false o₃ :: (tokensAt o₄ value ++ [.punct ';' false o₅]))) := by
  simp only [bind, List.append_assoc, tokensAt_append]
  exact ⟨_, _, _, _, _, rfl⟩

/-- Pieces that a binding can give a value to. -/
def Bindable (self : Rules) (name : List Piece) : Prop :=
  ∀ o o₁ rest, Reads (bound self) (tokensAt o name) (.punct '=' false o₁ :: rest) ()

/-- A binding is read as a statement when its name and its value are read. -/
theorem readsStatement_bind {name value : List Piece} (hn : Bindable self name)
    (hv : ∀ o j o₁ rest, ∃ e,
      Reads (self (.expr true)) (tokensAt o value) (.punct ';' j o₁ :: rest) e) (o : Nat) :
    ReadsStatement self (tokensAt o (bind name value)) := by
  obtain ⟨o₁, o₂, o₃, o₄, o₅, ht⟩ := tokensAt_bind o name value
  rw [ht]
  refine readsStatement_let fun {rest} => ?_
  obtain ⟨e, he⟩ := hv o₄ false o₅ rest
  exact reads_binding (hn _ _ _) (reads_bindingValue he)

theorem readsStatement_bindCall {name value : List Piece} (hn : Bindable self name)
    (hv : ∀ o, ReadsExpr self (tokensAt o value)) (o : Nat) :
    ReadsStatement self (tokensAt o (bind name value)) :=
  readsStatement_bind hn (fun o j o₁ rest => ⟨_, (hv o).reads (.semicolon j o₁ rest)⟩) o

/-! ## The statements of the driver -/

theorem readsStatement_startLogging (d o : Nat) :
    ReadsStatement (rules (d + 2)) (tokensAt o startLogging) := by
  have hn : ∀ s ∈ ["matr", "init_logging"], IsName s := by decide
  exact readsStatement_path hn (trailers_call arguments_nil trailers_nil) _

theorem isName_variant (p : Task.Policy) : IsName p.variant := by
  cases p <;> decide

theorem readsStatement_bindRegistry (p : Task.Policy) (d o : Nat) :
    ReadsStatement (rules (d + 4)) (tokensAt o (bindRegistry p)) := by
  have hn : ∀ s ∈ ["matr", "Registry", "new"], IsName s := by decide
  have hp : ∀ s ∈ ["matr", "DispatchPolicy", p.variant], IsName s := by
    simp [isName_variant]
    decide
  have hname : Bindable (rules (d + 4)) [.word "mut", blank, .word "registry"] := fun _ _ _ _ => rfl
  have harg : ∀ o, ReadsExpr (rules (d + 2))
      (tokensAt o (path ["matr", "DispatchPolicy", p.variant] ++ [])) :=
    readsExpr_path hp trailers_nil
  have hvalue := readsExpr_path hn (trailers_call arguments_nil
    (trailers_method "with_policy" (by decide) (arguments_last harg) trailers_nil))
  exact readsStatement_bindCall hname hvalue o

/-- A task is read as an expression when the name of its command can name a function. -/
theorem readsExpr_task {c : Command} (hn : IsName c.name) (d o : Nat) :
    ReadsExpr (rules (d + 4)) (tokensAt o (task c)) := by
  have hpath : ∀ s ∈ ["matr", "Task", "new"], IsName s := by decide
  have hargs : ∀ o, Arguments (rules (d + 2))
      (tokensAt o ([.text (Task.name c.name).toList] ++ mark ',' :: [blank, .word c.name])) :=
    arguments_cons (readsExpr_text _ d) fun _ => .last (readsExpr_word hn d _)
  have hdoc := trailers_method "doc" (by decide)
    (arguments_last (readsExpr_text (trimmed c.doc).toList d)) trailers_nil
  have hsummary := trailers_method "summary" (by decide)
    (arguments_last (readsExpr_text (trimmed c.summary).toList d)) (trailers_line hdoc 12)
  exact readsExpr_path hpath (trailers_call hargs (trailers_line hsummary 12)) o

theorem readsStatement_register {c : Command} (hn : IsName c.name) (d o : Nat) :
    ReadsStatement (rules (d + 6)) (tokensAt o (register c)) := by
  have hname : ∀ s ∈ ["registry"], IsName s := by decide
  have hargs : ∀ o, Arguments (rules (d + 4))
      (tokensAt o (line 8 :: (task c ++ mark ',' :: [line 4]))) :=
    fun _ => arguments_cons (readsExpr_task hn d) arguments_nil _
  have hcalls := trailers_method "handle" (by decide) hargs trailers_nil
  exact readsStatement_path hname hcalls _

theorem readsStatement_bindArguments (d o : Nat) :
    ReadsStatement (rules (d + 4)) (tokensAt o bindArguments) := by
  have hn : ∀ s ∈ ["std", "env", "args"], IsName s := by decide
  have hname : Bindable (rules (d + 4))
      [.word "args", mark ':', blank, .word "Vec", mark '<', .word "String", mark '>'] :=
    fun _ _ _ _ => rfl
  have hvalue := readsExpr_path hn (trailers_call arguments_nil
    (trailers_method "skip" (by decide) (arguments_last (readsExpr_number 1 d))
      (trailers_method "collect" (by decide) arguments_nil trailers_nil)))
  exact readsStatement_bindCall hname hvalue o

theorem readsStatement_bindTimeout (n d o : Nat) :
    ReadsStatement (rules (d + 4)) (tokensAt o (bindTimeout n)) := by
  have hn : ∀ s ∈ ["std", "time", "Duration", "from_secs"], IsName s := by decide
  have hname : Bindable (rules (d + 4)) [.word "timeout"] := fun _ _ _ _ => rfl
  have hvalue := readsExpr_path hn
    (trailers_call (arguments_last (readsExpr_number n d)) trailers_nil)
  exact readsStatement_bindCall hname hvalue o

/-- What is done on a failure is a block of two statements. -/
theorem block_failure (d o : Nat) : Block (rules (d + 5)) (tokensAt o failure) := by
  have hn : ∀ s ∈ ["std", "process", "exit"], IsName s := by decide
  have hexit : ∀ o, ReadsStatement (rules (d + 5))
      (tokensAt o (path ["std", "process", "exit"] ++ [parens [.number 1]] ++ [mark ';'])) :=
    readsStatement_path hn
      (trailers_call (arguments_last (readsExpr_number 1 (d + 1))) trailers_nil)
  have hprint : ReadsStatement (rules (d + 5))
      (tokensAt o [line 12, .word "eprintln", mark '!',
        parens [.text "ERROR: \x7b\x7d".toList, mark ',', blank, .word "e"], mark ';', line 12]) :=
    ⟨List.cons_ne_nil _ _, fun _ => rfl, fun _ => rfl⟩
  rw [failure, List.append_assoc, tokensAt_append]
  exact hprint.block.append (hexit _).block

theorem reads_outcomeArm (d o : Nat) (us : List Token) :
    Reads (arm (rules (d + 7))) (tokensAt o outcomeArm) us () :=
  fun _ => rfl

theorem reads_failureArm (d o : Nat) :
    Reads (arm (rules (d + 7))) (tokensAt o failureArm) [] () := by
  have hpattern : ∀ o o₁ us, ∃ p, Reads (fullPattern (rules (d + 7)))
      (tokensAt o [.word "Err", parens [.word "e"]]) (.punct '=' true o₁ :: us) p :=
    fun _ _ _ => ⟨_, fun _ => rfl⟩
  have hstart : ∀ o, atPunct "#" (tokensAt o failure) = false := fun _ => rfl
  obtain ⟨p, hp⟩ := hpattern (o + 9) _ _
  exact reads_lastArm hp (reads_blockBody (block_failure d _) (hstart _))

theorem series_arms (d o : Nat) :
    Series (arm (rules (d + 7))) (tokensAt o (outcomeArm ++ failureArm)) [(), ()] := by
  have hne : ∀ o, tokensAt o outcomeArm ≠ [] ∧ tokensAt o failureArm ≠ [] :=
    fun _ => ⟨List.cons_ne_nil _ _, List.cons_ne_nil _ _⟩
  have hlast : ∀ o, Series (arm (rules (d + 7))) (tokensAt o failureArm ++ []) [()] :=
    fun o => .cons (hne o).2 (reads_failureArm d o) .nil
  simp only [List.append_nil] at hlast
  rw [tokensAt_append]
  exact .cons (hne o).1 (reads_outcomeArm d o _) (hlast _)

theorem reads_supervision (d o : Nat) {inner : List Token} {o₁ o₂ : Nat} :
    ∃ e, Reads (rules (d + 6) (.expr false)) (tokensAt o supervision)
      (.group .brace inner o₁ o₂ :: rest) e := by
  have hn : ∀ s ∈ ["matr", "supervise"], IsName s := by decide
  have hargs : ∀ o, Arguments (rules (d + 4)) (tokensAt o ([.word "registry"] ++ mark ',' ::
      ([blank, .word "args"] ++ mark ',' :: [blank, .word "timeout"]))) :=
    arguments_cons (readsExpr_word (by decide) (d + 2)) <|
      arguments_cons (fun _ => readsExpr_word (by decide) (d + 2) _) <|
        arguments_last fun _ => readsExpr_word (by decide) (d + 2) _
  rw [supervision, tokensAt_append]
  exact ⟨_, reads_expr (head_path hn o) (trailers_call hargs trailers_nil _) (.block rfl _ _ _ _)⟩

theorem readsStatement_bindOutcome (d o : Nat) :
    ReadsStatement (rules (d + 9)) (tokensAt o bindOutcome) := by
  have hname : Bindable (rules (d + 9)) [.word "outcome"] := fun _ _ _ _ => rfl
  have hstart : ∀ o, atPunct "#" (tokensAt o (outcomeArm ++ failureArm)) = false := fun _ => rfl
  have hvalue : ∀ o, ∃ o₁ o₂ o₃ o₄, tokensAt o ([.word "match", blank] ++ supervision ++
      [blank, braces (outcomeArm ++ failureArm)]) =
        .word matchWord o :: (tokensAt o₁ supervision ++
          [.group .brace (tokensAt o₂ (outcomeArm ++ failureArm)) o₃ o₄]) := by
    intro o
    rw [List.append_assoc, tokensAt_append, tokensAt_append]
    exact ⟨_, _, _, _, rfl⟩
  refine readsStatement_bind hname ?_ o
  intro o j o₁ rest
  obtain ⟨_, _, _, _, ht⟩ := hvalue o
  obtain ⟨_, he⟩ := reads_supervision (d + 1) _
  rw [ht]
  exact ⟨_, reads_match he (series_arms d _) (hstart _) (.semicolon _ _ _)⟩

theorem readsStatement_reportOutcome (d o : Nat) :
    ReadsStatement (rules (d + 5)) (tokensAt o reportOutcome) := by
  have hn : ∀ s ∈ ["outcome"], IsName s := by decide
  have hio : ∀ s ∈ ["std", "io", "stderr"], IsName s := by decide
  have hname : Bindable (rules (d + 5)) [.word "_"] := fun _ _ _ _ => rfl
  have hargs := arguments_last
    (readsExpr_mutReference (d := d) hio (trailers_call arguments_nil trailers_nil))
  have hvalue := readsExpr_path hn (trailers_method "report" (by decide) hargs trailers_nil)
  exact readsStatement_bindCall hname hvalue o

theorem readsStatement_exitWithOutcome (d o : Nat) :
    ReadsStatement (rules (d + 4)) (tokensAt o exitWithOutcome) := by
  have hn : ∀ s ∈ ["std", "process", "exit"], IsName s := by decide
  have ho : ∀ s ∈ ["outcome"], IsName s := by decide
  have hcalls : ∀ o, Trailers (rules d) (tokensAt o (method "exit_code" [] ++ [])) :=
    trailers_method "exit_code" (by decide) arguments_nil trailers_nil
  have hcode := readsExpr_path ho hcalls
  exact readsStatement_path hn (trailers_call (arguments_last hcode) trailers_nil) _

/-! ## The driver -/

theorem block_first (p : Task.Policy) (d o : Nat) :
    Block (rules (d + 4)) (tokensAt o (first p)) := by
  rw [first, tokensAt_append]
  exact (readsStatement_startLogging (d + 2) o).block.append
    (readsStatement_bindRegistry p d _).block

theorem block_registrations {commands : List Command}
    (h : ∀ c ∈ commands, c.exported = true → IsName c.name) (d o : Nat) :
    Block (rules (d + 6)) (tokensAt o (registrations commands)) := by
  rw [registrations]
  have hall : ∀ c ∈ commands.filter (·.exported), IsName c.name := by
    intro c hc
    rw [List.mem_filter] at hc
    exact h c hc.1 hc.2
  generalize commands.filter (·.exported) = cs at hall
  induction cs generalizing o with
  | nil => exact .nil
  | cons c cs ih =>
    rw [List.flatMap_cons, tokensAt_append]
    exact (readsStatement_register (hall c (.head _)) d o).block.append
      (ih _ fun c hc => hall c (.tail _ hc))

theorem block_last (n d o : Nat) : Block (rules (d + 9)) (tokensAt o (last n)) := by
  simp only [last, tokensAt_append]
  exact (((readsStatement_bindArguments (d + 5) _).block.append
    (readsStatement_bindTimeout n (d + 5) _).block).append
      (readsStatement_bindOutcome d _).block).append
        (readsStatement_reportOutcome (d + 4) _).block |>.append
          (readsStatement_exitWithOutcome (d + 5) _).block

/-- The name of the function of the driver. -/
def mainName : Name :=
  ⟨⟨false, "main", by decide, nofun⟩, rfl⟩

theorem reads_mainFunction {ps : List Piece} (h : ∀ o, Block (rules d) (tokensAt o ps))
    (hs : ∀ o, atPunct "#" (tokensAt o ps) = false) (o : Nat) :
    Reads (rules (d + 2) .item) (tokensAt o (mainFunction ps)) [] (some ⟨mainName, []⟩) := by
  have ht : tokensAt o (mainFunction ps) =
      tokensAt o [.word "fn", blank, .word "main", parens []] ++ tokensAt (o + 10) [braces ps] :=
    rfl
  have hvisibility : ∀ us, ∃ v, Reads visibility []
      (tokensAt o [.word "fn", blank, .word "main", parens []] ++ us) v :=
    fun _ => ⟨_, fun _ => rfl⟩
  have hsignature : ∀ o' us, Reads (signature (rules (d + 1)) false)
      (tokensAt o [.word "fn", blank, .word "main", parens []])
      (tokensAt o' [braces ps] ++ us) mainName :=
    fun _ _ _ => rfl
  have hbody : Reads (body (rules (d + 1))) (tokensAt (o + 10) [braces ps]) [] [] :=
    Definition.reads_group (reads_attributedStatements (h _) (hs _))
  have hitem : Reads (functionItem (rules (d + 1)) [])
      (tokensAt o [.word "fn", blank, .word "main", parens []] ++ tokensAt (o + 10) [braces ps]) []
      (some ⟨mainName, []⟩) := by
    obtain ⟨_, hv⟩ := hvisibility (tokensAt (o + 10) [braces ps] ++ [])
    rw [← List.append_assoc] at hv
    have hsemicolon : Reads (Reader.punct? ";") []
        (tokensAt (o + 10) [braces ps] ++ []) false := fun _ => rfl
    unfold functionItem
    refine hv.look ((hsignature _ []).bind (hsemicolon.look ?_))
    exact hbody.last Definition.reads_pure
  rw [ht]
  exact fun closing => hitem closing

theorem reads_inclusion (d o : Nat) (us : List Token) :
    Reads (rules (d + 2) .item) (tokensAt o inclusion) us none :=
  fun _ => rfl

theorem reads_header (d o o' : Nat) (us : List Token) :
    Reads (innerAttributes (rules d)) (tokensAt o header) (tokensAt o' inclusion ++ us ++ []) [] :=
  fun _ => rfl

/-- The driver is read as a file with one function. -/
theorem file_driver {commands : List Command}
    (h : ∀ c ∈ commands, c.exported = true → IsName c.name) (o : DriverOptions) (start : Nat) :
    file (tokensAt start (driver commands o)) = .ok [⟨mainName, []⟩] := by
  obtain ⟨ts, hts⟩ : ∃ ts, tokensAt start (driver commands o) = ts := ⟨_, rfl⟩
  obtain ⟨d, hd⟩ : ∃ d, 16 * (tokenCount ts + 1) = d + 11 := ⟨16 * tokenCount ts + 5, by omega⟩
  have hblock : ∀ start, Block (rules (d + 9))
      (tokensAt start (first o.policy ++ registrations commands ++ last o.timeoutSecs)) := by
    intro start
    rw [tokensAt_append, tokensAt_append]
    exact ((block_first o.policy (d + 5) _).append (block_registrations h (d + 3) _)).append
      (block_last o.timeoutSecs d _)
  have hitems : ∀ o₁ o₂, Series (rules (d + 11) .item) (tokensAt o₁ inclusion ++
      (tokensAt o₂ (mainFunction (first o.policy ++ registrations commands ++
        last o.timeoutSecs)) ++ [])) [none, some ⟨mainName, []⟩] := by
    intro o₁ o₂
    exact .cons (List.cons_ne_nil _ _) (reads_inclusion (d + 9) _ _)
      (.cons (List.cons_ne_nil _ _) (reads_mainFunction hblock (fun _ => rfl) _) .nil)
  have hread : Reads (do
      let _ ← innerAttributes (rules (d + 11))
      Reader.all (rules (d + 11) .item)) ts [] [none, some ⟨mainName, []⟩] := by
    simp only [List.append_nil] at hitems
    rw [← hts, driver, List.append_assoc, tokensAt_append, tokensAt_append]
    exact (reads_header _ _ _ _).bind (hitems _ _).reads
  have hfile := hread .wholeFile
  rw [List.append_nil] at hfile
  rw [hts]
  unfold file
  rw [hd]
  simp only [hfile]
  rfl

end TaskDriver.Build.Layout
