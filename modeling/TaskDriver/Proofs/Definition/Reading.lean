import TaskDriver.Definition.Grammar.Statement

/-! How the readers of the grammar read calls: a path or a literal, followed by calls of it and of
its methods, each with a list of such expressions as its arguments. -/
namespace TaskDriver.Definition
open Reader

variable {α β : Type} {r : Reader α} {f : α → Reader β} {t : Token} {ts us rest : List Token}
  {a : α} {b : β} {s s' : Stream}

theorem Reader.bind_ok (h : r s = .ok (a, s')) : (r >>= f) s = f a s' := by
  simp [bind, StateT.bind, Except.bind, h]

/-- A reader reads some tokens, up to the tokens `rest`, and leaves nothing over in a group. -/
def Reads (r : Reader α) (ts rest : List Token) (a : α) : Prop :=
  ∀ closing, r ⟨ts ++ rest, closing, none⟩ = .ok (a, ⟨rest, closing, none⟩)

theorem Reads.bind (h : Reads r ts (us ++ rest) a) (h' : Reads (f a) us rest b) :
    Reads (r >>= f) (ts ++ us) rest b := by
  intro closing
  rw [List.append_assoc, Reader.bind_ok (h closing), h' closing]

/-- A reader that reads no token, and then another one. -/
theorem Reads.look (h : Reads r [] (ts ++ rest) a) (h' : Reads (f a) ts rest b) :
    Reads (r >>= f) ts rest b :=
  h.bind h'

theorem Reads.cons (h : Reads r [t] (ts ++ rest) a) (h' : Reads (f a) ts rest b) :
    Reads (r >>= f) (t :: ts) rest b :=
  h.bind h'

/-- A reader that reads all the tokens, and then another one. -/
theorem Reads.last (h : Reads r ts rest a) (h' : Reads (f a) [] rest b) :
    Reads (r >>= f) ts rest b := by
  have hb : Reads (r >>= f) (ts ++ []) rest b := h.bind h'
  rwa [List.append_nil] at hb

theorem reads_pure : Reads (pure a : Reader α) [] rest a :=
  fun _ => rfl

theorem reads_tokens : Reads tokens [] ts ts :=
  fun _ => rfl

theorem reads_atEnd : Reads atEnd [] ts ts.isEmpty :=
  fun _ => rfl

theorem reads_ahead (test : List Token → Bool) : Reads (ahead test) [] ts (test ts) :=
  fun _ => rfl

variable {w : Word} {o o₁ o₂ : Nat} {j : Bool}

theorem reads_word?_none {k : String} (h : atWord k ts = false) : Reads (word? k) [] ts false := by
  intro closing
  simp [word?, h]

theorem reads_punct?_none {marks : String} (h : atPunct marks ts = false) :
    Reads (punct? marks) [] ts false := by
  intro closing
  simp [punct?, h]

theorem reads_colons : Reads (punct "::") [.punct ':' true o₁, .punct ':' j o₂] rest () :=
  fun _ => rfl

theorem reads_point : Reads (punct ".") [.punct '.' j o] rest () :=
  fun _ => rfl

theorem reads_comma : Reads (punct ",") [.punct ',' j o] rest () :=
  fun _ => rfl

theorem reads_name (hw : w.isName = true) : Reads name [.word w o] rest ⟨w, hw⟩ := by
  intro closing
  simp [name, hw]

theorem reads_anyWord : Reads anyWord [.word w o] rest w :=
  fun _ => rfl

theorem reads_group {d : Delimiter} {inner : List Token} (h : Reads r inner [] a) :
    Reads (group d r) [.group d inner o₁ o₂] rest a := by
  intro closing
  have hi := h (.char o₂)
  rw [List.append_nil] at hi
  simp only [group, groupThen, List.singleton_append, ↓reduceIte, hi]
  rfl

theorem Reads.loop_go {step : Reader Bool} (h : Reads step ts (us ++ rest) true) {n : Nat}
    (h' : Reads (loop.go step n) us rest ()) : Reads (loop.go step (n + 1)) (ts ++ us) rest () := by
  intro closing
  rw [List.append_assoc, loop.go, h closing]
  exact h' closing

theorem Reads.loop_stop {step : Reader Bool} (h : Reads step ts rest false) (n : Nat) :
    Reads (loop.go step (n + 1)) ts rest () := by
  intro closing
  rw [loop.go, h closing]

theorem Reads.loop {step : Reader Bool}
    (h : Reads (loop.go step ((ts ++ rest).length + 1)) ts rest ()) :
    Reads (loop step) ts rest () :=
  h

/-! ## Failures -/

/-- A reader that fails on some tokens. -/
def Fails (r : Reader α) (ts : List Token) : Prop :=
  ∀ closing, ∃ p, r ⟨ts, closing, none⟩ = .error p

theorem Fails.bind (h : Fails r ts) : Fails (r >>= f) ts := by
  intro closing
  obtain ⟨p, hp⟩ := h closing
  exact ⟨p, by simp [Bind.bind, StateT.bind, Except.bind, hp]⟩

theorem Reads.fails (h : Reads r ts rest a) (h' : Fails (f a) rest) :
    Fails (r >>= f) (ts ++ rest) := by
  intro closing
  obtain ⟨p, hp⟩ := h' closing
  exact ⟨p, by rw [bind_ok (h closing), hp]⟩

theorem Fails.preview (h : Fails r ts) : Fails (Reader.preview r) ts := by
  intro closing
  obtain ⟨p, hp⟩ := h closing
  exact ⟨p, by rw [Reader.preview, hp]⟩

/-- A reader that fails reads nothing when it is tried. -/
theorem Fails.attempt (h : Fails r ts) : Reads (Reader.attempt r) [] ts none := by
  intro closing
  obtain ⟨p, hp⟩ := h closing
  rw [List.nil_append, Reader.attempt, hp]

/-! ## Names -/

/-- A name is none of the words that the grammar tests for. -/
theorem atWord_of_isName (hw : w.isName = true) {k : String} (hk : k ∈ keywords) :
    atWord k (.word w o :: ts) = false := by
  have : w.raw = true ∨ w.name ∉ keywords := by simpa [Word.isName] using hw
  rcases this with h | h
  · simp [atWord, h]
  · have : w.name ≠ k := fun e => h (e ▸ hk)
    simp [atWord, this]

theorem atPunct_word (marks : String) : atPunct marks (.word w o :: ts) = false := by
  rw [atPunct, atMarks.eq_def]
  simp

namespace Grammar

variable {self : Rules}

/-! ## Paths -/

/-- Further names of a path. -/
inductive PathTail : List Token → Prop
  | nil : PathTail []
  | cons {w : Word} {ts : List Token} (hw : w.isName = true) (o₁ o₂ o₃ : Nat) (h : PathTail ts) :
    PathTail (.punct ':' true o₁ :: .punct ':' false o₂ :: .word w o₃ :: ts)

/-- Tokens before which a path ends. -/
structure EndsPath (braces : Bool) (rest : List Token) : Prop where
  noColons : atPunct "::" rest = false
  noBang : atPunct "!" rest = false
  noHash : atPunct "#" rest = false
  noBrace : (braces && atGroup .brace rest) = false

theorem PathTail.noAngle (h : PathTail ts) (hr : atPunct "::" rest = false) :
    (atPunct "::" (ts ++ rest) && atPunct "<" (after2 (ts ++ rest))) = false := by
  cases h with
  | nil => rw [List.nil_append, hr, Bool.false_and]
  | cons => rfl

theorem reads_pathSegment (hw : w.isName = true) (ht : PathTail ts)
    (hr : atPunct "::" rest = false) :
    Reads (pathSegment self true) [.word w o] (ts ++ rest) .bare := by
  have hk : ∀ k ∈ keywords, atWord k ([.word w o] ++ (ts ++ rest)) = false :=
    fun k hk => atWord_of_isName hw hk
  unfold pathSegment
  refine reads_tokens.look ?_
  rw [hk "super" (by decide), hk "self" (by decide), hk "crate" (by decide), hk "try" (by decide),
    hk "Self" (by decide)]
  refine (reads_name hw).last (reads_tokens.look ?_)
  rw [List.nil_append, ht.noAngle hr]
  exact reads_pure

theorem reads_pathRest_go (ht : PathTail ts) (hr : atPunct "::" rest = false) (p : PathShape)
    {n : Nat} (hn : ts.length ≤ n) : ∃ q, Reads (pathRest.go self true (n + 1) p) ts rest q := by
  induction ht generalizing p n with
  | nil =>
    refine ⟨p, ?_⟩
    unfold pathRest.go
    refine (reads_ahead _).look ?_
    rw [List.nil_append, hr]
    exact reads_pure
  | @cons w ts hw o₁ o₂ o₃ h ih =>
    obtain ⟨n, rfl⟩ : ∃ m, n = m + 1 := ⟨n - 1, by simp only [List.length_cons] at hn; omega⟩
    obtain ⟨q, hq⟩ := ih ⟨.bare, p.segments + 1, p.leading, p.plain && true, p.qualified⟩ (n := n)
      (by simp only [List.length_cons] at hn; omega)
    refine ⟨q, ?_⟩
    unfold pathRest.go
    refine (reads_ahead _).look ?_
    exact reads_colons.bind ((reads_pathSegment hw h hr).cons hq)

/-- A path starts with a name. -/
theorem reads_qualifiedPath (hw : w.isName = true) (ht : PathTail ts)
    (hr : atPunct "::" rest = false) :
    ∃ q, Reads (qualifiedPath self true) (.word w o :: ts) rest q := by
  obtain ⟨q, hq⟩ : ∃ q, Reads (pathRest.go self true ((ts ++ rest).length + 1)
      ⟨.bare, 1, false, true, false⟩) ts rest q := reads_pathRest_go ht hr _ (by simp)
  refine ⟨q, ?_⟩
  unfold qualifiedPath
  refine (reads_punct?_none rfl).look ?_
  unfold path
  exact (reads_punct?_none rfl).look ((reads_pathSegment hw ht hr).cons hq)

theorem reads_pathExpression {braces : Bool} (hw : w.isName = true) (ht : PathTail ts)
    (hr : EndsPath braces rest) :
    Reads (pathExpression self braces) (.word w o :: ts) rest ExprShape.plain := by
  obtain ⟨q, hq⟩ : ∃ q, Reads (qualifiedPath self true) (.word w o :: ts) rest q :=
    reads_qualifiedPath hw ht hr.noColons
  unfold pathExpression
  refine hq.last (reads_tokens.look ?_)
  simp only [List.nil_append, hr.noBang, hr.noBrace, Bool.and_false, Bool.false_and,
    Bool.false_eq_true, ↓reduceIte]
  exact reads_pure

/-! ## Operands -/

/-- What an expression starts with: a path, or a literal. -/
inductive Head : List Token → Prop
  | path {w : Word} {ts : List Token} (hw : w.isName = true) (o : Nat) (h : PathTail ts) :
    Head (.word w o :: ts)
  | literal (v : Literal) (o : Nat) : Head [.literal v o]

theorem atLiteral_of_isName (hw : w.isName = true) : atLiteral (.word w o :: ts) = false := by
  have ht : atWord "true" (.word w o :: ts) = false := atWord_of_isName hw (by decide)
  have hf : atWord "false" (.word w o :: ts) = false := atWord_of_isName hw (by decide)
  simp only [atWord] at ht hf
  simp only [atLiteral, Bool.and_or_distrib_left, ht, hf, Bool.or_self]

theorem atBuiltin_of_isPath (h : PathTail ts) (hr : atPunct "#" rest = false) :
    atBuiltin (.word w o :: (ts ++ rest)) = false := by
  have ha : after (.word w o :: (ts ++ rest)) = ts ++ rest := rfl
  have hp : atPunct "#" (ts ++ rest) = false := by
    cases h with
    | nil => exact hr
    | cons => rfl
  rw [atBuiltin, ha, hp, Bool.and_false]

theorem reads_atom {braces : Bool} (h : Head ts) (hr : EndsPath braces rest) :
    Reads (atom self braces) ts rest ExprShape.plain := by
  cases h with
  | literal v o =>
    exact fun _ => rfl
  | @path w ts hw o ht =>
    have hk : ∀ k ∈ keywords, atWord k (.word w o :: (ts ++ rest)) = false :=
      fun k hk => atWord_of_isName hw hk
    unfold atom
    refine reads_tokens.look ?_
    simp only [List.cons_append, atLiteral_of_isName hw, atPunct_word, hk "async" (by decide),
      hk "try" (by decide), hk "move" (by decide), hk "static" (by decide), hk "const" (by decide),
      hk "for" (by decide), atBinderClosure, atBuiltin_of_isPath ht hr.noHash, atName, hw,
      Bool.false_and, Bool.true_or, Bool.or_false, Bool.false_eq_true, ↓reduceIte]
    exact reads_pathExpression hw ht hr

/-! ## Calls -/

/-- What stands after an expression before another one, or at the end of a statement. Where a brace
opens a block, it ends the expression before it too. -/
inductive EndsExpr (braces : Bool) : List Token → Prop
  | nil : EndsExpr braces []
  | comma (j : Bool) (o : Nat) (ts : List Token) : EndsExpr braces (.punct ',' j o :: ts)
  | semicolon (j : Bool) (o : Nat) (ts : List Token) : EndsExpr braces (.punct ';' j o :: ts)
  | block (h : braces = false) (inner : List Token) (o₁ o₂ : Nat) (ts : List Token) :
    EndsExpr braces (.group .brace inner o₁ o₂ :: ts)

theorem EndsExpr.endsPath {braces : Bool} (h : EndsExpr braces rest) : EndsPath braces rest := by
  cases h with
  | nil => exact ⟨rfl, rfl, rfl, Bool.and_false _⟩
  | comma => exact ⟨rfl, rfl, rfl, Bool.and_false _⟩
  | semicolon => exact ⟨rfl, rfl, rfl, Bool.and_false _⟩
  | block h => exact ⟨rfl, rfl, rfl, by rw [h]; rfl⟩

/-- The reader of expressions reads these tokens before whatever ends an expression. -/
structure ReadsExpr (g : Rules) (ts : List Token) : Prop where
  ne_nil : ts ≠ []
  reads : ∀ {rest : List Token}, EndsExpr true rest →
    Reads (g (.expr true)) ts rest ExprShape.plain

/-- Expressions with commas between them; a comma may end the list. -/
inductive Arguments (self : Rules) : List Token → Prop
  | nil : Arguments self []
  | last {ts : List Token} (h : ReadsExpr self ts) : Arguments self ts
  | cons {ts us : List Token} (h : ReadsExpr self ts) (j : Bool) (o : Nat)
    (hs : Arguments self us) : Arguments self (ts ++ .punct ',' j o :: us)

/-- Calls of an expression and of its methods. -/
inductive Trailers (self : Rules) : List Token → Prop
  | nil : Trailers self []
  | call {inner ts : List Token} (hi : Arguments self inner) (o₁ o₂ : Nat)
    (h : Trailers self ts) : Trailers self (.group .paren inner o₁ o₂ :: ts)
  | method {w : Word} {inner ts : List Token} (hw : w.isName = true)
    (hi : Arguments self inner) (o₁ o₂ o₃ o₄ : Nat) (h : Trailers self ts) :
    Trailers self (.punct '.' false o₁ :: .word w o₂ :: .group .paren inner o₃ o₄ :: ts)

/-- One round of a list with commas. -/
def listStep (r : Reader α) : Reader Bool := do
  if ← atEnd then return false
  let _ ← r
  if ← atEnd then return false
  punct ","
  return true

theorem reads_listStep_end (r : Reader α) : Reads (listStep r) [] [] false :=
  fun _ => rfl

theorem ReadsExpr.step_last (h : ReadsExpr self ts) :
    Reads (listStep (self (.expr true))) ts [] false := by
  have hr : Reads (self (.expr true)) ts [] ExprShape.plain := h.reads .nil
  have he : (ts ++ []).isEmpty = false := by simp [h.ne_nil]
  unfold listStep
  refine reads_atEnd.look ?_
  rw [he]
  exact hr.last (reads_atEnd.look reads_pure)

theorem ReadsExpr.step_comma (h : ReadsExpr self ts) (j : Bool) (o : Nat) :
    Reads (listStep (self (.expr true))) (ts ++ [.punct ',' j o]) us true := by
  have he : (ts ++ [Token.punct ',' j o] ++ us).isEmpty = false := by simp
  unfold listStep
  refine reads_atEnd.look ?_
  rw [he]
  exact (h.reads (.comma j o us)).bind (reads_atEnd.look (reads_comma.last reads_pure))

theorem Arguments.reads {inner : List Token} (h : Arguments self inner) :
    Reads (expressions self) inner [] () := by
  have go : ∀ n, inner.length ≤ n →
      Reads (loop.go (listStep (self (.expr true))) (n + 1)) inner [] () := by
    induction h with
    | nil => exact fun n _ => (reads_listStep_end _).loop_stop n
    | last h => exact fun n _ => h.step_last.loop_stop n
    | @cons ts us h j o hs ih =>
      intro n hn
      rw [List.length_append, List.length_cons] at hn
      obtain ⟨n, rfl⟩ : ∃ m, n = m + 1 := ⟨n - 1, by omega⟩
      rw [List.append_cons]
      exact (h.step_comma j o).loop_go (ih n (by omega))
  exact Reads.loop (go _ (by simp))

theorem Trailers.endsPath {braces : Bool} (h : Trailers self ts) (hr : EndsExpr braces rest) :
    EndsPath braces (ts ++ rest) := by
  cases h with
  | nil => exact hr.endsPath
  | call => exact ⟨rfl, rfl, rfl, Bool.and_false _⟩
  | method => exact ⟨rfl, rfl, rfl, Bool.and_false _⟩

theorem reads_memberName (hw : w.isName = true) : Reads memberName [.word w o] rest true := by
  unfold memberName
  refine reads_tokens.look ?_
  simp only [List.singleton_append, atName, hw, ↓reduceIte]
  exact reads_anyWord.last reads_pure

theorem reads_member {inner : List Token} (hw : w.isName = true)
    (hi : Arguments self inner) :
    Reads (trailers.member self) [.word w o, .group .paren inner o₁ o₂] rest ExprShape.plain := by
  unfold trailers.member
  refine (reads_word?_none (atWord_of_isName hw (by decide))).look ?_
  refine (reads_memberName hw).cons ?_
  refine (reads_ahead _).look ?_
  refine (reads_ahead _).look ?_
  exact (reads_group hi.reads).last reads_pure

theorem reads_trailers_go_nil {braces : Bool} (hr : EndsExpr braces rest) (e : ExprShape)
    (n : Nat) : Reads (trailers.go self (n + 1) e) [] rest e := by
  unfold trailers.go
  refine reads_tokens.look ?_
  cases hr <;> exact reads_pure

theorem reads_trailers_go {braces : Bool} (h : Trailers self ts) (hr : EndsExpr braces rest)
    {n : Nat} (hn : ts.length ≤ n) :
    Reads (trailers.go self (n + 1) ExprShape.plain) ts rest ExprShape.plain := by
  induction h generalizing n with
  | nil => exact reads_trailers_go_nil hr _ n
  | call hi o₁ o₂ h ih =>
    obtain ⟨n, rfl⟩ : ∃ m, n = m + 1 := ⟨n - 1, by simp only [List.length_cons] at hn; omega⟩
    unfold trailers.go
    refine reads_tokens.look ?_
    exact (reads_group hi.reads).cons (ih (by simp only [List.length_cons] at hn; omega))
  | method hw hi o₁ o₂ o₃ o₄ h ih =>
    obtain ⟨n, rfl⟩ : ∃ m, n = m + 1 := ⟨n - 1, by simp only [List.length_cons] at hn; omega⟩
    unfold trailers.go
    refine reads_tokens.look ?_
    refine reads_point.cons (reads_tokens.look ?_)
    change Reads (trailers.member self >>= fun e => trailers.go self (n + 1) e) _ _ _
    exact (reads_member hw hi).bind (ih (by simp only [List.length_cons] at hn; omega))

theorem reads_trailers {braces : Bool} (h : Trailers self ts) (hr : EndsExpr braces rest) :
    Reads (trailers self ExprShape.plain) ts rest ExprShape.plain :=
  reads_trailers_go h hr (n := (ts ++ rest).length) (by simp)

theorem Head.atPunct (h : Head ts) (marks : String) : atPunct marks (ts ++ rest) = false := by
  cases h with
  | path => exact atPunct_word marks
  | literal =>
    rw [Definition.atPunct, atMarks.eq_def]
    simp

theorem reads_outerAttributes (h : atPunct "#" ts = false) :
    Reads (outerAttributes self) [] ts [] := by
  have hg : Reads (outerAttributes.go self (ts.length + 1)) [] ts [] := by
    unfold outerAttributes.go
    refine (reads_ahead _).look ?_
    rw [List.nil_append, h]
    exact reads_pure
  exact hg

theorem reads_operand {braces : Bool} (h : Head ts) (ht : Trailers self us)
    (hr : EndsExpr braces rest) : Reads (operandPhrase self braces) (ts ++ us) rest ExprShape.plain := by
  have hp : ∀ marks, atPunct marks (ts ++ us ++ rest) = false := by
    intro marks
    rw [List.append_assoc, h.atPunct]
  unfold operandPhrase
  refine (reads_ahead _).look ((reads_outerAttributes (hp _)).look (reads_tokens.look ?_))
  simp only [hp, Bool.or_self, Bool.false_eq_true, ↓reduceIte]
  refine (reads_atom h (ht.endsPath hr)).bind ?_
  exact (reads_trailers ht hr).last reads_pure

theorem reads_operators {braces : Bool} (hr : EndsExpr braces rest) :
    Reads (operatorsPhrase self ExprShape.plain braces 0) [] rest ExprShape.plain := by
  cases hr <;> exact fun _ => rfl

theorem reads_expr {braces : Bool} {d : Nat} (h : Head ts) (ht : Trailers (rules d) us)
    (hr : EndsExpr braces rest) :
    Reads (rules (d + 2) (.expr braces)) (ts ++ us) rest ExprShape.plain :=
  (reads_operand h ht hr).last (reads_operators hr)

/-- A path or a literal with its calls is read as one expression. -/
theorem readsExpr {d : Nat} (h : Head ts) (ht : Trailers (rules d) us) :
    ReadsExpr (rules (d + 2)) (ts ++ us) := by
  refine ⟨?_, fun hr => reads_expr h ht hr⟩
  cases h <;> simp

/-- The word after the mark of a reference that may be written through. -/
def mutWord : Word :=
  ⟨false, "mut", by decide, nofun⟩

theorem readsExpr_reference {d : Nat} (h : Head ts) (ht : Trailers (rules d) us) (o₁ o₂ : Nat) :
    ReadsExpr (rules (d + 3)) (.punct '&' false o₁ :: .word mutWord o₂ :: (ts ++ us)) := by
  refine ⟨List.cons_ne_nil _ _, fun {rest} hr => ?_⟩
  have hamp : Reads (punct "&") [.punct '&' false o₁]
      (.word mutWord o₂ :: (ts ++ us) ++ rest) () := by
    intro closing
    rfl
  have hmut : Reads (word? "mut") [.word mutWord o₂] (ts ++ us ++ rest) true := by
    intro closing
    rfl
  have hoperand : Reads (rules (d + 1) (.operand true)) (ts ++ us) rest ExprShape.plain :=
    reads_operand h ht hr
  have hreference : Reads (operandPhrase (rules (d + 1)) true)
      (.punct '&' false o₁ :: .word mutWord o₂ :: (ts ++ us)) rest ExprShape.plain := by
    unfold operandPhrase
    refine (reads_ahead _).look ((reads_outerAttributes rfl).look (reads_tokens.look ?_))
    refine hamp.cons ((reads_ahead _).look ?_)
    exact hmut.cons (hoperand.last reads_pure)
  exact hreference.last (reads_operators hr)

end Grammar
end TaskDriver.Definition
