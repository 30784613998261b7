import TaskDriver.Proofs.Definition.Reading

/-! How the grammar reads a block: calls and bindings, each with a semicolon after it. -/
namespace TaskDriver.Definition.Grammar
open Reader

variable {self : Rules} {w : Word} {t : Token} {ts us rest : List Token} {o o₁ o₂ : Nat} {j : Bool}

/-! ## Bindings -/

theorem reads_equals : Reads (punct? "=") [.punct '=' false o] rest true :=
  fun _ => rfl

theorem reads_semicolon? : Reads (punct? ";") [.punct ';' j o] rest true :=
  fun _ => rfl

/-- The word that starts a binding. -/
def letWord : Word :=
  ⟨false, "let", by decide, nofun⟩

theorem reads_let : Reads (word "let") [.word letWord o] rest () := by
  intro closing
  rfl

/-- The value of a binding, from the equals sign to the semicolon. -/
def bindingValue (self : Rules) : Reader Unit := do
  if ← punct? "=" then
    let e ← self (.expr true)
    if !e.braceEnd then
      if ← word? "else" then plainBlock self
  punct ";"

theorem reads_bindingValue {e : ExprShape}
    (h : Reads (self (.expr true)) ts (.punct ';' j o₂ :: rest) e) :
    Reads (bindingValue self) (.punct '=' false o₁ :: (ts ++ [.punct ';' j o₂])) rest () := by
  unfold bindingValue
  refine reads_equals.cons (h.bind ?_)
  intro closing
  cases e.braceEnd <;> rfl

/-- What a binding gives a value to, with its type if that is written. -/
def bound (self : Rules) : Reader Unit := do
  let _ ← self .pattern
  if ← punct? ":" then let _ ← self (.type true)

theorem binding_eq (self : Rules) :
    binding self = (word "let" >>= fun _ => bound self >>= fun _ => bindingValue self) := by
  simp only [binding, bound, bindingValue, bind_assoc]
  congr
  funext _
  congr
  funext _
  congr
  funext c
  cases c <;> simp

theorem reads_binding {vs : List Token} (hb : Reads (bound self) ts (vs ++ rest) ())
    (hv : Reads (bindingValue self) vs rest ()) :
    Reads (binding self) (.word letWord o :: (ts ++ vs)) rest () := by
  rw [binding_eq]
  exact reads_let.cons (hb.bind hv)

theorem reads_letStatement (h : Reads (binding self) (.word letWord o :: ts) rest ()) :
    Reads (statement self) (.word letWord o :: ts) rest false := by
  have hi : Fails bracedInvocation (.word letWord o :: ts ++ rest) := fun _ => ⟨_, rfl⟩
  unfold statement
  refine (reads_outerAttributes (atPunct_word _)).look (hi.attempt.look (reads_tokens.look ?_))
  exact h.last reads_pure

/-! ## Calls as statements -/

/-- One round of a path of names. -/
def plainStep : Reader Bool := do
  let ts ← tokens
  if atName ts || atWord "super" ts || atWord "self" ts || atWord "Self" ts ||
      atWord "crate" ts then
    let _ ← anyWord
    punct? "::"
  else fail

theorem reads_plainStep_last (hw : w.isName = true) (hr : atPunct "::" rest = false) :
    Reads plainStep [.word w o] rest false := by
  unfold plainStep
  refine reads_tokens.look ?_
  rw [List.singleton_append, atName, hw]
  exact reads_anyWord.last (reads_punct?_none hr)

theorem reads_plainStep_more (hw : w.isName = true) :
    Reads plainStep [.word w o, .punct ':' true o₁, .punct ':' false o₂] rest true := by
  unfold plainStep
  refine reads_tokens.look ?_
  rw [List.cons_append, atName, hw]
  exact reads_anyWord.cons fun _ => rfl

theorem reads_plainPath (hw : w.isName = true) (ht : PathTail ts) (hr : atPunct "::" rest = false) :
    Reads plainPath (.word w o :: ts) rest () := by
  have go : ∀ n, ts.length ≤ n →
      Reads (loop.go plainStep (n + 1)) (.word w o :: ts) rest () := by
    induction ht generalizing w o with
    | nil => exact fun n _ => (reads_plainStep_last hw hr).loop_stop n
    | cons hw' o₁ o₂ o₃ h ih =>
      intro n hn
      simp only [List.length_cons] at hn
      obtain ⟨n, rfl⟩ : ∃ m, n = m + 1 := ⟨n - 1, by omega⟩
      exact (reads_plainStep_more hw).loop_go (ih hw' n (by omega))
  exact (reads_punct?_none (atPunct_word _)).look (Reads.loop (go _ (by simp; omega)))

theorem fails_bang (h : atPunct "!" ts = false) : Fails (punct "!") ts := by
  intro closing
  rw [punct, if_neg (by simp [h])]
  exact ⟨_, rfl⟩

theorem fails_bracedInvocation (hw : w.isName = true) (ht : PathTail ts)
    (hr : EndsPath true rest) : Fails bracedInvocation (.word w o :: ts ++ rest) :=
  (reads_plainPath hw ht hr.noColons).fails (fails_bang hr.noBang).bind

theorem fails_namedInvocation (hw : w.isName = true) (ht : PathTail ts)
    (hr : EndsPath true rest) : Fails (preview namedInvocation) (.word w o :: ts ++ rest) :=
  ((reads_plainPath hw ht hr.noColons).fails (fails_bang hr.noBang).bind).preview

theorem atWord_of_notWord (h : atAnyWord ts = false) (k : String) : atWord k ts = false := by
  cases ts with
  | nil => rfl
  | cons t ts => cases t <;> first | rfl | cases h

theorem atName_of_notWord (h : atAnyWord ts = false) : atName ts = false := by
  cases ts with
  | nil => rfl
  | cons t ts => cases t <;> first | rfl | cases h

/-- A name starts no item unless another word follows it. -/
theorem startsItem_of_isName (hw : w.isName = true) (hn : atAnyWord ts = false) :
    startsItem (.word w o :: ts) = false := by
  have hk : ∀ k ∈ keywords, atWord k (.word w o :: ts) = false :=
    fun k hk => atWord_of_isName hw hk
  have hitem : (["fn", "mod", "type", "struct", "enum", "trait", "impl", "macro"].any
      (atWord · (.word w o :: ts))) = false := by
    rw [List.any_eq_false]
    intro k hm
    rw [hk k ((by decide : ∀ k ∈ _, k ∈ keywords) k hm)]
    exact Bool.false_ne_true
  simp only [startsItem, startsConstItem, hk "pub" (by decide), hk "crate" (by decide),
    hk "extern" (by decide), hk "use" (by decide), hk "static" (by decide), hk "const" (by decide),
    hk "unsafe" (by decide), hk "async" (by decide), hitem, after, atWord_of_notWord hn,
    atName_of_notWord hn, Bool.false_and, Bool.and_false, Bool.or_self]

theorem reads_body {d : Nat} (hw : w.isName = true) (ht : PathTail ts)
    (hu : Trailers (rules d) us) (hr : EndsExpr true rest) :
    Reads (rules (d + 2) .body) (.word w o :: ts ++ us) rest ExprShape.plain := by
  have hk : ∀ k ∈ keywords, atWord k (.word w o :: (ts ++ us ++ rest)) = false :=
    fun k hk => atWord_of_isName hw hk
  have hs : Reads (outerAttributes (rules (d + 1))) [] (.word w o :: (ts ++ us) ++ rest) [] :=
    reads_outerAttributes (atPunct_word _)
  change Reads (bodyPhrase (rules (d + 1))) _ _ _
  unfold bodyPhrase
  refine hs.look (reads_tokens.look ?_)
  simp only [List.cons_append, hk "if" (by decide), hk "while" (by decide), hk "for" (by decide),
    hk "loop" (by decide), hk "match" (by decide), hk "try" (by decide), hk "unsafe" (by decide),
    hk "const" (by decide), atGroup, atLifetime, Bool.false_and, Bool.or_self, Bool.false_eq_true,
    ↓reduceIte]
  exact (reads_operand (.path hw o ht) hu hr).last (reads_operators hr)

theorem Trailers.notWord (h : Trailers self ts) (hr : atAnyWord rest = false) :
    atAnyWord (ts ++ rest) = false := by
  cases h <;> first | exact hr | rfl

theorem PathTail.notWord (h : PathTail ts) (hr : atAnyWord rest = false) :
    atAnyWord (ts ++ rest) = false := by
  cases h <;> first | exact hr | rfl

theorem reads_callStatement {d : Nat} (hw : w.isName = true) (ht : PathTail ts)
    (hu : Trailers (rules d) us) :
    Reads (statement (rules (d + 2))) (.word w o₁ :: ts ++ us ++ [.punct ';' j o₂]) rest false := by
  have hend : EndsExpr true (.punct ';' j o₂ :: rest) := .semicolon j o₂ rest
  have hpath : EndsPath true (us ++ .punct ';' j o₂ :: rest) := hu.endsPath hend
  have hts : .word w o₁ :: ts ++ us ++ [.punct ';' j o₂] ++ rest =
      .word w o₁ :: ts ++ (us ++ .punct ';' j o₂ :: rest) := by simp
  have hb := (fails_bracedInvocation (o := o₁) hw ht hpath).attempt
  have hn := (fails_namedInvocation (o := o₁) hw ht hpath).attempt
  have hl : atWord "let" (.word w o₁ :: ts ++ (us ++ .punct ';' j o₂ :: rest)) = false :=
    atWord_of_isName hw (by decide)
  have hi : startsItem (.word w o₁ :: ts ++ (us ++ .punct ';' j o₂ :: rest)) = false :=
    startsItem_of_isName hw (ht.notWord (hu.notWord rfl))
  unfold statement
  refine (reads_outerAttributes (atPunct_word _)).look ?_
  rw [← hts] at hb hn hl hi
  refine hb.look (reads_tokens.look ?_)
  rw [hl, hi]
  refine hn.look ?_
  refine (reads_body hw ht hu hend).bind ?_
  exact reads_semicolon?.last reads_pure

/-! ## Blocks -/

/-- These tokens are read as a statement that needs no semicolon after it, whatever follows. -/
structure ReadsStatement (g : Rules) (ts : List Token) : Prop where
  ne_nil : ts ≠ []
  starts : ∀ rest, atPunct ";" (ts ++ rest) = false
  reads : ∀ {rest}, Reads (statement g) ts rest false

inductive Block (self : Rules) : List Token → Prop
  | nil : Block self []
  | cons {ts us : List Token} (h : ReadsStatement self ts) (hs : Block self us) :
    Block self (ts ++ us)

/-- One round of a block. -/
def blockStep (self : Rules) : Reader Bool := do
  if ← atEnd then return false
  let pending ← statement self
  if ← atEnd then return false
  if pending then fail
  statementsPhrase.semicolons
  return true

theorem reads_semicolons (h : atPunct ";" ts = false) :
    Reads statementsPhrase.semicolons [] ts () :=
  Reads.loop ((reads_punct?_none h).loop_stop _)

theorem Block.starts (h : Block self ts) : atPunct ";" ts = false := by
  cases h with
  | nil => rfl
  | cons h _ => exact h.starts _

theorem ReadsStatement.step (h : ReadsStatement self ts) (hs : Block self us) (hne : us ≠ []) :
    Reads (blockStep self) ts us true := by
  have ht : (ts ++ us).isEmpty = false := by simp [h.ne_nil]
  have hu : us.isEmpty = false := by simp [hne]
  unfold blockStep
  refine reads_atEnd.look ?_
  rw [ht]
  refine h.reads.last (reads_atEnd.look ?_)
  rw [List.nil_append, hu]
  exact (reads_semicolons hs.starts).look reads_pure

theorem ReadsStatement.step_last (h : ReadsStatement self ts) :
    Reads (blockStep self) ts [] false := by
  have ht : (ts ++ []).isEmpty = false := by simp [h.ne_nil]
  unfold blockStep
  refine reads_atEnd.look ?_
  rw [ht]
  exact h.reads.last (reads_atEnd.look reads_pure)

theorem Block.reads (h : Block self ts) : Reads (statementsPhrase self) ts [] () := by
  have go : ∀ n, ts.length ≤ n → Reads (loop.go (blockStep self) (n + 1)) ts [] () := by
    induction h with
    | nil => exact fun n _ => Reads.loop_stop (fun _ => rfl) n
    | @cons ts us h hs ih =>
      intro n hn
      by_cases hu : us = []
      · rw [hu, List.append_nil]
        exact h.step_last.loop_stop n
      · have ht : 0 < ts.length := List.length_pos_iff.mpr h.ne_nil
        rw [List.length_append] at hn
        obtain ⟨n, rfl⟩ : ∃ m, n = m + 1 := ⟨n - 1, by omega⟩
        have hstep := h.step hs hu
        rw [← List.append_nil us] at hstep
        exact hstep.loop_go (ih n (by omega))
  have hstart : atPunct ";" (ts ++ []) = false := by rw [List.append_nil, h.starts]
  exact (reads_semicolons hstart).look (Reads.loop (go _ (by simp)))

theorem Block.append (h : Block self ts) (hs : Block self us) : Block self (ts ++ us) := by
  induction h with
  | nil => exact hs
  | cons h _ ih =>
    rw [List.append_assoc]
    exact .cons h ih

theorem ReadsStatement.block (h : ReadsStatement self ts) : Block self ts := by
  rw [← List.append_nil ts]
  exact .cons h .nil

/-- Attributes without an exclamation mark belong to what follows them. -/
theorem reads_noInnerAttributes (h : (atPunct "#" ts && atPunct "!" (after ts)) = false) :
    Reads (innerAttributes self) [] ts [] := by
  have hg : Reads (innerAttributes.go self (ts.length + 1)) [] ts [] := by
    unfold innerAttributes.go
    refine (reads_ahead _).look ?_
    rw [List.nil_append, h]
    exact reads_pure
  exact hg

theorem reads_innerAttributes (h : atPunct "#" ts = false) :
    Reads (innerAttributes self) [] ts [] :=
  reads_noInnerAttributes (by rw [h, Bool.false_and])

/-- A block without attributes has no documentation in it. -/
theorem reads_attributedStatements {d : Nat} (h : Block (rules d) ts)
    (hs : atPunct "#" ts = false) : Reads (attributedStatements (rules (d + 1))) ts [] [] := by
  have hb : Reads (rules (d + 1) .statements) ts [] () := h.reads
  exact (reads_innerAttributes (by rw [List.append_nil, hs])).look (hb.last reads_pure)

/-! ## Bindings and calls as statements -/

theorem readsStatement_let (h : ∀ {rest}, Reads (binding self) (.word letWord o :: ts) rest ()) :
    ReadsStatement self (.word letWord o :: ts) :=
  ⟨List.cons_ne_nil _ _, fun _ => atPunct_word _, reads_letStatement h⟩

theorem readsStatement_call {d : Nat} (hw : w.isName = true) (ht : PathTail ts)
    (hu : Trailers (rules d) us) :
    ReadsStatement (rules (d + 2)) (.word w o₁ :: ts ++ us ++ [.punct ';' j o₂]) :=
  ⟨List.cons_ne_nil _ _, fun _ => atPunct_word _, reads_callStatement hw ht hu⟩

/-! ## Series -/

/-- Tokens that a reader reads one part after the other. -/
inductive Series {α : Type} (r : Reader α) : List Token → List α → Prop
  | nil : Series r [] []
  | cons {ts us : List Token} {a : α} {as : List α} (hne : ts ≠ []) (h : Reads r ts us a)
    (hs : Series r us as) : Series r (ts ++ us) (a :: as)

theorem Series.reads {α : Type} {r : Reader α} {as : List α} (h : Series r ts as) :
    Reads (all r) ts [] as := by
  have go : ∀ n, ts.length ≤ n → Reads (all.go r (n + 1)) ts [] as := by
    induction h with
    | nil => exact fun n _ _ => rfl
    | @cons ts us a as hne h hs ih =>
      intro n hn closing
      have ht : 0 < ts.length := List.length_pos_iff.mpr hne
      have he : (ts ++ us ++ []).isEmpty = false := by simp [hne]
      rw [List.length_append] at hn
      obtain ⟨n, rfl⟩ : ∃ m, n = m + 1 := ⟨n - 1, by omega⟩
      have hi := ih n (by omega) closing
      rw [List.append_nil] at hi he ⊢
      rw [all.go, he, if_neg Bool.false_ne_true, h closing]
      dsimp only
      rw [hi]
  intro closing
  have hn : ts.length ≤ (ts ++ []).length := by simp
  exact go _ hn closing

/-! ## Matches -/

def matchWord : Word :=
  ⟨false, "match", by decide, nofun⟩

/-- A block that is the last body of its kind. -/
theorem reads_blockBody {d : Nat} {inner : List Token} (h : Block (rules d) inner)
    (hs : atPunct "#" inner = false) :
    Reads (rules (d + 2) .body) [.group .brace inner o₁ o₂] [] blockShape := by
  have hb : Reads (attributedBlock (rules (d + 1))) [.group .brace inner o₁ o₂] [] () :=
    (reads_group (reads_attributedStatements h hs)).last reads_pure
  have ho : Reads (bodyPhrase.blockOperand (rules (d + 1)) [.group .brace inner o₁ o₂])
      [.group .brace inner o₁ o₂] [] blockShape :=
    hb.last reads_pure
  change Reads (bodyPhrase (rules (d + 1))) _ _ _
  unfold bodyPhrase
  refine (reads_outerAttributes rfl).look (reads_tokens.look ?_)
  exact ho.last ((reads_ahead _).look reads_pure)

theorem reads_arrow :
    Reads (punct "=>") [.punct '=' true o₁, .punct '>' false o₂] rest () :=
  fun _ => rfl

/-- The last arm of a match, when a block is its body. -/
theorem reads_lastArm {p : PatternShape}
    (hp : Reads (fullPattern self) (.word w o :: ts)
      (.punct '=' true o₁ :: .punct '>' false o₂ :: us) p)
    (hb : Reads (self .body) us [] blockShape) :
    Reads (arm self) (.word w o :: ts ++ .punct '=' true o₁ :: .punct '>' false o₂ :: us) []
      () := by
  have hi : Reads (word? "if") [] (.punct '=' true o₁ :: .punct '>' false o₂ :: us ++ []) false :=
    reads_word?_none rfl
  have ha : Reads (punct "=>") [.punct '=' true o₁, .punct '>' false o₂] (us ++ []) () :=
    reads_arrow
  rw [← List.append_nil us] at hp
  unfold arm
  refine (reads_outerAttributes (atPunct_word _)).look (hp.bind (hi.look ?_))
  exact ha.bind (hb.last fun _ => rfl)

/-- A match is read when its value and its arms are. -/
theorem reads_match {d : Nat} {cs inner : List Token} {e : ExprShape} {as : List Unit}
    (hc : Reads (rules d (.expr false)) cs (.group .brace inner o₁ o₂ :: rest) e)
    (ha : Series (arm (rules d)) inner as) (hs : atPunct "#" inner = false)
    (hr : EndsExpr true rest) :
    Reads (rules (d + 2) (.expr true))
      (.word matchWord o :: (cs ++ [.group .brace inner o₁ o₂])) rest blockShape := by
  have hi : Reads (do
      let _ ← innerAttributes (rules d)
      let _ ← all (arm (rules d))) inner [] () :=
    (reads_innerAttributes (by rw [List.append_nil, hs])).look (ha.reads.last reads_pure)
  have hm : Reads (matchExpression (rules d))
      (.word matchWord o :: (cs ++ [.group .brace inner o₁ o₂])) rest () := by
    have hw : Reads (word "match") [.word matchWord o]
        (cs ++ [.group .brace inner o₁ o₂] ++ rest) () := by
      intro closing
      rfl
    refine hw.cons ?_
    exact Reads.bind (hc.last reads_pure) (reads_group hi)
  have hatom : Reads (atom (rules d) true)
      (.word matchWord o :: (cs ++ [.group .brace inner o₁ o₂])) rest blockShape := by
    have hshape := hm.last (f := fun _ => pure blockShape) reads_pure
    exact fun closing => hshape closing
  have htrailers : Reads (trailers (rules d) blockShape) [] rest blockShape :=
    fun closing => reads_trailers_go_nil hr blockShape rest.length closing
  have hoperand : Reads (operandPhrase (rules d) true)
      (.word matchWord o :: (cs ++ [.group .brace inner o₁ o₂])) rest blockShape := by
    unfold operandPhrase
    refine (reads_ahead _).look ?_
    refine (reads_outerAttributes (atPunct_word _)).look (reads_tokens.look ?_)
    simp only [List.cons_append, atPunct_word, Bool.or_self, Bool.false_eq_true, ↓reduceIte]
    exact hatom.last (htrailers.last reads_pure)
  have hoperators : Reads (operatorsPhrase (rules d) blockShape true 0) [] rest blockShape := by
    cases hr <;> exact fun _ => rfl
  exact hoperand.last hoperators

end TaskDriver.Definition.Grammar
