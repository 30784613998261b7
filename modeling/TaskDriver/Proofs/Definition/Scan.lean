import TaskDriver.Proofs.Definition.Literal

/-! What the scanner does at each part of a text: blanks and comments are stepped over, and a word,
mark, literal or bracket is read as itself when what follows it does not run into it. -/
namespace TaskDriver.Definition
open Text (isIdentStart isIdentContinue)

/-- The scanner at a text that starts with a token, or is empty. -/
def scanHere (s : List Char) (o : Nat) (frames : List Frame) (done : List Token) :
    Except Place (List Token) :=
  match s with
  | [] =>
    match frames with
    | [] => .ok done.reverse
    | f :: _ => .error (.char f.opening)
  | c :: r =>
    match docComment? (c :: r) with
    | some d => scanTokens (r.drop (d.length - 1)) (o + d.length) frames (d.tokens o ++ done)
    | none =>
      match opens? c r with
      | some d => scanTokens r (o + 1) (⟨d, o, done⟩ :: frames) []
      | none =>
        match closes? c with
        | some d =>
          match frames with
          | [] => .error (.char o)
          | f :: frames =>
            if f.delimiter = d then
              scanTokens r (o + 1) frames (.group d done.reverse f.opening o :: f.before)
            else .error (.char o)
        | none =>
          match scanLeaf (c :: r) o with
          | some (t, n) => scanTokens (r.drop (n - 1)) (o + n) frames (t :: done)
          | none => .error (.char o)

variable {c : Char} {s r : List Char} {o : Nat} {frames : List Frame} {done : List Token}

theorem scanTokens_eq (s : List Char) (o : Nat) (frames : List Frame) (done : List Token) :
    scanTokens s o frames done = scanHere (s.drop (gapLength s)) (o + gapLength s) frames done := by
  rw [scanTokens.eq_def]
  dsimp only
  split <;> next h => rw [h]; rfl

/-! ## Space and comments -/

theorem gapLength_space (h : isSpace c = true) (r : List Char) :
    gapLength (c :: r) = gapLength r + 1 := by
  have hc : c ≠ '/' := by
    rintro rfl
    exact absurd h (by decide)
  rw [gapLength.eq_def]
  simp [h, hc]

theorem scanTokens_spaces (hs : ∀ c ∈ s, isSpace c = true) :
    scanTokens (s ++ r) o frames done = scanTokens r (o + s.length) frames done := by
  induction s generalizing o with
  | nil => rfl
  | cons c s ih =>
    have hg := gapLength_space (hs c (.head _)) (s ++ r)
    have ih := ih (o := o + 1) fun d hd => hs d (.tail _ hd)
    rw [List.cons_append, scanTokens_eq, hg, List.drop_succ_cons, Nat.add_comm (gapLength _),
      ← Nat.add_assoc, ← scanTokens_eq, ih, List.length_cons, Nat.add_assoc, Nat.add_comm 1]

theorem lineText_length (hs : '\n' ∉ s) (r : List Char) :
    (lineText (s ++ '\n' :: r)).2 = s.length := by
  induction s with
  | nil => simp [lineText]
  | cons c s ih =>
    have hc : c ≠ '\n' := fun h => hs (h ▸ .head _)
    have ih := ih fun h => hs (.tail _ h)
    cases s with
    | nil =>
      by_cases hr : c = '\r'
      · simp [lineText, hr]
      · rw [List.singleton_append, lineText]
        · simp [lineText]
        all_goals simp [hc, hr]
    | cons d s =>
      have hd : d ≠ '\n' := fun h => hs (h ▸ .tail _ (.head _))
      rw [List.cons_append, lineText]
      · exact congrArg (· + 1) ih
      all_goals simp [hc, hd]

theorem gapLength_comment (h : isDocStart ('/' :: '/' :: r) = false) :
    gapLength ('/' :: '/' :: r) = (lineText r).2 + 2 + gapLength (r.drop (lineText r).2) := by
  rw [gapLength.eq_def]
  simp [h]

/-- A comment up to the end of its line is stepped over, whatever its text is. -/
theorem scanTokens_comment (hs : '\n' ∉ s)
    (hd : isDocStart ('/' :: '/' :: (s ++ '\n' :: r)) = false) :
    scanTokens ('/' :: '/' :: (s ++ '\n' :: r)) o frames done =
      scanTokens r (o + (s.length + 3)) frames done := by
  have hn : (s ++ '\n' :: r).drop s.length = '\n' :: r := List.drop_left
  have hg : gapLength ('/' :: '/' :: (s ++ '\n' :: r)) = s.length + (gapLength r + 1) + 2 := by
    rw [gapLength_comment hd, lineText_length hs, hn, gapLength_space (c := '\n') (by decide)]
    omega
  rw [scanTokens_eq, hg, List.drop_succ_cons, List.drop_succ_cons, ← List.drop_drop, hn,
    List.drop_succ_cons, scanTokens_eq r]
  congr 1
  omega

/-! ## Tokens -/

theorem gapLength_token (h : isSpace c = false) (hc : c ≠ '/') : gapLength (c :: r) = 0 := by
  rw [gapLength.eq_def]
  simp [h, hc]

theorem docComment?_token (hc : c ≠ '/') : docComment? (c :: r) = none := by
  have hd : isDocStart (c :: r) = false := by
    unfold isDocStart
    split <;> simp_all
  rw [docComment?, hd]
  rfl

theorem scanTokens_token (h : isSpace c = false) (hc : c ≠ '/') :
    scanTokens (c :: r) o frames done = scanHere (c :: r) o frames done := by
  rw [scanTokens_eq, gapLength_token h hc, List.drop_zero, Nat.add_zero]

/-- Whether a character can start a token that is neither a bracket nor a slash. -/
def opensLeaf (c : Char) : Bool :=
  !isSpace c && c ∉ "/()[]\x7b\x7d".toList

/-- A token other than a bracket is read where the leaf scanner finds it. -/
theorem scanTokens_leaf {t : Token} (hs : s.head?.any opensLeaf = true)
    (ht : scanLeaf (s ++ r) o = some (t, s.length)) :
    scanTokens (s ++ r) o frames done = scanTokens r (o + s.length) frames (t :: done) := by
  cases s with
  | nil => exact absurd hs (by simp)
  | cons c s =>
    obtain ⟨hs, h₁, h₂, h₃, h₄, h₅, h₆, h₇⟩ : isSpace c = false ∧ c ≠ '/' ∧ c ≠ '(' ∧ c ≠ ')' ∧
        c ≠ '[' ∧ c ≠ ']' ∧ c ≠ '\x7b' ∧ c ≠ '\x7d' := by
      simpa [opensLeaf] using hs
    have ho : opens? c (s ++ r) = none := by simp [opens?, h₂, h₄, h₆]
    have hc : closes? c = none := by simp [closes?, h₃, h₅, h₇]
    rw [List.cons_append] at ht ⊢
    rw [scanTokens_token hs h₁, scanHere, docComment?_token h₁, ho, hc, ht]
    simp

def Delimiter.opening : Delimiter → Char
  | .paren => '('
  | .bracket => '['
  | .brace => '\x7b'

def Delimiter.closing : Delimiter → Char
  | .paren => ')'
  | .bracket => ']'
  | .brace => '\x7d'

theorem opens?_opening (d : Delimiter) (hr : d = .paren → r.head? ≠ some '/') :
    opens? d.opening r = some d := by
  cases d with
  | paren =>
    have hf : ('(' :: r).take faultMark.length ≠ faultMark := by
      intro h
      cases r with
      | nil => exact absurd h (by decide)
      | cons c r => exact hr rfl (by rw [(List.cons.inj (List.cons.inj h).2).1]; rfl)
    simp [opens?, Delimiter.opening, hf]
  | bracket => rfl
  | brace => rfl

theorem scanTokens_opening (d : Delimiter) (hr : d = .paren → r.head? ≠ some '/') :
    scanTokens (d.opening :: r) o frames done =
      scanTokens r (o + 1) (⟨d, o, done⟩ :: frames) [] := by
  have hs : isSpace d.opening = false ∧ d.opening ≠ '/' := by cases d <;> decide
  rw [scanTokens_token hs.1 hs.2, scanHere, docComment?_token hs.2, opens?_opening d hr]

theorem scanTokens_closing (d : Delimiter) (opening : Nat) (before : List Token) :
    scanTokens (d.closing :: r) o (⟨d, opening, before⟩ :: frames) done =
      scanTokens r (o + 1) frames (.group d done.reverse opening o :: before) := by
  have hs : isSpace d.closing = false ∧ d.closing ≠ '/' := by cases d <;> decide
  have ho : opens? d.closing r = none := by cases d <;> rfl
  have hc : closes? d.closing = some d := by cases d <;> rfl
  rw [scanTokens_token hs.1 hs.2, scanHere, docComment?_token hs.2, ho, hc]
  exact if_pos rfl

/-! ## Leaves -/

theorem scanLeaf_literal {t : List Char} (h : literalLength (t ++ r) = some t.length) :
    scanLeaf (t ++ r) o = some (.literal (.spelled t) o, t.length) := by
  rw [scanLeaf.eq_def, h]
  simp

theorem scanTokens_quoted (t : List Char) (hr : EndsWord r) :
    scanTokens (Text.quoteChars t ++ r) o frames done =
      scanTokens r (o + (Text.quoteChars t).length) frames
        (.literal (.spelled (Text.quoteChars t)) o :: done) :=
  scanTokens_leaf (s := Text.quoteChars t) rfl (scanLeaf_literal (literalLength_quoteChars t hr))

theorem opensLeaf_of_isIdentContinue (h : isIdentContinue c = true) : opensLeaf c = true := by
  have hs : isSpace c = false := by
    rw [Bool.eq_false_iff]
    exact fun hs => absurd h (by simp [isIdentContinue_of_isSpace hs])
  have hc : c ∉ "/()[]\x7b\x7d".toList := by
    intro hm
    have all : "/()[]\x7b\x7d".toList.all (· ∈ separators) = true := by decide
    have hi := isIdentContinue_of_mem (of_decide_eq_true (List.all_eq_true.mp all c hm))
    exact absurd h (by simp [hi])
  simp only [opensLeaf, hs, hc]
  rfl

theorem scanTokens_number (n : Nat) (hr : EndsNumber r) :
    scanTokens ((toString n).toList ++ r) o frames done =
      scanTokens r (o + (toString n).toList.length) frames
        (.literal (.spelled (toString n).toList) o :: done) := by
  refine scanTokens_leaf ?_ (scanLeaf_literal (literalLength_toString n hr))
  obtain ⟨c, t, ht⟩ := List.exists_cons_of_ne_nil (toList_toString_ne_nil n)
  have hc : c.isDigit = true := isDigit_of_mem_toString (n := n) (by rw [ht]; exact .head _)
  rw [ht]
  exact opensLeaf_of_isIdentContinue (isIdentContinue_of_isDigit hc)

/-! ## Marks -/

theorem integerLength_none (h : c.isDigit = false) (r : List Char) :
    integerLength (c :: r) = none := by
  have h0 : c ≠ '0' := by
    rintro rfl
    exact absurd h (by decide)
  have hd : digitsLength 10 true (c :: r) = none := by
    rw [digitsLength, if_neg (by simp [h])]
    split
    · next hx => rw [if_pos (le_hexValue h hx)]; rfl
    · split <;> rfl
  rw [integerLength]
  · exact (congrArg (Option.bind · _) hd)
  all_goals simp [h0]

theorem fractionLength_none (h : c.isDigit = false) (r : List Char) :
    fractionLength (c :: r) = none := by
  rw [fractionLength, if_neg (by simp [h])]

theorem scanTokens_mark (hc : c ∈ punctMarks) (h : c ∉ ['/', '\x27']) :
    scanTokens (c :: r) o frames done =
      scanTokens r (o + 1) frames (.punct c (isMark r) o :: done) := by
  have all : punctMarks.all (fun c => c ∈ ['/', '\x27'] ∨ opensLeaf c = true ∧ c.isDigit = false ∧
      c ∉ ['\x22', 'r', 'b', 'c']) = true := by decide
  obtain ⟨hl, hd, hq⟩ := (of_decide_eq_true (List.all_eq_true.mp all c hc)).resolve_left h
  simp only [List.mem_cons, List.not_mem_nil, or_false, not_or] at h hq
  have hn : literalLength (c :: r) = none := by
    rw [literalLength.eq_def]
    simp [h, hq, fractionLength_none hd, integerLength_none hd]
  have hm : isMark (c :: r) = true := by
    rw [isMark.eq_def]
    simp [h, hc]
  have ht : scanLeaf ([c] ++ r) o = some (.punct c (isMark r) o, [c].length) := by
    rw [scanLeaf.eq_def, List.singleton_append, hn, hm]
    simp [h]
  exact scanTokens_leaf (s := [c]) hl ht

/-! ## Words -/

/-- A text before which no letter is the start of a quoted literal. -/
def NoQuote (r : List Char) : Prop :=
  ∀ c ∈ r.head?, c ∉ ['#', '\x22', '\x27']

theorem rawLength_none (k : QuotedKind) (h : NoQuote r) : rawLength k r = none := by
  have hs : (r.takeWhile (· == '#')).length = 0 := by
    cases r with
    | nil => rfl
    | cons c r =>
      have hc : c ≠ '#' := fun e => h c rfl (e ▸ .head _)
      simp [hc]
  rw [rawLength, hs]
  cases r with
  | nil => rfl
  | cons c r =>
    have hc : c ≠ '\x22' := fun e => h c rfl (e ▸ .tail _ (.head _))
    simp [hc]

theorem quotedLiteral_none {opening : Nat} {body : List Char → Option Nat}
    (h : body (s.drop opening) = none) : quotedLiteral s opening body = none := by
  rw [quotedLiteral, h, Option.map_none]

variable {w : List Char}

theorem NoQuote.append (hw : ∀ d ∈ w, isIdentContinue d = true) (hq : NoQuote r) :
    NoQuote (w ++ r) := by
  cases w with
  | nil => exact hq
  | cons d w =>
    have all : ['#', '\x22', '\x27'].all (· ∈ separators) = true := by decide
    rintro c ⟨⟩ hm
    have hs := isIdentContinue_of_mem (of_decide_eq_true (List.all_eq_true.mp all d hm))
    exact absurd (hw d (.head _)) (by simp [hs])

/-- No letter of a word is the start of a quoted literal. -/
theorem noQuote_second (hw : IsWord w) (hq : NoQuote r) {t : List Char} (h : w ++ r = c :: t) :
    NoQuote t := by
  obtain ⟨d, u, rfl, -, hu⟩ := hw.cases
  obtain ⟨-, rfl⟩ := List.cons.inj h
  exact hq.append hu

theorem noQuote_third (hw : IsWord w) (hr : EndsWord r) (hq : NoQuote r) {d : Char}
    {t : List Char} (h : w ++ r = c :: d :: t) (hd : isIdentContinue d = true) : NoQuote t := by
  obtain ⟨e, u, rfl, -, hu⟩ := hw.cases
  have ht := (List.cons.inj h).2
  cases u with
  | nil => exact absurd rfl ((show EndsWord (d :: t) from ht ▸ hr).ne hd)
  | cons f u =>
    obtain ⟨-, rfl⟩ := List.cons.inj ht
    exact hq.append fun g hg => hu g (.tail _ hg)

theorem second_ne (hw : IsWord w) (hq : NoQuote r) {d : Char} {t : List Char}
    (h : w ++ r = c :: d :: t) : d ∉ ['#', '\x22', '\x27'] :=
  noQuote_second hw hq h d rfl

theorem first_of_word (hw : IsWord w) {t : List Char} (h : w ++ r = c :: t) :
    isIdentStart c = true := by
  obtain ⟨d, u, rfl, hd, -⟩ := hw.cases
  rw [List.cons_append] at h
  exact (List.cons.inj h).1 ▸ hd

theorem literalLength_word (hw : IsWord w) (hr : EndsWord r) (hq : NoQuote r) :
    literalLength (w ++ r) = none := by
  obtain ⟨c, u, hcu⟩ : ∃ c u, w ++ r = c :: u := by
    obtain ⟨c, u, rfl, -, -⟩ := hw.cases
    exact ⟨c, u ++ r, rfl⟩
  have hd : c.isDigit = false := by
    rw [Bool.eq_false_iff]
    exact fun hd => absurd (first_of_word hw hcu) (by simp [not_isIdentStart_of_isDigit hd])
  have raw₁ : ∀ {d t}, w ++ r = d :: t → quotedLiteral (w ++ r) 1 (rawLength .text) = none :=
    fun h => quotedLiteral_none (by rw [h]; exact rawLength_none _ (noQuote_second hw hq h))
  have raw₂ : ∀ {d t} (k : QuotedKind), w ++ r = d :: 'r' :: t →
      quotedLiteral (w ++ r) 2 (rawLength k) = none := fun k h =>
    quotedLiteral_none (by rw [h]; exact rawLength_none _ (noQuote_third hw hr hq h (by decide)))
  have hn : (fractionLength (w ++ r)).or (integerLength (w ++ r)) = none := by
    rw [hcu, fractionLength_none hd, integerLength_none hd, Option.or_none]
  rw [literalLength.eq_def, hn]
  dsimp only
  split <;> rw [Option.or_none]
  · next h => exact absurd (first_of_word hw h) (by decide)
  · next h => exact raw₁ h
  · next h => exact absurd (second_ne hw hq h) (by decide)
  · next h => exact raw₂ _ h
  · next h => exact absurd (second_ne hw hq h) (by decide)
  · next h => exact absurd (second_ne hw hq h) (by decide)
  · next h => exact raw₂ _ h
  · next h => exact absurd (first_of_word hw h) (by decide)

theorem opensQuoted_word (hw : IsWord w) (hr : EndsWord r) (hq : NoQuote r) :
    opensQuoted (w ++ r) = false := by
  have third_ne : ∀ {d t}, w ++ r = d :: 'r' :: t → t.head? ≠ some '\x22' ∧ t.head? ≠ some '#' := by
    intro d t h
    have ht := noQuote_third hw hr hq h (by decide)
    exact ⟨fun e => ht _ e (by decide), fun e => ht _ e (by decide)⟩
  unfold opensQuoted
  split
  · next h => exact absurd (second_ne hw hq h) (by decide)
  · next h => exact absurd (second_ne hw hq h) (by decide)
  · next h => exact absurd (second_ne hw hq h) (by decide)
  · next h => exact absurd (second_ne hw hq h) (by decide)
  · next h => exact absurd (second_ne hw hq h) (by decide)
  · next h => exact absurd rfl (third_ne h).1
  · next h => exact absurd rfl (third_ne h).2
  · next h => exact absurd (second_ne hw hq h) (by decide)
  · next h => exact absurd rfl (third_ne h).1
  · next h => exact absurd rfl (third_ne h).2
  · rfl

theorem atStart_word (w : Word) (hr : EndsWord r) :
    Word.atStart w.raw (w.name.toList ++ r) = some (w, w.name.toList.length) := by
  have hl := w.isWord.wordLength_append hr
  have hne : w.name.toList.length ≠ 0 := fun h => w.isWord.1 (List.eq_nil_of_length_eq_zero h)
  have hn : String.ofList ((w.name.toList ++ r).take w.name.toList.length) = w.name := by
    rw [List.take_left, String.ofList_toList]
  rw [Word.atStart]
  simpa [hl, hne] using w.allowed

theorem scanLeaf_word (w : Word) (hw : w.raw = false) (hr : EndsWord r) (hq : NoQuote r) :
    scanLeaf (w.name.toList ++ r) o = some (.word w o, w.name.toList.length) := by
  have hs : scanWord (w.name.toList ++ r) = some (w, w.name.toList.length) := by
    rw [scanWord, ← hw, atStart_word w hr]
    exact fun t h => absurd (second_ne w.isWord hq h) (by decide)
  have hm : isMark (w.name.toList ++ r) = false := by
    unfold isMark
    split
    · rfl
    · rfl
    · next h =>
      rw [decide_eq_false_iff_not]
      intro hc
      have hi := isIdentContinue_of_isIdentStart (first_of_word w.isWord h)
      exact absurd hi (by simp [isIdentContinue_of_mem (List.mem_append_left _ hc)])
    · rfl
  rw [scanLeaf.eq_def, literalLength_word w.isWord hr hq, hm, opensQuoted_word w.isWord hr hq, hs]
  simp

theorem scanTokens_word (w : Word) (hw : w.raw = false) (hr : EndsWord r) (hq : NoQuote r) :
    scanTokens (w.name.toList ++ r) o frames done =
      scanTokens r (o + w.name.toList.length) frames (.word w o :: done) := by
  refine scanTokens_leaf ?_ (scanLeaf_word w hw hr hq)
  obtain ⟨c, t, ht, hc, -⟩ := w.isWord.cases
  rw [ht]
  exact opensLeaf_of_isIdentContinue (isIdentContinue_of_isIdentStart hc)

end TaskDriver.Definition
