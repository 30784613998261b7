import TaskDriver.Proofs.Definition.Scan

/-! A program laid out in pieces, which are its tokens and what stands between them. When every
piece fits before the next one, the scanner gives back the tokens that were laid out. -/
namespace TaskDriver.Definition
open Text (isIdentContinue)

/-- A comment goes up to the end of its line, which is part of it. -/
inductive Piece
  | space (s : List Char)
  | comment (s : List Char)
  | word (name : String)
  | mark (c : Char) (joint : Bool)
  | text (s : List Char)
  | number (n : Nat)
  | group (d : Delimiter) (inner : List Piece)

mutual
def Piece.spell : Piece → List Char
  | .space s => s
  | .comment s => '/' :: '/' :: (s ++ ['\n'])
  | .word s => s.toList
  | .mark c _ => [c]
  | .text s => Text.quoteChars s
  | .number n => (toString n).toList
  | .group d inner => d.opening :: (spell inner ++ [d.closing])

def spell : List Piece → List Char
  | [] => []
  | p :: ps => p.spell ++ spell ps
end

mutual
/-- A piece without what is no token. -/
def Piece.solid : Piece → List Piece
  | .space _ => []
  | .comment _ => []
  | .group d inner => [.group d (solid inner)]
  | p => [p]

/-- The pieces that are tokens. -/
def solid : List Piece → List Piece
  | [] => []
  | p :: ps => p.solid ++ solid ps
end

/-- The piece that a literal was spelled from. -/
def Literal.piece? : Literal → Option Piece
  | .comment _ => none
  | .spelled s =>
    match (Literal.spelled s).string? with
    | some t => some (.text t)
    | none =>
      match readInteger s with
      | some (n, []) => some (.number n)
      | _ => none

mutual
/-- What a token reads as, if it is no raw word and no literal but a text or a number. -/
def Token.piece? : Token → Option Piece
  | .word w _ => if w.raw then none else some (.word w.name)
  | .punct c joint _ => some (.mark c joint)
  | .literal v _ => v.piece?
  | .group d inner _ _ => (pieces? inner).map (.group d)

def pieces? : List Token → Option (List Piece)
  | [] => some []
  | t :: ts => t.piece?.bind fun p => (pieces? ts).map (p :: ·)
end

/-- The character after a piece: the first one of the pieces that follow, or of the text after
them. -/
def nextOf (ps : List Piece) (next : Option Char) : Option Char :=
  (spell ps).head?.or next

/-- A character before which a word or a literal ends. -/
def isClear (c : Char) : Bool :=
  !isIdentContinue c && c ∉ ['#', '\x22', '\x27']

mutual
/-- Whether a piece reads as itself before the character `next`. -/
def Piece.fits (next : Option Char) : Piece → Bool
  | .space s => s.all isSpace
  | .comment s => s.head? == some ' ' && '\n' ∉ s
  | .word s => decide (IsWord s.toList) && next.all isClear
  | .mark c joint =>
    c ∈ punctMarks && c ∉ ['/', '\x27'] && next != some '/' && joint == next.any (· ∈ punctMarks)
  | .text _ => next.all isClear
  | .number _ => next.all isClear && next != some '.'
  | .group d inner =>
    nextOf inner (some d.closing) != some '/' && fits (some d.closing) inner

/-- Whether every piece reads as itself before the one that follows it, and the last one before the
character `next`. -/
def fits (next : Option Char) : List Piece → Bool
  | [] => true
  | p :: ps => p.fits (nextOf ps next) && fits next ps
end

mutual
/-- The tokens of a piece that stands after `o` characters. -/
def Piece.tokens (o : Nat) : Piece → List Token
  | .space _ => []
  | .comment _ => []
  | .word s => if h : IsWord s.toList then [.word ⟨false, s, h, nofun⟩ o] else []
  | .mark c joint => [.punct c joint o]
  | .text s => [.literal (.spelled (Text.quoteChars s)) o]
  | .number n => [.literal (.spelled (toString n).toList) o]
  | .group d inner => [.group d (tokensAt (o + 1) inner) o (o + 1 + (spell inner).length)]

def tokensAt (o : Nat) : List Piece → List Token
  | [] => []
  | p :: ps => p.tokens o ++ tokensAt (o + p.spell.length) ps
end

variable {ps qs : List Piece} {r : List Char} {next : Option Char}

/-! ## Pieces put together -/

@[simp] theorem spell_append (ps qs : List Piece) : spell (ps ++ qs) = spell ps ++ spell qs := by
  induction ps with
  | nil => rfl
  | cons p ps ih => rw [List.cons_append, spell, ih, spell, List.append_assoc]

theorem solid_append (ps qs : List Piece) : solid (ps ++ qs) = solid ps ++ solid qs := by
  induction ps with
  | nil => rfl
  | cons p ps ih => rw [List.cons_append, solid, ih, solid, List.append_assoc]

theorem tokensAt_append (o : Nat) (ps qs : List Piece) :
    tokensAt o (ps ++ qs) = tokensAt o ps ++ tokensAt (o + (spell ps).length) qs := by
  induction ps generalizing o with
  | nil => rfl
  | cons p ps ih =>
    rw [List.cons_append, tokensAt, ih, tokensAt, List.append_assoc, spell, List.length_append,
      Nat.add_assoc]

theorem pieces?_singleton (t : Token) : pieces? [t] = t.piece?.map ([·]) := by
  rw [pieces?, pieces?]
  cases t.piece? <;> rfl

theorem pieces?_append (ts us : List Token) :
    pieces? (ts ++ us) = (pieces? ts).bind fun ps => (pieces? us).map (ps ++ ·) := by
  induction ts with
  | nil => simp [pieces?]
  | cons t ts ih =>
    rw [List.cons_append, pieces?, ih, pieces?]
    cases t.piece? <;> cases pieces? ts <;> cases pieces? us <;> rfl

theorem nextOf_append (ps qs : List Piece) (next : Option Char) :
    nextOf (ps ++ qs) next = nextOf ps (nextOf qs next) := by
  rw [nextOf, spell_append, List.head?_append, Option.or_assoc]
  rfl

theorem fits_append (next : Option Char) (ps qs : List Piece) :
    fits next (ps ++ qs) = (fits (nextOf qs next) ps && fits next qs) := by
  induction ps with
  | nil => rfl
  | cons p ps ih => rw [List.cons_append, fits, ih, nextOf_append, fits, Bool.and_assoc]

theorem head?_spell_append (ps : List Piece) (r : List Char) :
    (spell ps ++ r).head? = nextOf ps r.head? := by
  rw [nextOf, List.head?_append]

/-! ## What may follow -/

theorem endsWord_of_clear (h : r.head?.all isClear = true) : EndsWord r := by
  intro c hc
  rw [hc] at h
  simp only [Option.all_some, isClear, Bool.and_eq_true, Bool.not_eq_true'] at h
  exact h.1

theorem noQuote_of_clear (h : r.head?.all isClear = true) : NoQuote r := by
  intro c hc
  rw [hc] at h
  simp only [Option.all_some, isClear, Bool.and_eq_true, decide_eq_true_eq] at h
  exact h.2

theorem isMark_eq (h : r.head? ≠ some '/') : isMark r = r.head?.any (· ∈ punctMarks) := by
  cases r with
  | nil => rfl
  | cons c r =>
    have hc : c ≠ '/' := fun e => h (e ▸ rfl)
    rw [isMark.eq_def]
    simp [hc]

theorem isDocStart_of_space {s : List Char} (h : (s.head? == some ' ') = true) (r : List Char) :
    isDocStart ('/' :: '/' :: (s ++ '\n' :: r)) = false := by
  cases s with
  | nil => exact absurd h (by decide)
  | cons c s =>
    obtain rfl : c = ' ' := by simpa using h
    rfl

/-! ## Programs read as they are laid out -/

mutual
theorem Piece.scanTokens_spell (p : Piece) {r : List Char} {o : Nat} {frames : List Frame}
    {done : List Token} (h : p.fits r.head? = true) :
    scanTokens (p.spell ++ r) o frames done =
      scanTokens r (o + p.spell.length) frames ((p.tokens o).reverse ++ done) := by
  cases p with
  | space s =>
    exact scanTokens_spaces (List.all_eq_true.mp h)
  | comment s =>
    simp only [Piece.fits, Bool.and_eq_true, decide_eq_true_eq] at h
    have hd := isDocStart_of_space h.1 r
    simp only [Piece.spell, List.cons_append, List.append_assoc, List.nil_append]
    rw [scanTokens_comment h.2 hd]
    simp [Piece.tokens]
  | word s =>
    simp only [Piece.fits, Bool.and_eq_true, decide_eq_true_eq] at h
    rw [Piece.spell, Piece.tokens, dif_pos h.1]
    exact scanTokens_word ⟨false, s, h.1, nofun⟩ rfl (endsWord_of_clear h.2) (noQuote_of_clear h.2)
  | mark c joint =>
    simp only [Piece.fits, Bool.and_eq_true, decide_eq_true_eq, bne_iff_ne, beq_iff_eq] at h
    obtain ⟨⟨⟨hc, hn⟩, hs⟩, hj⟩ := h
    rw [Piece.spell, Piece.tokens, hj, ← isMark_eq hs]
    exact scanTokens_mark hc hn
  | text s =>
    exact scanTokens_quoted s (endsWord_of_clear h)
  | number n =>
    simp only [Piece.fits, Bool.and_eq_true, bne_iff_ne] at h
    exact scanTokens_number n ⟨endsWord_of_clear h.1, h.2⟩
  | group d inner =>
    simp only [Piece.fits, Bool.and_eq_true, bne_iff_ne] at h
    have hin : scanTokens (spell inner ++ d.closing :: r) (o + 1) (⟨d, o, done⟩ :: frames) [] = _ :=
      scanTokens_spell inner h.2
    have ho : d = .paren → (spell inner ++ d.closing :: r).head? ≠ some '/' := by
      intro _
      rw [head?_spell_append]
      exact h.1
    simp only [Piece.spell, List.cons_append, List.append_assoc, List.nil_append]
    rw [scanTokens_opening d ho, hin, scanTokens_closing, Piece.tokens, List.append_nil,
      List.reverse_reverse, List.reverse_singleton, List.singleton_append]
    congr 1
    simp only [List.length_cons, List.length_append, List.length_nil]
    omega

theorem scanTokens_spell (ps : List Piece) {r : List Char} {o : Nat} {frames : List Frame}
    {done : List Token} (h : fits r.head? ps = true) :
    scanTokens (spell ps ++ r) o frames done =
      scanTokens r (o + (spell ps).length) frames ((tokensAt o ps).reverse ++ done) := by
  cases ps with
  | nil => rfl
  | cons p ps =>
    rw [fits, Bool.and_eq_true, ← head?_spell_append] at h
    rw [spell, List.append_assoc, p.scanTokens_spell h.1, scanTokens_spell ps h.2, tokensAt,
      List.length_append, List.reverse_append, List.append_assoc, Nat.add_assoc]
end

theorem tokenize_spell (h : fits none ps = true) : tokenize (spell ps) = .ok (tokensAt 0 ps) := by
  have hs : scanTokens (spell ps ++ []) 0 [] [] = _ := scanTokens_spell ps h
  rw [List.append_nil, List.append_nil] at hs
  have hg : gapLength [] = 0 := by rw [gapLength.eq_def]
  rw [tokenize, hs, scanTokens_eq, hg]
  exact congrArg Except.ok (List.reverse_reverse _)

theorem piece?_quoteChars (s : List Char) :
    (Literal.spelled (Text.quoteChars s)).piece? = some (.text s) := by
  rw [Literal.piece?, string?_quoteChars]

theorem piece?_toString (n : Nat) :
    (Literal.spelled (toString n).toList).piece? = some (.number n) := by
  have hs : (Literal.spelled (toString n).toList).string? = none := by
    obtain ⟨c, t, ht⟩ := List.exists_cons_of_ne_nil (toList_toString_ne_nil n)
    have hc : c.isDigit = true := isDigit_of_mem_toString (n := n) (by rw [ht]; exact .head _)
    have hq : c ≠ '\x22' ∧ c ≠ 'r' := by
      constructor <;> rintro rfl <;> exact absurd hc (by decide)
    rw [ht, Literal.string?.eq_def]
    simp [hq]
  rw [Literal.piece?, hs, readInteger_toString]

mutual
theorem Piece.pieces?_tokens (p : Piece) (o : Nat) {next : Option Char}
    (h : p.fits next = true) :
    pieces? (p.tokens o) = some p.solid := by
  cases p with
  | space s => rfl
  | comment s => rfl
  | word s =>
    simp only [Piece.fits, Bool.and_eq_true, decide_eq_true_eq] at h
    rw [Piece.tokens, dif_pos h.1]
    rfl
  | mark c joint => rfl
  | text s =>
    rw [Piece.tokens, pieces?_singleton, Token.piece?, piece?_quoteChars]
    rfl
  | number n =>
    rw [Piece.tokens, pieces?_singleton, Token.piece?, piece?_toString]
    rfl
  | group d inner =>
    simp only [Piece.fits, Bool.and_eq_true] at h
    rw [Piece.tokens, pieces?_singleton, Token.piece?, pieces?_tokensAt inner (o + 1) h.2]
    rfl

/-- The tokens of a program read as its pieces. -/
theorem pieces?_tokensAt (ps : List Piece) (o : Nat) {next : Option Char}
    (h : fits next ps = true) :
    pieces? (tokensAt o ps) = some (solid ps) := by
  cases ps with
  | nil => rfl
  | cons p ps =>
    rw [fits, Bool.and_eq_true] at h
    rw [tokensAt, pieces?_append, p.pieces?_tokens o h.1, pieces?_tokensAt ps _ h.2, solid]
    rfl
end

end TaskDriver.Definition
