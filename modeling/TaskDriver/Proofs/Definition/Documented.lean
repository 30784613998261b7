import TaskDriver.Definition.Command
import TaskDriver.Proofs.Build.ReadBack
import TaskDriver.Proofs.Files.Written

/-! A definition file of documented functions gives back their names and their documentation,
whichever line end it has. -/
namespace TaskDriver.Definition

open Build.Layout (IsName tokens_name blank parens braces)

/-- A text that can follow the three slashes of a comment line and stay on it: after a fourth slash
it would be no documentation. -/
def IsCommentLine (d : List Char) : Prop :=
  '\n' ∉ d ∧ '\r' ∉ d ∧ d.head? ≠ some '/'

instance (d : List Char) : Decidable (IsCommentLine d) :=
  inferInstanceAs (Decidable (_ ∧ _ ∧ _))

/-- A function with lines of documentation before it. -/
structure Documented where
  name : String
  docs : List (List Char)
  isName : IsName name
  lines : ∀ d ∈ docs, IsCommentLine d

inductive LineEnd
  | lf
  | crlf

def LineEnd.chars : LineEnd → List Char
  | .lf => ['\n']
  | .crlf => ['\r', '\n']

def commentText (e : LineEnd) (d : List Char) : List Char :=
  "///".toList ++ d ++ e.chars

/-- The comments of a function, and a line with the function itself. -/
def Documented.text (e : LineEnd) (f : Documented) : List Char :=
  f.docs.flatMap (commentText e) ++
    ("fn ".toList ++ f.name.toList ++ "() \x7b\x7d".toList ++ e.chars)

/-- A definition file with these functions and nothing else. -/
def sourceText (e : LineEnd) (fs : List Documented) : List Char :=
  marker.toList ++ e.chars ++ fs.flatMap (·.text e)

/-- The command that a documented function is. -/
def Documented.command (f : Documented) : Command where
  name := f.name
  summary := String.ofList (Text.trimStart (f.docs.headD []))
  doc := String.ofList (Text.trimStart (Text.joinLines f.docs))
  exported := f.name.toList.head?.any Text.isUppercase

variable {e : LineEnd} {d r : List Char} {ds : List (List Char)} {f : Documented}
  {fs : List Documented} {o : Nat} {frames : List Frame} {done : List Token}

/-! ## Comments -/

/-- The line feed alone is left over of the line end. -/
theorem lineText_line (h : IsCommentLine d) (e : LineEnd) (r : List Char) :
    lineText (d ++ e.chars ++ r) = (d, d.length + (e.chars.length - 1)) := by
  obtain ⟨hn, hr, -⟩ := h
  induction d with
  | nil => cases e <;> rfl
  | cons c d ih =>
    have hcn : c ≠ '\n' := fun h => hn (h ▸ .head _)
    have hcr : c ≠ '\r' := fun h => hr (h ▸ .head _)
    have ih := ih (fun h => hn (.tail _ h)) (fun h => hr (.tail _ h))
    rw [List.cons_append, List.cons_append, lineText, ih, List.length_cons]
    · simp only [Nat.add_right_comm]
    all_goals simp [hcn, hcr]

theorem hasBareReturn_line (h : '\r' ∉ d) : hasBareReturn d = false := by
  induction d with
  | nil => rfl
  | cons c d ih =>
    have hc : c ≠ '\r' := fun e => h (e ▸ .head _)
    rw [hasBareReturn]
    · exact ih fun hm => h (.tail _ hm)
    all_goals simp [hc]

theorem isDocStart_line (h : IsCommentLine d) (e : LineEnd) (r : List Char) :
    isDocStart (commentText e d ++ r) = true := by
  have hd : ∀ t, d ++ e.chars ++ r ≠ '/' :: t := by
    intro t ht
    cases d with
    | nil => cases e <;> cases ht
    | cons c d => exact h.2.2 (congrArg some (List.cons.inj ht).1)
  change isDocStart ('/' :: '/' :: '/' :: (d ++ e.chars ++ r)) = true
  unfold isDocStart
  split <;> simp_all

theorem docComment?_line (h : IsCommentLine d) (e : LineEnd) (r : List Char) :
    docComment? (commentText e d ++ r) =
      some ⟨false, d, d.length + (e.chars.length - 1) + 3⟩ := by
  have hs : isDocStart ('/' :: '/' :: '/' :: (d ++ e.chars ++ r)) = true := isDocStart_line h e r
  have hl : lineText (('/' :: '/' :: '/' :: (d ++ e.chars ++ r)).drop 3) = _ := lineText_line h e r
  change docComment? ('/' :: '/' :: '/' :: (d ++ e.chars ++ r)) = _
  simp only [docComment?, hs, ↓reduceIte, hl]
  exact if_neg (Bool.eq_false_iff.mp (hasBareReturn_line h.2.1))

/-- The tokens of the attribute that a line of documentation stands for. -/
def lineTokens (o : Nat) (d : List Char) : List Token :=
  [.punct '#' false o, .group .bracket
    [.word docWord o, .punct '=' false o, .literal (.comment d) o] o o]

/-- A line of documentation is read up to its line end, whatever is in it. -/
theorem scanTokens_line (h : IsCommentLine d) (e : LineEnd) :
    scanTokens (commentText e d ++ r) o frames done =
      scanTokens r (o + (commentText e d).length) frames ((lineTokens o d).reverse ++ done) := by
  have hg : gapLength (commentText e d ++ r) = 0 := by
    have hs := isDocStart_line h e r
    change gapLength ('/' :: '/' :: ('/' :: d ++ e.chars ++ r)) = 0
    rw [gapLength.eq_def]
    exact if_pos hs
  have hc : docComment? ('/' :: '/' :: '/' :: (d ++ e.chars ++ r)) = _ := docComment?_line h e r
  have hdrop : ('/' :: '/' :: (d ++ e.chars ++ r)).drop (d.length + (e.chars.length - 1) + 3 - 1) =
      ['\n'] ++ r := by
    cases e <;> simp [LineEnd.chars, List.drop_append]
  have hspace : ∀ c ∈ ['\n'], isSpace c = true := List.forall_mem_singleton.mpr rfl
  rw [scanTokens_eq, hg]
  change scanHere ('/' :: '/' :: '/' :: (d ++ e.chars ++ r)) o frames done = _
  rw [scanHere, hc]
  dsimp only
  rw [hdrop, scanTokens_spaces hspace]
  congr 1
  cases e <;> simp +arith [commentText, LineEnd.chars]

def linesTokens (e : LineEnd) (o : Nat) : List (List Char) → List Token
  | [] => []
  | d :: ds => lineTokens o d ++ linesTokens e (o + (commentText e d).length) ds

theorem scanTokens_lines (h : ∀ d ∈ ds, IsCommentLine d) :
    scanTokens (ds.flatMap (commentText e) ++ r) o frames done =
      scanTokens r (o + (ds.flatMap (commentText e)).length) frames
        ((linesTokens e o ds).reverse ++ done) := by
  induction ds generalizing o done with
  | nil => rfl
  | cons d ds ih =>
    rw [List.flatMap_cons, List.append_assoc, scanTokens_line (h d (.head _)),
      ih fun x hx => h x (.tail _ hx), linesTokens, List.length_append, List.reverse_append,
      List.append_assoc, Nat.add_assoc]

/-! ## Functions -/

/-- The line of a function. -/
def Documented.pieces (e : LineEnd) (f : Documented) : List Piece :=
  [.word "fn", blank, .word f.name, parens [], blank, braces [], .space e.chars]

theorem spell_pieces (e : LineEnd) (f : Documented) :
    spell (f.pieces e) = "fn ".toList ++ f.name.toList ++ "() \x7b\x7d".toList ++ e.chars := by
  simp [Documented.pieces, spell, Piece.spell, blank, parens, braces, Delimiter.opening,
    Delimiter.closing]

theorem fits_pieces (e : LineEnd) (f : Documented) (next : Option Char) :
    fits next (f.pieces e) = true := by
  have hn := f.isName.1
  cases e <;>
    simp +decide [Documented.pieces, LineEnd.chars, blank, parens, braces, fits, Piece.fits,
      nextOf, spell, Piece.spell, Delimiter.opening, Delimiter.closing, isClear, isSpace, hn]

def Documented.tokens (e : LineEnd) (o : Nat) (f : Documented) : List Token :=
  linesTokens e o f.docs ++ tokensAt (o + (f.docs.flatMap (commentText e)).length) (f.pieces e)

theorem scanTokens_function (e : LineEnd) (f : Documented) :
    scanTokens (f.text e ++ r) o frames done =
      scanTokens r (o + (f.text e).length) frames ((f.tokens e o).reverse ++ done) := by
  rw [Documented.text, ← spell_pieces, List.append_assoc, scanTokens_lines f.lines,
    scanTokens_spell _ (fits_pieces e f _), Documented.tokens, List.length_append,
    List.reverse_append, List.append_assoc, Nat.add_assoc]

def functionsTokens (e : LineEnd) (o : Nat) : List Documented → List Token
  | [] => []
  | f :: fs => f.tokens e o ++ functionsTokens e (o + (f.text e).length) fs

theorem scanTokens_functions (e : LineEnd) (fs : List Documented) :
    scanTokens (fs.flatMap (·.text e)) o [] done =
      .ok (done.reverse ++ functionsTokens e o fs) := by
  induction fs generalizing o done with
  | nil =>
    have hg : gapLength [] = 0 := by rw [gapLength.eq_def]
    rw [List.flatMap_nil, scanTokens_eq, hg, functionsTokens, List.append_nil]
    rfl
  | cons f fs ih =>
    rw [List.flatMap_cons, scanTokens_function, ih, functionsTokens, List.reverse_append,
      List.reverse_reverse, List.append_assoc]

theorem tokenize_sourceText (e : LineEnd) (fs : List Documented) :
    ∃ o, tokenize (sourceText e fs) = .ok (functionsTokens e o fs) := by
  obtain ⟨s, hs, hn⟩ : ∃ s, sourceText e fs = '/' :: '/' :: (s ++ '\n' :: fs.flatMap (·.text e)) ∧
      '\n' ∉ s ∧ s.head? = some ' ' := by
    cases e
    · exact ⟨" matr:build".toList, rfl, by decide⟩
    · exact ⟨" matr:build\r".toList, rfl, by decide⟩
  have hd := isDocStart_of_space (s := s) (by rw [hn.2]; rfl) (fs.flatMap (·.text e))
  rw [tokenize, hs, scanTokens_comment hn.1 hd, scanTokens_functions]
  exact ⟨_, rfl⟩

/-! ## What the grammar makes of them -/

open Grammar

variable {self : Rules} {rest : List Token}

theorem reads_lineTokens (o : Nat) (d : List Char) :
    Reads (outerAttribute self) (lineTokens o d) rest (some d) :=
  fun _ => rfl

theorem length_linesTokens (e : LineEnd) (o : Nat) (ds : List (List Char)) :
    ds.length ≤ (linesTokens e o ds).length := by
  induction ds generalizing o with
  | nil => exact Nat.zero_le _
  | cons d ds ih =>
    have ih := ih (o + (commentText e d).length)
    rw [linesTokens, List.length_append, List.length_cons]
    simp only [lineTokens, List.length_cons, List.length_nil]
    omega

/-- Lines of documentation are read as attributes, up to a token that starts no attribute. -/
theorem reads_linesTokens (e : LineEnd) (o : Nat) (ds : List (List Char))
    (hr : atPunct "#" rest = false) :
    Reads (outerAttributes self) (linesTokens e o ds) rest ds := by
  have go : ∀ n, ds.length ≤ n →
      Reads (outerAttributes.go self (n + 1)) (linesTokens e o ds) rest ds := by
    induction ds generalizing o with
    | nil =>
      intro n _
      unfold outerAttributes.go
      refine (reads_ahead _).look ?_
      rw [linesTokens, List.nil_append, hr]
      exact reads_pure
    | cons d ds ih =>
      intro n hn
      obtain ⟨n, rfl⟩ : ∃ m, n = m + 1 := ⟨n - 1, by simp only [List.length_cons] at hn; omega⟩
      have ih := ih (o + (commentText e d).length) n (Nat.le_of_succ_le_succ hn)
      unfold outerAttributes.go
      refine (reads_ahead _).look ?_
      exact (reads_lineTokens o d).bind (ih.last reads_pure)
  intro closing
  have hl := length_linesTokens e o ds
  exact go _ (by simp; omega) closing

def fnWord : Word :=
  ⟨false, "fn", by decide, nofun⟩

variable {o₁ o₂ o₃ o₄ : Nat}

theorem reads_signature {w : Word} (hw : w.isName = true) (o₅ o₆ : Nat) (us : List Token) :
    Reads (signature self false) [.word fnWord o₁, .word w o₂, .group .paren [] o₃ o₄]
      (.group .brace [] o₅ o₆ :: us) ⟨w, hw⟩ := by
  have hfn : ∀ us, Reads (Reader.word "fn") [.word fnWord o₁] us () := fun _ _ => rfl
  have hinterface : ∀ us, Reads interface? [] (.word fnWord o₁ :: us) () := fun _ _ => rfl
  have hgenerics : ∀ us, Reads (generics? self) [] (.group .paren [] o₃ o₄ :: us) () :=
    fun _ _ => rfl
  unfold signature
  refine (reads_word?_none rfl).look ((reads_word?_none rfl).look ((reads_word?_none rfl).look ?_))
  refine (hinterface _).look ((hfn _).cons ((reads_name hw).cons ((hgenerics _).look ?_)))
  exact fun _ => rfl

theorem reads_functionItem {w : Word} (hw : w.isName = true) (depth o₅ o₆ : Nat)
    (us : List Token) :
    Reads (functionItem (rules (depth + 2)) ds)
      ([.word fnWord o₁, .word w o₂, .group .paren [] o₃ o₄] ++ [.group .brace [] o₅ o₆]) us
      (some ⟨⟨w, hw⟩, ds⟩) := by
  have hvisibility : ∀ us, Reads visibility [] (.word fnWord o₁ :: us) false := fun _ _ => rfl
  have hbody : Reads (body (rules (depth + 2))) [.group .brace [] o₅ o₆] us [] :=
    reads_group (reads_attributedStatements .nil rfl)
  unfold functionItem
  refine (hvisibility _).look ((reads_signature hw o₅ o₆ us).bind ?_)
  refine (reads_punct?_none rfl).look (hbody.last ?_)
  rw [List.append_nil]
  exact reads_pure

/-- The function of the grammar that a documented function is. -/
def Documented.item (f : Documented) : FunctionItem :=
  ⟨⟨⟨false, f.name, f.isName.1, nofun⟩, by simp [Word.isName, f.isName.2]⟩, f.docs⟩

theorem tokensAt_pieces (e : LineEnd) (f : Documented) (o : Nat) : ∃ o₁ o₂ o₃ o₄ o₅ o₆,
    tokensAt o (f.pieces e) =
      [.word fnWord o₁, .word f.item.name.word o₂, .group .paren [] o₃ o₄] ++
        [.group .brace [] o₅ o₆] := by
  have hfn : ∀ o, (Piece.word "fn").tokens o = [.word fnWord o] := fun _ => rfl
  have hname : ∀ o, (Piece.word f.name).tokens o = [.word f.item.name.word o] := by
    intro o
    rw [Piece.tokens, dif_pos f.isName.1]
    rfl
  simp only [Documented.pieces, tokensAt, hfn, hname]
  exact ⟨_, _, _, _, _, _, rfl⟩

/-- A documented function is read as an item with its documentation. -/
theorem reads_documented (e : LineEnd) (f : Documented) (depth o : Nat) (us : List Token) :
    Reads (rules (depth + 3) .item) (f.tokens e o) us (some f.item) := by
  obtain ⟨o₁, o₂, o₃, o₄, o₅, o₆, hts⟩ :=
    tokensAt_pieces e f (o + (f.docs.flatMap (commentText e)).length)
  have hrest : Reads (itemRest (rules (depth + 2)) f.docs) (.word fnWord o₁ ::
      [.word f.item.name.word o₂, .group .paren [] o₃ o₄, .group .brace [] o₅ o₆]) us
      (some f.item) :=
    fun closing => reads_functionItem f.item.name.isName depth o₅ o₆ us closing
  change Reads (itemPhrase (rules (depth + 2))) _ _ _
  rw [Documented.tokens, hts]
  unfold itemPhrase
  exact (reads_linesTokens e o f.docs rfl).bind hrest

theorem series_functionsTokens (e : LineEnd) (fs : List Documented) (depth o : Nat) :
    Series (rules (depth + 3) .item) (functionsTokens e o fs) (fs.map fun f => some f.item) := by
  induction fs generalizing o with
  | nil => exact .nil
  | cons f fs ih =>
    have hne : f.tokens e o ≠ [] := by
      obtain ⟨_, _, _, _, _, _, hts⟩ :=
        tokensAt_pieces e f (o + (f.docs.flatMap (commentText e)).length)
      rw [Documented.tokens, hts]
      simp
    exact .cons hne (reads_documented e f depth o _) (ih _)

/-- The first attribute of the file is that of its first function. -/
theorem noInner_functionsTokens (e : LineEnd) (o : Nat) (fs : List Documented) :
    (atPunct "#" (functionsTokens e o fs) && atPunct "!" (after (functionsTokens e o fs))) =
      false := by
  cases fs with
  | nil => rfl
  | cons f fs =>
    obtain ⟨_, _, _, _, _, _, hts⟩ :=
      tokensAt_pieces e f (o + (f.docs.flatMap (commentText e)).length)
    rw [functionsTokens, Documented.tokens, hts]
    cases f.docs <;> rfl

theorem file_functionsTokens (e : LineEnd) (fs : List Documented) (o : Nat) :
    file (functionsTokens e o fs) = .ok (fs.map Documented.item) := by
  obtain ⟨depth, hdepth⟩ : ∃ depth,
      16 * (tokenCount (functionsTokens e o fs) + 1) = depth + 3 :=
    ⟨16 * tokenCount (functionsTokens e o fs) + 13, by omega⟩
  have hread : Reads (do
      let _ ← innerAttributes (rules (depth + 3))
      Reader.all (rules (depth + 3) .item)) (functionsTokens e o fs) []
      (fs.map fun f => some f.item) := by
    refine (reads_noInnerAttributes ?_).look (series_functionsTokens e fs depth o).reads
    rw [List.append_nil]
    exact noInner_functionsTokens e o fs
  have hfile := hread .wholeFile
  rw [List.append_nil] at hfile
  unfold file
  rw [hdepth]
  simp only [hfile, List.filterMap_map]
  exact congrArg Except.ok (List.filterMap_eq_map ▸ rfl)

/-! ## The commands -/

theorem cutEnd_line (h : '\r' ∉ d) : Text.cutEnd (· == '\r') d = d := by
  have hr : d.reverse.dropWhile (· == '\r') = d.reverse := by
    cases hd : d.reverse with
    | nil => rfl
    | cons c t =>
      have hc : c ≠ '\r' := by
        rintro rfl
        exact h (List.mem_reverse.mp (hd ▸ .head _))
      simp [hc]
  rw [Text.cutEnd, hr, List.reverse_reverse]

theorem docLines_eq (h : ∀ d ∈ ds, IsCommentLine d) : docLines ds = ds := by
  induction ds with
  | nil => rfl
  | cons d ds ih =>
    obtain ⟨hn, hr, -⟩ := h d (.head _)
    have ih : docLines ds = ds := ih fun x hx => h x (.tail _ hx)
    rw [docLines] at ih ⊢
    rw [List.flatMap_cons, ih, Text.splitLines, Text.splitOn_of_not_mem hn, List.map_singleton,
      cutEnd_line hr]
    rfl

theorem firstLine_sourceText (e : LineEnd) (fs : List Documented) :
    firstLine (sourceText e fs) = marker.toList := by
  cases e <;> rfl

/-- **Every documented function is recovered.** A file of functions with lines of documentation is
read as one command for each of them, in their order, with the documentation as it was written; the
line ends make no difference. -/
theorem commandsOf_sourceText (fs : List Documented) :
    (∀ e, commandsOf (sourceText e fs) = .ok (fs.map Documented.command)) ∧
    commandsOf (sourceText .crlf fs) = commandsOf (sourceText .lf fs) := by
  have hcommands : ∀ e, commandsOf (sourceText e fs) = .ok (fs.map Documented.command) := by
    intro e
    obtain ⟨o, ho⟩ := tokenize_sourceText e fs
    have hread : tokenize (sourceText e fs) >>= Grammar.file = .ok (fs.map Documented.item) := by
      rw [ho]
      exact file_functionsTokens e fs o
    have hcommand : ∀ f : Documented, Command.ofFunction f.item = f.command := by
      intro f
      simp only [Command.ofFunction, Documented.item, docLines_eq f.lines]
      rfl
    rw [commandsOf, if_neg fun hne => hne (firstLine_sourceText e fs), hread]
    simp only [List.map_map, Function.comp_def, hcommand]
  exact ⟨hcommands, (hcommands .crlf).trans (hcommands .lf).symm⟩

/-- Documentation with quotes, escapes and marks of comments in it, which are only text there. -/
def greeting : Documented where
  name := "Greet_All"
  docs := [" say \x22hi\x22 \x5cn /* // \x00".toList, [], " */ ! ".toList]
  isName := by decide
  lines := by decide

theorem commandsOf_sourceText_greeting :
    commandsOf (sourceText .crlf [greeting]) = .ok [{
      name := "Greet_All"
      summary := "say \x22hi\x22 \x5cn /* // \x00"
      doc := "say \x22hi\x22 \x5cn /* // \x00\n\n */ ! "
      exported := true }] := by
  have hcommand : greeting.command = ⟨"Greet_All", "say \x22hi\x22 \x5cn /* // \x00",
      "say \x22hi\x22 \x5cn /* // \x00\n\n */ ! ", true⟩ := by decide +kernel
  rw [(commandsOf_sourceText [greeting]).1 .crlf, List.map_singleton, hcommand]

end TaskDriver.Definition
