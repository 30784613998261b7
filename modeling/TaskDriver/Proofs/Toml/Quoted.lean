import TaskDriver.Proofs.Toml.Scan
import TaskDriver.Toml.Document
import TaskDriver.Toml.Quoting

/-! A text in quotes is read back, whatever quotes were chosen for it. -/
namespace TaskDriver.Toml

variable {s rest : List Char} {c : Char}

/-! ## Runs of a character -/

/-- The longest run and the present one, after one more character. -/
def countRun (c : Char) (b : Nat × Nat) (d : Char) : Nat × Nat :=
  let run := if d = c then b.2 + 1 else 0
  (max b.1 run, run)

theorem le_countRun (c : Char) (s : List Char) (b : Nat × Nat) :
    b.1 ≤ (s.foldl (countRun c) b).1 := by
  induction s generalizing b with
  | nil => exact Nat.le_refl _
  | cons d s ih => exact Nat.le_trans (Nat.le_max_left b.1 _) (ih (countRun c b d))

theorem run_le_countRun {k : Nat} (h : List.replicate (k + 1) c <+: s) (b : Nat × Nat) :
    b.2 + (k + 1) ≤ (s.foldl (countRun c) b).1 := by
  induction k generalizing s b with
  | zero =>
    obtain ⟨t, rfl⟩ := h
    refine Nat.le_trans ?_ (le_countRun c t (countRun c b c))
    simp only [countRun, ↓reduceIte]
    exact Nat.le_max_right _ _
  | succ k ih =>
    obtain ⟨t, rfl⟩ := h
    have hk := ih (s := List.replicate (k + 1) c ++ t) (List.prefix_append _ _) (countRun c b c)
    have hrun : (countRun c b c).2 = b.2 + 1 := if_pos rfl
    rw [List.replicate_succ, List.cons_append, List.foldl_cons]
    omega

/-- No run is longer than the longest one. -/
theorem le_longestRun {k : Nat} (h : List.replicate k c <:+: s) : k ≤ longestRun c s := by
  cases k with
  | zero => exact Nat.zero_le _
  | succ k =>
    obtain ⟨a, b, rfl⟩ := h
    have := run_le_countRun (c := c) (s := List.replicate (k + 1) c ++ b) (List.prefix_append _ _)
      (a.foldl (countRun c) (0, 0))
    rw [List.append_assoc, longestRun, List.foldl_append]
    exact Nat.le_trans (Nat.le_add_left _ _) this

theorem not_mem_of_longestRun (h : longestRun c s = 0) : c ∉ s := by
  intro hc
  obtain ⟨a, b, rfl⟩ := List.append_of_mem hc
  have := le_longestRun (k := 1) (c := c) (s := a ++ c :: b) ⟨a, b, by simp⟩
  omega

/-! ## Characters -/

theorem isText_of_not_control (h : isControl c = false) (hn : c ≠ '\n') : isText c = true := by
  simp only [isControl, Bool.or_eq_false_iff, Bool.and_eq_false_iff, decide_eq_false_iff_not]
    at h
  simp only [isText, isNonAscii, Bool.or_eq_true, Bool.and_eq_true, decide_eq_true_eq]
  by_cases ht : c = '\t'
  · exact .inl (.inl ht)
  · obtain ⟨h₁, h₂⟩ := h
    have : ¬ c.toNat < 0x20 := by
      rcases h₁ with (h₁ | h₁) | h₁
      · exact h₁
      · exact absurd ht (by simpa using h₁)
      · exact absurd hn (by simpa using h₁)
    omega

theorem isLiteral_of_not_control (h : isControl c = false) (hn : c ≠ '\n') (hq : c ≠ '\x27') :
    isLiteral c = true := by
  simp [isLiteral, isText_of_not_control h hn, hq]

theorem hexEscape_code : ∀ n : Fin 128,
    let ds := ['0', '0', hexDigitUpper (n / 16), hexDigitUpper (n % 16)]
    ds.all isHexDigit = true ∧ charOfCode (hexNumber ds) = some (Char.ofNat n) := by
  decide

theorem hexEscape_read (h : c.toNat < 128) (t : List Char) :
    hexEscape 4 (['0', '0', hexDigitUpper (c.toNat / 16), hexDigitUpper (c.toNat % 16)] ++ t) =
      .read c t := by
  obtain ⟨hall, hcode⟩ := hexEscape_code ⟨c.toNat, h⟩
  rw [Char.ofNat_toNat] at hcode
  exact Scan.mapped_read (Scan.count_read rfl (List.all_eq_true.mp hall) t) hcode

/-- A character needs no escape between double quotes, or has one that is read back. -/
theorem escape?_cases (hq : c ≠ '\x22') (hn : c ≠ '\n') :
    (escape? c = none ∧ isPlain c = true) ∨ ∃ d w, escape? c = some ('\\' :: d :: w) ∧
      d ∉ ['\n', '\r', ' ', '\t'] ∧ ∀ t, escape ('\\' :: d :: (w ++ t)) = .read c t := by
  unfold escape?
  by_cases h₁ : c = '\x08'
  · exact .inr ⟨'b', [], by simp [h₁], by decide, fun t => by rw [h₁]; rfl⟩
  by_cases h₂ : c = '\t'
  · exact .inr ⟨'t', [], by simp [h₂], by decide, fun t => by rw [h₂]; rfl⟩
  by_cases h₃ : c = '\x0c'
  · exact .inr ⟨'f', [], by simp [h₃], by decide, fun t => by rw [h₃]; rfl⟩
  by_cases h₄ : c = '\r'
  · exact .inr ⟨'r', [], by simp [h₄], by decide, fun t => by rw [h₄]; rfl⟩
  by_cases h₅ : c = '\\'
  · exact .inr ⟨'\\', [], by simp [h₅], by decide, fun t => by rw [h₅]; rfl⟩
  simp only [h₁, h₂, h₃, h₄, h₅, ↓reduceIte]
  by_cases h : c.toNat < 0x20 ∨ c.toNat = 0x7F
  · refine .inr ⟨'u', _, if_pos (by simpa [hn] using h), by decide, fun t => ?_⟩
    exact Scan.settle_read (hexEscape_read (by omega) t)
  · refine .inl ⟨if_neg (by simpa [hn] using h), ?_⟩
    have hc : isControl c = false := by simpa [isControl, h₂, hn] using h
    simp [isPlain, isText_of_not_control hc hn, hq, h₅]

theorem escape_failed (h : s.head? ≠ some '\\') : escape s = .failed false s := by
  unfold escape
  split <;> simp_all

/-! ## One line -/

/-- A character as it stands between double quotes on one line. -/
def linePiece (c : Char) : List Char :=
  if c = '\x22' then ['\\', '\x22'] else if c = '\n' then ['\\', 'n'] else (escape? c).getD [c]

theorem escapeLine_eq (s : List Char) : escapeLine s = s.flatMap linePiece := by
  induction s with
  | nil => rfl
  | cons c s ih => rw [escapeLine, ih]; rfl

theorem linePiece_cases (c : Char) :
    (linePiece c = [c] ∧ isPlain c = true) ∨
      ∃ w, linePiece c = '\\' :: w ∧ ∀ t, escape ('\\' :: (w ++ t)) = .read c t := by
  unfold linePiece
  by_cases hq : c = '\x22'
  · exact .inr ⟨['\x22'], if_pos hq, fun t => by rw [hq]; rfl⟩
  by_cases hn : c = '\n'
  · exact .inr ⟨['n'], by rw [if_neg hq, if_pos hn], fun t => by rw [hn]; rfl⟩
  rw [if_neg hq, if_neg hn]
  rcases escape?_cases hq hn with ⟨he, hp⟩ | ⟨d, w, he, -, hread⟩
  · exact .inl ⟨by rw [he]; rfl, hp⟩
  · exact .inr ⟨d :: w, by rw [he]; rfl, hread⟩

theorem linePiece_ne_nil (c : Char) : linePiece c ≠ [] := by
  rcases linePiece_cases c with ⟨he, _⟩ | ⟨w, he, _⟩ <;> rw [he] <;> exact List.cons_ne_nil _ _

/-- An escape is not a character that stands for itself. -/
theorem oneOf_backslash (t : List Char) :
    Scan.oneOf isPlain ('\\' :: t) = .failed false ('\\' :: t) :=
  Scan.oneOf_failed rfl

theorem linePiece_read (c : Char) (t : List Char) :
    Scan.orElse (Scan.oneOf isPlain) escape (linePiece c ++ t) = .read c t := by
  rcases linePiece_cases c with ⟨he, hp⟩ | ⟨w, he, hread⟩
  · rw [he]
    exact Scan.orElse_read (Scan.oneOf_read hp t)
  · rw [he]
    exact (Scan.orElse_failed (oneOf_backslash _)).trans (hread t)

theorem basicBody_read (s rest : List Char) :
    basicBody (escapeLine s ++ '\x22' :: rest) = .read s ('\x22' :: rest) := by
  have hstop : Scan.orElse (Scan.oneOf isPlain) escape ('\x22' :: rest) =
      .failed false ('\x22' :: rest) :=
    (Scan.orElse_failed (Scan.oneOf_failed rfl)).trans (escape_failed (by simp))
  obtain ⟨as, has, hR⟩ := Scan.many_pieces Eq linePiece (fun _ => True) trivial hstop
    (fun (c : Char) (_ : c ∈ s) t _ => ⟨c, linePiece_read c t, rfl⟩) (fun _ _ _ => trivial)
    fun c _ => linePiece_ne_nil c
  rw [List.forall₂_eq_eq_eq] at hR
  rw [basicBody, escapeLine_eq, has, hR]

theorem basicString_read (s rest : List Char) :
    basicString ('\x22' :: (escapeLine s ++ '\x22' :: rest)) = .read s rest := by
  rw [basicString, Scan.bind_read (Scan.mark_read _ _), Scan.bind_read (basicBody_read s rest),
    Scan.bind_read (Scan.settle_read (Scan.mark_read _ _))]
  rfl

theorem literalString_read (h : ∀ c ∈ s, isLiteral c = true) (rest : List Char) :
    literalString ('\x27' :: (s ++ '\x27' :: rest)) = .read s rest := by
  rw [literalString, Scan.bind_read (Scan.mark_read _ _),
    Scan.bind_read (Scan.takeWhile_read h rfl),
    Scan.bind_read (Scan.settle_read (Scan.mark_read _ _))]
  rfl

/-- Escapes never start with a quote. -/
theorem head_escapeLine (h : rest.head? ≠ some '\x22') (s : List Char) :
    ¬ tripleQuotes '\x22' <+: '\x22' :: (escapeLine s ++ '\x22' :: rest) := by
  cases s with
  | nil =>
    cases rest with
    | nil => simp [tripleQuotes, escapeLine]
    | cons d rest => simpa [tripleQuotes, escapeLine, eq_comm] using h
  | cons c s =>
    rw [escapeLine_eq, List.flatMap_cons]
    rcases linePiece_cases c with ⟨he, hp⟩ | ⟨w, he, _⟩
    · have : c ≠ '\x22' := fun hc => by rw [hc] at hp; exact absurd hp (by decide)
      simp [he, tripleQuotes, this.symm]
    · simp [he, tripleQuotes]

/-! ## Several lines -/

theorem lineJoin_failed {d : Char} (h : d ∉ ['\n', '\r', ' ', '\t']) (t : List Char) :
    lineJoin ('\\' :: d :: t) = .failed false (d :: t) := by
  have hb : blanks (d :: t) = .read () (d :: t) := blanks_none (by simp_all [isBlankChar])
  rw [lineJoin, Scan.bind_read (Scan.mark_read _ _), Scan.bind_read hb]
  exact Scan.bind_failed (newline_failed (by simp_all) (by simp_all))

theorem lineJoin_failed_of_ne (h : s.head? ≠ some '\\') : lineJoin s = .failed false s :=
  Scan.bind_failed (Scan.mark_failed h)

theorem linesPiece_plain (h : isPlain c = true) (t : List Char) :
    linesPiece (c :: t) = .read [c] t :=
  Scan.orElse_read (Scan.bind_read (Scan.oneOf_read h t))

theorem linesPiece_escape {d : Char} {w t : List Char} (hd : d ∉ ['\n', '\r', ' ', '\t'])
    (h : escape ('\\' :: d :: w) = .read c t) : linesPiece ('\\' :: d :: w) = .read [c] t := by
  rw [linesPiece, Scan.orElse_failed (Scan.bind_failed (oneOf_backslash _)),
    Scan.orElse_failed (Scan.bind_failed (lineJoin_failed hd w))]
  exact Scan.orElse_read (Scan.bind_read h)

theorem linesPiece_newline (t : List Char) : linesPiece ('\n' :: t) = .read ['\n'] t := by
  rw [linesPiece, Scan.orElse_failed (Scan.bind_failed (Scan.oneOf_failed rfl)),
    Scan.orElse_failed (Scan.bind_failed (lineJoin_failed_of_ne (by simp))),
    Scan.orElse_failed (Scan.bind_failed (escape_failed (by simp)))]
  rfl

theorem linesPiece_failed (t : List Char) : ∃ r, linesPiece ('\x22' :: t) = .failed false r := by
  rw [linesPiece, Scan.orElse_failed (Scan.bind_failed (Scan.oneOf_failed rfl)),
    Scan.orElse_failed (Scan.bind_failed (lineJoin_failed_of_ne (by simp))),
    Scan.orElse_failed (Scan.bind_failed (escape_failed (by simp)))]
  exact ⟨_, rfl⟩

/-- A character other than a quote, as it stands between triple double quotes. -/
theorem linesPiece_read (hq : c ≠ '\x22') (t : List Char) :
    linesPiece ((escape? c).getD [c] ++ t) = .read [c] t := by
  by_cases hn : c = '\n'
  · subst hn
    exact linesPiece_newline t
  · rcases escape?_cases hq hn with ⟨he, hp⟩ | ⟨d, w, he, hd, hread⟩
    · rw [he]
      exact linesPiece_plain hp t
    · rw [he]
      exact linesPiece_escape hd (hread t)

/-- What stands between triple double quotes can be gone on with after a character. -/
theorem escapeLines_cons (hq : c ≠ '\x22') (k : Nat) (s : List Char) :
    escapeLines k (c :: s) = (escape? c).getD [c] ++ escapeLines 0 s :=
  if_neg hq

theorem escape?_ne_nil (c : Char) : (escape? c).getD [c] ≠ [] := by
  unfold escape?
  split_ifs <;> exact List.cons_ne_nil _ _

theorem head_escapeLines (hq : c ≠ '\x22') (k : Nat) (s t : List Char) :
    ∃ d u, escapeLines k (c :: s) ++ t = d :: u ∧ d ≠ '\x22' ∧ (d = '\n' → c = '\n') ∧
      d ≠ '\r' := by
  rw [escapeLines_cons hq]
  by_cases hn : c = '\n'
  · subst hn
    exact ⟨'\n', _, rfl, by decide, fun _ => rfl, by decide⟩
  · rcases escape?_cases hq hn with ⟨he, hp⟩ | ⟨d, w, he, -, -⟩
    · refine ⟨c, _, by rw [he]; rfl, hq, fun h => absurd h hn, fun h => ?_⟩
      rw [h] at hp
      exact absurd hp (by decide)
    · exact ⟨'\\', _, by rw [he]; rfl, by decide, fun h => absurd h (by decide), by decide⟩

section quotes

variable {q : Char}

theorem fewQuotes_one {t : List Char} (ht : 2 ≤ t.length) (hq : t.head? ≠ some q) :
    fewQuotes q (q :: t) = .read [q] t := by
  match t with
  | d :: e :: t =>
    have hd : d ≠ q := by simpa using hq
    simp [fewQuotes, hd]

theorem fewQuotes_two {t : List Char} (ht : t ≠ []) (hq : t.head? ≠ some q) :
    fewQuotes q (q :: q :: t) = .read [q, q] t := by
  match t with
  | d :: t =>
    have hd : d ≠ q := by simpa using hq
    simp [fewQuotes, hd]

theorem fewQuotes_three (q : Char) (t : List Char) :
    fewQuotes q (tripleQuotes q ++ t) = .failed false (tripleQuotes q ++ t) := by
  simp [fewQuotes, tripleQuotes]

theorem optional_lastQuotes {last : List Char} (hl : last ∈ [[], [q], [q, q]])
    (hr : rest.head? ≠ some q) :
    ∃ o, Scan.optional (lastQuotes q) (last ++ (tripleQuotes q ++ rest)) =
      .read o (tripleQuotes q ++ rest) ∧ o.getD [] = last := by
  have hq : ¬ [q] <+: rest := by
    rintro ⟨t, rfl⟩
    exact hr rfl
  have hq₂ : ¬ [q, q] <+: rest := fun h => hq (.trans ⟨[q], rfl⟩ h)
  simp only [List.mem_cons, List.not_mem_nil, or_false] at hl
  rcases hl with rfl | rfl | rfl
  · refine ⟨none, Scan.optional_failed (r := tripleQuotes q ++ rest) ?_, rfl⟩
    simp [lastQuotes, tripleQuotes, hq, hq₂]
  · refine ⟨some [q], Scan.optional_read ?_, rfl⟩
    simp [lastQuotes, tripleQuotes, hq]
  · refine ⟨some [q, q], Scan.optional_read ?_, rfl⟩
    simp [lastQuotes, tripleQuotes]

/-- Between triple quotes `t` is read as `s` piece by piece, but for quotes just before its end. -/
def Pieced (q : Char) (piece : Scan (List Char)) (rest s t : List Char) : Prop :=
  ∃ as last, Scan.many piece (t ++ (tripleQuotes q ++ rest)) =
    .read as (last ++ (tripleQuotes q ++ rest)) ∧ as.flatten ++ last = s ∧
    last ∈ [[], [q], [q, q]]

variable {piece quoted : Scan (List Char)} {last t : List Char}

theorem Pieced.stop (hp : ∀ u, ∃ r, piece (q :: u) = .failed false r)
    (hq : ∀ u, ∃ r, quoted (tripleQuotes q ++ u) = .failed false r)
    (hl : last ∈ [[], [q], [q, q]]) :
    Pieced q (Scan.orElse piece quoted) rest last last := by
  have hswap : last ++ (tripleQuotes q ++ rest) = tripleQuotes q ++ (last ++ rest) := by
    simp only [List.mem_cons, List.not_mem_nil, or_false] at hl
    rcases hl with rfl | rfl | rfl <;> rfl
  obtain ⟨r, hr⟩ := hq (last ++ rest)
  obtain ⟨r', hr'⟩ := hp (q :: q :: (last ++ rest))
  have hstop : Scan.orElse piece quoted (last ++ (tripleQuotes q ++ rest)) = .failed false r :=
    hswap ▸ (Scan.orElse_failed hr').trans hr
  exact ⟨[], last, Scan.many_stop hstop, rfl, hl⟩

theorem Pieced.next {both : Scan (List Char)} {w a : List Char} (hw : w ≠ [])
    (hread : both (w ++ (t ++ (tripleQuotes q ++ rest))) =
      .read a (t ++ (tripleQuotes q ++ rest))) (h : Pieced q both rest s t) :
    Pieced q both rest (a ++ s) (w ++ t) := by
  obtain ⟨as, last, hmany, rfl, hl⟩ := h
  refine ⟨a :: as, last, ?_, by rw [List.flatten_cons, List.append_assoc], hl⟩
  rw [List.append_assoc]
  refine Scan.many_next hread ?_ hmany
  have := List.length_pos_iff.mpr hw
  simp only [List.length_append]
  omega

theorem linesString_read {newline : Bool} (h : Pieced q (Scan.orElse piece quoted) rest s t)
    (hn : newline = false → (t ++ (tripleQuotes q ++ rest)).head? ≠ some '\n' ∧
      (t ++ (tripleQuotes q ++ rest)).head? ≠ some '\r')
    (hr : rest.head? ≠ some q) :
    linesString q piece quoted (multiLine q newline t ++ rest) = .read s rest := by
  obtain ⟨as, last, hmany, rfl, hl⟩ := h
  obtain ⟨o, hlast, ho⟩ := optional_lastQuotes hl hr
  have hopen : ∃ u, Scan.optional Toml.newline ((if newline then ['\n'] else []) ++
      (t ++ (tripleQuotes q ++ rest))) = .read u (t ++ (tripleQuotes q ++ rest)) := by
    cases newline with
    | true => exact ⟨_, Scan.optional_read rfl⟩
    | false => exact ⟨_, Scan.optional_failed (newline_failed (hn rfl).1 (hn rfl).2)⟩
  obtain ⟨u, hu⟩ := hopen
  have hbody : (do
      let body ← Scan.many (Scan.orElse piece quoted)
      let last ← Scan.optional (lastQuotes q)
      .exactly [q, q, q]
      pure (body.flatten ++ last.getD []) : Scan (List Char)) (t ++ (tripleQuotes q ++ rest)) =
      .read (as.flatten ++ last) rest := by
    rw [Scan.bind_read hmany, Scan.bind_read hlast,
      Scan.bind_read (s := tripleQuotes q ++ rest) (Scan.exactly_read [q, q, q] rest), ho]
    rfl
  have htext : multiLine q newline t ++ rest =
      [q, q, q] ++ ((if newline then ['\n'] else []) ++ (t ++ (tripleQuotes q ++ rest))) := by
    simp [multiLine, tripleQuotes]
  rw [linesString, htext, Scan.bind_read (Scan.exactly_read _ _), Scan.bind_read hu]
  exact Scan.settle_read hbody

/-- Along a text, with runs of quotes taken three by three. -/
theorem quotes_induction {P : List Char → Prop} (last : ∀ l ∈ [[], [q], [q, q]], P l)
    (plain : ∀ c s, c ≠ q → P s → P (c :: s))
    (one : ∀ c s, c ≠ q → P s → P (c :: s) → P (q :: c :: s))
    (two : ∀ c s, c ≠ q → P s → P (c :: s) → P (q :: q :: c :: s))
    (three : ∀ s, P s → P (q :: q :: q :: s)) (s : List Char) : P s := by
  induction hn : s.length using Nat.strongRecOn generalizing s with
  | ind n ih =>
    subst hn
    have shorter : ∀ t, t.length < s.length → P t := fun t ht => ih _ ht t rfl
    match s, shorter with
    | [], _ => exact last _ (by simp)
    | c :: s, shorter =>
      by_cases hc : c = q
      · subst hc
        match s, shorter with
        | [], _ => exact last _ (by simp)
        | d :: s, shorter =>
          by_cases hd : d = c
          · subst hd
            match s, shorter with
            | [], _ => exact last _ (by simp)
            | e :: s, shorter =>
              by_cases he : e = d
              · subst he
                exact three s (shorter s (by simp only [List.length_cons]; omega))
              · exact two e s he (shorter s (by simp only [List.length_cons]; omega))
                  (shorter _ (by simp only [List.length_cons]; omega))
          · exact one d s hd (shorter s (by simp only [List.length_cons]; omega))
              (shorter _ (by simp only [List.length_cons]; omega))
      · exact plain c s hc (shorter s (by simp only [List.length_cons]; omega))

end quotes

theorem linesPiece_read_quote (t : List Char) :
    linesPiece ('\\' :: '\x22' :: t) = .read ['\x22'] t :=
  linesPiece_escape (by decide) rfl

/-- Of three quotes in a row the third is escaped, so that the first two are read before it. -/
theorem pieced_escapeLines (rest s : List Char) :
    Pieced '\x22' (Scan.orElse linesPiece (fewQuotes '\x22')) rest s (escapeLines 0 s) := by
  -- A quote is no start of another piece.
  have quoted : ∀ {u t qs : List Char}, fewQuotes '\x22' ('\x22' :: u) = .read qs t →
      Scan.orElse linesPiece (fewQuotes '\x22') ('\x22' :: u) = .read qs t := by
    intro u t qs h
    obtain ⟨r, hr⟩ := linesPiece_failed u
    exact (Scan.orElse_failed hr).trans h
  induction s using quotes_induction (q := '\x22') with
  | last l hl =>
    have he : escapeLines 0 l = l := by
      simp only [List.mem_cons, List.not_mem_nil, or_false] at hl
      rcases hl with rfl | rfl | rfl <;> rfl
    rw [he]
    exact Pieced.stop linesPiece_failed (fun u => ⟨_, fewQuotes_three _ u⟩) hl
  | plain c s hc ih =>
    rw [escapeLines_cons hc]
    exact ih.next (escape?_ne_nil c) (Scan.orElse_read (linesPiece_read hc _))
  | one c s hc _ ih =>
    have hrun : escapeLines 0 ('\x22' :: c :: s) = ['\x22'] ++ escapeLines 0 (c :: s) := by
      simp [escapeLines, hc]
    obtain ⟨d, u, hd, hne, -⟩ := head_escapeLines hc 0 s (tripleQuotes '\x22' ++ rest)
    have hlen : 2 ≤ (escapeLines 0 (c :: s) ++ (tripleQuotes '\x22' ++ rest)).length := by
      simp only [tripleQuotes, List.length_append, List.length_cons]
      omega
    rw [hrun]
    refine ih.next (a := ['\x22']) (List.cons_ne_nil _ _) (quoted (fewQuotes_one hlen ?_))
    simpa [hd] using hne
  | two c s hc _ ih =>
    have hrun : escapeLines 0 ('\x22' :: '\x22' :: c :: s) =
        ['\x22', '\x22'] ++ escapeLines 0 (c :: s) := by
      simp [escapeLines, hc]
    obtain ⟨d, u, hd, hne, -⟩ := head_escapeLines hc 0 s (tripleQuotes '\x22' ++ rest)
    rw [hrun]
    refine ih.next (a := ['\x22', '\x22']) (List.cons_ne_nil _ _) (quoted (fewQuotes_two ?_ ?_))
    · simp [hd]
    · simpa [hd] using hne
  | three s ih =>
    have hrun : escapeLines 0 ('\x22' :: '\x22' :: '\x22' :: s) =
        ['\x22', '\x22'] ++ (['\\', '\x22'] ++ escapeLines 0 s) := by
      simp [escapeLines]
    have hthird : Pieced '\x22' (Scan.orElse linesPiece (fewQuotes '\x22')) rest ('\x22' :: s)
        (['\\', '\x22'] ++ escapeLines 0 s) :=
      ih.next (a := ['\x22']) (List.cons_ne_nil _ _) (Scan.orElse_read (linesPiece_read_quote _))
    rw [hrun]
    exact hthird.next (a := ['\x22', '\x22']) (List.cons_ne_nil _ _)
      (quoted (fewQuotes_two (List.cons_ne_nil _ _) (by simp)))

theorem literalPiece_read (h : isControl c = false) (hq : c ≠ '\x27') (t : List Char) :
    literalPiece (c :: t) = .read [c] t := by
  by_cases hn : c = '\n'
  · subst hn
    rw [literalPiece, Scan.orElse_failed (Scan.bind_failed (Scan.oneOf_failed rfl))]
    rfl
  · exact Scan.orElse_read (Scan.bind_read (Scan.oneOf_read (isLiteral_of_not_control h hn hq) t))

theorem literalPiece_failed (t : List Char) :
    ∃ r, literalPiece ('\x27' :: t) = .failed false r := by
  rw [literalPiece, Scan.orElse_failed (Scan.bind_failed (Scan.oneOf_failed rfl))]
  exact ⟨_, rfl⟩

/-- One or two quotes with the piece behind them. -/
def literalQuoted : Scan (List Char) := do
  let qs ← fewQuotes '\x27'
  let t ← literalPiece
  pure (qs ++ t)

theorem pieced_literal (rest : List Char) {s : List Char} (hs : ∀ c ∈ s, isControl c = false)
    (hq : ¬ tripleQuotes '\x27' <:+: s) :
    Pieced '\x27' (Scan.orElse literalPiece literalQuoted) rest s s := by
  have quoted : ∀ {c : Char} {u t qs : List Char}, isControl c = false → c ≠ '\x27' →
      fewQuotes '\x27' ('\x27' :: u) = .read qs (c :: t) →
      Scan.orElse literalPiece literalQuoted ('\x27' :: u) = .read (qs ++ [c]) t := by
    intro c u t qs hc hne h
    obtain ⟨r, hr⟩ := literalPiece_failed u
    refine (Scan.orElse_failed hr).trans ?_
    rw [literalQuoted, Scan.bind_read h, Scan.bind_read (literalPiece_read hc hne t)]
    rfl
  induction s using quotes_induction (q := '\x27') with
  | last l hl =>
    refine Pieced.stop literalPiece_failed (fun u => ?_) hl
    exact ⟨_, Scan.bind_failed (fewQuotes_three _ u)⟩
  | plain c s hc ih =>
    have hs' := ih (fun d hd => hs d (.tail _ hd)) fun h => hq (h.trans ⟨[c], [], by simp⟩)
    exact hs'.next (w := [c]) (a := [c]) (List.cons_ne_nil _ _)
      (Scan.orElse_read (literalPiece_read (hs c (.head _)) hc _))
  | one c s hc ih _ =>
    have hs' := ih (fun d hd => hs d (by simp [hd])) fun h =>
      hq (h.trans ⟨['\x27', c], [], by simp⟩)
    refine hs'.next (w := ['\x27', c]) (a := ['\x27', c]) (List.cons_ne_nil _ _) ?_
    refine quoted (hs c (by simp)) hc (fewQuotes_one (t := c :: (s ++ _)) ?_ (by simpa using hc))
    simp only [tripleQuotes, List.length_append, List.length_cons]
    omega
  | two c s hc ih _ =>
    have hs' := ih (fun d hd => hs d (by simp [hd]))
      fun h => hq (h.trans ⟨['\x27', '\x27', c], [], by simp⟩)
    refine hs'.next (w := ['\x27', '\x27', c]) (a := ['\x27', '\x27', c]) (List.cons_ne_nil _ _) ?_
    exact quoted (hs c (by simp)) hc (fewQuotes_two (List.cons_ne_nil _ _) (by simpa using hc))
  | three s _ => exact absurd ⟨[], s, rfl⟩ hq

/-! ## Values and keys -/

theorem prefix_cons_of_not {c d : Char} (h : c ≠ d) (t : List Char) :
    ¬ tripleQuotes c <+: d :: t := by
  simp [tripleQuotes, h]

theorem basicLines_failed (h : ¬ tripleQuotes '\x22' <+: s) : basicLines s = .failed false s :=
  Scan.bind_failed (Scan.exactly_failed h)

theorem literalLines_failed (h : ¬ tripleQuotes '\x27' <+: s) : literalLines s = .failed false s :=
  Scan.bind_failed (Scan.exactly_failed h)

theorem string_basic (hr : rest.head? ≠ some '\x22') (s : List Char) :
    string ('\x22' :: (escapeLine s ++ ['\x22']) ++ rest) = .read s rest := by
  have ht : '\x22' :: (escapeLine s ++ ['\x22']) ++ rest =
      '\x22' :: (escapeLine s ++ '\x22' :: rest) := by simp
  rw [ht, string, Scan.orElse_failed (basicLines_failed (head_escapeLine hr s))]
  exact Scan.orElse_read (basicString_read s rest)

theorem string_literal (hr : rest.head? ≠ some '\x27') (h : ∀ c ∈ s, isLiteral c = true) :
    string ('\x27' :: (s ++ ['\x27']) ++ rest) = .read s rest := by
  have ht : '\x27' :: (s ++ ['\x27']) ++ rest = '\x27' :: (s ++ '\x27' :: rest) := by simp
  have hlines : ¬ tripleQuotes '\x27' <+: '\x27' :: (s ++ '\x27' :: rest) := by
    cases s with
    | nil =>
      cases rest with
      | nil => simp [tripleQuotes]
      | cons d rest => simpa [tripleQuotes, eq_comm] using hr
    | cons c s =>
      have : '\x27' ≠ c := fun hc => absurd (h c (.head _)) (by rw [← hc]; decide)
      simp [tripleQuotes, this]
  have hbasic : basicString ('\x27' :: (s ++ '\x27' :: rest)) =
      .failed false ('\x27' :: (s ++ '\x27' :: rest)) :=
    Scan.bind_failed (Scan.mark_failed (by simp))
  rw [ht, string, Scan.orElse_failed (basicLines_failed (prefix_cons_of_not (by decide) _)),
    Scan.orElse_failed hbasic, Scan.orElse_failed (literalLines_failed hlines)]
  exact literalString_read h rest

theorem string_basicLines {newline : Bool} (hr : rest.head? ≠ some '\x22')
    (hn : newline = false → '\n' ∉ s) :
    string (multiLine '\x22' newline (escapeLines 0 s) ++ rest) = .read s rest := by
  refine Scan.orElse_read (linesString_read (pieced_escapeLines rest s) (fun hf => ?_) hr)
  cases s with
  | nil => simp [escapeLines, tripleQuotes]
  | cons c s =>
    by_cases hc : c = '\x22'
    · simp [escapeLines, hc]
    · obtain ⟨d, u, hd, -, hline, hreturn⟩ := head_escapeLines hc 0 s (tripleQuotes '\x22' ++ rest)
      have hne : d ≠ '\n' := fun h => hn hf (hline h ▸ .head _)
      simp [hd, hne, hreturn]

theorem string_literalLines {newline : Bool} (hr : rest.head? ≠ some '\x27')
    (hs : ∀ c ∈ s, isControl c = false) (hq : ¬ tripleQuotes '\x27' <:+: s)
    (hn : newline = false → '\n' ∉ s) :
    string (multiLine '\x27' newline s ++ rest) = .read s rest := by
  have htext : multiLine '\x27' newline s ++ rest = '\x27' :: '\x27' :: '\x27' ::
      ((if newline then ['\n'] else []) ++ s ++ tripleQuotes '\x27' ++ rest) := by
    simp [multiLine, tripleQuotes]
  have hbasic : basicLines (multiLine '\x27' newline s ++ rest) =
      .failed false (multiLine '\x27' newline s ++ rest) :=
    basicLines_failed (by rw [htext]; exact prefix_cons_of_not (by decide) _)
  have hline : basicString (multiLine '\x27' newline s ++ rest) =
      .failed false (multiLine '\x27' newline s ++ rest) :=
    Scan.bind_failed (Scan.mark_failed (by rw [htext]; simp))
  rw [string, Scan.orElse_failed hbasic, Scan.orElse_failed hline]
  refine Scan.orElse_read (linesString_read (pieced_literal rest hs hq) (fun hf => ?_) hr)
  cases s with
  | nil => simp [tripleQuotes]
  | cons c s =>
    have hc : c ≠ '\n' := fun h => hn hf (h ▸ .head _)
    have hcr : c ≠ '\r' := fun h => absurd (hs c (.head _)) (by rw [h]; decide)
    simp [hc, hcr]

/-- The quotes of a text hold it. -/
theorem string_stringText (hr : rest.head? ∉ [some '\x22', some '\x27']) (s : List Char) :
    string (stringText s ++ rest) = .read s rest := by
  have hd : rest.head? ≠ some '\x22' := fun h => hr (by simp [h])
  have hs : rest.head? ≠ some '\x27' := fun h => hr (by simp [h])
  unfold stringText
  simp only
  split_ifs with h₁ h₂ h₃ h₄ h₅
  · exact string_basic hd s
  · simp only [Bool.and_eq_true, Bool.not_eq_true', decide_eq_true_eq, List.any_eq_false,
      Bool.not_eq_true, List.contains_eq_mem, decide_eq_false_iff_not] at h₂
    obtain ⟨⟨hc, hq⟩, hn⟩ := h₂
    exact string_literal hs fun c hm =>
      isLiteral_of_not_control (hc c hm) (fun h => hn (h ▸ hm))
        fun h => not_mem_of_longestRun hq (h ▸ hm)
  · exact string_basicLines hd (by simp)
  · simp only [Bool.and_eq_true, Bool.not_eq_true', decide_eq_true_eq, List.any_eq_false,
      Bool.not_eq_true] at h₄
    refine string_literalLines hs h₄.1 (fun h => ?_) (by simp)
    have := le_longestRun (k := 3) h
    omega
  · exact string_basicLines hd (by simp)
  · exact string_basic hd s

/-- Values written in quotes start with one. -/
theorem head_stringText (s : List Char) :
    ∃ t, stringText s = '\x22' :: t ∨ stringText s = '\x27' :: t := by
  unfold stringText
  simp only
  split_ifs <;> exact ⟨_, by first | exact .inl rfl | exact .inr rfl⟩

/-- The forms of a key. -/
theorem keyText_cases (s : List Char) :
    (keyText s = s ∧ s ≠ [] ∧ ∀ c ∈ s, isBare c = true) ∨
      keyText s = '\x22' :: (escapeLine s ++ ['\x22']) ∨
      (keyText s = '\x27' :: (s ++ ['\x27']) ∧ ∀ c ∈ s, isLiteral c = true) := by
  unfold keyText
  simp only
  split_ifs with h₁ h₂ h₃
  · exact .inl ⟨rfl, by simpa using h₁⟩
  · exact .inr (.inl rfl)
  · simp only [Bool.and_eq_true, Bool.not_eq_true', Bool.or_eq_false_iff, List.any_eq_false,
      Bool.not_eq_true, List.contains_eq_mem, decide_eq_false_iff_not] at h₃
    obtain ⟨⟨hc, hn⟩, hq⟩ := h₃
    exact .inr (.inr ⟨rfl, fun c hm =>
      isLiteral_of_not_control (hc c hm) (fun h => hn (h ▸ hm)) fun h => hq (h ▸ hm)⟩)
  · exact .inr (.inl rfl)

/-- Nothing that could belong to a key without quotes stands at the start. -/
def EndsKey (s : List Char) : Prop :=
  s.head?.any isBare = false

theorem isBare_ne_quote (h : isBare c = true) : c ≠ '\x22' ∧ c ≠ '\x27' :=
  ⟨fun hc => absurd h (by rw [hc]; decide), fun hc => absurd h (by rw [hc]; decide)⟩

/-- The text of a key is read back as its name, with the place where it began. -/
theorem simpleKey_keyText (hr : EndsKey rest) (s : List Char) :
    simpleKey (keyText s ++ rest) =
      .read ⟨String.ofList s, (keyText s ++ rest).length⟩ rest := by
  rcases keyText_cases s with ⟨he, hne, hs⟩ | he | ⟨he, hs⟩
  · obtain ⟨c, t, rfl⟩ := List.exists_cons_of_ne_nil hne
    obtain ⟨h₁, h₂⟩ := isBare_ne_quote (hs c (.head _))
    have hread : Scan.takeSome simpleKey.isBareChar (c :: t ++ rest) = .read (c :: t) rest :=
      Scan.takeSome_read hs hne hr
    rw [he]
    rw [List.cons_append] at hread ⊢
    simp [simpleKey, h₁, h₂, hread]
  · have ht : '\x22' :: (escapeLine s ++ ['\x22']) ++ rest =
        '\x22' :: (escapeLine s ++ '\x22' :: rest) := by simp
    rw [he, ht]
    simp only [simpleKey, basicString_read]
  · have ht : '\x27' :: (s ++ ['\x27']) ++ rest = '\x27' :: (s ++ '\x27' :: rest) := by simp
    rw [he, ht]
    simp only [simpleKey, literalString_read hs]

end TaskDriver.Toml
