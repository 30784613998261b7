import Mathlib.Algebra.Group.Nat.Defs
import TaskDriver.Proofs.Text.Quoted
import TaskDriver.Proofs.Definition.Word

/-! A literal that was written from a value reads back as that value. This holds of a text in
quotes, whatever characters it has, and of a number in decimal digits. Neither of them reaches into
the text that follows. -/
namespace TaskDriver.Definition
open Text (hexDigit hexDigits escapeChar escapeCode escapeLetters unescaped)

/-! ## Codes in hexadecimal -/

theorem isHex_hexDigit {n : Nat} (h : n < 16) : isHex (hexDigit n) = true := by
  have : ∀ m : Fin 16, isHex (hexDigit m) = true := by decide
  exact this ⟨n, h⟩

theorem value_hexDigit {n : Nat} (h : n < 16) : hexValue (hexDigit n) = n := by
  have : ∀ m : Fin 16, hexValue (hexDigit m) = m := by decide
  exact this ⟨n, h⟩

theorem length_hexDigits_le {n k : Nat} (h : n < 16 ^ (k + 1)) : (hexDigits n).length ≤ k + 1 := by
  fun_induction hexDigits n generalizing k with
  | case1 n hn => simp
  | case2 n hn ih =>
    rw [List.length_append, List.length_singleton]
    cases k with
    | zero => exact absurd (by simpa using h) hn
    | succ k =>
      have : n / 16 < 16 ^ (k + 1) := Nat.div_lt_of_lt_mul (by rw [← Nat.pow_succ']; exact h)
      exact Nat.succ_le_succ (ih this)

theorem codePoint_hexDigit {n : Nat} (h : n < 16) {digits : Nat} (hd : digits < 6) (value : Nat)
    (r : List Char) :
    codePoint value digits (hexDigit n :: r) =
      (codePoint (value * 16 + n) (digits + 1) r).map fun (v, m) => (v, m + 1) := by
  rw [codePoint, if_pos (isHex_hexDigit h), if_neg (Nat.ne_of_lt hd), value_hexDigit h]

theorem codePoint_hexDigits (n : Nat) {digits : Nat} (h : digits + (hexDigits n).length ≤ 6)
    (r : List Char) :
    codePoint 0 digits (hexDigits n ++ r) =
      (codePoint n (digits + (hexDigits n).length) r).map
        fun (v, m) => (v, m + (hexDigits n).length) := by
  fun_induction hexDigits n generalizing r with
  | case1 n hn =>
    rw [List.singleton_append, codePoint_hexDigit hn h, Nat.zero_mul, Nat.zero_add]
    rfl
  | case2 n hn ih =>
    have hm : n % 16 < 16 := Nat.mod_lt n (by decide)
    rw [List.length_append, List.length_singleton] at h ⊢
    rw [List.append_assoc, List.singleton_append, ih (by omega), codePoint_hexDigit hm (by omega),
      Option.map_map, Nat.div_add_mod', Nat.add_assoc]
    refine congrArg (Option.map · _) ?_
    funext ⟨v, m⟩
    simp only [Function.comp_apply, Prod.mk.injEq, true_and]
    omega

theorem isScalar_toNat (c : Char) : isScalar c.toNat = true := by
  have h := c.valid
  rw [UInt32.isValidChar, Nat.isValidChar] at h
  change c.toNat < 0xD800 ∨ 0xDFFF < c.toNat ∧ c.toNat < 0x110000 at h
  simp only [isScalar, Bool.or_eq_true, Bool.and_eq_true, decide_eq_true_eq]
  omega

theorem bracedCode_hexDigits (c : Char) (r : List Char) :
    bracedCode ('\x7b' :: (hexDigits c.toNat ++ '\x7d' :: r)) =
      some (c.toNat, (hexDigits c.toNat).length + 2) := by
  have hs := isScalar_toNat c
  have hl : (hexDigits c.toNat).length ≤ 6 := by
    apply length_hexDigits_le
    simp only [isScalar, Bool.or_eq_true, Bool.and_eq_true, decide_eq_true_eq] at hs
    omega
  have hd : (hexDigits c.toNat).length ≠ 0 := by
    rw [hexDigits]
    split <;> simp
  rw [bracedCode, codePoint_hexDigits c.toNat (by omega), Nat.zero_add, codePoint,
    if_neg (by decide), if_neg hd, if_neg (by decide), if_pos (by simp [hs])]
  simp only [Option.map_some, Option.some.injEq, Prod.mk.injEq, true_and]
  omega

/-! ## Texts in quotes -/

theorem quotedLength_letter {k : Char} (h : k ∈ escapeLetters) (r : List Char) :
    quotedLength .text ('\\' :: k :: r) = (quotedLength .text r).map (· + 2) := by
  simp only [escapeLetters, List.mem_cons, List.not_mem_nil, or_false] at h
  rcases h with rfl | rfl | rfl | rfl | rfl | rfl <;> simp [quotedLength, escapeLength]

theorem quotedLength_code (c : Char) (r : List Char) :
    quotedLength .text (escapeCode c ++ r) =
      (quotedLength .text r).map (· + (escapeCode c).length) := by
  have hb := bracedCode_hexDigits c r
  have hd : ('\x7b' :: (hexDigits c.toNat ++ '\x7d' :: r)).drop
      ((hexDigits c.toNat).length + 2) = r := by
    simp
  simp only [escapeCode, List.cons_append, List.append_assoc, List.nil_append]
  rw [quotedLength]
  · simp [escapeLength, hb]
  all_goals simp

theorem quotedLength_plain {c : Char} (h : c ∉ ['\\', '\x22', '\r', '\n']) (r : List Char) :
    quotedLength .text (c :: r) = (quotedLength .text r).map (· + 1) := by
  simp only [List.mem_cons, List.not_mem_nil, or_false, not_or] at h
  rw [quotedLength]
  · simp [QuotedKind.allowsPlain]
  all_goals simp_all

theorem quotedLength_escapeChar (c : Char) (r : List Char) :
    quotedLength .text (escapeChar c ++ r) =
      (quotedLength .text r).map (· + (escapeChar c).length) := by
  rcases Text.escapeChar_cases c with ⟨k, hk, hc, _⟩ | hc | ⟨hc, hc'⟩ <;> rw [hc]
  · exact quotedLength_letter hk r
  · exact quotedLength_code c r
  · exact quotedLength_plain hc' r

/-- The quotes around a text are the first and the last quote that a scan finds. -/
theorem quotedLength_escaped (s r : List Char) :
    quotedLength .text (s.flatMap escapeChar ++ '\x22' :: r) =
      some ((s.flatMap escapeChar).length + 1) := by
  induction s with
  | nil => simp [quotedLength]
  | cons c s ih =>
    rw [List.flatMap_cons, List.append_assoc, quotedLength_escapeChar, ih, List.length_append]
    simp only [Option.map_some, Option.some.injEq]
    omega

theorem unquote_letter {k : Char} (h : k ∈ escapeLetters) (r : List Char) :
    unquote ('\\' :: k :: r) = unescaped k :: unquote r := by
  simp only [escapeLetters, List.mem_cons, List.not_mem_nil, or_false] at h
  rcases h with rfl | rfl | rfl | rfl | rfl | rfl <;> simp [unquote, unescaped]

theorem unquote_code (c : Char) (r : List Char) :
    unquote (escapeCode c ++ r) = c :: unquote r := by
  have hb := bracedCode_hexDigits c r
  simp only [escapeCode, List.cons_append, List.append_assoc, List.nil_append]
  rw [unquote]
  simp [hb]

theorem unquote_plain {c : Char} (h : c ∉ ['\\', '\x22', '\r', '\n']) (r : List Char) :
    unquote (c :: r) = c :: unquote r := by
  simp only [List.mem_cons, List.not_mem_nil, or_false, not_or] at h
  rw [unquote]
  all_goals simp_all

theorem unquote_escapeChar (c : Char) (r : List Char) :
    unquote (escapeChar c ++ r) = c :: unquote r := by
  rcases Text.escapeChar_cases c with ⟨k, hk, hc, hu⟩ | hc | ⟨hc, hc'⟩ <;> rw [hc]
  · exact hu ▸ unquote_letter hk r
  · exact unquote_code c r
  · exact unquote_plain hc' r

theorem unquote_escaped (s r : List Char) :
    unquote (s.flatMap escapeChar ++ '\x22' :: r) = s := by
  induction s with
  | nil => simp [unquote]
  | cons c s ih => rw [List.flatMap_cons, List.append_assoc, unquote_escapeChar, ih]

/-- A text in quotes is one literal up to its closing quote. -/
theorem literalLength_quoteChars (s : List Char) {r : List Char} (hr : EndsWord r) :
    literalLength (Text.quoteChars s ++ r) = some (Text.quoteChars s).length := by
  have hs : Text.quoteChars s ++ r = '\x22' :: (s.flatMap escapeChar ++ '\x22' :: r) := by
    rw [Text.quoteChars, List.cons_append, List.append_assoc, List.singleton_append]
  have hl : (Text.quoteChars s).length = (s.flatMap escapeChar).length + 1 + 1 := by
    rw [Text.quoteChars, List.length_cons, List.length_append, List.length_singleton]
  have hd : (Text.quoteChars s ++ r).drop ((s.flatMap escapeChar).length + 1 + 1) = r := by
    rw [← hl, List.drop_left]
  rw [hs] at hd ⊢
  rw [literalLength, quotedLiteral, List.drop_one, List.tail_cons, quotedLength_escaped,
    Option.map_some, hd, hr.wordLength, Option.some_or, hl]

theorem string?_quoteChars (s : List Char) :
    (Literal.spelled (Text.quoteChars s)).string? = some s := by
  rw [Text.quoteChars, Literal.string?, unquote_escaped]

/-! ## Numbers in decimal digits -/

/-- A text that does not go on with a number before it. -/
structure EndsNumber (r : List Char) : Prop where
  endsWord : EndsWord r
  noPoint : r.head? ≠ some '.'

variable {ds r : List Char}

theorem scanFraction_digits (hds : ∀ c ∈ ds, c.isDigit = true) (hr : EndsNumber r) (n : Nat) :
    scanFraction n false (ds ++ r) = some ⟨n + ds.length, false, false, r⟩ := by
  induction ds generalizing n with
  | nil =>
    cases r with
    | nil => rfl
    | cons c r =>
      have hd : c.isDigit = false := hr.endsWord.not_isDigit
      have ne : ∀ d, Text.isIdentContinue d = true → c ≠ d := fun _ => hr.endsWord.ne
      have hp : c ≠ '.' := fun h => hr.noPoint (by rw [h]; rfl)
      simp [scanFraction, hd, hp, ne '_' (by decide), ne 'e' (by decide), ne 'E' (by decide)]
  | cons c ds ih =>
    rw [List.cons_append, scanFraction, hds c (.head _), Bool.true_or, if_pos rfl,
      ih (fun d hd => hds d (.tail _ hd)), List.length_cons, Nat.add_assoc, Nat.add_comm 1]

theorem hexValue_of_isDigit {c : Char} (h : c.isDigit = true) : hexValue c = c.toNat - 48 := by
  rw [hexValue, if_pos h]

theorem hexValue_lt_of_isDigit {c : Char} (h : c.isDigit = true) : ¬ 10 ≤ hexValue c := by
  have := toNat_of_isDigit h
  rw [hexValue_of_isDigit h]
  omega

theorem isHex_cases {c : Char} (h : isHex c = true) :
    c.isDigit = true ∨ ∃ n : Fin 6, c = Char.ofNat (97 + n) ∨ c = Char.ofNat (65 + n) := by
  simp only [isHex, Bool.or_eq_true, Bool.and_eq_true, decide_eq_true_eq] at h
  rcases h with (h | h) | h
  · exact .inl h
  · obtain ⟨hl, hu⟩ : 97 ≤ c.toNat ∧ c.toNat ≤ 102 := h
    refine .inr ⟨⟨c.toNat - 97, by omega⟩, .inl ?_⟩
    rw [Nat.add_sub_cancel' hl, Char.ofNat_toNat]
  · obtain ⟨hl, hu⟩ : 65 ≤ c.toNat ∧ c.toNat ≤ 70 := h
    refine .inr ⟨⟨c.toNat - 65, by omega⟩, .inr ?_⟩
    rw [Nat.add_sub_cancel' hl, Char.ofNat_toNat]

theorem isIdentContinue_of_isHex {c : Char} (h : isHex c = true) :
    Text.isIdentContinue c = true := by
  have letters : ∀ n : Fin 6, Text.isIdentContinue (Char.ofNat (97 + n)) = true ∧
      Text.isIdentContinue (Char.ofNat (65 + n)) = true := by decide
  rcases isHex_cases h with h | ⟨n, rfl | rfl⟩
  · exact isIdentContinue_of_isDigit h
  · exact (letters n).1
  · exact (letters n).2

theorem le_hexValue {c : Char} (hd : c.isDigit = false) (hx : isHex c = true) :
    10 ≤ hexValue c := by
  have letters : ∀ n : Fin 6, 10 ≤ hexValue (Char.ofNat (97 + n)) ∧
      10 ≤ hexValue (Char.ofNat (65 + n)) := by decide
  rcases isHex_cases hx with h | ⟨n, rfl | rfl⟩
  · exact absurd h (by simp [hd])
  · exact (letters n).1
  · exact (letters n).2

theorem EndsWord.not_isHex {c : Char} (h : EndsWord (c :: r)) : isHex c = false := by
  rw [Bool.eq_false_iff]
  exact fun hx => h.ne (isIdentContinue_of_isHex hx) rfl

theorem digitsLength_digits (hds : ∀ c ∈ ds, c.isDigit = true) (hr : EndsWord r) (empty : Bool)
    (h : empty = false ∨ ds ≠ []) : digitsLength 10 empty (ds ++ r) = some ds.length := by
  induction ds generalizing empty with
  | nil =>
    obtain rfl := h.resolve_right (fun hne => hne rfl)
    cases r with
    | nil => rfl
    | cons c r =>
      have hd : c.isDigit = false := hr.not_isDigit
      have hx : isHex c = false := hr.not_isHex
      have hu : c ≠ '_' := hr.ne (by decide)
      simp [digitsLength, hd, hx, hu]
  | cons c ds ih =>
    have hc := hds c (.head _)
    rw [List.cons_append, digitsLength, if_pos hc, if_neg (hexValue_lt_of_isDigit hc),
      ih (fun d hd => hds d (.tail _ hd)) false (.inl rfl), Option.map_some, List.length_cons]

theorem withSuffix_endsWord (hr : EndsWord r) :
    withSuffix (ds ++ r) ds.length = some ds.length := by
  have hn : r.head?.any Text.isIdentContinue = false := by
    cases r with
    | nil => rfl
    | cons c r => exact hr c rfl
  rw [withSuffix, List.drop_left, hr.wordLength, Nat.add_zero, List.drop_left, hn]
  rfl

/-- After the first digit of a number there is another digit or no part of a word. -/
theorem second_of_digits (hds : ∀ c ∈ ds, c.isDigit = true) (hne : ds ≠ []) (hr : EndsWord r)
    {d : Char} (hd : Text.isIdentContinue d = true) (hd' : d.isDigit = false) (c : Char)
    (t : List Char) : ds ++ r ≠ c :: d :: t := by
  obtain ⟨e, ds, rfl⟩ := List.exists_cons_of_ne_nil hne
  intro h
  rw [List.cons_append] at h
  have ht := (List.cons.inj h).2
  cases ds with
  | nil =>
    rw [List.nil_append] at ht
    exact (ht ▸ hr : EndsWord (d :: t)).ne hd rfl
  | cons f ds =>
    obtain ⟨rfl, -⟩ := List.cons.inj ht
    exact absurd (hds f (.tail _ (.head _))) (by simp [hd'])

theorem integerLength_digits (hds : ∀ c ∈ ds, c.isDigit = true) (hne : ds ≠ []) (hr : EndsWord r) :
    integerLength (ds ++ r) = some ds.length := by
  have hdec : integerLength (ds ++ r) =
      (digitsLength 10 true (ds ++ r)).bind fun n => withSuffix (ds ++ r) n := by
    rw [integerLength]
    · rfl
    all_goals exact fun t h => second_of_digits hds hne hr (by decide) (by decide) _ t h
  rw [hdec, digitsLength_digits hds hr true (.inr hne), Option.bind_some, withSuffix_endsWord hr]

theorem fractionLength_digits (hds : ∀ c ∈ ds, c.isDigit = true) (hne : ds ≠ [])
    (hr : EndsNumber r) : fractionLength (ds ++ r) = none := by
  obtain ⟨c, ds, rfl⟩ := List.exists_cons_of_ne_nil hne
  rw [List.cons_append, fractionLength, if_pos (hds c (.head _)),
    scanFraction_digits (fun d hd => hds d (.tail _ hd)) hr]
  rfl

/-- The digits of a number are one literal. -/
theorem literalLength_digits (hds : ∀ c ∈ ds, c.isDigit = true) (hne : ds ≠ [])
    (hr : EndsNumber r) : literalLength (ds ++ r) = some ds.length := by
  have hfirst : ∀ d t, d.isDigit = false → ds ++ r ≠ d :: t := by
    rintro d t h ht
    obtain ⟨c, ds, rfl⟩ := List.exists_cons_of_ne_nil hne
    obtain ⟨rfl, -⟩ := List.cons.inj ht
    exact absurd (hds c (.head _)) (by simp [h])
  rw [literalLength]
  · rw [fractionLength_digits hds hne hr, integerLength_digits hds hne hr.endsWord,
      Option.none_or, Option.none_or]
  all_goals exact fun t h => hfirst _ _ (by decide) h

/-- Digits give the number that they spell, and leave no suffix. -/
theorem readDigits_digits (hds : ∀ c ∈ ds, c.isDigit = true) (value : Nat) (seen : Bool)
    (h : seen = true ∨ ds ≠ []) :
    readDigits 10 value seen ds = some (Nat.ofDigitChars 10 ds value, []) := by
  induction ds generalizing value seen with
  | nil =>
    obtain rfl := h.resolve_right (fun hne => hne rfl)
    rfl
  | cons c ds ih =>
    have hc := hds c (.head _)
    have hv : value * 10 + hexValue c = 10 * value + (c.toNat - '0'.toNat) := by
      rw [hexValue_of_isDigit hc, Nat.mul_comm]
      rfl
    rw [readDigits, Nat.ofDigitChars_cons, ← hv,
      ← ih (fun d hd => hds d (.tail _ hd)) _ true (.inl rfl)]
    simp [hc, hexValue_lt_of_isDigit hc]

theorem readInteger_digits (hds : ∀ c ∈ ds, c.isDigit = true) (hne : ds ≠ []) :
    readInteger ds = some (Nat.ofDigitChars 10 ds 0, []) := by
  have nil : EndsWord [] := fun _ h => nomatch h
  rw [readInteger]
  · rw [readDigits_digits hds 0 false (.inr hne)]
    rfl
  all_goals
    rintro t rfl
    exact second_of_digits (r := []) hds hne nil (by decide) (by decide) _ t (List.append_nil _)

theorem isDigit_of_mem_toString {n : Nat} {c : Char} (h : c ∈ (toString n).toList) :
    c.isDigit = true := by
  rw [Nat.toString_eq_repr, Nat.toList_repr] at h
  exact Nat.isDigit_of_mem_toDigits (by decide) (by decide) h

theorem toList_toString_ne_nil (n : Nat) : (toString n).toList ≠ [] := by
  rw [Nat.toString_eq_repr, Nat.toList_repr]
  exact Nat.toDigits_ne_nil

theorem literalLength_toString (n : Nat) (hr : EndsNumber r) :
    literalLength ((toString n).toList ++ r) = some (toString n).toList.length :=
  literalLength_digits (fun _ => isDigit_of_mem_toString) (toList_toString_ne_nil n) hr

theorem readInteger_toString (n : Nat) : readInteger (toString n).toList = some (n, []) := by
  rw [readInteger_digits (fun _ => isDigit_of_mem_toString) (toList_toString_ne_nil n),
    Nat.toString_eq_repr, Nat.toList_repr, Nat.ofDigitChars_ten_toDigits]

end TaskDriver.Definition
