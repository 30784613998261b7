import TaskDriver.Text.Quoted

/-! Quoted texts can be read back: a text in quotes tells the text and where it ends. -/
namespace TaskDriver.Text

/-! ## Hexadecimal digits -/

def hexValue (c : Char) : Nat :=
  if c.toNat < 58 then c.toNat - 48 else c.toNat - 87

theorem hexValue_hexDigit {n : Nat} (h : n < 16) : hexValue (hexDigit n) = n := by
  have : ∀ m : Fin 16, hexValue (hexDigit m) = m := by decide
  exact this ⟨n, h⟩

theorem hexDigit_ne_brace {n : Nat} (h : n < 16) : hexDigit n ≠ '\x7d' := by
  have : ∀ m : Fin 16, hexDigit m ≠ '\x7d' := by decide
  exact this ⟨n, h⟩

theorem hexDigits_value (n : Nat) : (hexDigits n).foldl (fun m c => 16 * m + hexValue c) 0 = n := by
  induction n using hexDigits.induct with
  | case1 n h =>
    rw [hexDigits, if_pos h]
    simp [hexValue_hexDigit h]
  | case2 n h ih =>
    rw [hexDigits, if_neg h, List.foldl_append, ih]
    have hm : n % 16 < 16 := Nat.mod_lt n (by decide)
    simp only [List.foldl_cons, List.foldl_nil, hexValue_hexDigit hm]
    omega

theorem hexDigits_injective {n m : Nat} (h : hexDigits n = hexDigits m) : n = m := by
  rw [← hexDigits_value n, h, hexDigits_value]

theorem brace_not_mem_hexDigits (n : Nat) : '\x7d' ∉ hexDigits n := by
  induction n using hexDigits.induct with
  | case1 n h =>
    rw [hexDigits, if_pos h, List.mem_singleton]
    exact (hexDigit_ne_brace h).symm
  | case2 n h ih =>
    rw [hexDigits, if_neg h, List.mem_append, List.mem_singleton]
    rintro (hm | hm)
    · exact ih hm
    · exact hexDigit_ne_brace (Nat.mod_lt n (by decide)) hm.symm

/-! ## Marked ends -/

/-- The first occurrence of a character splits a text in one way. -/
theorem append_cons_inj {c : Char} {s t r u : List Char} (hs : c ∉ s) (ht : c ∉ t)
    (h : s ++ c :: r = t ++ c :: u) : s = t ∧ r = u := by
  induction s generalizing t with
  | nil =>
    cases t with
    | nil => exact ⟨rfl, (List.cons.inj h).2⟩
    | cons d t => exact absurd (.head _) ((List.cons.inj h).1 ▸ ht)
  | cons d s ih =>
    cases t with
    | nil => exact absurd (.head _) ((List.cons.inj h).1 ▸ hs)
    | cons e t =>
      obtain ⟨rfl, h'⟩ := List.cons.inj h
      obtain ⟨rfl, rfl⟩ := ih (fun hm => hs (.tail _ hm)) (fun hm => ht (.tail _ hm)) h'
      exact ⟨rfl, rfl⟩

/-! ## Escapes -/

/-- The character that a letter stands for after a backslash. -/
def unescaped (c : Char) : Char :=
  if c = '0' then '\x00'
  else if c = 't' then '\t'
  else if c = 'r' then '\r'
  else if c = 'n' then '\n'
  else c

/-- The letters that stand after a backslash by themselves. -/
def escapeLetters : List Char :=
  ['0', 't', 'r', 'n', '\\', '\x22']

/-- The three forms of a character in quotes. -/
theorem escapeChar_cases (c : Char) :
    (∃ k ∈ escapeLetters, escapeChar c = ['\\', k] ∧ unescaped k = c) ∨
      escapeChar c = escapeCode c ∨ (escapeChar c = [c] ∧ c ∉ ['\\', '\x22', '\r', '\n']) := by
  unfold escapeChar
  by_cases h₁ : c = '\x00'
  · subst h₁
    exact .inl ⟨'0', by decide, rfl, rfl⟩
  by_cases h₂ : c = '\t'
  · subst h₂
    exact .inl ⟨'t', by decide, rfl, rfl⟩
  by_cases h₃ : c = '\r'
  · subst h₃
    exact .inl ⟨'r', by decide, rfl, rfl⟩
  by_cases h₄ : c = '\n'
  · subst h₄
    exact .inl ⟨'n', by decide, rfl, rfl⟩
  by_cases h₅ : c = '\\'
  · subst h₅
    exact .inl ⟨'\\', by decide, rfl, rfl⟩
  by_cases h₆ : c = '\x22'
  · subst h₆
    exact .inl ⟨'\x22', by decide, rfl, rfl⟩
  simp only [h₁, h₂, h₃, h₄, h₅, h₆, ↓reduceIte]
  right
  split
  · exact .inl rfl
  split
  · exact .inr ⟨rfl, by simp [h₃, h₄, h₅, h₆]⟩
  · exact .inl rfl

theorem escapeCode_append_inj {c d : Char} {s t : List Char}
    (h : escapeCode c ++ s = escapeCode d ++ t) : c = d ∧ s = t := by
  simp only [escapeCode, List.cons_append, List.append_assoc, List.cons.injEq, true_and,
    List.nil_append] at h
  obtain ⟨hn, rfl⟩ := append_cons_inj (brace_not_mem_hexDigits _) (brace_not_mem_hexDigits _) h
  exact ⟨Char.toNat_inj.mp (hexDigits_injective hn), rfl⟩

theorem escapeChar_append_inj {c d : Char} {s t : List Char}
    (h : escapeChar c ++ s = escapeChar d ++ t) : c = d ∧ s = t := by
  have letter_ne : 'u' ∉ escapeLetters := by decide
  have plain_ne : ∀ {c : Char}, c ∉ ['\\', '\x22', '\r', '\n'] → c ≠ '\\' := by
    rintro _ hn rfl
    exact hn (.head _)
  rcases escapeChar_cases c with ⟨j, hj, hc, rfl⟩ | hc | ⟨hc, hc'⟩ <;>
    rcases escapeChar_cases d with ⟨k, hk, hd, rfl⟩ | hd | ⟨hd, hd'⟩ <;> rw [hc, hd] at h
  · simp only [List.cons_append, List.nil_append, List.cons.injEq, true_and] at h
    exact ⟨congrArg unescaped h.1, h.2⟩
  · exact absurd ((List.cons.inj (List.cons.inj h).2).1 ▸ hj) letter_ne
  · exact absurd (List.cons.inj h).1.symm (plain_ne hd')
  · exact absurd ((List.cons.inj (List.cons.inj h).2).1.symm ▸ hk) letter_ne
  · exact escapeCode_append_inj h
  · exact absurd (List.cons.inj h).1.symm (plain_ne hd')
  · exact absurd (List.cons.inj h).1 (plain_ne hc')
  · exact absurd (List.cons.inj h).1 (plain_ne hc')
  · exact List.cons.inj h

/-- No escape starts with the quote that ends the text. -/
theorem escapeChar_ne_quote (c : Char) (s t : List Char) : escapeChar c ++ s ≠ '\x22' :: t := by
  rcases escapeChar_cases c with ⟨k, _, hc, _⟩ | hc | ⟨hc, hc'⟩ <;> rw [hc] <;> intro h
  · exact absurd (List.cons.inj h).1 (by decide)
  · exact absurd (List.cons.inj h).1 (by decide)
  · exact absurd (List.cons.inj h).1 (by rintro rfl; exact hc' (by decide))

theorem escaped_append_inj {s t r u : List Char}
    (h : s.flatMap escapeChar ++ '\x22' :: r = t.flatMap escapeChar ++ '\x22' :: u) :
    s = t ∧ r = u := by
  induction s generalizing t with
  | nil =>
    cases t with
    | nil => exact ⟨rfl, (List.cons.inj h).2⟩
    | cons d t =>
      rw [List.flatMap_cons, List.append_assoc] at h
      exact absurd h.symm (escapeChar_ne_quote d _ r)
  | cons c s ih =>
    cases t with
    | nil =>
      rw [List.flatMap_cons, List.append_assoc] at h
      exact absurd h (escapeChar_ne_quote c _ u)
    | cons d t =>
      rw [List.flatMap_cons, List.append_assoc, List.flatMap_cons, List.append_assoc] at h
      obtain ⟨rfl, h'⟩ := escapeChar_append_inj h
      obtain ⟨rfl, rfl⟩ := ih h'
      exact ⟨rfl, rfl⟩

theorem quoteChars_append_inj {s t r u : List Char}
    (h : quoteChars s ++ r = quoteChars t ++ u) : s = t ∧ r = u := by
  simp only [quoteChars, List.cons_append, List.append_assoc, List.nil_append, List.cons.injEq,
    true_and] at h
  exact escaped_append_inj h

/-! ## Lists of quoted texts -/

/-- What follows the first text of a list. -/
def further (xs : List String) : List Char :=
  xs.flatMap fun s => ',' :: ' ' :: quoteChars s.toList

theorem toList_intercalate_quote (x : String) (xs : List String) :
    (String.intercalate ", " ((x :: xs).map quote)).toList = quoteChars x.toList ++ further xs := by
  induction xs generalizing x with
  | nil => simp [quote, further]
  | cons y ys ih =>
    rw [List.map_cons, List.map_cons, String.intercalate_cons_cons, String.toList_append,
      String.toList_append, ← List.map_cons, ih]
    simp [quote, further]

theorem further_append_inj {xs ys : List String} {r u : List Char}
    (h : further xs ++ ']' :: r = further ys ++ ']' :: u) : xs = ys ∧ r = u := by
  induction xs generalizing ys with
  | nil =>
    cases ys with
    | nil => exact ⟨rfl, (List.cons.inj h).2⟩
    | cons y ys => exact absurd (List.cons.inj h).1 (by decide)
  | cons x xs ih =>
    cases ys with
    | nil => exact absurd (List.cons.inj h).1 (by decide)
    | cons y ys =>
      simp only [further, List.flatMap_cons, List.cons_append, List.append_assoc,
        List.cons.injEq, true_and] at h
      obtain ⟨hx, h'⟩ := quoteChars_append_inj h
      obtain ⟨rfl, rfl⟩ := ih h'
      exact ⟨by rw [String.toList_inj.mp hx], rfl⟩

theorem quoteList_append_inj {xs ys : List String} {r u : List Char}
    (h : (quoteList xs).toList ++ r = (quoteList ys).toList ++ u) : xs = ys ∧ r = u := by
  have hq : ∀ zs : List String, (quoteList zs).toList =
      '[' :: ((String.intercalate ", " (zs.map quote)).toList ++ [']']) := by
    intro zs
    simp [quoteList]
  rw [hq, hq] at h
  cases xs with
  | nil =>
    cases ys with
    | nil => exact ⟨rfl, by simpa using h⟩
    | cons y ys =>
      rw [toList_intercalate_quote] at h
      exact absurd (List.cons.inj (List.cons.inj h).2).1 (by decide)
  | cons x xs =>
    rw [toList_intercalate_quote] at h
    cases ys with
    | nil => exact absurd (List.cons.inj (List.cons.inj h).2).1 (by decide)
    | cons y ys =>
      rw [toList_intercalate_quote] at h
      simp only [List.cons_append, List.append_assoc, List.cons.injEq, true_and,
        List.nil_append] at h
      obtain ⟨hx, h'⟩ := quoteChars_append_inj h
      obtain ⟨rfl, rfl⟩ := further_append_inj h'
      exact ⟨by rw [String.toList_inj.mp hx], rfl⟩

end TaskDriver.Text
