import TaskDriver.Proofs.Toml.Inline

/-! The lines that are written are read one after the other. -/
namespace TaskDriver.Toml

variable {k : String} {v : Value} {ns : List String} {s rest : List Char} {limit : Nat}
  {d d' : Draft}

/-- No blank stands at the start of the next line. -/
def NoBlank (s : List Char) : Prop :=
  s.head?.any isBlankChar = false

theorem Firm.noBlank (h : Firm s) : NoBlank s :=
  h.not_blank

theorem noBlank_newline (s : List Char) : NoBlank ('\n' :: s) := rfl

theorem noBlank_bracket (s : List Char) : NoBlank ('[' :: s) := rfl

theorem lineRest_read (rest : List Char) : lineRest ('\n' :: rest) = .read () rest := by
  rw [lineRest, Scan.bind_read (blanks_none rfl),
    Scan.bind_read (Scan.optional_failed (comment_failed (by simp)))]
  rfl

/-- A line that was read is behind. -/
theorem lines_of_line (h : line limit d s = .read d' rest) (hs : rest.length < s.length) :
    lines limit d s = lines limit d' rest := by
  have hne : s.isEmpty = false := by
    cases s with
    | nil => cases hs
    | cons c s => rfl
  rw [lines, hne]
  simp only [Bool.false_eq_true, ↓reduceIte, h, hs, ↓reduceDIte]

/-- A line is read by what its first character calls for. -/
theorem lines_of_read {p : Scan Draft}
    (hline : line limit d s = (do let d ← p; blanks; pure d : Scan Draft) s)
    (h : p s = .read d' rest) (hs : rest.length < s.length) (hb : NoBlank rest) :
    lines limit d s = lines limit d' rest := by
  refine lines_of_line ?_ hs
  rw [hline, Scan.bind_read h, Scan.bind_read (blanks_none hb)]
  rfl

theorem lines_newline (h : NoBlank s) : lines limit d ('\n' :: s) = lines limit d s :=
  lines_of_read (p := do newline; pure d) rfl rfl (Nat.lt_succ_self _) h

theorem lines_comment {t : List Char} (ht : ∀ c ∈ t, isText c = true) (h : NoBlank s) :
    lines limit d ('#' :: (t ++ '\n' :: s)) = lines limit d s := by
  refine lines_of_read (p := Scan.settle (do comment; lineEnd; pure d)) rfl ?_ ?_ h
  · have hcomment : comment ('#' :: (t ++ '\n' :: s)) = .read () ('\n' :: s) := by
      rw [comment, Scan.bind_read (Scan.mark_read _ _), Scan.skipWhile,
        (Scan.takeWhile_span ht rfl).2]
    exact Scan.settle_read (Scan.bind_read hcomment)
  · simp only [List.length_cons, List.length_append]
    omega

theorem step_read {p : Scan (Option Draft)} (h : p s = .read (some d') rest) :
    step p s = .read d' rest :=
  Scan.settle_read (Scan.mapped_read h rfl)

/-- The line of an entry with a new name. -/
theorem lines_entry (hl : 0 < limit) (hv : v.Valid) (hd : v.depth ≤ limit)
    (hn : Entries.find? k d.current = none) (hb : NoBlank rest) :
    ∃ key item, key.name = k ∧ item.value = v.ordered ∧
      lines limit d (entryText (k, v) ++ '\n' :: rest) =
        lines limit { d with current := d.current ++ [(key, item)] } rest := by
  have hinline := readsInline hl hv hd
  obtain ⟨i, hi, hvalue⟩ := hinline.read ('\n' :: rest) (.line rest)
  obtain ⟨⟨path, key, item⟩, ha, hpath, hname, hitem⟩ := entry_read (k := k) [] (by simp) hl
    (hinline.firm _).1 hi hvalue (lineRest_read rest)
  simp only at hpath hname hitem
  subst hpath
  refine ⟨key, item, hname, hitem, lines_of_read (p := entryStep limit d) ?_ ?_ ?_ hb⟩
  · obtain ⟨c, t, hc, hstart⟩ := head_keyString k (" = ".toList ++ v.inline ++ '\n' :: rest)
    have htext : entryText (k, v) ++ '\n' :: rest = c :: t := by
      rw [← hc]
      simp [entryText]
    have hne : c ≠ '#' ∧ c ≠ '[' ∧ c ≠ '\n' ∧ c ≠ '\r' := by
      refine ⟨?_, ?_, ?_, ?_⟩ <;> rintro rfl <;> exact absurd hstart (by decide)
    rw [htext]
    unfold line
    simp only [bind]
    split <;> simp_all
  · refine step_read ((Scan.bind_read ha).trans ?_)
    simp only
    rw [add_spot (hname ▸ hn)]
    rfl
  · simp only [List.length_append, List.length_cons]
    omega

/-! ## Headers -/

theorem path_read (hl : ns.length < limit) (k : String) (s : List Char) :
    ∃ P q, key limit (pathText (ns ++ [k]) ++ ']' :: s) = .read (P ++ [q]) (']' :: s) ∧
      P.map Key.name = ns ∧ q.name = k := by
  obtain ⟨l, ls, hls⟩ := List.exists_cons_of_ne_nil (List.append_ne_nil_of_right_ne_nil ns
    (List.cons_ne_nil k []))
  have hlen : ls.length < limit := by
    have := congrArg List.length hls
    simp only [List.length_append, List.length_cons, List.length_nil] at this
    omega
  obtain ⟨keys, hkeys, hnames⟩ := key_read (k := l) (s := ']' :: s) [] ls (by simp) hlen rfl
    (by simp [afterBlanks, isBlankChar])
  rw [← hls] at hnames
  obtain ⟨P, t, rfl, hP, ht⟩ := List.map_eq_append_iff.mp hnames
  obtain ⟨q, t, rfl, hq, ht⟩ := List.map_eq_cons_iff.mp ht
  obtain rfl := List.map_eq_nil_iff.mp ht
  exact ⟨P, q, hls ▸ hkeys, hP, hq⟩

theorem pathText_head (ns : List String) (k : String) (s : List Char) :
    (pathText (ns ++ [k]) ++ s).head? ≠ some '[' := by
  obtain ⟨l, ls, hls⟩ := List.exists_cons_of_ne_nil (List.append_ne_nil_of_right_ne_nil ns
    (List.cons_ne_nil k []))
  rw [hls, pathText_cons, List.append_assoc]
  exact keyString_head_ne (by decide) _ _

/-- The header of a table opens it. -/
theorem lines_header (hl : ns.length < limit) (k : String) (hb : NoBlank rest) :
    ∃ P q place, P.map Key.name = ns ∧ q.name = k ∧ ∀ d d' : Draft,
      d.openTable (P ++ [q]) place = some d' →
        lines limit d (header (ns ++ [k]) ++ rest) = lines limit d' rest := by
  obtain ⟨P, q, hkeys, hP, hq⟩ := path_read hl k ('\n' :: rest)
  have htext : header (ns ++ [k]) ++ rest =
      '\n' :: '[' :: (pathText (ns ++ [k]) ++ ']' :: '\n' :: rest) := by
    simp [header]
  refine ⟨P, q, ('[' :: (pathText (ns ++ [k]) ++ ']' :: '\n' :: rest)).length, hP, hq,
    fun d d' hd' => ?_⟩
  rw [htext, lines_newline (noBlank_bracket _)]
  refine lines_of_read (p := headerStep limit d) rfl (step_read ?_) ?_ hb
  · have hshort : ¬ ('[' :: (pathText (ns ++ [k]) ++ ']' :: '\n' :: rest)).length < 2 := by
      simp only [List.length_cons, List.length_append]
      omega
    have hdouble : ¬ ['[', '['].isPrefixOf ('[' :: (pathText (ns ++ [k]) ++ ']' :: '\n' :: rest)) =
        true := by
      have := pathText_head ns k (']' :: '\n' :: rest)
      rw [List.isPrefixOf_iff_prefix]
      rintro ⟨t, ht⟩
      exact this (by rw [← (List.cons.inj ht).2]; rfl)
    rw [Scan.bind_read (p := Scan.ahead)
        (a := '[' :: (pathText (ns ++ [k]) ++ ']' :: '\n' :: rest)) rfl,
      if_neg hshort, if_neg hdouble, Scan.bind_read (Scan.mark_read _ _), Scan.bind_read hkeys,
      Scan.bind_read (Scan.mark_read _ _), Scan.bind_read (lineRest_read rest), hd']
    rfl
  · simp only [List.length_cons, List.length_append]
    omega

theorem lines_arrayHeader (hl : ns.length < limit) (k : String) (hb : NoBlank rest) :
    ∃ P q place, P.map Key.name = ns ∧ q.name = k ∧ ∀ d d' : Draft,
      d.openArrayTable (P ++ [q]) place = some d' →
        lines limit d (arrayHeader (ns ++ [k]) ++ rest) = lines limit d' rest := by
  obtain ⟨P, q, hkeys, hP, hq⟩ := path_read hl k (']' :: '\n' :: rest)
  have htext : arrayHeader (ns ++ [k]) ++ rest =
      '\n' :: '[' :: '[' :: (pathText (ns ++ [k]) ++ ']' :: ']' :: '\n' :: rest) := by
    simp [arrayHeader]
  refine ⟨P, q, ('[' :: '[' :: (pathText (ns ++ [k]) ++ ']' :: ']' :: '\n' :: rest)).length, hP, hq,
    fun d d' hd' => ?_⟩
  rw [htext, lines_newline (noBlank_bracket _)]
  refine lines_of_read (p := headerStep limit d) rfl (step_read ?_) ?_ hb
  · have hshort :
        ¬ ('[' :: '[' :: (pathText (ns ++ [k]) ++ ']' :: ']' :: '\n' :: rest)).length < 2 := by
      simp only [List.length_cons]
      omega
    rw [Scan.bind_read (p := Scan.ahead)
        (a := '[' :: '[' :: (pathText (ns ++ [k]) ++ ']' :: ']' :: '\n' :: rest)) rfl,
      if_neg hshort, if_pos (by rfl), Scan.bind_read (Scan.exactly_pair '[' '[' _),
      Scan.bind_read hkeys, Scan.bind_read (Scan.exactly_pair ']' ']' _),
      Scan.bind_read (lineRest_read rest), hd']
    rfl
  · simp only [List.length_cons, List.length_append]
    omega

end TaskDriver.Toml
