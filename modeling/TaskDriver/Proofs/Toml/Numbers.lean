import TaskDriver.Proofs.Number.Shortest
import TaskDriver.Proofs.Toml.Scan
import TaskDriver.Toml.Document

/-! Numbers are read back: what is written as an integer or a floating-point number is not taken
for anything else. -/
namespace TaskDriver.Toml

open Number Binary64

variable {s ds rest : List Char}

/-! ## Digits -/

theorem digitGroups_read {p : Char → Bool} (hne : ds ≠ []) (h : ∀ c ∈ ds, p c = true)
    (hr : rest.head?.any p = false) (hu : rest.head? ≠ some '_') :
    digitGroups p (ds ++ rest) = .read ds rest := by
  obtain ⟨d, ds, rfl⟩ := List.exists_cons_of_ne_nil hne
  have hstop : Scan.orElse (Scan.oneOf p) (do .mark '_'; Scan.settle (Scan.oneOf p)) rest =
      .failed false rest :=
    (Scan.orElse_failed (Scan.oneOf_failed hr)).trans (Scan.bind_failed (Scan.mark_failed hu))
  obtain ⟨as, has, hR⟩ := Scan.many_pieces Eq (fun c => [c]) (fun _ => True) trivial hstop
    (fun (c : Char) (hc : c ∈ ds) t _ =>
      ⟨c, Scan.orElse_read (Scan.oneOf_read (h c (.tail _ hc)) t), rfl⟩)
    (fun _ _ _ => trivial) fun _ _ => List.cons_ne_nil _ _
  rw [List.forall₂_eq_eq_eq] at hR
  rw [List.flatMap_singleton', hR] at has
  rw [List.cons_append, digitGroups, Scan.bind_read (Scan.oneOf_read (h d (.head _)) _),
    Scan.bind_read has]
  rfl

theorem wholeDigits_read (h : WholeDigits ds) (hr : rest.head?.any Char.isDigit = false)
    (hu : rest.head? ≠ some '_') : wholeDigits (ds ++ rest) = .read ds rest := by
  rcases h.head with rfl | hz
  · rfl
  · obtain ⟨d, ds, rfl⟩ := List.exists_cons_of_ne_nil h.ne_nil
    have hd : d ≠ '0' := by simpa using hz
    have hread := digitGroups_read h.ne_nil h.isDigit hr hu
    unfold wholeDigits
    split
    · next r he => exact absurd (List.cons.inj he).1 hd
    · exact hread

/-- The sign of a negative number. -/
def signText (negative : Bool) : List Char :=
  if negative then ['-'] else []

def signOf (negative : Bool) : Option Char :=
  if negative then some '-' else none

theorem signOf_eq (negative : Bool) : decide (signOf negative = some '-') = negative := by
  cases negative <;> rfl

theorem sign_read {negative : Bool}
    (hs : s.head?.any (fun c => decide (c = '+' ∨ c = '-')) = false) :
    sign (signText negative ++ s) = .read (signOf negative) s := by
  cases negative with
  | true => exact Scan.optional_read (Scan.oneOf_read (by decide) s)
  | false => exact Scan.optional_failed (Scan.oneOf_failed hs)

theorem not_sign_of_wholeDigits (h : WholeDigits ds) (rest : List Char) :
    (ds ++ rest).head?.any (fun c => decide (c = '+' ∨ c = '-')) = false := by
  obtain ⟨d, ds, rfl⟩ := List.exists_cons_of_ne_nil h.ne_nil
  have hd := toNat_of_isDigit (h.isDigit d (.head _))
  have hplus : d ≠ '+' := by rintro rfl; exact absurd hd (by decide)
  have hminus : d ≠ '-' := by rintro rfl; exact absurd hd (by decide)
  simp [hplus, hminus]

/-! ## Not a date -/

theorem count_cases (n : Nat) (p : Char → Bool) (s : List Char) :
    Scan.count n p s = .failed false s ∨
      ∃ t r, s = t ++ r ∧ t.length = n ∧ (∀ c ∈ t, p c = true) ∧ Scan.count n p s = .read t r := by
  unfold Scan.count
  simp only
  split
  · next h =>
    exact .inr ⟨s.take n, s.drop n, (List.take_append_drop n s).symm, h.1,
      List.all_eq_true.mp h.2, rfl⟩
  · exact .inl rfl

/-- Behind some of the first digits stand more of them, or what stands behind them all. -/
theorem head_after_digits {t r u : List Char} (ht : ∀ c ∈ t, c.isDigit = true)
    (hds : ∀ c ∈ ds, c.isDigit = true) (hu : u.head?.any Char.isDigit = false)
    (h : t ++ r = ds ++ u) : r.head?.any Char.isDigit = true ∨ r = u := by
  rcases List.append_eq_append_iff.mp h with ⟨a, rfl, rfl⟩ | ⟨a, rfl, rfl⟩
  · cases a with
    | nil => exact .inr rfl
    | cons c a => exact .inl (by simpa using hds c (by simp))
  · cases a with
    | nil => exact .inr rfl
    | cons c a => simp [ht c (by simp)] at hu

/-- No date starts with digits behind which stands neither a hyphen nor a colon. -/
theorem datetime_failed (ds : List Char) {u : List Char} (hds : ∀ c ∈ ds, c.isDigit = true)
    (hu : u.head?.any Char.isDigit = false)
    (hne : ds ≠ [] → u.head? ≠ some '-' ∧ u.head? ≠ some ':') :
    ∃ r, datetime (ds ++ u) = .failed false r := by
  -- What stands behind a number of digits is not the mark of a date or a time.
  have mark : ∀ (c : Char) (t r : List Char), c.isDigit = false → 0 < t.length →
      (∀ d ∈ t, d.isDigit = true) → ds ++ u = t ++ r → (ds ≠ [] → u.head? ≠ some c) →
      Scan.mark c r = .failed false r := by
    intro c t r hc hlen ht he hcu
    refine Scan.mark_failed fun hr => ?_
    rcases head_after_digits ht hds hu he.symm with h | rfl
    · simp [hr, hc] at h
    · refine hcu ?_ hr
      rintro rfl
      have := congrArg List.length he
      simp only [List.nil_append, List.length_append] at this
      omega
  have hdate : ∃ r, fullDate (ds ++ u) = .failed false r := by
    rcases count_cases 4 Char.isDigit (ds ++ u) with hf | ⟨t, r, he, hlen, ht, hread⟩
    · exact ⟨_, Scan.bind_failed hf⟩
    · refine ⟨r, (Scan.bind_read hread).trans (Scan.bind_failed ?_)⟩
      exact mark '-' t r rfl (by omega) ht he fun h => (hne h).1
  have htime : ∃ r, partialTime (ds ++ u) = .failed false r := by
    rcases count_cases 2 Char.isDigit (ds ++ u) with hf | ⟨t, r, he, hlen, ht, hread⟩
    · exact ⟨_, Scan.bind_failed (Scan.mapped_failed hf)⟩
    · by_cases hn : 0 ≤ natOfDigits t ∧ natOfDigits t ≤ 23
      · refine ⟨r, (Scan.bind_read (Scan.mapped_read hread (if_pos hn))).trans
          (Scan.bind_failed ?_)⟩
        exact mark ':' t r rfl (by omega) ht he fun h => (hne h).2
      · exact ⟨_, Scan.bind_failed (Scan.mapped_none hread (if_neg hn))⟩
  obtain ⟨r₁, h₁⟩ := hdate
  obtain ⟨r₂, h₂⟩ := htime
  exact ⟨r₂, (Scan.orElse_failed (Scan.bind_failed h₁)).trans (Scan.bind_failed h₂)⟩

/-- Neither does one start with a sign. -/
theorem datetime_failed_signed (negative : Bool) (ds : List Char) {u : List Char}
    (hds : ∀ c ∈ ds, c.isDigit = true)
    (hu : u.head?.any Char.isDigit = false)
    (hne : ds ≠ [] → u.head? ≠ some '-' ∧ u.head? ≠ some ':') :
    ∃ r, datetime (signText negative ++ (ds ++ u)) = .failed false r := by
  cases negative with
  | true => exact datetime_failed [] (u := '-' :: (ds ++ u)) (by simp) rfl fun h => absurd rfl h
  | false => exact datetime_failed ds hds hu hne

theorem orElse_bind_failed {α β : Type} {p : Scan α} {f : α → β} {q : Scan β} {r : List Char}
    (h : p s = .failed false r) : Scan.orElse (do pure (f (← p))) q s = q s :=
  Scan.orElse_failed (Scan.bind_failed h)

/-! ## Integers -/

theorem toList_toString_int (i : Int) :
    (toString i).toList = signText (i < 0) ++ digitsOf i.natAbs := by
  rw [Int.toString_eq_repr]
  cases i with
  | ofNat n =>
    have h : ¬ Int.ofNat n < 0 := by simp
    rw [Int.repr, ← Nat.toString_eq_repr, toList_toString, decide_eq_false h]
    rfl
  | negSucc n =>
    rw [Int.repr, String.toList_append, ← Nat.toString_eq_repr, toList_toString,
      decide_eq_true (Int.negSucc_lt_zero n)]
    rfl

theorem signedValue_signOf (i : Int) : signedValue (signOf (i < 0)) i.natAbs = i := by
  unfold signedValue
  by_cases h : i < 0
  · rw [decide_eq_true h, if_pos (by rfl)]
    omega
  · rw [decide_eq_false h, if_neg (by decide)]
    omega

theorem floatText_failed (negative : Bool) (h : WholeDigits ds) (hr : EndsValue rest) :
    floatText (signText negative ++ (ds ++ rest)) = .failed false rest := by
  have hexponent : (do let e ← exponentPart; pure ([], e) : Scan (List Char × Int)) rest =
      .failed false rest :=
    Scan.bind_failed (Scan.bind_failed (Scan.oneOf_failed (hr.head_not (by decide))))
  have hplaces : (do
      let places ← placesPart
      let e ← Scan.optional exponentPart
      pure (places, e.getD 0) : Scan (List Char × Int)) rest = .failed false rest :=
    Scan.bind_failed (Scan.bind_failed (Scan.mark_failed (hr.head_ne (by decide))))
  rw [floatText, Scan.bind_read (sign_read (not_sign_of_wholeDigits h rest)),
    Scan.bind_read (wholeDigits_read h (hr.head_not (by decide)) (hr.head_ne (by decide)))]
  exact Scan.bind_failed ((Scan.orElse_failed hexponent).trans hplaces)

theorem float_of_failed {r : List Char} (h : floatText s = .failed false r) :
    float s = specialFloat s := by
  simp only [float, h]

theorem float_failed (negative : Bool) (h : WholeDigits ds) (hr : EndsValue rest) :
    ∃ r, float (signText negative ++ (ds ++ rest)) = .failed false r := by
  obtain ⟨d, ds, rfl⟩ := List.exists_cons_of_ne_nil h.ne_nil
  have hd := toNat_of_isDigit (h.isDigit d (.head _))
  have hi : d ≠ 'i' := by rintro rfl; exact absurd hd (by decide)
  have hn : d ≠ 'n' := by rintro rfl; exact absurd hd (by decide)
  have hspecial : specialFloat (signText negative ++ (d :: ds ++ rest)) =
      .failed false (d :: ds ++ rest) := by
    rw [specialFloat, Scan.bind_read (sign_read (not_sign_of_wholeDigits h rest)),
      orElse_bind_failed (Scan.exactly_failed (by simp [hi.symm]))]
    exact Scan.bind_failed (Scan.exactly_failed (by simp [hn.symm]))
  exact ⟨_, (float_of_failed (floatText_failed negative h hr)).trans hspecial⟩

/-- The integers of a file. -/
def InRange (i : Int) : Prop :=
  -0x8000000000000000 ≤ i ∧ i < 0x8000000000000000

/-- No letter of another base stands behind the digits. -/
theorem integer_eq_decimal (negative : Bool) (h : WholeDigits ds) (hr : EndsValue rest) :
    integer (signText negative ++ (ds ++ rest)) =
      decimalInteger (signText negative ++ (ds ++ rest)) := by
  cases negative with
  | true => rfl
  | false =>
    rcases h.head with rfl | hz
    · cases hr <;> rfl
    · obtain ⟨d, ds, rfl⟩ := List.exists_cons_of_ne_nil h.ne_nil
      have hd : d ≠ '0' := by simpa using hz
      simp [integer, signText, hd]

theorem integer_read {i : Int} (hi : InRange i) (hr : EndsValue rest) :
    integer ((toString i).toList ++ rest) = .read i rest := by
  have h := wholeDigits_digitsOf i.natAbs
  have hread :
      (do let m ← sign; let ds ← wholeDigits; pure (m, ds) : Scan (Option Char × List Char))
      (signText (i < 0) ++ (digitsOf i.natAbs ++ rest)) =
      .read (signOf (i < 0), digitsOf i.natAbs) rest := by
    rw [Scan.bind_read (sign_read (not_sign_of_wholeDigits h rest)),
      Scan.bind_read (wholeDigits_read h (hr.head_not (by decide)) (hr.head_ne (by decide)))]
    rfl
  have hrange : inRange i = some i := if_pos hi
  rw [toList_toString_int, List.append_assoc, integer_eq_decimal _ h hr, decimalInteger]
  simp only [hread, natOfDigits_digitsOf, signedValue_signOf, hrange]

theorem number_integer {i : Int} (hi : InRange i) (hr : EndsValue rest) :
    number ((toString i).toList ++ rest) = .read (.integer i) rest := by
  have h := wholeDigits_digitsOf i.natAbs
  have htext : (toString i).toList ++ rest =
      signText (i < 0) ++ (digitsOf i.natAbs ++ rest) := by
    rw [toList_toString_int, List.append_assoc]
  obtain ⟨r₁, hdate⟩ := datetime_failed_signed (i < 0) _ h.isDigit (hr.head_not (by decide))
    fun _ => ⟨hr.head_ne (by decide), hr.head_ne (by decide)⟩
  obtain ⟨r₂, hfloat⟩ := float_failed (i < 0) h hr
  rw [← htext] at hdate hfloat
  rw [number, orElse_bind_failed hdate, orElse_bind_failed hfloat]
  exact Scan.bind_read (integer_read hi hr)

/-! ## Floating-point numbers -/

theorem floatText_read {ps : List Char} (negative : Bool) (h : WholeDigits ds) (hne : ps ≠ [])
    (hp : ∀ c ∈ ps, c.isDigit = true) (hr : EndsValue rest) :
    floatText (signText negative ++ (ds ++ '.' :: (ps ++ rest))) =
      .read ⟨negative, ⟨ds, ps, 0⟩⟩ rest := by
  have hexponent : ∀ {t : List Char}, (t.head? = some '.' ∨ EndsValue t) →
      exponentPart t = .failed false t := by
    intro t ht
    refine Scan.bind_failed (Scan.oneOf_failed ?_)
    rcases ht with ht | ht
    · rw [ht]
      rfl
    · exact ht.head_not (by decide)
  have hplaces : placesPart ('.' :: (ps ++ rest)) = .read ps rest :=
    (Scan.bind_read (Scan.mark_read _ _)).trans (Scan.settle_read (digitGroups_read hne hp
      (hr.head_not (by decide)) (hr.head_ne (by decide))))
  rw [floatText, Scan.bind_read (sign_read (not_sign_of_wholeDigits h _)),
    Scan.bind_read (wholeDigits_read h rfl (by simp))]
  refine (Scan.bind_read (a := (ps, 0)) (r := rest) ?_).trans ?_
  · rw [Scan.orElse_failed (Scan.bind_failed (hexponent (.inl rfl))), Scan.bind_read hplaces,
      Scan.bind_read (Scan.optional_failed (hexponent (.inr hr)))]
    rfl
  · simp only [signOf_eq]
    rfl

/-- A floating-point number in the one form that it has. -/
def IsFloat : Binary64 → Prop
  | .finite _ m e => Canonical m e
  | _ => True

theorem toList_positional (negative : Bool) (m : Nat) (e : Int) :
    (Binary64.positional (.finite negative m e)).toList =
      signText negative ++ (shortest m e).positional := by
  cases negative <;> exact String.toList_ofList

theorem number_finite {m : Nat} {e : Int} (h : Canonical m e) (negative : Bool)
    (hr : EndsValue rest) :
    number ((Binary64.positional (.finite negative m e)).toList ++ rest) =
      .read (.float (.finite negative m e)) rest := by
  obtain ⟨ds, ps, htext, hds, hne, hps, hvalue⟩ := shortest_spelled h
  have ht : (Binary64.positional (.finite negative m e)).toList ++ rest =
      signText negative ++ (ds ++ '.' :: (ps ++ rest)) := by
    simp [toList_positional, htext]
  obtain ⟨r, hdate⟩ := datetime_failed_signed negative ds (u := '.' :: (ps ++ rest)) hds.isDigit rfl
    fun _ => by simp
  have hfloat : float (signText negative ++ (ds ++ '.' :: (ps ++ rest))) =
      .read (.finite negative m e) rest := by
    simp only [float, floatText_read negative hds hne hps hr, FloatText.value, hvalue]
  rw [ht, number, orElse_bind_failed hdate]
  exact Scan.orElse_read (Scan.bind_read hfloat)

theorem number_minus_infinity (rest : List Char) :
    number ('-' :: ("inf".toList ++ rest)) = .read (.float (.infinite true)) rest := by
  obtain ⟨r, hdate⟩ := datetime_failed_signed true [] (u := "inf".toList ++ rest) (by simp) rfl
    fun h => absurd rfl h
  have hfloat : float ('-' :: ("inf".toList ++ rest)) = .read (.infinite true) rest := rfl
  exact (orElse_bind_failed hdate).trans (Scan.orElse_read (Scan.bind_read hfloat))

/-! ## The choice by the first character -/

/-- The first characters of numbers. -/
def StartsNumber (s : List Char) : Prop :=
  ∃ c t, s = c :: t ∧ (c = '-' ∨ c.isDigit = true)

theorem startsNumber_signed (negative : Bool) (h : WholeDigits ds) (rest : List Char) :
    StartsNumber (signText negative ++ (ds ++ rest)) := by
  cases negative with
  | true => exact ⟨'-', ds ++ rest, rfl, .inl rfl⟩
  | false =>
    obtain ⟨d, ds, rfl⟩ := List.exists_cons_of_ne_nil h.ne_nil
    exact ⟨d, ds ++ rest, rfl, .inr (h.isDigit d (.head _))⟩

theorem startsNumber_integer (i : Int) (rest : List Char) :
    StartsNumber ((toString i).toList ++ rest) := by
  rw [toList_toString_int, List.append_assoc]
  exact startsNumber_signed _ (wholeDigits_digitsOf _) rest

theorem leaf_number (h : StartsNumber s) : leaf s = number s := by
  obtain ⟨c, t, rfl, hc⟩ := h
  have hquote : ¬ (c = '\x22' ∨ c = '\x27') := by
    rintro (rfl | rfl) <;> exact absurd hc (by decide)
  have hnumber : c = '+' ∨ c = '-' ∨ c.isDigit = true := .inr hc
  simp only [leaf, hquote, hnumber, ↓reduceIte]

theorem leaf_integer {i : Int} (hi : InRange i) (hr : EndsValue rest) :
    leaf ((toString i).toList ++ rest) = .read (.integer i) rest :=
  (leaf_number (startsNumber_integer i rest)).trans (number_integer hi hr)

theorem startsNumber_finite {m : Nat} {e : Int} (h : Canonical m e) (negative : Bool)
    (rest : List Char) :
    StartsNumber ((Binary64.positional (.finite negative m e)).toList ++ rest) := by
  obtain ⟨ds, ps, htext, hds, -⟩ := shortest_spelled h
  rw [toList_positional, htext, List.append_assoc, List.append_assoc]
  exact startsNumber_signed negative hds _

theorem leaf_float {x : Binary64} (hx : IsFloat x) (hr : EndsValue rest) :
    leaf (x.positional.toList ++ rest) = .read (.float x) rest := by
  match x, hx with
  | .nan, _ => rfl
  | .infinite false, _ => rfl
  | .infinite true, _ => exact number_minus_infinity rest
  | .finite negative m e, h =>
    exact (leaf_number (startsNumber_finite h negative rest)).trans (number_finite h negative hr)

end TaskDriver.Toml
