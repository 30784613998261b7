import TaskDriver.Proofs.Toml.Numbers

/-! Dates and times are read back. -/
namespace TaskDriver.Toml

open Number Binary64

variable {rest : List Char}

structure Date.Valid (d : Date) : Prop where
  year : d.year ≤ 9999
  month : 1 ≤ d.month ∧ d.month ≤ 12
  day : 1 ≤ d.day ∧ d.day ≤ daysIn d.year d.month

/-- A minute may have a leap second. -/
structure Time.Valid (t : Time) : Prop where
  hour : t.hour ≤ 23
  minute : t.minute ≤ 59
  second : t.second ≤ 60
  nanosecond : t.nanosecond < 1000000000

def Offset.Valid : Offset → Prop
  | .utc => True
  | .minutes m => m.natAbs < 24 * 60

/-- The dates and times of a file. -/
inductive Datetime.Valid : Datetime → Prop
  | date {d : Date} : d.Valid → Valid ⟨some d, none, none⟩
  | time {t : Time} : t.Valid → Valid ⟨none, some t, none⟩
  | local {d : Date} {t : Time} : d.Valid → t.Valid → Valid ⟨some d, some t, none⟩
  | offset {d : Date} {t : Time} {o : Offset} : d.Valid → t.Valid → o.Valid →
    Valid ⟨some d, some t, some o⟩

theorem daysIn_le (year month : Nat) : daysIn year month ≤ 31 := by
  unfold daysIn
  split_ifs <;> decide

theorem digits_read {w n : Nat} (hw : 0 < w) (hn : n < 10 ^ w) (s : List Char) :
    Scan.count w Char.isDigit (zeroPadded w n ++ s) = .read (zeroPadded w n) s :=
  Scan.count_read (length_zeroPadded hw hn) (fun _ => isDigit_of_mem_zeroPadded) s

theorem twoDigits_read {low high n : Nat} (hlow : low ≤ n) (hhigh : n ≤ high) (hn : n < 100)
    (s : List Char) : twoDigits low high (zeroPadded 2 n ++ s) = .read n s := by
  refine Scan.mapped_read (digits_read (by decide) hn s) ?_
  simp only [natOfDigits_zeroPadded]
  exact if_pos ⟨hlow, hhigh⟩

theorem fullDate_read {d : Date} (h : d.Valid) (s : List Char) :
    fullDate (d.text ++ s) = .read d s := by
  have hdays := daysIn_le d.year d.month
  have htext : d.text ++ s =
      zeroPadded 4 d.year ++ '-' :: (zeroPadded 2 d.month ++ '-' :: (zeroPadded 2 d.day ++ s)) := by
    simp [Date.text]
  have hday : Scan.mapped (twoDigits 1 31)
      (fun n => if n ≤ daysIn d.year d.month then some n else none)
      (zeroPadded 2 d.day ++ s) = .read d.day s := by
    obtain ⟨h₁, h₂⟩ := h.day
    exact Scan.mapped_read (twoDigits_read h₁ (by omega) (by omega) s) (if_pos h₂)
  obtain ⟨h₁, h₂⟩ := h.month
  rw [htext, fullDate, Scan.bind_read (digits_read (by decide) (Nat.lt_succ_of_le h.year) _),
    Scan.bind_read (Scan.mark_read _ _)]
  refine Scan.settle_read ?_
  rw [natOfDigits_zeroPadded, Scan.bind_read (twoDigits_read h₁ h₂ (by omega) _),
    Scan.bind_read (Scan.mark_read _ _), Scan.bind_read hday]
  rfl

/-! ## Times of day -/

/-- A fraction of a second ends here. -/
def EndsTime (s : List Char) : Prop :=
  s.head?.any (fun c => c.isDigit || c = '.') = false

theorem EndsTime.not_digit {s : List Char} (h : EndsTime s) : s.head?.any Char.isDigit = false := by
  cases s with
  | nil => rfl
  | cons c s => simp_all [EndsTime]

theorem EndsTime.not_point {s : List Char} (h : EndsTime s) : s.head? ≠ some '.' := by
  cases s with
  | nil => simp
  | cons c s => simp_all [EndsTime]

theorem fraction_read {n : Nat} (hn : n < 1000000000) {s : List Char} (hs : EndsTime s) :
    ∃ o, Scan.optional secondFraction (fractionText n ++ s) = .read o s ∧ o.getD 0 = n := by
  unfold fractionText
  split
  · next h =>
    exact ⟨none, Scan.optional_failed (Scan.bind_failed (Scan.mark_failed hs.not_point)), h.symm⟩
  · next h =>
    obtain ⟨k, hk⟩ := append_cutZeros (zeroPadded 9 n)
    generalize ((zeroPadded 9 n).reverse.dropWhile (· = '0')).reverse = ds at hk ⊢
    have hds : ∀ c ∈ ds, c.isDigit = true := fun c hc =>
      isDigit_of_mem_zeroPadded (w := 9) (n := n) (hk ▸ List.mem_append_left _ hc)
    have hne : ds ≠ [] := by
      rintro rfl
      have := congrArg natOfDigits hk
      rw [List.nil_append, natOfDigits_zeros, natOfDigits_zeroPadded] at this
      exact h this.symm
    have hvalue : nanosecondsOf ds = n := by
      have hlen := congrArg List.length hk
      rw [List.length_append, List.length_replicate, length_zeroPadded (by decide) hn] at hlen
      have htake : (ds ++ List.replicate 9 '0').take 9 = zeroPadded 9 n := by
        rw [← hk, List.take_append, List.take_of_length_le (by omega), List.take_replicate]
        congr 2
        omega
      rw [nanosecondsOf, htake, natOfDigits_zeroPadded]
    refine ⟨some n, Scan.optional_read ?_, rfl⟩
    rw [List.cons_append, secondFraction, Scan.bind_read (Scan.mark_read _ _),
      Scan.bind_read (Scan.takeSome_read hds hne hs.not_digit), hvalue]
    rfl

theorem partialTime_read {t : Time} (h : t.Valid) {s : List Char} (hs : EndsTime s) :
    partialTime (t.text ++ s) = .read t s := by
  obtain ⟨hhour, hminute, hsecond, hnano⟩ := h
  obtain ⟨o, hfraction, ho⟩ := fraction_read hnano hs
  have htext : t.text ++ s = zeroPadded 2 t.hour ++ ':' :: (zeroPadded 2 t.minute ++
      ':' :: (zeroPadded 2 t.second ++ (fractionText t.nanosecond ++ s))) := by
    simp [Time.text]
  rw [htext, partialTime, Scan.bind_read (twoDigits_read (Nat.zero_le _) hhour (by omega) _),
    Scan.bind_read (Scan.mark_read _ _)]
  refine Scan.settle_read ?_
  rw [Scan.bind_read (twoDigits_read (Nat.zero_le _) hminute (by omega) _),
    Scan.bind_read (Scan.mark_read _ _),
    Scan.bind_read (twoDigits_read (Nat.zero_le _) hsecond (by omega) _),
    Scan.bind_read hfraction, ho]
  rfl

theorem timeOffset_read {o : Offset} (h : o.Valid) (s : List Char) :
    timeOffset (o.text ++ s) = .read o s := by
  cases o with
  | utc => rfl
  | minutes m =>
    have hm : m.natAbs < 24 * 60 := h
    have hread : ∀ c ∈ ['+', '-'],
        timeOffset
          (c :: (zeroPadded 2 (m.natAbs / 60) ++ ':' :: (zeroPadded 2 (m.natAbs % 60) ++ s))) =
          .read (.minutes (signedValue (some c) m.natAbs)) s := by
      intro c hc
      have hsign : ¬ (c = 'Z' ∨ c = 'z') ∧ (c = '+' ∨ c = '-') := by
        rcases List.mem_pair.mp hc with rfl | rfl <;> decide
      rw [timeOffset, Scan.bind_read (Scan.oneOf_read (by simp [hsign.2]) _), if_neg hsign.1]
      refine Scan.settle_read ?_
      rw [Scan.bind_read (twoDigits_read (Nat.zero_le _) (by omega) (by omega) _),
        Scan.bind_read (Scan.mark_read _ _),
        Scan.bind_read (twoDigits_read (Nat.zero_le _) (by omega) (by omega) _), Nat.div_add_mod']
      rfl
    by_cases hneg : m < 0
    · have hvalue : signedValue (some '-') m.natAbs = m := by
        rw [signedValue, if_pos rfl]
        omega
      have := hread '-' (by simp)
      rw [hvalue] at this
      simpa [Offset.text, hneg] using this
    · have hvalue : signedValue (some '+') m.natAbs = m := by
        rw [signedValue, if_neg (by decide)]
        omega
      have := hread '+' (by simp)
      rw [hvalue] at this
      simpa [Offset.text, hneg] using this

/-! ## Together -/

theorem EndsValue.endsTime (h : EndsValue rest) : EndsTime rest :=
  h.head_not (by decide)

theorem endsTime_offset (o : Offset) (s : List Char) : EndsTime (o.text ++ s) := by
  cases o with
  | utc => rfl
  | minutes m =>
    by_cases h : m < 0 <;> simp [EndsTime, Offset.text, h]

/-- A date without a time may stand before the blank at the end of a table in braces. -/
theorem no_time (hr : EndsValue rest) : Scan.optional (do
    let _ ← Scan.oneOf fun c => c = 'T' ∨ c = 't' ∨ c = ' '
    let time ← partialTime
    let offset ← Scan.optional timeOffset
    pure (time, offset) : Scan (Time × Option Offset)) rest = .read none rest := by
  cases hr with
  | line t => rfl
  | next t => rfl
  | array t => rfl
  | braces t =>
    have htime : partialTime ('\x7d' :: t) = .failed false ('\x7d' :: t) :=
      Scan.bind_failed (Scan.mapped_failed (Scan.count_failed (t := []) (by decide) rfl t))
    exact Scan.optional_failed ((Scan.bind_read (Scan.oneOf_read (by decide) _)).trans
      (Scan.bind_failed htime))

theorem no_offset (hr : EndsValue rest) : Scan.optional timeOffset rest = .read none rest :=
  Scan.optional_failed (Scan.bind_failed (Scan.oneOf_failed (hr.head_not (by decide))))

theorem datetime_read {d : Datetime} (h : d.Valid) (hr : EndsValue rest) :
    datetime (d.text ++ rest) = .read d rest := by
  have both : ∀ {d : Date} {t : Time} {o : Option Offset} {s : List Char}, d.Valid → t.Valid →
      EndsTime s → Scan.optional timeOffset s = .read o rest →
      datetime (d.text ++ 'T' :: (t.text ++ s)) = .read ⟨some d, some t, o⟩ rest := by
    intro d t o s hd ht hs ho
    refine Scan.orElse_read ?_
    rw [Scan.bind_read (fullDate_read hd _)]
    refine (Scan.bind_read (a := some (t, o)) (r := rest) (Scan.optional_read ?_)).trans rfl
    rw [Scan.bind_read (Scan.oneOf_read (by decide) _), Scan.bind_read (partialTime_read ht hs),
      Scan.bind_read ho]
    rfl
  cases h with
  | @date d hd =>
    have htext : Datetime.text ⟨some d, none, none⟩ ++ rest = d.text ++ rest := by
      simp [Datetime.text]
    rw [htext]
    refine Scan.orElse_read ?_
    rw [Scan.bind_read (fullDate_read hd _), Scan.bind_read (no_time hr)]
    rfl
  | @time t ht =>
    have htext : Datetime.text ⟨none, some t, none⟩ ++ rest = t.text ++ rest := by
      simp [Datetime.text]
    have hdate : fullDate (t.text ++ rest) = .failed false (t.text ++ rest) := by
      have hlen := length_zeroPadded (w := 2) (n := t.hour) (by decide) (by have := ht.hour; omega)
      rw [Time.text, List.append_assoc, List.append_assoc]
      exact Scan.bind_failed (Scan.count_failed (by omega) rfl _)
    rw [htext]
    refine (Scan.orElse_failed (Scan.bind_failed hdate)).trans ?_
    rw [Scan.bind_read (partialTime_read ht hr.endsTime)]
    rfl
  | @«local» d t hd ht =>
    have htext : Datetime.text ⟨some d, some t, none⟩ ++ rest =
        d.text ++ 'T' :: (t.text ++ rest) := by
      simp [Datetime.text]
    rw [htext]
    exact both hd ht hr.endsTime (no_offset hr)
  | @offset d t o hd ht ho =>
    have htext : Datetime.text ⟨some d, some t, some o⟩ ++ rest =
        d.text ++ 'T' :: (t.text ++ (o.text ++ rest)) := by
      simp [Datetime.text]
    rw [htext]
    exact both hd ht (endsTime_offset o rest) (Scan.optional_read (timeOffset_read ho rest))

theorem startsNumber_zeroPadded (w n : Nat) (s : List Char) :
    StartsNumber (zeroPadded w n ++ s) := by
  have hne : zeroPadded w n ≠ [] := List.append_ne_nil_of_right_ne_nil _ (digitsOf_ne_nil n)
  obtain ⟨c, t, hc⟩ := List.exists_cons_of_ne_nil hne
  have hmem : c ∈ zeroPadded w n := by simp [hc]
  exact ⟨c, t ++ s, by rw [hc]; rfl, .inr (isDigit_of_mem_zeroPadded hmem)⟩

theorem startsNumber_datetime {d : Datetime} (h : d.Valid) (rest : List Char) :
    StartsNumber (d.text ++ rest) := by
  cases h <;>
    simp only [Datetime.text, Date.text, Time.text, List.append_assoc, List.nil_append] <;>
    exact startsNumber_zeroPadded _ _ _

theorem leaf_datetime {d : Datetime} (h : d.Valid) (hr : EndsValue rest) :
    leaf (d.text ++ rest) = .read (.datetime d) rest :=
  (leaf_number (startsNumber_datetime h rest)).trans
    (Scan.orElse_read (Scan.bind_read (datetime_read h hr)))

end TaskDriver.Toml
