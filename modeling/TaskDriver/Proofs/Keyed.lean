import Mathlib.Data.List.Nodup
import TaskDriver.Keyed

/-! A list with each name once is known by what it has under each name; put in order it has the
same. -/
namespace TaskDriver.Keyed

variable {α : Type} {k : String} {v : α} {es fs : List (String × α)} {s t : Keyed α}

/-- In the order of the names. -/
def Sorted (t : Keyed α) : Prop :=
  t.Pairwise fun a b => a.1 < b.1

/-- Each name once. -/
def Distinct (es : List (String × α)) : Prop :=
  (es.map (·.1)).Nodup

instance (es : List (String × α)) : Decidable (Distinct es) :=
  inferInstanceAs (Decidable (es.map (·.1)).Nodup)

theorem lt_or_eq_or_gt (a b : String) : a < b ∨ a = b ∨ b < a := by
  by_cases h₁ : a < b
  · exact .inl h₁
  · by_cases h₂ : b < a
    · exact .inr (.inr h₂)
    · exact .inr (.inl (String.le_antisymm (String.not_lt.mp h₂) (String.not_lt.mp h₁)))

theorem ne_of_lt {a b : String} (h : a < b) : a ≠ b :=
  fun he => String.lt_irrefl b (he ▸ h)

theorem Sorted.distinct (h : Sorted t) : Distinct t :=
  List.pairwise_map.mpr (h.imp ne_of_lt)

/-! ## Names and what they stand for -/

theorem mem_of_get? (h : get? k es = some v) : (k, v) ∈ es := by
  induction es with
  | nil => cases h
  | cons e es ih =>
    obtain ⟨l, u⟩ := e
    simp only [get?] at h
    split at h
    · next hk => exact hk ▸ Option.some.inj h ▸ .head _
    · exact .tail _ (ih h)

theorem get?_of_mem (hd : Distinct es) (h : (k, v) ∈ es) : get? k es = some v := by
  induction es with
  | nil => cases h
  | cons e es ih =>
    obtain ⟨l, u⟩ := e
    obtain ⟨hl, hes⟩ := List.nodup_cons.mp hd
    rcases List.mem_cons.mp h with he | hm
    · obtain ⟨rfl, rfl⟩ := Prod.mk.inj he
      simp [get?]
    · have hne : k ≠ l := fun hk => hl (List.mem_map.mpr ⟨(k, v), hm, hk⟩)
      simp [get?, hne, ih hes hm]

theorem get?_eq_none_iff : get? k es = none ↔ k ∉ es.map (·.1) := by
  induction es with
  | nil => simp [get?]
  | cons e es ih =>
    obtain ⟨l, u⟩ := e
    by_cases h : k = l <;> simp_all [get?]

theorem get?_perm (hd : Distinct es) (h : es.Perm fs) (k : String) : get? k es = get? k fs := by
  have hd' : Distinct fs := (h.map _).nodup_iff.mp hd
  cases he : get? k es with
  | some v => exact (get?_of_mem hd' (h.mem_iff.mp (mem_of_get? he))).symm
  | none =>
    rw [get?_eq_none_iff] at he
    exact (get?_eq_none_iff.mpr fun hm => he ((h.map _).mem_iff.mpr hm)).symm

/-- Tables in order are equal if they have the same under each name. -/
theorem ext (hs : Sorted s) (ht : Sorted t) (h : ∀ k, get? k s = get? k t) : s = t := by
  -- The least name is the first one of both.
  have first : ∀ {l : String} {u : α} {t : Keyed α} {k : String}, Sorted ((l, u) :: t) → k < l →
      get? k ((l, u) :: t) = none := by
    intro l u t k ht hk
    refine get?_eq_none_iff.mpr fun hm => ?_
    obtain ⟨e, he, rfl⟩ := List.mem_map.mp hm
    rcases List.mem_cons.mp he with rfl | he
    · exact String.lt_irrefl _ hk
    · exact String.lt_irrefl _ (String.lt_trans hk ((List.pairwise_cons.mp ht).1 e he))
  induction s generalizing t with
  | nil =>
    cases t with
    | nil => rfl
    | cons e t => simpa [get?] using h e.1
  | cons d s ih =>
    obtain ⟨k, v⟩ := d
    cases t with
    | nil => simpa [get?] using h k
    | cons e t =>
      obtain ⟨l, u⟩ := e
      rcases lt_or_eq_or_gt k l with hlt | rfl | hgt
      · have := h k
        rw [first ht hlt] at this
        simp [get?] at this
      · obtain ⟨hks, hs'⟩ := List.pairwise_cons.mp hs
        obtain ⟨hkt, ht'⟩ := List.pairwise_cons.mp ht
        have hv : v = u := by simpa [get?] using h k
        rw [hv, ih hs' ht' fun j => ?_]
        by_cases hj : j = k
        · subst hj
          rw [get?_eq_none_iff.mpr fun hm => ?_, get?_eq_none_iff.mpr fun hm => ?_]
          · obtain ⟨e, he, hje⟩ := List.mem_map.mp hm
            exact String.lt_irrefl _ (hje ▸ hkt e he)
          · obtain ⟨e, he, hje⟩ := List.mem_map.mp hm
            exact String.lt_irrefl _ (hje ▸ hks e he)
        · simpa [get?, hj] using h j
      · have := h l
        rw [first hs hgt] at this
        simp [get?] at this

/-! ## Putting in order -/

theorem mem_insert {e : String × α} (h : e ∈ insert k v t) : e = (k, v) ∨ e ∈ t := by
  induction t with
  | nil => simpa [insert] using h
  | cons d t ih =>
    obtain ⟨l, u⟩ := d
    simp only [insert] at h
    split_ifs at h
    · exact (List.mem_cons.mp h).imp_right (.tail _)
    · exact List.mem_cons.mp h
    · rcases List.mem_cons.mp h with rfl | h
      · exact .inr (.head _)
      · exact (ih h).imp_right (.tail _)

theorem sorted_insert (k : String) (v : α) (h : Sorted t) : Sorted (insert k v t) := by
  induction t with
  | nil => exact List.pairwise_singleton _ _
  | cons d t ih =>
    obtain ⟨l, u⟩ := d
    obtain ⟨hl, ht⟩ := List.pairwise_cons.mp h
    simp only [insert]
    split_ifs with h₁ h₂
    · exact List.pairwise_cons.mpr ⟨h₁ ▸ hl, ht⟩
    · refine List.pairwise_cons.mpr ⟨fun e he => ?_, h⟩
      rcases List.mem_cons.mp he with rfl | he
      · exact h₂
      · exact String.lt_trans h₂ (hl e he)
    · refine List.pairwise_cons.mpr ⟨fun e he => ?_, ih ht⟩
      rcases mem_insert he with rfl | he
      · exact ((lt_or_eq_or_gt l k).resolve_right fun h' => h'.elim (h₁ ∘ .symm) h₂)
      · exact hl e he

theorem sorted_insertAll (es : List (String × α)) (h : Sorted t) :
    Sorted (es.foldl (fun t (k, v) => insert k v t) t) := by
  induction es generalizing t with
  | nil => exact h
  | cons e es ih => exact ih (sorted_insert e.1 e.2 h)

theorem get?_insertAll (hd : Distinct es) (t : Keyed α) (k : String) :
    get? k (es.foldl (fun t (k, v) => insert k v t) t) = (get? k es).or (get? k t) := by
  induction es generalizing t with
  | nil => rfl
  | cons e es ih =>
    obtain ⟨l, u⟩ := e
    obtain ⟨hl, hes⟩ := List.nodup_cons.mp hd
    rw [List.foldl_cons, ih hes]
    by_cases h : k = l
    · subst h
      rw [get?_insert_self, get?_eq_none_iff.mpr hl]
      simp [get?]
    · rw [get?_insert_of_ne u t h]
      simp [get?, h]

theorem sorted_ofList (es : List (String × α)) : Sorted (ofList es) :=
  sorted_insertAll es .nil

theorem get?_ofList (hd : Distinct es) (k : String) : get? k (ofList es) = get? k es :=
  (get?_insertAll hd [] k).trans Option.or_none

theorem ofList_perm (hd : Distinct es) (h : es.Perm fs) : ofList es = ofList fs := by
  have hd' : Distinct fs := (h.map _).nodup_iff.mp hd
  refine ext (sorted_ofList es) (sorted_ofList fs) fun k => ?_
  rw [get?_ofList hd, get?_ofList hd', get?_perm hd h]

theorem ofList_of_sorted (h : Sorted t) : ofList t = t :=
  ext (sorted_ofList t) h (get?_ofList h.distinct)

end TaskDriver.Keyed
