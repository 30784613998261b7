import TaskDriver.Proofs.Toml.Line

/-! A table that is written out is read back as it was: each entry comes to stand in the table that
it was taken from. -/
namespace TaskDriver.Toml

variable {ns : List String} {rest : List Char} {limit : Nat} {d : Draft} {t : List (String × Value)}

/-! ## Plain entries and the others -/

/-- The entries below the header of their table. -/
def plain (t : List (String × Value)) : List (String × Value) :=
  t.filter fun e => !e.2.hasHeader

/-- The entries with headers of their own. -/
def headed (t : List (String × Value)) : List (String × Value) :=
  t.filter fun e => e.2.hasHeader

theorem orderedEntries_append (s t : List (String × Value)) :
    orderedEntries (s ++ t) = orderedEntries s ++ orderedEntries t := by
  simp only [orderedEntries_eq, List.map_append]

theorem entryValues_append (es fs : Entries) :
    entryValues (es ++ fs) = entryValues es ++ entryValues fs := by
  simp only [entryValues_eq, List.map_append]

/-- The order in which entries are written makes no difference. -/
theorem ordered_of_parts (hd : Keyed.Distinct t) {es : Entries}
    (h : entryValues es = orderedEntries (plain t ++ headed t)) :
    Value.table (Keyed.ofList (entryValues es)) = (Value.table t).ordered := by
  have hperm : (plain t ++ headed t).Perm t := by
    refine List.perm_append_comm.trans ?_
    exact List.filter_append_perm _ t
  have hd' : Keyed.Distinct (orderedEntries t) := by
    rw [Keyed.Distinct, orderedEntries_names]
    exact hd
  have hordered : (orderedEntries t).Perm (orderedEntries (plain t ++ headed t)) := by
    rw [orderedEntries_eq, orderedEntries_eq]
    exact (hperm.map _).symm
  rw [h, Value.ordered, Keyed.ofList_perm hd' hordered]

theorem names_of_values {es : Entries} {s : List (String × Value)}
    (h : entryValues es = orderedEntries s) : es.map (fun e => e.1.name) = s.map (·.1) := by
  rw [← orderedEntries_names, ← h, entryValues_eq, List.map_map]
  rfl

theorem not_mem_plain_of_headed (hd : Keyed.Distinct t) {e : String × Value} (he : e ∈ headed t) :
    e.1 ∉ (plain t).map (·.1) := by
  intro hm
  obtain ⟨f, hf, hfe⟩ := List.mem_map.mp hm
  obtain ⟨hf, hplain⟩ := List.mem_filter.mp hf
  obtain ⟨he, hheaded⟩ := List.mem_filter.mp he
  have : f = e := by
    have h₁ := Keyed.get?_of_mem (k := e.1) (v := e.2) hd he
    have h₂ := Keyed.get?_of_mem (k := f.1) (v := f.2) hd hf
    rw [hfe, h₁] at h₂
    exact Prod.ext hfe (Option.some.inj h₂).symm
  rw [this, hheaded] at hplain
  cases hplain

/-! ## Bodies -/

theorem bodyText_cons (e : String × Value) (t : List (String × Value)) :
    bodyText (e :: t) = (if e.2.hasHeader then [] else entryText e ++ ['\n']) ++ bodyText t := by
  obtain ⟨k, v⟩ := e
  simp only [bodyText, entryText]

theorem noBlank_bodyText (t : List (String × Value)) (hb : NoBlank rest) :
    NoBlank (bodyText t ++ rest) := by
  induction t with
  | nil => exact hb
  | cons e t ih =>
    rw [bodyText_cons]
    split
    · exact ih
    · rw [entryText, List.append_assoc, List.append_assoc, List.append_assoc, List.append_assoc]
      exact (firm_keyString e.1 _).noBlank

theorem bodyText_read (hl : 0 < limit) (hv : ∀ e ∈ t, e.2.Valid ∧ e.2.depth ≤ limit)
    (hd : Keyed.Distinct t) (hn : ∀ e ∈ t, Entries.find? e.1 d.current = none) (hb : NoBlank rest) :
    ∃ new, lines limit d (bodyText t ++ rest) =
        lines limit { d with current := d.current ++ new } rest ∧
      entryValues new = orderedEntries (plain t) := by
  induction t generalizing d with
  | nil => exact ⟨[], by rw [List.append_nil]; rfl, rfl⟩
  | cons e t ih =>
    obtain ⟨he, ht⟩ := List.nodup_cons.mp hd
    rw [bodyText_cons]
    by_cases hheader : e.2.hasHeader = true
    · obtain ⟨new, hread, hnew⟩ := ih (fun f hf => hv f (.tail _ hf)) ht
        fun f hf => hn f (.tail _ hf)
      refine ⟨new, by rw [if_pos hheader]; exact hread, ?_⟩
      rw [hnew, plain, plain, List.filter_cons_of_neg (by simp [hheader])]
    · obtain ⟨key, item, hname, hvalue, hline⟩ := lines_entry (k := e.1) hl (hv e (.head _)).1
        (hv e (.head _)).2 (hn e (.head _)) (noBlank_bodyText t hb)
      obtain ⟨new, hread, hnew⟩ := ih (d := { d with current := d.current ++ [(key, item)] })
        (fun f hf => hv f (.tail _ hf)) ht fun f hf => by
          have hne : key.name ≠ f.1 := fun h =>
            he (List.mem_map.mpr ⟨f, hf, (hname.symm.trans h).symm⟩)
          rw [Entries.find?_append, hn f (.tail _ hf)]
          simp [Entries.find?, hne]
      refine ⟨(key, item) :: new, ?_, ?_⟩
      · rw [if_neg hheader, List.append_assoc, List.append_assoc]
        refine hline.trans (hread.trans ?_)
        rw [List.append_assoc]
        rfl
      · rw [plain, List.filter_cons_of_pos (by simpa using hheader), entryValues, orderedEntries,
          hname, hvalue, hnew]
        rfl

/-! ## Tables with headers -/

/-- Where the text of a table with headers starts, a line is empty. -/
def StartsHeader (s : List Char) : Prop :=
  s = [] ∨ ∃ t, s = '\n' :: '[' :: t

theorem StartsHeader.append {s t : List Char} (hs : StartsHeader s) (ht : StartsHeader t) :
    StartsHeader (s ++ t) := by
  rcases hs with rfl | ⟨u, rfl⟩
  · exact ht
  · exact .inr ⟨u ++ t, rfl⟩

theorem StartsHeader.noBlank {s : List Char} (h : StartsHeader s) (hb : NoBlank rest) :
    NoBlank (s ++ rest) := by
  rcases h with rfl | ⟨u, rfl⟩
  · exact hb
  · exact noBlank_newline _

theorem startsHeader_header (ns : List String) (s : List Char) : StartsHeader (header ns ++ s) :=
  .inr ⟨_, rfl⟩

theorem startsHeader_arrayHeader (ns : List String) (s : List Char) :
    StartsHeader (arrayHeader ns ++ s) :=
  .inr ⟨_, rfl⟩

theorem startsHeader_tablesText (ns : List String) (vs : List Value) :
    StartsHeader (tablesText ns vs) := by
  induction vs with
  | nil => exact .inl (by rw [tablesText])
  | cons v vs ih =>
    cases v with
    | table t =>
      rw [tablesText, List.append_assoc, List.append_assoc]
      exact startsHeader_arrayHeader _ _
    | _ => simpa only [tablesText] using ih

theorem parts_of_not_needsHeader (h : needsHeader t = false) :
    plain t = [] ∧ headed t = t ∧ bodyText t = [] := by
  have hall : ∀ e ∈ t, e.2.hasHeader = true := by
    intro e he
    simp only [needsHeader, Bool.or_eq_false_iff, List.any_eq_false] at h
    simpa using h.2 e he
  refine ⟨List.filter_eq_nil_iff.mpr fun e he => by simp [hall e he],
    List.filter_eq_self.mpr hall, ?_⟩
  clear h
  induction t with
  | nil => rfl
  | cons e t ih =>
    rw [bodyText_cons, if_pos (hall e (.head _)), ih fun f hf => hall f (.tail _ hf)]
    rfl

theorem startsHeader_nestedText (ns : List String) :
    (t : List (String × Value)) → StartsHeader (nestedText ns t)
  | [] => .inl (by rw [nestedText])
  | (k, .table t) :: r => by
    rw [nestedText]
    refine .append ?_ (startsHeader_nestedText ns r)
    by_cases h : needsHeader t = true
    · rw [if_pos h, List.append_assoc]
      exact startsHeader_header _ _
    · rw [if_neg h, (parts_of_not_needsHeader (Bool.eq_false_iff.mpr h)).2.2]
      exact startsHeader_nestedText (ns ++ [k]) t
  | (k, .array items) :: r => by
    rw [nestedText]
    refine .append ?_ (startsHeader_nestedText ns r)
    split
    · exact startsHeader_tablesText _ _
    · exact .inl rfl
  | (_, .string _) :: r => by simpa only [nestedText] using startsHeader_nestedText ns r
  | (_, .integer _) :: r => by simpa only [nestedText] using startsHeader_nestedText ns r
  | (_, .float _) :: r => by simpa only [nestedText] using startsHeader_nestedText ns r
  | (_, .boolean _) :: r => by simpa only [nestedText] using startsHeader_nestedText ns r
  | (_, .datetime _) :: r => by simpa only [nestedText] using startsHeader_nestedText ns r

theorem nestedText_cons (ns : List String) (e : String × Value) (t : List (String × Value)) :
    nestedText ns (e :: t) = nestedText ns [e] ++ nestedText ns t := by
  obtain ⟨k, v⟩ := e
  cases v <;> simp [nestedText]

variable {root es : Entries} {o : Origin} {C : (Entries → Entries) → Prop}
  {fill : Entries → Entries}

/-- The table named by `ns`, whose entries were `es`, has new ones that stand for `s`. -/
def Extended (C : (Entries → Entries) → Prop) (ns : List String) (o : Origin) (es : Entries)
    (s : List (String × Value)) (d : Draft) : Prop :=
  ∃ fill new, C fill ∧ Stable fill ns o ∧ d.complete = some (fill (es ++ new)) ∧
    entryValues new = orderedEntries s

/-- The tables in `t` are read wherever there is room for them. -/
structure TablesRead (limit : Nat) (t : List (String × Value)) : Prop where
  read : ∀ {ns : List String} {root : Entries} {o : Origin} {es : Entries}
    {C : (Entries → Entries) → Prop} {d : Draft} {rest : List Char},
    ns.length + entriesDepth t ≤ limit → NoBlank rest → d.complete = some root →
    Room root ns o es C → (∀ e ∈ headed t, Entries.find? e.1 es = none) →
    ∃ d', lines limit d (nestedText ns t ++ rest) = lines limit d' rest ∧
      (headed t = [] ∧ d' = d ∨ Extended C ns o es (headed t) d')

/-- What stands below the header of a table. -/
theorem table_read (ht : TablesRead limit t) (hpos : 0 < limit)
    (hl : ns.length + entriesDepth t ≤ limit) (hv : (Value.table t).Valid) (hc : d.current = [])
    (hf : Filling d fill) (hs : Stable fill ns .header) (hb : NoBlank rest) :
    ∃ d' inner, lines limit d (bodyText t ++ (nestedText ns t ++ rest)) = lines limit d' rest ∧
      d'.complete = some (fill inner) ∧
      Value.table (Keyed.ofList (entryValues inner)) = (Value.table t).ordered := by
  obtain ⟨body, hbody, hplain⟩ := bodyText_read (d := d) hpos
    (fun e he => ⟨valid_of_mem_entries hv.2 he, by
      have := depth_le_of_mem_entries he
      omega⟩)
    hv.1 (fun e _ => by rw [hc]; rfl) ((startsHeader_nestedText ns t).noBlank hb)
  have hfresh : ∀ e ∈ headed t, Entries.find? e.1 body = none := fun e he => by
    rw [Entries.find?_eq_none_iff, names_of_values hplain]
    exact not_mem_plain_of_headed hv.1 he
  rw [hc, List.nil_append] at hbody
  obtain ⟨d', hread, h⟩ := ht.read hl hb (hf body) (hs.room body) hfresh
  rcases h with ⟨hnone, rfl⟩ | ⟨_, new, rfl, -, hcomplete, hnew⟩
  · refine ⟨_, body, hbody.trans hread, hf body, ordered_of_parts hv.1 ?_⟩
    rw [hplain, hnone, List.append_nil]
  · refine ⟨d', body ++ new, hbody.trans hread, hcomplete, ordered_of_parts hv.1 ?_⟩
    rw [entryValues_append, orderedEntries_append, hplain, hnew]

/-- The tables of an array behind those that were read. -/
theorem moreTables_read {k : String} {key : Key} {vs : List Value}
    (hvs : vs.all Value.isTable = true)
    (ht : ∀ t, .table t ∈ vs → TablesRead limit t) (hl : ns.length + itemsDepth vs < limit)
    (hv : itemsValid vs) (hs : Stable fill ns o) (hk : key.name = k)
    (hn : Entries.find? k es = none) {items : List Item}
    (hd : d.complete = some (fill (es ++ [(key, .tables items)]))) (hb : NoBlank rest) :
    ∃ d' more, lines limit d (tablesText (ns ++ [k]) vs ++ rest) = lines limit d' rest ∧
      d'.complete = some (fill (es ++ [(key, .tables (items ++ more))])) ∧
      itemValues more = orderedItems vs := by
  induction vs generalizing d items with
  | nil => exact ⟨d, [], by rw [tablesText]; rfl, by rw [List.append_nil]; exact hd, rfl⟩
  | cons v vs ih =>
    obtain ⟨t, rfl⟩ : ∃ t, v = .table t := by
      cases v <;> simp_all [Value.isTable]
    rw [itemsDepth, Value.depth] at hl
    have hlen : ns.length < limit := by omega
    have hbody : NoBlank (bodyText t ++ (nestedText (ns ++ [k]) t ++
        (tablesText (ns ++ [k]) vs ++ rest))) :=
      noBlank_bodyText t ((startsHeader_nestedText _ t).noBlank
        ((startsHeader_tablesText _ vs).noBlank hb))
    obtain ⟨P, q, place, hP, hq, hheader⟩ := lines_arrayHeader hlen k hbody
    obtain ⟨d₁, hopen, hc, hf⟩ := openArrayTable_stable (P := P) (q := q) (hP.symm ▸ hs) hd
      (hk.trans hq.symm) (hq.symm ▸ hn) place
    obtain ⟨d₂, inner, hread, hcomplete, hvalue⟩ := table_read (ht t (.head _)) (by omega)
      (by rw [List.length_append, List.length_singleton]; omega) hv.1 hc hf
      (hs.last hk hn items .header (some place))
      ((startsHeader_tablesText _ vs).noBlank hb)
    obtain ⟨d₃, more, hmore, hlast, hvalues⟩ := ih (by simp_all) (fun t ht' => ht t (.tail _ ht'))
      (by omega) hv.2 hcomplete
    refine ⟨d₃, .table .header (some place) inner :: more, ?_, ?_, ?_⟩
    · rw [tablesText]
      simp only [List.append_assoc]
      exact (hheader d d₁ hopen).trans (hread.trans hmore)
    · rw [hlast, List.append_assoc]
      rfl
    · rw [itemValues, orderedItems, hvalues, ← hvalue, Item.value]

theorem Extended.single {k : String} {v : Value} {key : Key} {item : Item} (hC : C fill)
    (hs : Stable fill ns o) (hk : key.name = k) (hi : item.value = v.ordered)
    (hd : d.complete = some (fill (es ++ [(key, item)]))) : Extended C ns o es [(k, v)] d :=
  ⟨fill, [(key, item)], hC, hs, hd, by simp only [entryValues, orderedEntries, hk, hi]⟩

/-- A table in the table at `ns`, with a header of its own or none. -/
theorem tableEntry_read {k : String} (ht : TablesRead limit t) (hv : (Value.table t).Valid)
    (hl : ns.length + (entriesDepth t + 1) ≤ limit) (hb : NoBlank rest)
    (hd : d.complete = some root) (hroom : Room root ns o es C) (hn : Entries.find? k es = none) :
    ∃ d', lines limit d (nestedText ns [(k, .table t)] ++ rest) = lines limit d' rest ∧
      Extended C ns o es [(k, .table t)] d' := by
  have hlen : ns.length < limit := by omega
  have hinner : (ns ++ [k]).length + entriesDepth t ≤ limit := by
    rw [List.length_append, List.length_singleton]
    omega
  simp only [nestedText, List.append_nil, List.append_assoc]
  by_cases hneeds : needsHeader t = true
  · obtain ⟨P, q, place, hP, hq, hheader⟩ := lines_header hlen k
      (noBlank_bodyText t ((startsHeader_nestedText (ns ++ [k]) t).noBlank hb))
    obtain ⟨fill, hC, hspot⟩ := hroom P hP
    obtain ⟨d₁, hopen, hc, hf⟩ := openTable_spot hd hspot (hq.symm ▸ hn) place
    have hs := hP ▸ hspot.stable
    obtain ⟨d₂, inner, hlines, hcomplete, hvalue⟩ := table_read ht (by omega) hinner hv hc hf
      (hs.table hq hn rfl (some place)) hb
    rw [if_pos hneeds]
    refine ⟨d₂, (hheader d d₁ hopen).trans hlines, .single hC hs hq ?_ hcomplete⟩
    rw [Item.value, hvalue]
  · obtain ⟨hplain, hheaded, hbody⟩ := parts_of_not_needsHeader (Bool.eq_false_iff.mpr hneeds)
    rw [if_neg hneeds, hbody]
    obtain ⟨d', hlines, h⟩ := ht.read hinner hb hd (hroom.missing hn) fun _ _ => rfl
    rcases h with ⟨hnone, -⟩ | ⟨_, new, ⟨fill, q, hC, hs, hq, rfl⟩, -, hcomplete, hnew⟩
    · rw [hheaded.symm.trans hnone] at hneeds
      exact absurd rfl hneeds
    · refine ⟨d', hlines, .single hC hs hq ?_ hcomplete⟩
      exact ordered_of_parts hv.1 (by rw [hplain]; exact hnew)

/-- An array of tables; the first of them makes the entry. -/
theorem arrayEntry_read {k : String} {vs : List Value} (hvs : vs.all Value.isTable = true)
    (ht : TablesRead limit t) (hts : ∀ u, .table u ∈ vs → TablesRead limit u)
    (hv : itemsValid (.table t :: vs)) (hl : ns.length + (itemsDepth (.table t :: vs) + 1) ≤ limit)
    (hb : NoBlank rest) (hd : d.complete = some root) (hroom : Room root ns o es C)
    (hn : Entries.find? k es = none) :
    ∃ d', lines limit d (nestedText ns [(k, .array (.table t :: vs))] ++ rest) =
        lines limit d' rest ∧
      Extended C ns o es [(k, .array (.table t :: vs))] d' := by
  rw [itemsDepth, Value.depth] at hl
  have hlen : ns.length < limit := by omega
  have hinner : (ns ++ [k]).length + entriesDepth t ≤ limit := by
    rw [List.length_append, List.length_singleton]
    omega
  have harray : (Value.array (.table t :: vs)).isTableArray = true := by
    simpa [Value.isTableArray, Value.isTable] using hvs
  have hmany := (startsHeader_tablesText (ns ++ [k]) vs).noBlank hb
  obtain ⟨P, q, place, hP, hq, hheader⟩ := lines_arrayHeader hlen k
    (noBlank_bodyText t ((startsHeader_nestedText (ns ++ [k]) t).noBlank hmany))
  obtain ⟨fill, hC, hspot⟩ := hroom P hP
  obtain ⟨d₁, hopen, hc, hf⟩ := openArrayTable_spot hd hspot (hq.symm ▸ hn) place
  have hs := hP ▸ hspot.stable
  obtain ⟨d₂, inner, hlines, hcomplete, hvalue⟩ := table_read ht (by omega) hinner hv.1 hc hf
    (hs.last hq hn [] .header (some place)) hmany
  obtain ⟨d₃, more, hmore, hlast, hvalues⟩ := moreTables_read hvs hts (by omega) hv.2 hs hq hn
    hcomplete hb
  refine ⟨d₃, ?_, .single hC hs hq ?_ hlast⟩
  · simp only [nestedText, harray, ↓reduceIte, tablesText, List.append_nil, List.append_assoc]
    exact (hheader d d₁ hopen).trans (hlines.trans hmore)
  · simp only [List.nil_append, List.cons_append, Item.value, itemValues, hvalue, hvalues,
      Value.ordered, orderedItems]

theorem entry_tables_read {k : String} {v : Value} (hh : v.hasHeader = true) (hv : v.Valid)
    (ht : ∀ t, entriesDepth t < v.depth → (Value.table t).Valid → TablesRead limit t)
    (hl : ns.length + v.depth ≤ limit) (hb : NoBlank rest) (hd : d.complete = some root)
    (hroom : Room root ns o es C) (hn : Entries.find? k es = none) :
    ∃ d', lines limit d (nestedText ns [(k, v)] ++ rest) = lines limit d' rest ∧
      Extended C ns o es [(k, v)] d' := by
  cases v with
  | table t => exact tableEntry_read (ht t (by rw [Value.depth]; omega) hv) hv hl hb hd hroom hn
  | array items =>
    have harray : (Value.array items).isTableArray = true := hh
    simp only [Value.isTableArray, Bool.and_eq_true] at harray
    have hmem : ∀ u, .table u ∈ items → TablesRead limit u := fun u hu => by
      refine ht u ?_ (valid_of_mem_items hv hu)
      have := depth_le_of_mem_items hu
      simp only [Value.depth] at this ⊢
      omega
    cases items with
    | nil => cases harray.1
    | cons v vs =>
      obtain ⟨t, rfl⟩ : ∃ t, v = .table t := by
        cases v <;> simp_all [Value.isTable]
      exact arrayEntry_read harray.2 (hmem t (.head _)) (fun u hu => hmem u (.tail _ hu)) hv hl hb
        hd hroom hn
  | _ => cases hh

theorem nestedText_of_not_hasHeader (ns : List String) {e : String × Value}
    (h : e.2.hasHeader = false) : nestedText ns [e] = [] := by
  obtain ⟨k, v⟩ := e
  cases v with
  | table t => cases h
  | array items =>
    have : (Value.array items).isTableArray = false := h
    simp [nestedText, this]
  | _ => simp [nestedText]

theorem headed_cons_of_pos {e : String × Value} (h : e.2.hasHeader = true) :
    headed (e :: t) = [e] ++ headed t :=
  List.filter_cons_of_pos h

theorem headed_cons_of_neg {e : String × Value} (h : e.2.hasHeader = false) :
    headed (e :: t) = headed t :=
  List.filter_cons_of_neg (by simp [h])

/-- Entry by entry; what one of them leads to is where the next one starts. -/
theorem tablesRead_of_entries {n : Nat} (hn : entriesDepth t ≤ n) (hd : Keyed.Distinct t)
    (hv : entriesValid t)
    (ht : ∀ u, entriesDepth u < n → (Value.table u).Valid → TablesRead limit u) :
    TablesRead limit t := by
  induction t with
  | nil => exact ⟨fun _ _ _ _ _ => ⟨_, by rw [nestedText]; rfl, .inl ⟨rfl, rfl⟩⟩⟩
  | cons e t ih =>
    obtain ⟨he, hdistinct⟩ := List.nodup_cons.mp hd
    rw [entriesDepth] at hn
    have hrest := ih (by omega) hdistinct hv.2
    refine ⟨fun {ns root o es C d rest} hl hb hd hroom hfresh => ?_⟩
    rw [entriesDepth] at hl
    have hl' : ns.length + entriesDepth t ≤ limit := by omega
    rw [nestedText_cons, List.append_assoc]
    cases hh : e.2.hasHeader with
    | false =>
      rw [headed_cons_of_neg hh] at hfresh ⊢
      rw [nestedText_of_not_hasHeader ns hh]
      exact hrest.read hl' hb hd hroom hfresh
    | true =>
      rw [headed_cons_of_pos hh] at hfresh ⊢
      obtain ⟨d₁, hfirst, fill, new, hC, hs, hcomplete, hnew⟩ := entry_tables_read hh hv.1
        (fun u hu => ht u (by omega)) (by omega) ((startsHeader_nestedText ns t).noBlank hb) hd
        hroom (hfresh e (.head _))
      have hfresh' : ∀ f ∈ headed t, Entries.find? f.1 (es ++ new) = none := by
        intro f hf
        have hne : f.1 ≠ e.1 := fun h =>
          he (List.mem_map.mpr ⟨f, (List.mem_filter.mp hf).1, h⟩)
        rw [Entries.find?_append, hfresh f (.tail _ hf), Option.none_or, Entries.find?_eq_none_iff,
          names_of_values hnew]
        simpa using hne
      obtain ⟨d₂, hlast, h⟩ := hrest.read hl' hb hcomplete (hs.room _) hfresh'
      refine ⟨d₂, hfirst.trans hlast, .inr ?_⟩
      rcases h with ⟨hnone, rfl⟩ | ⟨fill, more, rfl, -, hcomplete, hmore⟩
      · refine ⟨fill, new, hC, hs, hcomplete, ?_⟩
        rw [hnone, List.append_nil]
        exact hnew
      · refine ⟨fill, new ++ more, hC, hs, by rw [← List.append_assoc]; exact hcomplete, ?_⟩
        rw [entryValues_append, orderedEntries_append, hmore]
        exact congrArg (· ++ _) hnew

theorem tablesRead (limit : Nat) (hv : (Value.table t).Valid) : TablesRead limit t := by
  induction h : entriesDepth t using Nat.strong_induction_on generalizing t with
  | _ n ih => exact tablesRead_of_entries h.le hv.1 hv.2 fun u hu hv => ih _ hu hv rfl

/-! ## The whole text -/

/-- The empty line before the first header is left out. -/
theorem tableText_cases (t : List (String × Value)) :
    tableText t = bodyText t ++ nestedText [] t ∨
      ∃ s, tableText t = '[' :: s ∧ bodyText t ++ nestedText [] t = '\n' :: '[' :: s := by
  rw [tableText]
  split
  · exact .inl rfl
  · next h =>
    have hbody : bodyText t = [] := by
      cases t with
      | nil => rfl
      | cons e t => exact (parts_of_not_needsHeader (by simpa [needsHeader] using h)).2.2
    rw [hbody, List.nil_append]
    rcases startsHeader_nestedText [] t with hnil | ⟨s, hs⟩
    · rw [hnil]
      exact .inl rfl
    · rw [hs]
      exact .inr ⟨s, rfl, rfl⟩

theorem noBlank_tableText (t : List (String × Value)) : NoBlank (tableText t) := by
  have hend : NoBlank [] := rfl
  rcases tableText_cases t with h | ⟨s, h, -⟩
  · rw [h]
    have hnested := (startsHeader_nestedText [] t).noBlank hend
    rw [List.append_nil] at hnested
    exact noBlank_bodyText t hnested
  · rw [h]
    exact noBlank_bracket s

/-- A table that is written is read back, its entries in order. -/
theorem tableText_read (hv : (Value.table t).Valid) (hpos : 0 < limit)
    (hl : entriesDepth t ≤ limit) :
    ∃ d es, lines limit .start (tableText t) = .read d [] ∧ d.complete = some es ∧
      Value.table es.table = (Value.table t).ordered := by
  have hend : NoBlank [] := rfl
  obtain ⟨d, es, hread, hcomplete, hvalue⟩ := table_read (tablesRead limit hv) hpos
    (by simpa using hl) hv rfl filling_start stable_root hend
  rw [List.append_nil] at hread
  have hdone : lines limit .start (bodyText t ++ nestedText [] t) = .read d [] := by
    rw [hread, lines]
    rfl
  refine ⟨d, es, ?_, hcomplete, hvalue⟩
  rcases tableText_cases t with h | ⟨s, h, hs⟩
  · rw [h, hdone]
  · rw [h, ← lines_newline (noBlank_bracket s), ← hs, hdone]

end TaskDriver.Toml
