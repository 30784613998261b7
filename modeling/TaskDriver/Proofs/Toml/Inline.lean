import TaskDriver.Proofs.Toml.Draft
import TaskDriver.Proofs.Toml.Meaning
import TaskDriver.Proofs.Toml.Quoted

/-! Values and keys written on a line are read back, whatever is nested in them. -/
namespace TaskDriver.Toml

open Number

variable {k : String} {v : Value} {s w rest : List Char} {limit : Nat}

/-! ## Keys -/

theorem head_keyString (k : String) (s : List Char) : ∃ c t, keyString k ++ s = c :: t ∧
    (isBare c = true ∨ c = '\x22' ∨ c = '\x27') := by
  rcases keyText_cases k.toList with ⟨he, hne, hs⟩ | he | ⟨he, hs⟩
  · obtain ⟨c, t, hc⟩ := List.exists_cons_of_ne_nil hne
    exact ⟨c, t ++ s, by rw [keyString, he, hc]; rfl, .inl (hs c (by rw [hc]; exact .head _))⟩
  · exact ⟨'\x22', _, by rw [keyString, he]; rfl, .inr (.inl rfl)⟩
  · exact ⟨'\x27', _, by rw [keyString, he]; rfl, .inr (.inr rfl)⟩

theorem simpleKey_keyString (hr : EndsKey rest) (k : String) :
    simpleKey (keyString k ++ rest) = .read ⟨k, (keyString k ++ rest).length⟩ rest := by
  have h := simpleKey_keyText hr k.toList
  rwa [String.ofList_toList] at h

/-- Keys start with none of the characters that lines of another kind start with. -/
theorem keyString_head_ne {c : Char} (hc : isBare c = false ∧ c ≠ '\x22' ∧ c ≠ '\x27')
    (k : String) (s : List Char) : (keyString k ++ s).head? ≠ some c := by
  obtain ⟨d, t, hd, h⟩ := head_keyString k s
  rw [hd]
  rintro ⟨rfl⟩
  rcases h with h | h | h
  · rw [hc.1] at h
    cases h
  · exact hc.2.1 h
  · exact hc.2.2 h

theorem firm_keyString (k : String) (s : List Char) : Firm (keyString k ++ s) := by
  intro c hc hm
  refine keyString_head_ne ?_ k s hc
  have h : ∀ d ∈ [' ', '\t', '#', '\r', '\n'], isBare d = false ∧ d ≠ '\x22' ∧ d ≠ '\x27' := by
    simp only [List.mem_cons, List.not_mem_nil, or_false, forall_eq_or_imp, forall_eq]
    decide
  exact h c hm

theorem blanks_lead (lead : List Char) (hlead : ∀ c ∈ lead, isBlankChar c = true) (h : Firm s) :
    blanks (lead ++ s) = .read () s := by
  rw [blanks, Scan.skipWhile, (Scan.takeWhile_span hlead h.not_blank).2]

/-- Without the blanks at its start. -/
def afterBlanks (s : List Char) : List Char :=
  s.dropWhile isBlankChar

theorem length_afterBlanks_le (s : List Char) : (afterBlanks s).length ≤ s.length :=
  (List.dropWhile_sublist _).length_le

theorem pathText_cons (k : String) (ks : List String) :
    pathText (k :: ks) = keyString k ++ ks.flatMap fun l => '.' :: keyString l := by
  induction ks generalizing k with
  | nil => rw [pathText, List.flatMap_nil, List.append_nil]
  | cons l ks ih =>
    have hstep : pathText (k :: l :: ks) = keyString k ++ '.' :: pathText (l :: ks) := rfl
    rw [hstep, ih, List.flatMap_cons]
    rfl

theorem key_read (lead : List Char) (ks : List String) (hlead : ∀ c ∈ lead, isBlankChar c = true)
    (hl : ks.length < limit) (hr : EndsKey s) (hpoint : (afterBlanks s).head? ≠ some '.') :
    ∃ keys, key limit (lead ++ (pathText (k :: ks) ++ s)) = .read keys (afterBlanks s) ∧
      keys.map Key.name = k :: ks := by
  have part : ∀ (lead : List Char) (l : String) (t : List Char),
      (∀ c ∈ lead, isBlankChar c = true) → EndsKey t →
      ∃ a, (do blanks; let k ← simpleKey; blanks; pure k : Scan Key)
        (lead ++ (keyString l ++ t)) = .read a (afterBlanks t) ∧ a.name = l := by
    intro lead l t hlead ht
    refine ⟨⟨l, (keyString l ++ t).length⟩, ?_, rfl⟩
    rw [Scan.bind_read (blanks_lead lead hlead (firm_keyString l t)),
      Scan.bind_read (simpleKey_keyString ht l)]
    exact Scan.bind_read (r := afterBlanks t) rfl
  obtain ⟨keys, hkeys, hR⟩ := Scan.separated_pieces (fun a l => Key.name a = l) keyString EndsKey
    afterBlanks (c := '.') (w := lead ++ keyString k) (x := k) hr hpoint
    (fun t ht => by rw [List.append_assoc]; exact part lead k t hlead ht)
    (fun l (_ : l ∈ ks) t ht => part [] l t (by simp) ht) (fun t => rfl) (fun t => rfl)
    length_afterBlanks_le
  have hnames : keys.map Key.name = k :: ks := by
    rw [← List.forall₂_eq_eq_eq]
    exact List.forall₂_map_left_iff.mpr hR
  refine ⟨keys, ?_, hnames⟩
  rw [pathText_cons, List.append_assoc, ← List.append_assoc lead]
  refine Scan.mapped_read hkeys (if_pos ?_)
  have := congrArg List.length hnames
  rw [List.length_map, List.length_cons] at this
  omega

/-! ## Entries -/

/-- What a reader gives for an entry: its name and its value. -/
def Reads (a : List Key × Key × Item) (e : String × Value) : Prop :=
  a.1 = [] ∧ a.2.1.name = e.1 ∧ a.2.2.value = e.2.ordered

def entryText (e : String × Value) : List Char :=
  keyString e.1 ++ " = ".toList ++ e.2.inline

theorem entry_read {value : Scan Item} {after : Scan Unit} {t : List Char} {i : Item}
    (lead : List Char) (hlead : ∀ c ∈ lead, isBlankChar c = true) (hl : 0 < limit)
    (hfirm : Firm (v.inline ++ t)) (hvalue : value (v.inline ++ t) = .read i t)
    (hi : i.value = v.ordered) (hafter : after t = .read () rest) :
    ∃ a, entry limit value after (lead ++ (entryText (k, v) ++ t)) = .read a rest ∧
      Reads a (k, v) := by
  have htext : entryText (k, v) ++ t = pathText [k] ++ (' ' :: '=' :: ' ' :: (v.inline ++ t)) := by
    simp [entryText, pathText]
  obtain ⟨keys, hkeys, hnames⟩ := key_read (k := k) (s := ' ' :: '=' :: ' ' :: (v.inline ++ t))
    lead []
    hlead hl rfl (by simp [afterBlanks, isBlankChar])
  obtain ⟨key, rfl⟩ : ∃ key, keys = [key] := by
    rw [List.map_eq_cons_iff] at hnames
    obtain ⟨key, t, rfl, -, ht⟩ := hnames
    exact ⟨key, by rw [List.map_eq_nil_iff.mp ht]⟩
  refine ⟨([], key, i), ?_, rfl, by simpa using hnames, hi⟩
  rw [htext]
  refine Scan.mapped_read (a := ([key], i)) ?_ rfl
  rw [Scan.bind_read hkeys]
  refine Scan.settle_read ?_
  have hblank : blanks (' ' :: (v.inline ++ t)) = .read () (v.inline ++ t) :=
    blanks_lead [' '] (List.forall_mem_singleton.mpr rfl) hfirm
  rw [Scan.bind_read (s := afterBlanks _) (Scan.mark_read _ _), Scan.bind_read hblank,
    Scan.bind_read hvalue, Scan.bind_read hafter]
  rfl

/-! ## Tables in braces -/

theorem entryValues_of_reads {as : List (List Key × Key × Item)} {es : List (String × Value)}
    (h : List.Forall₂ Reads as es) : entryValues (as.map (·.2)) = orderedEntries es := by
  induction h with
  | nil => rfl
  | @cons a e as es ha _ ih => rw [List.map_cons, entryValues, ih, ha.2.1, ha.2.2, orderedEntries]

/-- Entries with new names are taken one after the other. -/
theorem addAll_reads {as : List (List Key × Key × Item)} {es : List (String × Value)}
    {acc : Entries}
    (h : List.Forall₂ Reads as es) (hd : Keyed.Distinct es)
    (hacc : ∀ k ∈ es.map (·.1), Entries.find? k acc = none) :
    as.foldlM (fun es (path, k, v) => addAt .dottedKeyInBraces path k v .braces es) acc =
      some (acc ++ as.map (·.2)) := by
  induction h generalizing acc with
  | nil => simp
  | @cons a e as es ha _ ih =>
    obtain ⟨path, key, item⟩ := a
    obtain ⟨rfl, hname, -⟩ := ha
    obtain ⟨he, hes⟩ := List.nodup_cons.mp hd
    have hadd : addAt .dottedKeyInBraces [] key item .braces acc = some (acc ++ [(key, item)]) := by
      have := hacc e.1 (.head _)
      rw [← hname] at this
      simp [addAt, descend, addEntry, Origin.isDotted, this]
    rw [List.foldlM_cons]
    simp only [hadd, Option.bind_eq_bind, Option.bind_some]
    rw [ih hes fun k hk => ?_]
    · simp
    · rw [Entries.find?_append, hacc k (.tail _ hk), Option.none_or]
      have hne : key.name ≠ k := fun hk' => he (show e.1 ∈ _ from (hname.symm.trans hk') ▸ hk)
      simp [Entries.find?, hne]

theorem bracesTable_reads {as : List (List Key × Key × Item)} {es : List (String × Value)}
    (h : List.Forall₂ Reads as es) (hd : Keyed.Distinct es) (place : Nat) :
    ∃ i, bracesTable as place = some i ∧ i.value = (Value.table es).ordered := by
  refine ⟨_, by rw [bracesTable, addAll_reads h hd (fun _ _ => rfl)]; rfl, ?_⟩
  rw [List.nil_append, Item.value, entryValues_of_reads h, Value.ordered]

theorem inlineEntries_cons (e : String × Value) (es : List (String × Value)) :
    inlineEntries (e :: es) = entryText e ++ es.flatMap fun e => ',' :: (' ' :: entryText e) := by
  induction es generalizing e with
  | nil => rw [inlineEntries, List.flatMap_nil, List.append_nil]; rfl
  | cons f es ih =>
    have hstep : inlineEntries (e :: f :: es) =
        entryText e ++ ',' :: ' ' :: inlineEntries (f :: es) := rfl
    rw [hstep, ih, List.flatMap_cons]
    rfl

theorem inlineItems_cons (v : Value) (vs : List Value) :
    inlineItems (v :: vs) = v.inline ++ vs.flatMap fun v => ',' :: (' ' :: v.inline) := by
  induction vs generalizing v with
  | nil => rw [inlineItems, List.flatMap_nil, List.append_nil]
  | cons w vs ih =>
    have hstep : inlineItems (v :: w :: vs) = v.inline ++ ',' :: ' ' :: inlineItems (w :: vs) := rfl
    rw [hstep, ih, List.flatMap_cons]
    rfl

/-! ## Values -/

/-- A value that is read in front of anything that may stand behind it. -/
structure ReadsInline (value : Scan Item) (v : Value) : Prop where
  firm : ∀ t, Firm (v.inline ++ t) ∧ (v.inline ++ t).head? ≠ some ']'
  read : ∀ t, EndsValue t → ∃ i, value (v.inline ++ t) = .read i t ∧ i.value = v.ordered

variable {value : Scan Item}

theorem braces_of_entries {as : List (List Key × Key × Item)} {i : Item}
    (h : bracesEntries limit value s = .read as ('\x7d' :: rest))
    (hi : bracesTable as ('\x7b' :: s).length = some i) :
    braces limit value ('\x7b' :: s) = .read i rest := by
  rw [braces, Scan.bind_read (p := Scan.ahead) (a := '\x7b' :: s) rfl,
    Scan.bind_read (Scan.mark_read _ _)]
  refine Scan.settle_read ?_
  rw [Scan.bind_read (Scan.mapped_read h hi), Scan.bind_read (Scan.mark_read _ _)]
  rfl

theorem braces_read {e : String × Value} {es : List (String × Value)} (hl : 0 < limit)
    (hd : Keyed.Distinct (e :: es)) (h : ∀ k v, (k, v) ∈ e :: es → ReadsInline value v)
    (rest : List Char) :
    ∃ i, braces limit value ((Value.table (e :: es)).inline ++ rest) = .read i rest ∧
      i.value = (Value.table (e :: es)).ordered := by
  have hentry : ∀ f ∈ e :: es, ∀ t, (∃ u, t = ',' :: u ∨ t = ' ' :: '\x7d' :: u) →
      ∃ a, entry limit value blanks ([' '] ++ (entryText f ++ t)) = .read a (afterBlanks t) ∧
        Reads a f := by
    intro f hf t ht
    obtain ⟨i, hi, hvalue⟩ := (h f.1 f.2 hf).read t (by
      obtain ⟨u, rfl | rfl⟩ := ht
      · exact .next u
      · exact .braces u)
    exact entry_read [' '] (List.forall_mem_singleton.mpr rfl) hl ((h f.1 f.2 hf).firm t).1 hi hvalue rfl
  obtain ⟨as, has, hR⟩ := Scan.separated_pieces (s := ' ' :: '\x7d' :: rest) Reads
    (fun e => ' ' :: entryText e) (fun t => ∃ u, t = ',' :: u ∨ t = ' ' :: '\x7d' :: u) afterBlanks
    (c := ',') (w := ' ' :: entryText e) (x := e) ⟨rest, .inr rfl⟩
    (by simp [afterBlanks, isBlankChar])
    (hentry e (.head _)) (fun f hf => hentry f (.tail _ hf)) (fun t => ⟨t, .inl rfl⟩) (fun t => rfl)
    length_afterBlanks_le
  have hend : afterBlanks (' ' :: '\x7d' :: rest) = '\x7d' :: rest := rfl
  rw [hend] at has
  have htext : (Value.table (e :: es)).inline ++ rest = '\x7b' :: (' ' :: entryText e ++
      (es.flatMap (fun e => ',' :: (' ' :: entryText e)) ++ ' ' :: '\x7d' :: rest)) := by
    simp [Value.inline, inlineEntries_cons]
  obtain ⟨i, hi, hvalue⟩ := bracesTable_reads hR hd ((Value.table (e :: es)).inline ++ rest).length
  refine ⟨i, ?_, hvalue⟩
  rw [htext] at hi ⊢
  refine braces_of_entries ?_ hi
  rw [bracesEntries, Scan.bind_read (Scan.optional_read has), Scan.bind_read (blanks_none rfl)]
  rfl

theorem braces_empty (rest : List Char) :
    ∃ i, braces limit value ('\x7b' :: '\x7d' :: rest) = .read i rest ∧
      i.value = (Value.table []).ordered := by
  have hkey : key limit ('\x7d' :: rest) = .failed false ('\x7d' :: rest) :=
    Scan.mapped_failed (Scan.bind_failed ((Scan.bind_read (blanks_none rfl)).trans
      (Scan.bind_failed (p := simpleKey) rfl)))
  have hentries : bracesEntries limit value ('\x7d' :: rest) = .read [] ('\x7d' :: rest) := by
    have hnone : Scan.optional (Scan.separated (entry limit value blanks) ',') ('\x7d' :: rest) =
        .read none ('\x7d' :: rest) :=
      Scan.optional_failed (Scan.bind_failed (Scan.mapped_failed (Scan.bind_failed hkey)))
    rw [bracesEntries, Scan.bind_read hnone, Scan.bind_read (blanks_none rfl)]
    rfl
  exact ⟨_, braces_of_entries hentries rfl, rfl⟩

theorem firm_of_head {c : Char} (hc : c ∉ [' ', '\t', '#', '\r', '\n']) (s : List Char) :
    Firm (c :: s) := by
  rintro d ⟨rfl⟩
  exact hc

theorem arrayItems_read {v : Value} {vs : List Value} (h : ∀ w ∈ v :: vs, ReadsInline value w)
    (rest : List Char) :
    ∃ is, arrayItems value (inlineItems (v :: vs) ++ ']' :: rest) = .read is (']' :: rest) ∧
      itemValues is = orderedItems (v :: vs) := by
  have hitem : ∀ w ∈ v :: vs, ∀ s t, (s = w.inline ++ t ∨ s = ' ' :: (w.inline ++ t)) →
      (∃ u, t = ',' :: u ∨ t = ']' :: u) →
      ∃ i, (do space; let v ← value; space; pure v : Scan Item) s = .read i t ∧
        i.value = w.ordered := by
    intro w hw s t hs ht
    obtain ⟨hvalue, hfirm⟩ : EndsValue t ∧ Firm t := by
      obtain ⟨u, rfl | rfl⟩ := ht
      · exact ⟨.next u, firm_of_head (by decide) u⟩
      · exact ⟨.array u, firm_of_head (by decide) u⟩
    obtain ⟨i, hi, hvalue⟩ := (h w hw).read t hvalue
    have hspace : space s = .read () (w.inline ++ t) := by
      rcases hs with rfl | rfl
      · exact space_none ((h w hw).firm t).1
      · exact space_blank ((h w hw).firm t).1
    refine ⟨i, ?_, hvalue⟩
    rw [Scan.bind_read hspace, Scan.bind_read hi, Scan.bind_read (space_none hfirm)]
    rfl
  obtain ⟨is, his, hR⟩ := Scan.separated_pieces (s := ']' :: rest)
    (fun i w => Item.value i = w.ordered)
    (fun w => ' ' :: w.inline) (fun t => ∃ u, t = ',' :: u ∨ t = ']' :: u) id (c := ',')
    (w := v.inline)
    (x := v) ⟨rest, .inr rfl⟩ (by simp) (fun t ht => hitem v (.head _) _ t (.inl rfl) ht)
    (fun w hw t ht => hitem w (.tail _ hw) _ t (.inr rfl) ht) (fun t => ⟨t, .inl rfl⟩)
    (fun t => rfl)
    fun t => Nat.le_refl _
  have hne : ¬ (inlineItems (v :: vs) ++ ']' :: rest).head? = some ']' := by
    rw [inlineItems_cons, List.append_assoc]
    exact ((h v (.head _)).firm _).2
  refine ⟨is, ?_, ?_⟩
  · rw [arrayItems,
      Scan.bind_read (p := Scan.ahead) (a := inlineItems (v :: vs) ++ ']' :: rest) rfl, if_neg hne,
      inlineItems_cons, List.append_assoc, Scan.bind_read (Scan.optional_read his)]
    have hlast : Scan.optional (Scan.mark ',') (']' :: rest) = .read none (']' :: rest) :=
      Scan.optional_failed (Scan.mark_failed (by simp))
    show ((do let _ ← Scan.optional (Scan.mark ','); space; pure is) : Scan (List Item))
      (']' :: rest) = _
    rw [Scan.bind_read hlast, Scan.bind_read (space_none (firm_of_head (by decide) rest))]
    rfl
  · rw [itemValues_eq, orderedItems_eq, ← List.forall₂_eq_eq_eq]
    exact List.forall₂_map_left_iff.mpr (List.forall₂_map_right_iff.mpr hR)

theorem array_read {vs : List Value} (h : ∀ v ∈ vs, ReadsInline value v) (rest : List Char) :
    ∃ i, array value ((Value.array vs).inline ++ rest) = .read i rest ∧
      i.value = (Value.array vs).ordered := by
  have hitems : ∃ is, arrayItems value (inlineItems vs ++ ']' :: rest) = .read is (']' :: rest) ∧
      itemValues is = orderedItems vs := by
    cases vs with
    | nil => exact ⟨[], rfl, rfl⟩
    | cons v vs => exact arrayItems_read h rest
  obtain ⟨is, his, hvalues⟩ := hitems
  have htext : (Value.array vs).inline ++ rest = '[' :: (inlineItems vs ++ ']' :: rest) := by
    simp [Value.inline]
  refine ⟨.array is ((Value.array vs).inline ++ rest).length, ?_, ?_⟩
  · rw [array, Scan.bind_read (p := Scan.ahead) (a := (Value.array vs).inline ++ rest) rfl]
    generalize ((Value.array vs).inline ++ rest).length = place
    rw [htext, Scan.bind_read (Scan.mark_read _ _)]
    refine Scan.settle_read ?_
    rw [Scan.bind_read his, Scan.bind_read (Scan.mark_read _ _)]
    rfl
  · rw [Item.value, hvalues, Value.ordered]

/-- The first character of a value that is neither an array nor a table. -/
def StartsLeaf (s : List Char) : Prop :=
  ∃ c t, s = c :: t ∧ c ∉ [' ', '\t', '#', '\r', '\n', ']', '[', '\x7b']

theorem StartsNumber.startsLeaf (h : StartsNumber s) : StartsLeaf s := by
  obtain ⟨c, t, rfl, hc⟩ := h
  refine ⟨c, t, rfl, fun hm => ?_⟩
  have hnot : ∀ d ∈ [' ', '\t', '#', '\r', '\n', ']', '[', '\x7b'],
      ¬ (d = '-' ∨ d.isDigit = true) := by simp
  exact hnot c hm hc

/-- What is no array and no table is read by its first character. -/
theorem leaf_read (hv : v.Valid) (hd : v.depth = 0) :
    (∀ t, StartsLeaf (v.inline ++ t)) ∧
      ∀ t, EndsValue t → ∃ l, leaf (v.inline ++ t) = .read l t ∧ Configuration.leafValue l = v := by
  cases v with
  | string x =>
    obtain ⟨u, hu⟩ := head_stringText x.toList
    refine ⟨fun t => ?_, fun t ht => ⟨.string x, ?_, rfl⟩⟩
    · rcases hu with hu | hu <;> rw [Value.inline, hu] <;> exact ⟨_, _, rfl, by decide⟩
    · have hread : string (stringText x.toList ++ t) = .read x.toList t := by
        refine string_stringText ?_ _
        simp [ht.head_ne (c := '\x22') (by decide), ht.head_ne (c := '\x27') (by decide)]
      have hquote : leaf (stringText x.toList ++ t) =
          (do pure (.string (String.ofList (← string))) : Scan Leaf)
            (stringText x.toList ++ t) := by
        rcases hu with hu | hu <;> rw [hu] <;> rfl
      rw [Value.inline, hquote, Scan.bind_read hread, String.ofList_toList]
      rfl
  | integer i =>
    exact ⟨fun t => (startsNumber_integer i t).startsLeaf, fun t ht => ⟨_, leaf_integer hv ht, rfl⟩⟩
  | float x =>
    refine ⟨fun t => ?_, fun t ht => ⟨_, leaf_float hv ht, rfl⟩⟩
    match x, hv with
    | .nan, _ => exact ⟨'n', _, rfl, by decide⟩
    | .infinite false, _ => exact ⟨'i', _, rfl, by decide⟩
    | .infinite true, _ => exact ⟨'-', _, rfl, by decide⟩
    | .finite negative m e, h => exact (startsNumber_finite h negative t).startsLeaf
  | boolean b =>
    cases b with
    | true => exact ⟨fun t => ⟨'t', _, rfl, by decide⟩, fun t _ => ⟨.boolean true, rfl, rfl⟩⟩
    | false => exact ⟨fun t => ⟨'f', _, rfl, by decide⟩, fun t _ => ⟨.boolean false, rfl, rfl⟩⟩
  | datetime d =>
    exact ⟨fun t => (startsNumber_datetime hv t).startsLeaf,
      fun t ht => ⟨_, leaf_datetime hv ht, rfl⟩⟩
  | array items => cases hd
  | table es => cases hd

theorem value_eq_leaf (limit depth : Nat) (h : StartsLeaf s) :
    Toml.value limit depth s = leafAt leaf s := by
  obtain ⟨c, t, rfl, hc⟩ := h
  cases depth <;> unfold Toml.value <;> split <;> simp_all

theorem readsInline_leaf (limit depth : Nat) (hv : v.Valid) (hd : v.depth = 0) :
    ReadsInline (Toml.value limit depth) v := by
  obtain ⟨hstart, hread⟩ := leaf_read hv hd
  constructor
  · intro t
    obtain ⟨c, u, hu, hc⟩ := hstart t
    rw [hu]
    exact ⟨firm_of_head (fun hm => hc (by simp_all)) u, fun h => hc (by simp_all)⟩
  · intro t ht
    obtain ⟨l, hl, hvalue⟩ := hread t ht
    refine ⟨.leaf l (v.inline ++ t).length, ?_, ?_⟩
    · rw [value_eq_leaf limit depth (hstart t)]
      simp only [leafAt, hl]
    · rw [Item.value, hvalue]
      cases v <;> first | rfl | cases hd

/-- A value on a line is read back as it is, with its tables in order. -/
theorem readsInline (hl : 0 < limit) {depth : Nat} (hv : v.Valid) (hd : v.depth ≤ depth) :
    ReadsInline (Toml.value limit depth) v := by
  induction depth generalizing v with
  | zero => exact readsInline_leaf limit 0 hv (Nat.le_zero.mp hd)
  | succ depth ih =>
    cases v with
    | array items =>
      have hitems : ∀ w ∈ items, ReadsInline (Toml.value limit depth) w := fun w hw =>
        ih (valid_of_mem_items hv hw)
          (Nat.le_trans (depth_le_of_mem_items hw) (Nat.le_of_succ_le_succ hd))
      exact ⟨fun t => ⟨firm_of_head (by decide) _, by simp [Value.inline]⟩,
        fun t _ => array_read hitems t⟩
    | table es =>
      have hentries : ∀ k w, (k, w) ∈ es → ReadsInline (Toml.value limit depth) w := fun k w hw =>
        ih (valid_of_mem_entries hv.2 hw)
          (Nat.le_trans (depth_le_of_mem_entries hw) (Nat.le_of_succ_le_succ hd))
      cases es with
      | nil =>
        exact ⟨fun t => ⟨firm_of_head (by decide) _, by simp [Value.inline]⟩,
          fun t _ => braces_empty t⟩
      | cons e es =>
        exact ⟨fun t => ⟨firm_of_head (by decide) _, by simp [Value.inline]⟩,
          fun t _ => braces_read hl hv.1 hentries t⟩
    | _ => exact readsInline_leaf limit _ hv rfl

end TaskDriver.Toml
