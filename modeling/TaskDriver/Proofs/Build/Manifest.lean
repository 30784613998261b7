import TaskDriver.Build.Manifest
import TaskDriver.Proofs.Toml.Written

/-! The manifest of the driver, read as a file of settings, names the driver and its program, and
asks for the runtime library and for what the definition file depends on, nothing else. -/
namespace TaskDriver.Build

open Toml (Value entriesWithin entriesDepth entriesValid_iff entriesInOrder_iff)
open TaskDriver.Configuration (runtimeName)

variable {k : String} {v : Value} {deps : Toml.Table}

theorem get?_dependencyTable (r : RuntimeSource) (hd : Keyed.Distinct deps) (k : String) :
    (dependencyTable r deps).get? k =
      (deps.get? k).or (if k = runtimeName then some (runtimeEntry r) else none) := by
  rw [dependencyTable, Keyed.get?_insertAll hd]
  simp [Keyed.get?]

theorem sorted_dependencyTable (r : RuntimeSource) (deps : Toml.Table) :
    Keyed.Sorted (dependencyTable r deps) :=
  Keyed.sorted_insertAll deps (List.pairwise_singleton _ _)

theorem mem_dependencyTable {r : RuntimeSource} (hd : Keyed.Distinct deps)
    (h : (k, v) ∈ dependencyTable r deps) : (k, v) ∈ deps ∨ v = runtimeEntry r := by
  have hget := Keyed.get?_of_mem (sorted_dependencyTable r deps).distinct h
  rw [get?_dependencyTable r hd, Option.or_eq_some_iff] at hget
  rcases hget with hdeps | ⟨-, hruntime⟩
  · exact .inl (Keyed.mem_of_get? hdeps)
  · split at hruntime
    · exact .inr (Option.some.inj hruntime).symm
    · cases hruntime

theorem valid_runtimeEntry (r : RuntimeSource) : (runtimeEntry r).Valid := by
  unfold runtimeEntry
  cases r.path <;> exact ⟨by simp [Keyed.Distinct], trivial, trivial, trivial⟩

theorem inOrder_runtimeEntry (r : RuntimeSource) : (runtimeEntry r).InOrder := by
  unfold runtimeEntry
  cases r.path with
  | none =>
    have : "package" < "version" := by decide
    exact ⟨List.pairwise_pair.mpr this, trivial, trivial, trivial⟩
  | some path =>
    have : "package" < "path" := by decide
    exact ⟨List.pairwise_pair.mpr this, trivial, trivial, trivial⟩

theorem valid_dependencyTable (r : RuntimeSource) (h : (Value.table deps).Valid) :
    (Value.table (dependencyTable r deps)).Valid := by
  refine ⟨(sorted_dependencyTable r deps).distinct, entriesValid_iff.mpr fun e he => ?_⟩
  rcases mem_dependencyTable h.1 he with hdeps | hruntime
  · exact entriesValid_iff.mp h.2 e hdeps
  · exact hruntime ▸ valid_runtimeEntry r

theorem inOrder_dependencyTable (r : RuntimeSource) (h : (Value.table deps).InOrder) :
    (Value.table (dependencyTable r deps)).InOrder := by
  refine ⟨sorted_dependencyTable r deps, entriesInOrder_iff.mpr fun e he => ?_⟩
  rcases mem_dependencyTable h.1.distinct he with hdeps | hruntime
  · exact entriesInOrder_iff.mp h.2 e hdeps
  · exact hruntime ▸ inOrder_runtimeEntry r

/-- Without the runtime library, the table has what the definition file depends on. -/
theorem erase_dependencyTable (r : RuntimeSource) (h : Keyed.Sorted deps)
    (hfree : deps.get? runtimeName = none) :
    (dependencyTable r deps).erase runtimeName = deps := by
  refine Keyed.ext ((sorted_dependencyTable r deps).filter _) h fun k => ?_
  by_cases hk : k = runtimeName
  · rw [hk, hfree]
    exact Keyed.get?_erase_self _ _
  · rw [Keyed.get?_erase_of_ne _ hk, get?_dependencyTable r h.distinct, if_neg hk, Option.or_none]

theorem valid_manifest (r : RuntimeSource) (h : (Value.table deps).Valid) :
    (Value.table (manifest r deps)).Valid :=
  ⟨by simp [manifest, Keyed.Distinct],
    ⟨by simp [Keyed.Distinct], trivial, trivial, trivial, trivial, trivial⟩,
    ⟨⟨by simp [Keyed.Distinct], trivial, trivial, trivial⟩, trivial⟩, ⟨.nil, trivial⟩,
    valid_dependencyTable r h, trivial⟩

theorem ordered_manifest (r : RuntimeSource) (h : (Value.table deps).InOrder) :
    (Value.table (manifest r deps)).ordered =
      .table [("bin", .array [.table [("name", .string "matr"), ("path", .string "main.rs")]]),
        ("dependencies", .table (dependencyTable r deps)),
        ("package", .table [("edition", .string "2021"), ("name", .string "matr-driver"),
          ("publish", .boolean false), ("version", .string "0.0.0")]),
        ("workspace", .table [])] := by
  rw [← (Value.table (dependencyTable r deps)).ordered_eq (inOrder_dependencyTable r h)]
  rfl

theorem manifestText_toList (r : RuntimeSource) (deps : Toml.Table) :
    (manifestText r deps).toList = '#' :: ((' ' :: generatedBy.toList) ++
      '\n' :: '\n' :: Toml.tableText (manifest r deps)) := by
  simp only [manifestText, String.toList_append, String.toList_ofList]
  rfl

/-- Whatever the driver depends on, and however deep that is nested, its manifest is read as meant. -/
theorem manifest_read (r : RuntimeSource) (hv : (Value.table deps).Valid)
    (ho : (Value.table deps).InOrder) (hfree : deps.get? "matr" = none) {limit : Nat}
    (hl : entriesDepth (manifest r deps) ≤ limit) :
    ∃ (es : Toml.Entries) (d : Toml.Table),
      entriesWithin limit (manifestText r deps).toList = .ok es ∧
      es.table = [("bin", .array [.table [("name", .string "matr"), ("path", .string "main.rs")]]),
        ("dependencies", .table d),
        ("package", .table [("edition", .string "2021"), ("name", .string "matr-driver"),
          ("publish", .boolean false), ("version", .string "0.0.0")]),
        ("workspace", .table [])] ∧
      Keyed.Sorted d ∧ d.erase "matr" = deps ∧
      d.get? "matr" = some (.table [("package", .string "matr-runtime"),
        match r.path with
        | some path => ("path", .string path)
        | none => ("version", .string r.version)]) := by
  have hpos : 0 < limit := Nat.lt_of_lt_of_le (Nat.lt_of_lt_of_le (Nat.succ_pos _)
    (Nat.le_max_left _ _)) hl
  obtain ⟨draft, es, hread, hcomplete, hvalue⟩ :=
    Toml.tableText_read (valid_manifest r hv) hpos hl
  have htext : Toml.lines limit .start (manifestText r deps).toList = .read draft [] := by
    rw [manifestText_toList, Toml.lines_comment (List.all_eq_true.mp (by decide))
      (Toml.noBlank_newline _), Toml.lines_newline (Toml.noBlank_tableText _), hread]
  refine ⟨es, dependencyTable r deps, ?_, ?_, sorted_dependencyTable r deps,
    erase_dependencyTable r ho.1 hfree, ?_⟩
  · have hstart : (Toml.skipOrderMark (manifestText r deps).toList).dropWhile Toml.isBlankChar =
        (manifestText r deps).toList := by
      rw [manifestText_toList]
      rfl
    rw [entriesWithin, hstart, htext]
    simp only [hcomplete]
  · exact Value.table.inj (hvalue.trans (ordered_manifest r ho))
  · rw [get?_dependencyTable r ho.1.distinct, hfree]
    rfl

/-- A dependency whose name needs quotes, with tables below tables and in arrays. -/
def nestedDependencies : Toml.Table :=
  [("a b", .table [("features", .array [.string "\x22", .table [], .float .nan]),
    ("patches", .array [.table [("x", .integer (-1))], .table []])])]

theorem inOrder_nestedDependencies : (Value.table nestedDependencies).InOrder := by
  have : "features" < "patches" := by decide
  exact ⟨List.pairwise_singleton _ _, ⟨List.pairwise_pair.mpr this,
      ⟨trivial, ⟨.nil, trivial⟩, trivial, trivial⟩,
      ⟨⟨List.pairwise_singleton _ _, trivial, trivial⟩, ⟨.nil, trivial⟩, trivial⟩, trivial⟩,
    trivial⟩

theorem manifest_read_nested :
    ∃ (es : Toml.Entries) (d : Toml.Table),
      entriesWithin 79 (manifestText ⟨"0.2.0", some "/matr"⟩ nestedDependencies).toList = .ok es ∧
      es.table = [("bin", .array [.table [("name", .string "matr"), ("path", .string "main.rs")]]),
        ("dependencies", .table d),
        ("package", .table [("edition", .string "2021"), ("name", .string "matr-driver"),
          ("publish", .boolean false), ("version", .string "0.0.0")]),
        ("workspace", .table [])] ∧
      Keyed.Sorted d ∧ d.erase "matr" = nestedDependencies ∧
      d.get? "matr" = some (.table [("package", .string "matr-runtime"),
        ("path", .string "/matr")]) :=
  manifest_read ⟨"0.2.0", some "/matr"⟩
    (by simp [nestedDependencies, Value.Valid, Toml.entriesValid, Toml.itemsValid, Keyed.Distinct,
      Toml.IsFloat, Toml.InRange])
    inOrder_nestedDependencies (by decide) (by decide)

end TaskDriver.Build
