import TaskDriver.Proofs.Build.Current
import TaskDriver.Proofs.Build.Interrupted
import TaskDriver.Proofs.CommandLine.Forwarded
import TaskDriver.Proofs.Configuration.Search

/-! What the status says of the next run. The status compares hashes only; a run, which knows the
settings, also compares their fingerprint. -/
namespace TaskDriver.Build

open Files (Path Tree)

variable {t : Tree} {p q : Path} {c : Cache} {cfg : Configuration} {hash : String} {s : Site}

/-- A definition that is found is a file. -/
theorem isFile_of_locateDefinition (h : locateDefinition t q = .ok p) : t.isFile p = true := by
  simp only [locateDefinition] at h
  split at h
  case isTrue hf =>
    cases h
    exact hf
  case isFalse =>
    split at h
    · next hfound =>
      cases h
      exact List.find?_some hfound
    · cases h

theorem exists_fileHash (h : t.isFile p = true) : ∃ hash, fileHash t p = .ok hash := by
  obtain ⟨b, hb⟩ := Files.Tree.isFile_iff.mp h
  exact ⟨Digest.sha256Hex b, by rw [fileHash, hb]; rfl⟩

/-- Where a hash is stored, there is the directory of the cache. -/
theorem Cache.opens_of_storedHash (h : c.storedHash? t = some hash) :
    ∃ d, t.Opens c.directory d := by
  rcases hr : t.read c.hashPath with f | b
  · simp [storedHash?, trimmedText?, Tree.readText, hr, bind, Except.bind] at h
  · obtain ⟨_, hc, l, _, hl, _⟩ := Files.Tree.read_eq_ok_iff.mp hr
    exact Files.Tree.opens_of_leads_child hc literal_hashName hl

/-- A directory has a size. -/
theorem exists_directorySize (h : t.isDirectory p = true) : ∃ n, t.directorySize p = .ok n := by
  rcases he : t.entry true p with f | y
  · simp [Tree.isDirectory, he] at h
  · cases y <;> simp [Tree.isDirectory, he] at h
    exact ⟨_, by rw [Tree.directorySize, he]; rfl⟩

/-- Of a definition that is there, the status can always be told. -/
theorem Cache.exists_status (h : t.isFile c.definition = true) : ∃ st, c.status t = .ok st := by
  obtain ⟨hash, hdef⟩ := exists_fileHash h
  by_cases hdir : t.isDirectory c.directory = true
  · obtain ⟨n, hn⟩ := exists_directorySize hdir
    rcases hs : c.storedHash? t with _ | stored <;>
      simp [status, hdir, hs, h, hdef, hn, bind, Except.bind, pure, Except.pure]
  · simp [status, hdir, pure, Except.pure]

/-- The status is up to date just when the stored hash is that of the definition. -/
theorem Cache.upToDate_iff {st : CacheStatus} (hdef : fileHash t c.definition = .ok hash)
    (hst : c.status t = .ok st) :
    st.upToDate = true ↔ c.storedHash? t = some hash := by
  constructor
  · intro hup
    obtain ⟨hash', hstored, hdef'⟩ := fileHash_of_upToDate hst hup
    rw [hstored, Except.ok.inj (hdef.symm.trans hdef')]
  · intro hstored
    obtain ⟨d, ho⟩ := opens_of_storedHash hstored
    obtain ⟨st', hst', hup, _⟩ := status_of_stored ho hdef hstored
    rwa [Except.ok.inj (hst.symm.trans hst')]

theorem Cache.resolve_hit_iff (hdef : fileHash t c.definition = .ok hash) :
    c.resolve false t = (.ok .hit, t) ↔ c.isCurrent t hash = true := by
  constructor
  · intro h
    obtain ⟨hash', hdef', hcur⟩ := isCurrent_of_hit (congrArg Prod.fst h)
    rwa [Except.ok.inj (hdef.symm.trans hdef')]
  · intro h
    rw [← resolveUpTo_six]
    exact resolveUpTo_hit hdef (by simp [h])

theorem built_of_miss {compiler : Compiler} {bypass : Bool} {t : Tree} {o : Outcome} {s' : Site}
    (h : (cacheOf p cfg).resolve bypass s.files = (.ok .miss, t))
    (hbuild : build compiler p cfg bypass s = (.ok o, s')) : o.rebuilt = true := by
  rw [build_eq, Procedure.run_bind, onFiles_ok h] at hbuild
  simp only [Procedure.run_bind] at hbuild
  -- every step but the last one either fails or goes on
  repeat' split at hbuild
  all_goals cases hbuild
  rfl

/-- A build takes the driver that is there just when the cache is current. -/
theorem build_current_iff {compiler : Compiler} (hdef : fileHash s.files p = .ok hash) :
    (∃ o s', build compiler p cfg false s = (.ok o, s') ∧ o.rebuilt = false) ↔
      (cacheOf p cfg).isCurrent s.files hash = true := by
  constructor
  · rintro ⟨o, s', hbuild, hr⟩
    rcases hres : (cacheOf p cfg).resolve false s.files with ⟨f | _ | _, t⟩
    · rw [build_eq, Procedure.run_bind, onFiles, Procedure.within, hres] at hbuild
      cases hbuild
    · obtain ⟨hash', hdef', hcur⟩ := Cache.isCurrent_of_hit (congrArg Prod.fst hres)
      rwa [Except.ok.inj (hdef.symm.trans hdef')]
    · rw [built_of_miss hres hbuild] at hr
      cases hr
  · intro h
    exact ⟨_, _, build_hit ((Cache.resolve_hit_iff hdef).mpr h) compiler, rfl⟩

end TaskDriver.Build

namespace TaskDriver.CommandLine

open Build (Cache Programs Site)
open Files (Path Tree)

variable {ps : Programs} {overrides : Configuration.Overrides} {o : Options} {s : Site} {p : Path}
  {c : Configuration} {origin : Option Path}

theorem prepared_eq (hloc : Build.locateDefinition s.files (Path.ofText o.matrfile) = .ok p)
    (hconf : Configuration.loadOrStandard s.files p.directory overrides = .ok (c, origin)) :
    prepared ps overrides o s =
      Build.build (Build.compileWith ps c.compiler.cargo) p c o.noCache s := by
  simp only [prepared, definitionOf, Procedure.run_bind, Procedure.look, hloc, hconf,
    Build.mapError_ok]

theorem status_eq {st : Build.CacheStatus}
    (hloc : Build.locateDefinition s.files (Path.ofText o.matrfile) = .ok p)
    (hst : Cache.status ⟨p, none⟩ s.files = .ok st) :
    status o s = (.ok 0, (showStatus p st s).2) := by
  have hshow : (showStatus p st s).1 = .ok () := by
    cases hthere : st.isThere <;>
      simp [showStatus, hthere, say, property, information, Procedure.change, Procedure.run_bind]
  rcases h : showStatus p st s with ⟨r, s'⟩
  rw [h] at hshow
  obtain rfl : r = .ok () := hshow
  simp only [status, definitionOf, Procedure.run_bind, Procedure.look, hloc, hst,
    Build.mapError_ok, h, Procedure.run_pure]

theorem prepared_hits_iff {hash : String}
    (hloc : Build.locateDefinition s.files (Path.ofText o.matrfile) = .ok p)
    (hconf : Configuration.loadOrStandard s.files p.directory overrides = .ok (c, origin))
    (hcache : o.noCache = false) (hdef : Build.fileHash s.files p = .ok hash) :
    (∃ built s', prepared ps overrides o s = (.ok built, s') ∧ built.rebuilt = false) ↔
      (Build.cacheOf p c).storedHash? s.files = some hash ∧
        (Build.cacheOf p c).storedSettings? s.files =
          some (Build.fingerprint c (Build.driverManifest p c)) := by
  rw [prepared_eq hloc hconf, hcache, Build.build_current_iff hdef, Cache.isCurrent_iff, and_comm]
  exact and_congr_right fun _ => or_iff_right nofun

/-- The status is told of every definition that is found, and the next run takes the driver that is
there just when it is up to date and was made under the settings that hold. -/
theorem run_hits_iff (ps : Programs)
    (hloc : Build.locateDefinition s.files (Path.ofText o.matrfile) = .ok p)
    (hconf : Configuration.loadOrStandard s.files p.directory overrides = .ok (c, origin))
    (hcache : o.noCache = false) :
    ∃ st, Cache.status ⟨p, none⟩ s.files = .ok st ∧
      status o s = (.ok 0, (showStatus p st s).2) ∧
      ((∃ built s', prepared ps overrides o s = (.ok built, s') ∧ built.rebuilt = false) ↔
        st.upToDate = true ∧ (Build.cacheOf p c).storedSettings? s.files =
          some (Build.fingerprint c (Build.driverManifest p c))) := by
  have hfile := Build.isFile_of_locateDefinition hloc
  obtain ⟨hash, hdef⟩ := Build.exists_fileHash hfile
  obtain ⟨st, hst⟩ := Cache.exists_status (c := ⟨p, none⟩) hfile
  refine ⟨st, hst, status_eq hloc hst, ?_⟩
  rw [Cache.upToDate_iff hdef hst, prepared_hits_iff hloc hconf hcache hdef]
  rfl

/-! ## A cache with the hash of its definition -/

section

open Build (cacheName hashName settingsName lonePath loneContent)

/-- A definition with these files in its cache. -/
def housed (files : List (String × Files.Entry)) : Tree :=
  ⟨.directory [("D", .directory [(cacheName, .directory files),
    ("Matrfile.rs", .file loneContent false)])], []⟩

variable (files : List (String × Files.Entry))

theorem opens_housed_root : (housed files).Opens ⟨true, []⟩ [] :=
  ⟨rfl, ⟨Files.linkLimit, .refl _⟩, rfl⟩

theorem opens_housed : (housed files).Opens lonePath.directory ["D"] := by
  have hl : (housed files).Leads lonePath.directory ["D"] :=
    ⟨_, .next (.down (d := .directory) Build.named_D rfl nofun) (.refl _)⟩
  exact ⟨rfl, hl, rfl⟩

theorem opens_housed_cache :
    (housed files).Opens (Build.cacheOf lonePath .standard).directory (["D"] ++ [cacheName]) :=
  (opens_housed files).child Build.literal_cacheName rfl

theorem housed_read : (housed files).read lonePath = .ok loneContent :=
  (opens_housed files).read_child (n := "Matrfile.rs") Build.literal_includedName (x := false) rfl

theorem housed_locate :
    Build.locateDefinition (housed files) (Path.ofText "/D/Matrfile.rs") = .ok lonePath := by
  have hp : (housed files).workingPath.join (Path.ofText "/D/Matrfile.rs") = lonePath := rfl
  rw [Build.locateDefinition, hp, if_pos (Files.Tree.isFile_iff.mpr ⟨_, housed_read files⟩)]

theorem housed_standard :
    Configuration.loadOrStandard (housed files) lonePath.directory ⟨none, none⟩ =
      .ok (.standard, none) := by
  have hup : lonePath.directory.ancestors = [lonePath.directory, ⟨true, []⟩] := by
    rw [Path.ancestors_of_parent? (q := ⟨true, []⟩) (by decide),
      Path.ancestors_of_no_parent (by decide)]
  have hfind : Configuration.find? (housed files) lonePath.directory = none := by
    refine List.find?_eq_none.mpr fun q hq => ?_
    simp only [hup, List.mem_flatMap, List.mem_cons, List.not_mem_nil, or_false,
      Configuration.candidates, List.mem_map] at hq
    obtain ⟨_, rfl | rfl, n, hn, rfl⟩ := hq
    all_goals
      have hlit := Configuration.literal_of_mem hn
      simp only [Configuration.fileNames, List.mem_cons, List.not_mem_nil, or_false] at hn
    · have hm : (housed files).root.node? (["D"] ++ [n]) = none := by
        rcases hn with rfl | rfl | rfl <;> rfl
      rw [Tree.isFile, (opens_housed files).entry_missing hlit hm]
      exact Bool.false_ne_true
    · have hm : (housed files).root.node? ([] ++ [n]) = none := by
        rcases hn with rfl | rfl | rfl <;> rfl
      rw [Tree.isFile, (opens_housed_root files).entry_missing hlit hm]
      exact Bool.false_ne_true
  rw [Configuration.loadOrStandard, hfind]
  rfl

/-- The program is asked for the definition by its path. -/
def named : Options :=
  .given [.matrfile "/D/Matrfile.rs" true] []

/-- The hash of the definition is stored, and the fingerprint of the settings that hold. -/
def settled : Tree :=
  housed [(hashName, .file (Digest.sha256Hex loneContent).toUTF8 false),
    (settingsName, .file
      (Build.fingerprint .standard (Build.driverManifest lonePath .standard)).toUTF8 false)]

/-- The status is up to date, and the next run takes the driver that is there. -/
theorem run_hits_iff_housed :
    Build.locateDefinition settled (Path.ofText named.matrfile) = .ok lonePath ∧
    Configuration.loadOrStandard settled lonePath.directory ⟨none, none⟩ = .ok (.standard, none) ∧
    named.noCache = false ∧
    ∃ st, Cache.status ⟨lonePath, none⟩ settled = .ok st ∧ st.upToDate = true ∧
      status named (.of settled) = (.ok 0, (showStatus lonePath st (.of settled)).2) ∧
      ∃ built s', prepared ⟨[], fun _ => none⟩ ⟨none, none⟩ named (.of settled) = (.ok built, s') ∧
        built.rebuilt = false := by
  have hloc : Build.locateDefinition settled (Path.ofText named.matrfile) = .ok lonePath :=
    housed_locate _
  have hconf : Configuration.loadOrStandard settled lonePath.directory ⟨none, none⟩ =
      .ok (.standard, none) := housed_standard _
  have hdef : Build.fileHash settled lonePath = .ok (Digest.sha256Hex loneContent) := by
    rw [Build.fileHash, settled, housed_read]
    rfl
  obtain ⟨hhash, hsettings⟩ := Build.stored_of_node? (c := Build.cacheOf lonePath .standard)
    (t := settled) (opens_housed_cache _) rfl rfl
  obtain ⟨st, hst, hshow, hiff⟩ := run_hits_iff (s := .of settled) (o := named) ⟨[], fun _ => none⟩
    hloc hconf rfl
  have hup : st.upToDate = true := (Cache.upToDate_iff hdef hst).mpr hhash
  exact ⟨hloc, hconf, rfl, st, hst, hup, hshow, hiff.mpr ⟨hup, hsettings⟩⟩

/-- Only the hash of the definition is stored. -/
def unsettled : Tree :=
  housed [(hashName, .file (Digest.sha256Hex loneContent).toUTF8 false)]

/-- The status is up to date, and the next run makes the driver anew. -/
theorem up_to_date_missed :
    Build.locateDefinition unsettled (Path.ofText named.matrfile) = .ok lonePath ∧
    Configuration.loadOrStandard unsettled lonePath.directory ⟨none, none⟩ =
      .ok (.standard, none) ∧ named.noCache = false ∧
    (∃ st, Cache.status ⟨lonePath, none⟩ unsettled = .ok st ∧ st.upToDate = true) ∧
    ¬ ∃ built s', prepared ⟨[], fun _ => none⟩ ⟨none, none⟩ named (.of unsettled) =
      (.ok built, s') ∧ built.rebuilt = false := by
  have ho : unsettled.Opens (Build.cacheOf lonePath .standard).directory (["D"] ++ [cacheName]) :=
    opens_housed_cache _
  have hdef : Build.fileHash unsettled lonePath = .ok (Digest.sha256Hex loneContent) := by
    rw [Build.fileHash, unsettled, housed_read]
    rfl
  refine ⟨housed_locate _, housed_standard _, rfl, ?_, ?_⟩
  · have hstored : Cache.storedHash? ⟨lonePath, none⟩ unsettled =
        some (Digest.sha256Hex loneContent) :=
      (Build.trimmedText?_child ho Build.literal_hashName (x := false) rfl).trans
        (congrArg _ (Build.trimmed_sha256Hex _))
    obtain ⟨st, hst, hup, _⟩ := Cache.status_of_stored (c := ⟨lonePath, none⟩) ho hdef hstored
    exact ⟨st, hst, hup⟩
  · rw [prepared_hits_iff (s := .of unsettled) (o := named) (housed_locate _) (housed_standard _)
      rfl hdef]
    have hmissing : unsettled.entry true (Build.cacheOf lonePath .standard).settingsPath =
        .error .missing := ho.entry_missing Build.literal_settingsName rfl true
    have hnone : (Build.cacheOf lonePath .standard).storedSettings? unsettled = none := by
      have hread : unsettled.readText (Build.cacheOf lonePath .standard).settingsPath =
          .error .missing := by
        rw [Tree.readText, Tree.read, hmissing]
        rfl
      rw [Cache.storedSettings?, Build.trimmedText?, hread]
    rintro ⟨_, hsettings⟩
    exact Option.some_ne_none _ (hsettings.symm.trans hnone)

end

end TaskDriver.CommandLine
