import TaskDriver.Proofs.Build.Current

/-! The fingerprint of the settings as a key. It stands for all that a driver is made from besides
its definition and for nothing else: texts with other settings in them differ, and settings with one
fingerprint give the compiler the same work. -/
namespace TaskDriver.Build

open Files (Path)

/-- The configurations agree in all that the driver of a definition file is made from. -/
structure Interchangeable (p : Path) (c d : Configuration) : Prop where
  policy : c.policy = d.policy
  timeout : c.timeoutSecs = d.timeoutSecs
  release : c.compiler.release = d.compiler.release
  args : c.compiler.args = d.compiler.args
  manifest : driverManifest p c = driverManifest p d

variable {p : Path} {c d : Configuration}

theorem Interchangeable.refl (p : Path) (c : Configuration) : Interchangeable p c c :=
  ⟨rfl, rfl, rfl, rfl, rfl⟩

theorem settingsText_eq_iff :
    settingsText c (driverManifest p c) = settingsText d (driverManifest p d) ↔
      Interchangeable p c d := by
  constructor
  · intro h
    obtain ⟨hpolicy, htimeout, hrelease, hargs, hmanifest⟩ := settingsText_inj h
    exact ⟨hpolicy, htimeout, hrelease, hargs, hmanifest⟩
  · rintro ⟨hpolicy, htimeout, hrelease, hargs, hmanifest⟩
    apply String.toList_inj.mp
    rw [toList_settingsText, toList_settingsText, hpolicy, htimeout, hrelease, hargs, hmanifest]

theorem settingsBytes_eq_iff : settingsBytes p c = settingsBytes p d ↔ Interchangeable p c d :=
  String.toByteArray_inj.trans settingsText_eq_iff

theorem fingerprint_eq (p : Path) (c : Configuration) :
    fingerprint c (driverManifest p c) = Digest.sha256Hex (settingsBytes p c) :=
  rfl

/-- Without a collision the digests tell the settings apart. -/
theorem fingerprint_eq_iff {texts : ByteArray → Prop} (h : NoCollision texts)
    (hc : texts (settingsBytes p c)) (hd : texts (settingsBytes p d)) :
    fingerprint c (driverManifest p c) = fingerprint d (driverManifest p d) ↔
      Interchangeable p c d := by
  rw [fingerprint_eq, fingerprint_eq, ← settingsBytes_eq_iff]
  constructor
  · exact h _ _ hc hd
  · exact congrArg Digest.sha256Hex

theorem Interchangeable.driverText_eq (h : Interchangeable p c d)
    (commands : List Definition.Command) :
    driverText commands (.ofConfiguration c) = driverText commands (.ofConfiguration d) := by
  rw [DriverOptions.ofConfiguration, DriverOptions.ofConfiguration, h.policy, h.timeout]

/-- The job names the files of the cache, whatever settings it is for. -/
theorem Cache.job_eq (s s' : Option String) {o o' : CompilerSettings} (hr : o.release = o'.release)
    (ha : o.args = o'.args) : (Cache.mk p s).job o = (Cache.mk p s').job o' := by
  rw [job, job, hr, ha]
  rfl

theorem Interchangeable.job_eq (h : Interchangeable p c d) :
    (cacheOf p c).job c.compiler = (cacheOf p d).job d.compiler :=
  Cache.job_eq _ _ h.release h.args

/-- The settings texts are the same just for settings that agree in all parts; and settings with one
fingerprint give the same source, the same manifest and the same job, whatever the commands. -/
theorem settings_key (p : Path) (c d : Configuration) :
    (settingsText c (driverManifest p c) = settingsText d (driverManifest p d) ↔
      c.policy = d.policy ∧ c.timeoutSecs = d.timeoutSecs ∧
        c.compiler.release = d.compiler.release ∧ c.compiler.args = d.compiler.args ∧
        driverManifest p c = driverManifest p d) ∧
    (NoCollision (fun x => x = settingsBytes p c ∨ x = settingsBytes p d) →
      fingerprint c (driverManifest p c) = fingerprint d (driverManifest p d) →
      ∀ commands,
        driverText commands (.ofConfiguration c) = driverText commands (.ofConfiguration d) ∧
        driverManifest p c = driverManifest p d ∧
        (cacheOf p c).job c.compiler = (cacheOf p d).job d.compiler) := by
  constructor
  · rw [settingsText_eq_iff]
    constructor
    · rintro ⟨hpolicy, htimeout, hrelease, hargs, hmanifest⟩
      exact ⟨hpolicy, htimeout, hrelease, hargs, hmanifest⟩
    · rintro ⟨hpolicy, htimeout, hrelease, hargs, hmanifest⟩
      exact ⟨hpolicy, htimeout, hrelease, hargs, hmanifest⟩
  · intro hno he commands
    have h : Interchangeable p c d := (fingerprint_eq_iff hno (.inl rfl) (.inr rfl)).mp he
    exact ⟨h.driverText_eq commands, h.manifest, h.job_eq⟩

/-- The standard settings, but with another program to compile with. -/
def otherCargo : Configuration :=
  { Configuration.standard with compiler := { Configuration.standard.compiler with cargo := "other" } }

/-- The program that compiles is no part of the key. -/
theorem settings_key_otherCargo :
    NoCollision (fun x => x = settingsBytes lonePath .standard ∨
      x = settingsBytes lonePath otherCargo) ∧
    fingerprint .standard (driverManifest lonePath .standard) =
      fingerprint otherCargo (driverManifest lonePath otherCargo) ∧
    ∀ commands, driverText commands (.ofConfiguration .standard) =
        driverText commands (.ofConfiguration otherCargo) ∧
      driverManifest lonePath .standard = driverManifest lonePath otherCargo ∧
      (cacheOf lonePath .standard).job Configuration.standard.compiler =
        (cacheOf lonePath otherCargo).job otherCargo.compiler := by
  have hb : settingsBytes lonePath .standard = settingsBytes lonePath otherCargo :=
    settingsBytes_eq_iff.mpr ⟨rfl, rfl, rfl, rfl, rfl⟩
  have hno : NoCollision (fun x => x = settingsBytes lonePath .standard ∨
      x = settingsBytes lonePath otherCargo) := by
    intro x y hx hy _
    rw [← hb, or_self] at hx hy
    rw [hx, hy]
  have he := congrArg Digest.sha256Hex hb
  rw [← fingerprint_eq, ← fingerprint_eq] at he
  exact ⟨hno, he, (settings_key lonePath .standard otherCargo).2 hno he⟩

end TaskDriver.Build
