import TaskDriver.Build.Cache
import TaskDriver.Proofs.Number.ByteSize

/-! How the size of a cache is shown. -/
namespace TaskDriver.Build

open Number (SizeUnit Told)

/-- The text of a size gives the right number of the right unit. In a unit that is not the largest
the number is below 1024, unless the size is at most a twentieth of the unit below the next one,
when it is 1024. -/
theorem formattedSize_told (st : CacheStatus) (h : st.totalSize < 2 ^ 53) :
    ∃ u x, Told st.formattedSize st.totalSize u x ∧
      (u ≠ .gigabyte → x ≤ 1024 ∧ (x < 1024 ↔ (st.totalSize : ℚ) / u.size < 1024 - 1 / 20)) := by
  obtain ⟨x, hx⟩ := Number.told_byteSize h
  exact ⟨.of st.totalSize, x, hx, hx.lt_iff⟩

/-- A cache of so many bytes. -/
def sized (n : Nat) : CacheStatus :=
  ⟨⟨false, [cacheName]⟩, true, none, false, false, n⟩

/-- One and a quarter kilobytes lie half way between two decimals. -/
theorem formattedSize_told_halfWay :
    (sized 1280).totalSize < 2 ^ 53 ∧ (sized 1280).formattedSize = "1.2 KB" ∧
    ∃ u x, Told (sized 1280).formattedSize (sized 1280).totalSize u x ∧
      (u ≠ .gigabyte →
        x ≤ 1024 ∧ (x < 1024 ↔ ((sized 1280).totalSize : ℚ) / u.size < 1024 - 1 / 20)) :=
  ⟨by decide, by decide, formattedSize_told (sized 1280) (by decide)⟩

/-- A byte less than a megabyte is shown as 1024 kilobytes. -/
theorem formattedSize_full :
    (sized 1048575).totalSize < 2 ^ 53 ∧ (sized 1048575).formattedSize = "1024.0 KB" ∧
    ¬ ∃ u x, Told (sized 1048575).formattedSize (sized 1048575).totalSize u x ∧
      (u ≠ .gigabyte → x < 1024) := by
  refine ⟨by decide, by decide, ?_⟩
  rintro ⟨u, x, hx, hbelow⟩
  have hu : u = .kilobyte := hx.fits.unique (SizeUnit.of_fits 1048575)
  subst hu
  have := (hx.lt_iff nofun).2.mp (hbelow nofun)
  norm_num [sized, SizeUnit.size] at this

end TaskDriver.Build
