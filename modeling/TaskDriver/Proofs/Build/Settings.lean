import TaskDriver.Build.Build
import TaskDriver.Proofs.Text.Quoted

/-! The settings text tells every setting that a driver is made from, so that two settings with one
fingerprint make the same driver. -/
namespace TaskDriver.Build

theorem newline_not_mem_digits (n : Nat) : '\n' ∉ (toString n).toList := by
  intro h
  rw [Nat.toString_eq_repr, Nat.toList_repr] at h
  have := Nat.isDigit_of_mem_toDigits (by decide) (by decide) h
  exact absurd this (by decide)

theorem toString_nat_inj {n m : Nat} (h : (toString n).toList = (toString m).toList) : n = m := by
  rw [Nat.toString_eq_repr, Nat.toString_eq_repr, Nat.toList_repr, Nat.toList_repr] at h
  rw [← Nat.ofDigitChars_ten_toDigits (n := n), h, Nat.ofDigitChars_ten_toDigits]

theorem newline_not_mem_variant (p : Task.Policy) : '\n' ∉ p.variant.toList := by
  cases p <;> decide

theorem newline_not_mem_bool (b : Bool) : '\n' ∉ (toString b).toList := by
  cases b <;> decide

theorem toString_bool_inj {a b : Bool} (h : (toString a).toList = (toString b).toList) : a = b := by
  cases a <;> cases b <;> first | rfl | exact absurd h (by decide)

theorem toList_settingsText (c : Configuration) (m : String) :
    (settingsText c m).toList =
      "policy=".toList ++ (c.policy.variant.toList ++ '\n' ::
        ("timeout=".toList ++ ((toString c.timeoutSecs).toList ++ '\n' ::
          ("release=".toList ++ ((toString c.compiler.release).toList ++ '\n' ::
            ("args=".toList ++ ((Text.quoteList c.compiler.args).toList ++ '\n' ::
              m.toList))))))) := by
  unfold settingsText
  -- With the texts of the settings in sight, the simplifier tries to compute them.
  generalize c.policy.variant = p, toString c.timeoutSecs = t, toString c.compiler.release = r,
    Text.quoteList c.compiler.args = a
  simp

theorem settingsText_inj {c d : Configuration} {m k : String}
    (h : settingsText c m = settingsText d k) :
    c.policy = d.policy ∧ c.timeoutSecs = d.timeoutSecs ∧ c.compiler.release = d.compiler.release ∧
      c.compiler.args = d.compiler.args ∧ m = k := by
  have h₁ := congrArg String.toList h
  rw [toList_settingsText, toList_settingsText] at h₁
  obtain ⟨hp, h₂⟩ := Text.append_cons_inj (newline_not_mem_variant _) (newline_not_mem_variant _)
    (List.append_cancel_left h₁)
  obtain ⟨ht, h₃⟩ := Text.append_cons_inj (newline_not_mem_digits _) (newline_not_mem_digits _)
    (List.append_cancel_left h₂)
  obtain ⟨hr, h₄⟩ := Text.append_cons_inj (newline_not_mem_bool _) (newline_not_mem_bool _)
    (List.append_cancel_left h₃)
  obtain ⟨ha, h₅⟩ := Text.quoteList_append_inj (List.append_cancel_left h₄)
  exact ⟨Task.Policy.variant_inj (String.toList_inj.mp hp), toString_nat_inj ht,
    toString_bool_inj hr, ha, String.toList_inj.mp (List.cons.inj h₅).2⟩

end TaskDriver.Build
