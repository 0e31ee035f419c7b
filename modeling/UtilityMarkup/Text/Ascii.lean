import UtilityMarkup.Text.Blank

/-!
# ASCII lower case

The lower case that changes only the letters from `A` to `Z`, and what it leaves as it was.
-/

namespace UtilityMarkup.Text

/-- What relates each of the 26 capitals to its lower case, and every other character to itself,
relates every character to its lower case. -/
theorem toLower_cases {motive : Char → Char → Prop}
    (capital : ∀ n ∈ List.range' 65 26, motive (.ofNat n) (Char.ofNat n).toLower)
    (other : ∀ c, c.toLower = c → motive c c) (c : Char) : motive c c.toLower := by
  by_cases h : 65 ≤ c.toNat ∧ c.toNat < 91
  · have := capital c.toNat (by simp [List.mem_range'_1]; omega)
    rwa [Char.ofNat_toNat] at this
  · have hc : c.toLower = c := dif_neg fun hle => h ⟨hle.1, Nat.lt_succ_of_le hle.2⟩
    rw [hc]
    exact other c hc

theorem isBlank_toLower (c : Char) : isBlank c.toLower = isBlank c :=
  toLower_cases (motive := fun c lower => isBlank lower = isBlank c) (by decide) (fun _ _ => rfl) c

theorem toLower_toLower (c : Char) : c.toLower.toLower = c.toLower :=
  toLower_cases (motive := fun _ lower => lower.toLower = lower) (by decide) (fun _ h => h) c

end UtilityMarkup.Text
