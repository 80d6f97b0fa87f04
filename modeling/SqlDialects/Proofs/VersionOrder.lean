import SqlDialects.Version

namespace SqlDialects.Proofs.VersionOrder

variable {a b c : Version}

theorem lt_iff : a < b ↔
    a.major.toNat < b.major.toNat ∨ (a.major.toNat = b.major.toNat ∧
      (a.minor.toNat < b.minor.toNat ∨ (a.minor.toNat = b.minor.toNat ∧
        a.patch.toNat < b.patch.toNat))) := by
  change Version.before a b = true ↔ _
  simp [Version.before, UInt32.lt_iff_toNat_lt, ← UInt32.toNat_inj]

theorem lt_irrefl (a : Version) : ¬ a < a := by
  rw [lt_iff]
  omega

theorem lt_trans (hab : a < b) (hbc : b < c) : a < c := by
  rw [lt_iff] at *
  omega

theorem lt_of_not_lt_of_lt (hab : ¬ b < a) (hbc : b < c) : a < c := by
  rw [lt_iff] at *
  omega

theorem lt_or_eq_of_not_lt (h : ¬ b < a) : a < b ∨ a = b := by
  rcases a with ⟨aMajor, aMinor, aPatch⟩
  rcases b with ⟨bMajor, bMinor, bPatch⟩
  rw [lt_iff] at *
  simp only [Version.mk.injEq, ← UInt32.toNat_inj] at *
  omega

end SqlDialects.Proofs.VersionOrder
