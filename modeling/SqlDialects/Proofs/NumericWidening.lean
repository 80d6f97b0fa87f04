import SqlDialects.Proofs.NumericLiterals

namespace SqlDialects.Proofs.NumericWidening

open DecimalSpelling
open DecimalValue
open Numeral
open NumericLiterals
open Text (trim trimChars)

variable {d : Dialect} {cs : List Char} {value literal : String} {narrow wide type : LogicalType}
  {n : Int} {bits more : Nat}

theorem fitsBits_mono (h : FitsBits bits n) (hmore : bits ≤ more) : FitsBits more n := by
  have hpow : (2 : Int) ^ (bits - 1) ≤ 2 ^ (more - 1) :=
    pow_le_pow_right₀ (by norm_num) (Nat.sub_le_sub_right hmore 1)
  obtain ⟨hlow, hhigh⟩ := h
  exact ⟨le_trans (neg_le_neg hpow) hlow, lt_of_lt_of_le hhigh hpow⟩

theorem literal_widen (hnarrow : bits? narrow = some bits) (hwide : bits? wide = some more)
    (hmore : bits ≤ more) (h : d.literal value narrow = .ok literal) :
    d.literal value wide = .ok literal := by
  obtain ⟨n, hwrites, hfits, rfl⟩ := (integer_literal_iff hnarrow).mp h
  exact (integer_literal_iff hwide).mpr ⟨n, hwrites, fitsBits_mono hfits hmore, rfl⟩

theorem exists_integer_literal_iff (d : Dialect) (value : String)
    (htype : bits? type = some bits) :
    (∃ literal, d.literal value type = .ok literal) ↔
      ∃ n, WritesInteger n (trimChars value.toList) ∧ FitsBits bits n := by
  constructor
  · rintro ⟨literal, h⟩
    obtain ⟨n, hwrites, hfits, -⟩ := (integer_literal_iff htype).mp h
    exact ⟨n, hwrites, hfits⟩
  · rintro ⟨n, hwrites, hfits⟩
    exact ⟨n.repr, (integer_literal_iff htype).mpr ⟨n, hwrites, hfits, rfl⟩⟩

theorem not_point_of_writesInteger (h : WritesInteger n cs) : '.' ∉ cs := by
  obtain ⟨negative, digits, hsigned, -, hdigits, -⟩ := h
  have hpoint : '.' ∉ digits :=
    fun hmem => ne_of_isDigit (List.all_eq_true.mp hdigits _ hmem) rfl rfl
  cases hsigned with
  | bare => exact hpoint
  | plus => exact List.not_mem_cons_of_ne_of_not_mem (by decide) hpoint
  | minus => exact List.not_mem_cons_of_ne_of_not_mem (by decide) hpoint

theorem decimal_literal_of_writesInteger (htype : type = .numeric ∨ type = .double)
    (h : WritesInteger n (trimChars value.toList)) : d.literal value type = .ok (trim value) := by
  have hsettled : Settled (d.has .requiresExponentLiteral) (trimChars value.toList) :=
    fun _ hpoint => absurd hpoint (not_point_of_writesInteger h)
  rw [decimal_literal_iff htype, ofDecimal_of_settled hsettled]
  exact ⟨isDecimal_of_writesInteger h, rfl⟩

/-- Every value that is an integer of the narrow type is one of the wide type and has the same literal
there. One of the wide type is a numeral of both decimal types and denotes the same integer. -/
theorem numeric_types_widen (d : Dialect) (value : String) :
    (∀ literal, d.literal value .integer = .ok literal → d.literal value .long = .ok literal) ∧
    (∀ literal, d.literal value .long = .ok literal →
      ∃ numeral, d.literal value .numeric = .ok numeral ∧ d.literal value .double = .ok numeral ∧
        ∃ n : ℤ, (∀ x, Denotes literal x ↔ x = n) ∧ ∀ x, Denotes numeral x ↔ x = n) ∧
    ((∃ literal, d.literal value .integer = .ok literal) ↔
      ∃ n, WritesInteger n (trimChars value.toList) ∧ -2 ^ 31 ≤ n ∧ n < 2 ^ 31) ∧
    ((∃ literal, d.literal value .long = .ok literal) ↔
      ∃ n, WritesInteger n (trimChars value.toList) ∧ -2 ^ 63 ≤ n ∧ n < 2 ^ 63) := by
  have hinteger : bits? .integer = some 32 := rfl
  have hlong : bits? .long = some 64 := rfl
  refine ⟨fun literal => literal_widen hinteger hlong (by decide), ?_,
    exists_integer_literal_iff d value hinteger, exists_integer_literal_iff d value hlong⟩
  intro literal h
  obtain ⟨n, hwrites, -, rfl⟩ := (integer_literal_iff hlong).mp h
  have hnumeral : WritesInteger n (trimChars (trim value).toList) := by
    rw [trim, String.toList_ofList, trimChars_of_writesInteger hwrites]
    exact hwrites
  exact ⟨trim value, decimal_literal_of_writesInteger (.inl rfl) hwrites,
    decimal_literal_of_writesInteger (.inr rfl) hwrites, n, denotes_repr_iff n,
    denotes_iff_of_writesInteger hnumeral⟩

theorem numeric_types_widen_luciddb :
    ∃ registry d, Builtin.registrations.build = .ok registry ∧
      registry.resolveTag "luciddb" .unknown = .ok d ∧
      d.literal " +000000000000002147483647" .integer = .ok "2147483647" ∧
      d.literal " +000000000000002147483647" .long = .ok "2147483647" ∧
      (¬ ∃ literal, d.literal "2147483648" .integer = .ok literal) ∧
      d.literal "-09223372036854775808" .long = .ok "-9223372036854775808" ∧
      ∃ numeral, d.literal "-09223372036854775808" .numeric = .ok numeral ∧
        d.literal "-09223372036854775808" .double = .ok numeral ∧
        ∃ n : ℤ, (∀ x, Denotes "-9223372036854775808" x ↔ x = n) ∧
          ∀ x, Denotes numeral x ↔ x = n := by
  obtain ⟨registry, d, hbuild, hd, -⟩ := exists_luciddb
  have hinteger : d.literal " +000000000000002147483647" .integer = .ok "2147483647" := by
    rw [literal_eq_ok_iff]
    show (int32? (trimChars " +000000000000002147483647".toList)).map Int.repr = some "2147483647"
    decide +kernel
  have hlong : d.literal "-09223372036854775808" .long = .ok "-9223372036854775808" := by
    rw [literal_eq_ok_iff]
    show (int64? (trimChars "-09223372036854775808".toList)).map Int.repr =
      some "-9223372036854775808"
    decide +kernel
  refine ⟨registry, d, hbuild, hd, hinteger, ?_, ?_, hlong, ?_⟩
  · exact (numeric_types_widen d _).1 _ hinteger
  · rw [(numeric_types_widen d _).2.2.1]
    rintro ⟨n, hwrites, -, hhigh⟩
    have hread : integer? (trimChars "2147483648".toList) = some 2147483648 := by decide +kernel
    obtain rfl := Option.some.inj (hread.symm.trans (integer?_eq_some_iff.mpr hwrites))
    exact absurd hhigh (by decide)
  · exact (numeric_types_widen d _).2.1 _ hlong

end SqlDialects.Proofs.NumericWidening
