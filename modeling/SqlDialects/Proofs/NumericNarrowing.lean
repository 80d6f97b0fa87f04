import Mathlib.Tactic.NormNum
import SqlDialects.Proofs.NumericLiterals

namespace SqlDialects.Proofs.NumericNarrowing

open DecimalSpelling
open DecimalValue
open IntegerSpelling
open LiteralCharacters (natRepr_ne_nil)
open NumeralGrammar
open Numeral
open NumericLiterals
open Text (trimChars)

/-- Numerals without an exponent, and without a point where no digits may follow one. -/
def plain (scale : Nat) : Language Char :=
  if scale = 0 then integer else sign * mantissa

/-- The numbers of `DECIMAL(precision, scale)`. -/
def FitsDecimal (precision scale : Nat) (x : ℚ) : Prop :=
  |x| < 10 ^ (precision - scale) ∧ ∃ m : ℤ, x * 10 ^ scale = m

variable {precision scale bits : Nat} {x : ℚ} {m : ℤ} {cs : List Char} {code : TypeCode}

theorem mem_decimal_of_plain (h : cs ∈ plain scale) : cs ∈ decimal := by
  unfold plain at h
  split at h
  · obtain ⟨n, hwrites⟩ := mem_integer_iff.mp h
    exact isDecimal_iff_mem.mp (isDecimal_of_writesInteger hwrites)
  · obtain ⟨negative, rest, hsigned, hrest⟩ := mem_sign_mul_iff.mp h
    exact mem_sign_mul_iff.mpr ⟨negative, rest, hsigned, rest, hrest, [], .inl rfl, rest.append_nil⟩

/-- An integer with its point moved to the left, over as many digits as `scale` says. Zeros in
front make sure that there are that many. -/
def shifted (scale : Nat) (m : ℤ) : Decimal :=
  let written := m.natAbs.repr.toList
  let digits := List.replicate scale '0' ++ written
  ⟨m < 0, digits.take written.length, digits.drop written.length, 0⟩

theorem length_fraction_shifted (scale : Nat) (m : ℤ) :
    (shifted scale m).fraction.length = scale := by
  rw [shifted, List.length_drop, List.length_append, List.length_replicate, Nat.add_sub_cancel]

theorem whole_append_fraction_shifted (scale : Nat) (m : ℤ) :
    (shifted scale m).whole ++ (shifted scale m).fraction =
      List.replicate scale '0' ++ m.natAbs.repr.toList :=
  List.take_append_drop _ _

theorem whole_shifted_ne_nil (scale : Nat) (m : ℤ) : (shifted scale m).whole ≠ [] := by
  have hlength := List.length_pos_iff.mpr (natRepr_ne_nil m.natAbs)
  rw [shifted, ← List.length_pos_iff, List.length_take, List.length_append]
  omega

theorem allDigits_shifted (scale : Nat) (m : ℤ) :
    allDigits (shifted scale m).whole = true ∧ allDigits (shifted scale m).fraction = true := by
  have hdigits : allDigits (List.replicate scale '0' ++ m.natAbs.repr.toList) = true := by
    refine allDigits_append_iff.mpr ⟨List.all_eq_true.mpr ?_, allDigits_natRepr m.natAbs⟩
    intro c hc
    rw [List.eq_of_mem_replicate hc]
    rfl
  rw [← whole_append_fraction_shifted] at hdigits
  exact allDigits_append_iff.mp hdigits

theorem significand_shifted (scale : Nat) (m : ℤ) : significand (shifted scale m) = m.natAbs := by
  rw [significand_eq, whole_append_fraction_shifted, valueOf, Nat.ofDigitChars_append,
    Nat.ofDigitChars_replicate_zero, Nat.mul_zero]
  exact valueOf_natRepr m.natAbs

theorem value_shifted (scale : Nat) (m : ℤ) :
    DecimalValue.value (shifted scale m) * 10 ^ scale = m := by
  have hsign : (if (shifted scale m).negative then -1 else 1) * (m.natAbs : ℚ) = m := by
    rw [Nat.cast_natAbs]
    rcases lt_or_ge m 0 with hneg | hpos
    · simp [shifted, hneg, abs_of_neg hneg]
    · simp [shifted, not_lt.mpr hpos, abs_of_nonneg hpos]
  rw [value_eq, length_fraction_shifted, significand_shifted, hsign, mul_assoc]
  show (m : ℚ) * (10 ^ (0 - (scale : ℤ)) * 10 ^ scale) = m
  rw [zero_sub, zpow_neg, zpow_natCast, inv_mul_cancel₀ (by positivity), mul_one]

theorem exists_signed (negative : Bool) (body : List Char) : ∃ cs, Signed negative body cs := by
  cases negative with
  | false => exact ⟨_, .bare body⟩
  | true => exact ⟨_, .minus body⟩

theorem exists_spelling {n : Decimal} (hexponent : n.exponent = 0)
    (hwhole : allDigits n.whole = true) (hfraction : allDigits n.fraction = true)
    (hne : n.whole ≠ []) : ∃ cs, Writes n cs ∧ cs ∈ sign * mantissa := by
  obtain ⟨cs, hsigned⟩ := exists_signed n.negative (n.whole ++ '.' :: n.fraction)
  have hmantissa : n.whole ++ '.' :: n.fraction ∈ mantissa :=
    mem_mantissa_iff.mpr ⟨_, _, .inr rfl, hwhole, hfraction, .inl hne⟩
  refine ⟨cs, ⟨_, [], ?_, .inr rfl, ?_, hwhole, hfraction, .inl hne⟩,
    mem_sign_mul_iff.mpr ⟨_, _, hsigned, hmantissa⟩⟩
  · rwa [List.append_nil]
  · rw [hexponent]
    exact .none

theorem exists_plain (h : FitsDecimal precision scale x) :
    ∃ text : String, text.toList ∈ plain scale ∧ Denotes text x := by
  obtain ⟨-, m, hm⟩ := h
  unfold plain
  split
  · rename_i hscale
    rw [hscale, pow_zero, mul_one] at hm
    exact ⟨m.repr, mem_integer_iff.mpr ⟨m, writesInteger_repr m⟩, (denotes_repr_iff m x).mpr hm⟩
  · have hx : x = DecimalValue.value (shifted scale m) := by
      apply mul_right_cancel₀ (b := (10 : ℚ) ^ scale) (by positivity)
      rw [hm, value_shifted]
    obtain ⟨hwhole, hfraction⟩ := allDigits_shifted scale m
    obtain ⟨cs, hwrites, hmem⟩ :=
      exists_spelling rfl hwhole hfraction (whole_shifted_ne_nil scale m)
    refine ⟨String.ofList cs, ?_, shifted scale m, ?_, hx⟩
    · rw [String.toList_ofList]
      exact hmem
    · rw [String.toList_ofList, trimChars_of_isDecimal (isDecimal_iff.mpr ⟨_, hwrites⟩)]
      exact hwrites

theorem defaultType_exact (hcode : code = .numeric ∨ code = .decimal) (precision scale : Nat) :
    Column.defaultType code precision scale = .numeric ∨
      ∃ bits, bits? (Column.defaultType code precision scale) = some bits ∧ scale = 0 ∧
        10 ^ precision ≤ 2 ^ (bits - 1) := by
  have hbands : Column.defaultType code precision scale =
      if (scale : ℤ) == 0 && 1 ≤ (precision : ℤ) && (precision : ℤ) ≤ 9 then .integer
      else if (scale : ℤ) == 0 && 10 ≤ (precision : ℤ) && (precision : ℤ) ≤ 18 then .long
      else .numeric := by
    rcases hcode with rfl | rfl
    · rfl
    · rfl
  rw [hbands]
  split
  · rename_i hband
    simp only [Bool.and_eq_true, beq_iff_eq, decide_eq_true_eq] at hband
    have hpow : 10 ^ precision ≤ 10 ^ 9 := Nat.pow_le_pow_right (by decide) (by omega)
    exact .inr ⟨32, rfl, by omega, by omega⟩
  · split
    · rename_i hband
      simp only [Bool.and_eq_true, beq_iff_eq, decide_eq_true_eq] at hband
      have hpow : 10 ^ precision ≤ 10 ^ 18 := Nat.pow_le_pow_right (by decide) (by omega)
      exact .inr ⟨64, rfl, by omega, by omega⟩
    · exact .inl rfl

theorem fitsBits_of_abs_lt (h : |(m : ℚ)| < 10 ^ precision)
    (hpow : 10 ^ precision ≤ 2 ^ (bits - 1)) : FitsBits bits m := by
  have hpow' : (10 : ℚ) ^ precision ≤ 2 ^ (bits - 1) := by exact_mod_cast hpow
  obtain ⟨hlow, hhigh⟩ := abs_lt.mp (lt_of_lt_of_le h hpow')
  exact ⟨by exact_mod_cast hlow.le, by exact_mod_cast hhigh⟩

/-- Each number that fits an exact column has a plain numeral, and whichever of its plain numerals
is given, it is a literal of the default type of the column and remains that number. -/
theorem default_type_keeps_number (d : Dialect) (code : TypeCode) (precision scale : Nat) (x : ℚ)
    (hcode : code = .numeric ∨ code = .decimal) (hfits : FitsDecimal precision scale x) :
    (∃ text : String, text.toList ∈ plain scale ∧ Denotes text x) ∧
    ∀ text : String, trimChars text.toList ∈ plain scale → Denotes text x →
      ∃ literal, d.literal text (Column.defaultType code precision scale) = .ok literal ∧
        ∀ y, Denotes literal y ↔ y = x := by
  refine ⟨exists_plain hfits, ?_⟩
  intro text hplain hdenotes
  rcases defaultType_exact hcode precision scale with htype | ⟨bits, hbits, rfl, hpow⟩
  · have hdecimal := isDecimal_iff_mem.mpr (mem_decimal_of_plain hplain)
    have hliteral : d.literal text .numeric = .ok _ :=
      (decimal_literal_iff (.inl rfl)).mpr ⟨hdecimal, rfl⟩
    obtain ⟨q, hq, hkept⟩ := (keepsDecimal_of_literal (.inl rfl) hliteral).same_number
    obtain rfl := (hq x).mp hdenotes
    rw [htype]
    exact ⟨_, hliteral, hkept⟩
  · obtain ⟨n, hwrites⟩ := mem_integer_iff.mp hplain
    obtain rfl := (denotes_iff_of_writesInteger hwrites x).mp hdenotes
    exact ⟨n.repr, (integer_literal_iff hbits).mpr
      ⟨n, hwrites, fitsBits_of_abs_lt hfits.1 hpow, rfl⟩, denotes_repr_iff n⟩

theorem default_type_keeps_extremes :
    ∃ registry d, Builtin.registrations.build = .ok registry ∧
      registry.resolveTag "luciddb" .unknown = .ok d ∧
      FitsDecimal 10 0 (-9999999999) ∧ Column.defaultType .decimal 10 0 = .long ∧
      (∃ literal, d.literal "-9999999999" (Column.defaultType .decimal 10 0) = .ok literal ∧
        ∀ y, Denotes literal y ↔ y = -9999999999) ∧
      FitsDecimal 5 2 (-999.99) ∧ Column.defaultType .numeric 5 2 = .numeric ∧
      ∃ literal, d.literal " -999.99 " (Column.defaultType .numeric 5 2) = .ok literal ∧
        ∀ y, Denotes literal y ↔ y = -999.99 := by
  obtain ⟨registry, d, hbuild, hd, -⟩ := exists_luciddb
  have hinteger : FitsDecimal 10 0 (-9999999999) :=
    ⟨by norm_num [abs_of_neg], -9999999999, by norm_num⟩
  have hdecimal : FitsDecimal 5 2 (-999.99) := ⟨by norm_num [abs_of_neg], -99999, by norm_num⟩
  have hwrites : WritesInteger (-9999999999) (trimChars "-9999999999".toList) :=
    writesInteger_trimChars_repr (-9999999999)
  have hsigned : Signed true "999.99".toList (trimChars " -999.99 ".toList) := .minus _
  have hmantissa : "999.99".toList ∈ mantissa :=
    mem_mantissa_iff.mpr ⟨"999".toList, "99".toList, .inr rfl, rfl, rfl, .inl (by decide)⟩
  refine ⟨registry, d, hbuild, hd, hinteger, rfl, ?_, hdecimal, rfl, ?_⟩
  · refine (default_type_keeps_number d .decimal 10 0 _ (.inr rfl) hinteger).2 _ ?_ ?_
    · exact mem_integer_iff.mpr ⟨_, hwrites⟩
    · rw [denotes_iff_of_writesInteger hwrites]
      norm_num
  · refine (default_type_keeps_number d .numeric 5 2 _ (.inl rfl) hdecimal).2 _ ?_ ?_
    · exact mem_sign_mul_iff.mpr ⟨_, _, hsigned, hmantissa⟩
    · refine ⟨⟨true, "999".toList, "99".toList, 0⟩, ?_, ?_⟩
      · exact ⟨"999.99".toList, [], hsigned, .inr rfl, .none, rfl, rfl, .inl (by decide)⟩
      · show (-999.99 : ℚ) = -1 * ((999 : ℕ) + (99 : ℕ) / 10 ^ 2) * 10 ^ (0 : ℤ)
        norm_num

end SqlDialects.Proofs.NumericNarrowing
