import SqlDialects.Proofs.DecimalSpelling
import SqlDialects.Proofs.TableAcceptance

/-!
How many digits a numeral is given room for. They are counted on the parts that its spelling has,
with its exponent if 64 bits hold that. An exponent of more than that is accepted all the same, and
the digits are counted without it. Next to the limits of 64 bits the counts wrap around.
-/

namespace SqlDialects.Proofs.DigitCounts

open DecimalSpelling
open Numeral
open TableAcceptance
open Text (trimChars)

/-- An exponent that 64 bits hold. -/
def FitsWord (e : Int) : Prop :=
  -9223372036854775808 ≤ e ∧ e ≤ 9223372036854775807

instance (e : Int) : Decidable (FitsWord e) :=
  inferInstanceAs (Decidable (_ ∧ _))

/-- The digits before and after the point of a numeral once some exponent is applied. -/
def counts (n : Decimal) (e : Int) : Nat × Nat :=
  ((n.whole.length + e).toNat, (n.fraction.length - e).toNat)

/-- The sums by which those digits are counted, if 64 bits hold them. -/
def SumsFit (n : Decimal) (e : Int) : Prop :=
  FitsWord (n.whole.length + e) ∧ FitsWord (n.fraction.length - e)

instance (n : Decimal) (e : Int) : Decidable (SumsFit n e) :=
  inferInstanceAs (Decidable (_ ∧ _))

/-- What 64 bits keep of the digits before and after the point. -/
def wordCounts (n : Decimal) (e : Int) : Nat × Nat :=
  ((Int64.ofInt (n.whole.length + e)).toNatClampNeg,
    (Int64.ofInt (n.fraction.length - e)).toNatClampNeg)

theorem int64?_eq {e : Int} {cs : List Char} (h : WritesInteger e cs) :
    int64? cs = if FitsWord e then some e else none := by
  rw [int64?, integerWithin?, integer?_eq_some_iff.mpr h, Option.filter_some]
  by_cases hfits : FitsWord e
  · rw [if_pos hfits, if_pos (by simpa [FitsWord] using hfits)]
  · rw [if_neg hfits, if_neg (by simpa [FitsWord] using hfits)]

theorem toNatClampNeg_ofInt {e : Int} (h : FitsWord e) :
    (Int64.ofInt e).toNatClampNeg = e.toNat := by
  obtain ⟨hlow, hhigh⟩ := h
  have hword : (Int64.ofInt e).toInt = e := Int64.toInt_ofInt_of_le (by omega) (by omega)
  rw [Int64.toNatClampNeg, hword]

theorem toNatClampNeg_le (w : Int64) : w.toNatClampNeg ≤ 9223372036854775807 := by
  have hlt := w.toInt_lt
  unfold Int64.toNatClampNeg
  omega

theorem wordCounts_eq {n : Decimal} {e : Int} (h : SumsFit n e) : wordCounts n e = counts n e := by
  rw [wordCounts, toNatClampNeg_ofInt h.1, toNatClampNeg_ofInt h.2]
  rfl

theorem shift_eq {e : Int} (parts : Parts) (h : ReadsExponent e parts.exponent) :
    parts.shift = .ofInt (if FitsWord e then e else 0) := by
  unfold Parts.shift
  cases hexponent : parts.exponent with
  | none =>
      rw [hexponent] at h
      obtain rfl : e = 0 := h
      rfl
  | some written =>
      rw [hexponent] at h
      show Int64.ofInt ((int64? written).getD 0) = _
      rw [int64?_eq h]
      split
      · rfl
      · rfl

theorem digitCounts_eq {n : Decimal} {cs : List Char} (h : Writes n cs) :
    digitCounts cs = wordCounts n (if FitsWord n.exponent then n.exponent else 0) := by
  obtain ⟨-, exponent, hparts, hexponent⟩ := exists_partsOf h
  have hshift := shift_eq ⟨n.whole, n.fraction, exponent⟩ hexponent
  generalize (if FitsWord n.exponent then n.exponent else 0) = e at hshift ⊢
  have hpoint : Int64.ofNat n.whole.length + .ofInt e = .ofInt (n.whole.length + e) := by
    rw [Int64.ofInt_add, Int64.ofInt_eq_ofNat]
  -- The digits before the point cancel out, also where the sum for the point has wrapped around.
  have hrest : Int64.ofNat (n.whole.length + n.fraction.length) - .ofInt (n.whole.length + e) =
      .ofInt (n.fraction.length - e) := by
    rw [← Int64.ofInt_eq_ofNat, ← Int64.ofInt_sub]
    congr 1
    push_cast
    omega
  simp only [digitCounts, hparts, hshift, hpoint, hrest, wordCounts]

/-- One digit and the greatest exponent make a sum that wraps around to the least word. -/
example : digitCounts "1e9223372036854775807".toList = (0, 0) := by
  decide +kernel

/-- The digits are counted with the exponent just if 64 bits hold all that is computed on the way. -/
theorem digitCounts_eq_counts_iff {n : Decimal} {cs : List Char} (h : Writes n cs) :
    digitCounts cs = counts n n.exponent ↔ FitsWord n.exponent ∧ SumsFit n n.exponent := by
  rw [digitCounts_eq h]
  constructor
  · -- Whatever the words are, they are too small for a count that 64 bits do not hold.
    intro hsame
    obtain ⟨hwhole, hfraction⟩ := Prod.mk.inj hsame
    have hwholeLe := hwhole ▸ toNatClampNeg_le _
    have hfractionLe := hfraction ▸ toNatClampNeg_le _
    unfold SumsFit FitsWord
    omega
  · rintro ⟨hfits, hsums⟩
    rw [if_pos hfits, wordCounts_eq hsums]

theorem exists_writes_of_integerWithin {low high n : Int} {cs : List Char}
    (h : integerWithin? low high cs = some n) : ∃ spelled, Writes spelled cs := by
  obtain ⟨hwrites, -⟩ := integerWithin?_eq_some_iff.mp h
  exact isDecimal_iff.mp (isDecimal_of_writesInteger hwrites)

theorem exists_writes_of_isLiteral {value : String} {type : LogicalType}
    (htype : type.isNumeric = true) (h : isLiteral value type = true) :
    ∃ n, Writes n (trimChars value.toList) := by
  cases type with
  | integer =>
      obtain ⟨n, hn⟩ := Option.isSome_iff_exists.mp h
      exact exists_writes_of_integerWithin hn
  | long =>
      obtain ⟨n, hn⟩ := Option.isSome_iff_exists.mp h
      exact exists_writes_of_integerWithin hn
  | numeric => exact isDecimal_iff.mp h
  | double => exact isDecimal_iff.mp h
  | string => exact absurd htype (by decide)
  | boolean => exact absurd htype (by decide)
  | date => exact absurd htype (by decide)
  | time => exact absurd htype (by decide)
  | timestamp => exact absurd htype (by decide)
  | object => exact absurd htype (by decide)

theorem isLiteral_of_literal {d : Dialect} {value literal : String} {type : LogicalType}
    (h : d.literal value type = .ok literal) : isLiteral value type = true :=
  (exists_literal_iff d value type).mp ⟨literal, h⟩

/-- Every accepted numeral has one reading, and its digits are counted with the exponent of that
reading just if 64 bits hold the exponent and the sums. Where they do not hold the exponent, the
digits are counted as if none were written. -/
theorem exponent_counts_iff_fitsWord (d : Dialect) (value literal : String) (type : LogicalType)
    (htype : type = .numeric ∨ type = .double) (h : d.literal value type = .ok literal) :
    ∃ n, (∀ other, Writes other (trimChars value.toList) ↔ other = n) ∧
      (digitCounts (trimChars value.toList) = counts n n.exponent ↔
        FitsWord n.exponent ∧ SumsFit n n.exponent) ∧
      (¬ FitsWord n.exponent → SumsFit n 0 →
        digitCounts (trimChars value.toList) = counts n 0) := by
  have hnumeric : type.isNumeric = true := by
    rcases htype with rfl | rfl
    · rfl
    · rfl
  obtain ⟨n, hwrites⟩ := exists_writes_of_isLiteral hnumeric (isLiteral_of_literal h)
  refine ⟨n, ?_, digitCounts_eq_counts_iff hwrites, ?_⟩
  · intro other
    constructor
    · intro hother
      exact hother.unique hwrites
    · rintro rfl
      exact hwrites
  · intro hfits hsums
    rw [digitCounts_eq hwrites, if_neg hfits, wordCounts_eq hsums]

def hugeNumeral : String :=
  "1e99999999999999999999"

def hugeReading : Decimal :=
  ⟨false, ['1'], [], 99999999999999999999⟩

theorem writes_hugeNumeral : Writes hugeReading (trimChars hugeNumeral.toList) := by
  have htrim : trimChars hugeNumeral.toList = '1' :: 'e' :: List.replicate 20 '9' := by
    decide +kernel
  rw [htrim]
  refine ⟨['1'], 'e' :: List.replicate 20 '9', .bare _, .inl ⟨rfl, rfl⟩, .mark rfl ?_, rfl, rfl,
    .inl (List.cons_ne_nil _ _)⟩
  exact ⟨false, _, .bare _, List.cons_ne_nil _ _, rfl, by decide +kernel⟩

theorem exponent_lost_hugeNumeral :
    Writes hugeReading (trimChars hugeNumeral.toList) ∧
      counts hugeReading hugeReading.exponent = (100000000000000000000, 0) ∧
      ∀ d : Dialect, d.literal hugeNumeral .numeric = .ok hugeNumeral ∧
        digitCounts (trimChars hugeNumeral.toList) = (1, 0) := by
  refine ⟨writes_hugeNumeral, by decide +kernel, ?_⟩
  intro d
  have hdecimal : isDecimal (trimChars hugeNumeral.toList) = true := by decide +kernel
  have hspelled : ∀ b, Literal.ofDecimal b (trimChars hugeNumeral.toList) = hugeNumeral := by
    decide +kernel
  have hliteral : d.literal hugeNumeral .numeric = .ok hugeNumeral := by
    simp [Dialect.literal, Literal.write, Literal.write?, hdecimal, hspelled]
  obtain ⟨n, hreading, -, hdropped⟩ :=
    exponent_counts_iff_fitsWord d hugeNumeral hugeNumeral .numeric (.inl rfl) hliteral
  obtain rfl : hugeReading = n := (hreading hugeReading).mp writes_hugeNumeral
  refine ⟨hliteral, ?_⟩
  rw [hdropped (by decide +kernel) (by decide +kernel)]
  rfl

end SqlDialects.Proofs.DigitCounts
