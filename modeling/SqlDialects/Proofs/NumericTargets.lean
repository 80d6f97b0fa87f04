import SqlDialects.Proofs.ColumnSizes
import SqlDialects.Proofs.DecimalValue
import SqlDialects.Proofs.Spelling

namespace SqlDialects.Proofs.NumericTargets

open ColumnSizes
open DecimalSpelling
open DecimalValue
open DigitCounts
open Numeral
open TableAcceptance
open Text (trimChars)
open Text.Search (replace)

theorem fits_of_abs_lt {value : String} {n : Decimal} (hwrites : Writes n (trimChars value.toList))
    (hlength : value.length ≤ 2 ^ 62) (hexponent : |n.exponent| < 2 ^ 62) :
    FitsWord n.exponent ∧ SumsFit n n.exponent := by
  obtain ⟨hlow, hhigh⟩ := abs_lt.mp hexponent
  have hdigits := hwrites.length_le
  have htrim := Spelling.length_trimChars_le value.toList
  rw [String.length_toList] at htrim
  unfold SumsFit FitsWord
  omega

/-- Whether a column has room for a value: for the digits before the point and for those after. -/
def HasRoom (size : ColumnSize) (value : String) : Prop :=
  (digitCounts (trimChars value.toList)).1 ≤ size.wholeDigits ∧
    (digitCounts (trimChars value.toList)).2 ≤ size.fractionDigits

variable {type : LogicalType} {size : ColumnSize} {value : String}

theorem hasRoom_ofValues (htype : type.isNumeric = true) {values : List String}
    (hvalue : value ∈ values) : HasRoom (ColumnSize.ofValues type values) value := by
  have hdigits : digitsOf type value = digitCounts (trimChars value.toList) := if_pos htype
  rw [ofValues_eq, HasRoom, ← hdigits]
  constructor
  · exact measure_le_greatest (fun value => (digitsOf type value).1) hvalue
  · exact measure_le_greatest (fun value => (digitsOf type value).2) hvalue

theorem one_le_precision (size : ColumnSize) : 1 ≤ size.precision :=
  le_max_right _ _

theorem wholeDigits_add_fractionDigits_le (size : ColumnSize) :
    size.wholeDigits + size.fractionDigits ≤ size.precision :=
  le_max_left _ _

theorem isLiteral_of_mem_valuesAt {t : InlineTable} (ht : Acceptable t) {i : Nat}
    (htype : t.types[i]? = some type) (hvalue : value ∈ t.valuesAt i) :
    isLiteral value type = true := by
  obtain ⟨row, hrow, hentry⟩ := List.mem_filterMap.mp hvalue
  apply ht.values row hrow value type
  apply List.mem_of_getElem? (i := i)
  rw [List.getElem?_zip_eq_some]
  exact ⟨Option.join_eq_some_iff.mp hentry, htype⟩

/-- A text that denotes just one number, and one that `DECIMAL(precision, scale)` holds exactly. -/
def HeldExactly (precision scale : Nat) (text : String) : Prop :=
  ∃ q : ℚ, (∀ x, Denotes text x ↔ x = q) ∧ |q| < 10 ^ (precision - scale) ∧
    ∃ m : ℤ, q * 10 ^ scale = m

theorem HasRoom.heldExactly (h : HasRoom size value) {n : Decimal}
    (hwrites : Writes n (trimChars value.toList))
    (hfits : FitsWord n.exponent ∧ SumsFit n n.exponent) :
    HeldExactly size.precision size.fractionDigits value := by
  obtain ⟨hwhole, hfraction⟩ := h
  rw [(digitCounts_eq_counts_iff hwrites).mpr hfits] at hwhole hfraction
  refine ⟨DecimalValue.value n, denotes_iff hwrites, ?_, exists_scaled_value hfraction⟩
  obtain ⟨-, -, -, -, -, hdigits, hmore, -⟩ := hwrites
  apply abs_value_lt hdigits hmore
  have hsum := wholeDigits_add_fractionDigits_le size
  omega

/-- The target of a numeric column of an accepted table holds every value of the column. The bound
on the length of a value leaves out only texts that no memory has room for: with one of those the
sums of 64 bits could wrap around. -/
theorem numeric_target_holds_column (d : Dialect) (t : InlineTable) (sql : String) (i : Nat)
    (type : LogicalType) (haccepted : d.inlineSql t = .ok sql) (htype : t.types[i]? = some type)
    (hnumeric : type.isNumeric = true)
    (hexponents : ∀ value ∈ t.valuesAt i, ∀ n, Writes n (trimChars value.toList) →
      |n.exponent| < 2 ^ 62) :
    let size := ColumnSize.ofValues type (t.valuesAt i)
    let precision := size.precision
    let scale := size.fractionDigits
    (d.castTargets t)[i]? = some (replace (replace (replace (d.castTemplate type)
        "\x7blen\x7d" size.length.repr) "\x7bprecision\x7d" precision.repr)
        "\x7bscale\x7d" scale.repr) ∧
      1 ≤ precision ∧ scale ≤ precision ∧
      ∀ value ∈ t.valuesAt i, value.length ≤ 2 ^ 62 → HeldExactly precision scale value := by
  intro size precision scale
  have hacceptable : Acceptable t := by
    rw [← requirements_hold_iff]
    exact (judged_inlineSql d t).exists_ok_iff.mp ⟨sql, haccepted⟩
  have hsum := wholeDigits_add_fractionDigits_le size
  refine ⟨?_, one_le_precision size, le_trans (Nat.le_add_left _ _) hsum, ?_⟩
  · rw [Dialect.castTargets, List.getElem?_mapIdx, htype]
    rfl
  · intro value hvalue hlength
    have hliteral := isLiteral_of_mem_valuesAt hacceptable htype hvalue
    obtain ⟨n, hwrites⟩ := exists_writes_of_isLiteral hnumeric hliteral
    have hroom : HasRoom size value := hasRoom_ofValues hnumeric hvalue
    exact hroom.heldExactly hwrites
      (fits_of_abs_lt hwrites hlength (hexponents value hvalue n hwrites))

def mixedTable : InlineTable where
  columns := ["id", "amount"]
  types := [.integer, .numeric]
  rows := [[some "1", some " -12.5e-1 "], [none, some "1E3"], [some "-2", none],
    [some "+03", some ".5"]]
  orderBy := none

theorem numeric_target_mixedTable :
    mixedTable.valuesAt 1 = [" -12.5e-1 ", "1E3", ".5"] ∧
    (∀ value ∈ mixedTable.valuesAt 1, ∀ n, Writes n (trimChars value.toList) →
      |n.exponent| < 2 ^ 62) ∧
    ∀ d : Dialect, (∃ sql, d.inlineSql mixedTable = .ok sql) ∧
      (d.castTargets mixedTable)[1]? = some (replace (replace (replace (d.castTemplate .numeric)
        "\x7blen\x7d" "10") "\x7bprecision\x7d" "6") "\x7bscale\x7d" "2") ∧
      ∀ value ∈ mixedTable.valuesAt 1, HeldExactly 6 2 value := by
  have hvalues : mixedTable.valuesAt 1 = [" -12.5e-1 ", "1E3", ".5"] := by decide
  have hsize : ColumnSize.ofValues .numeric (mixedTable.valuesAt 1) = ⟨10, 4, 2⟩ := by
    rw [hvalues]
    decide +kernel
  have hexponents : ∀ value ∈ mixedTable.valuesAt 1, ∀ n, Writes n (trimChars value.toList) →
      |n.exponent| < 2 ^ 62 := by
    have hread : ∀ value ∈ mixedTable.valuesAt 1,
        |((partsOf (unsigned (trimChars value.toList))).exponent.bind integer?).getD 0| < 2 ^ 62 := by
      rw [hvalues]
      decide +kernel
    intro value hvalue n hwrites
    rw [exponent_of_writes hwrites]
    exact hread value hvalue
  have hliterals : ∀ entry ∈ mixedTable.rows.flatMap (typedValues mixedTable.types),
      isLiteral entry.1 entry.2 = true := by
    decide +kernel
  have hacceptable : ∀ r ∈ requirements mixedTable, r.holds := by
    rw [requirements, List.forall_mem_append, List.forall_mem_append, shapeRequirements_hold_iff]
    refine ⟨by decide, List.forall_mem_nil _, ?_⟩
    rw [valueRequirements, List.forall_mem_map]
    exact hliterals
  refine ⟨hvalues, hexponents, ?_⟩
  intro d
  obtain ⟨sql, hsql⟩ := (judged_inlineSql d mixedTable).exists_ok_iff.mpr hacceptable
  obtain ⟨htarget, -, -, hheld⟩ :=
    numeric_target_holds_column d mixedTable sql 1 .numeric hsql rfl rfl hexponents
  simp only [hsize] at htarget hheld
  refine ⟨⟨sql, hsql⟩, htarget, ?_⟩
  intro value hvalue
  apply hheld value hvalue
  revert value
  rw [hvalues]
  decide

end SqlDialects.Proofs.NumericTargets
