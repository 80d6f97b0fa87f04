import SqlDialects.Proofs.BuiltinRegistry
import SqlDialects.Proofs.IntegerSpelling
import SqlDialects.Proofs.LiteralReading
import SqlDialects.Proofs.NumeralGrammar
import SqlDialects.Proofs.Spelling

namespace SqlDialects.Proofs.NumericLiterals

open BuiltinRegistry (exists_dialect_of_run)
open DecimalSpelling
open DecimalValue
open IntegerSpelling
open Literal
open LiteralCharacters (isBlank_of_isNumeralChar isNumeralChar_of_isDecimal)
open LiteralReading (write?_of_write)
open NumeralGrammar
open Numeral
open Spelling (trimChars_eq_self_iff)
open Text (trimChars)

variable {cs : List Char} {d : Dialect} {value literal : String} {type : LogicalType}

theorem trimChars_of_isDecimal (h : isDecimal cs = true) : trimChars cs = cs := by
  have hchars := (isNumeralChar_of_isDecimal h).2
  rw [trimChars_eq_self_iff]
  constructor
  · intro c hc
    exact isBlank_of_isNumeralChar (hchars c (List.mem_of_mem_head? hc))
  · intro c hc
    exact isBlank_of_isNumeralChar (hchars c (List.mem_of_mem_getLast? hc))

theorem trimChars_of_writesInteger {n : Int} (h : WritesInteger n cs) : trimChars cs = cs :=
  trimChars_of_isDecimal (isDecimal_of_writesInteger h)

theorem writesInteger_trimChars_repr (n : Int) :
    WritesInteger n (trimChars n.repr.toList) := by
  rw [trimChars_of_writesInteger (writesInteger_repr n)]
  exact writesInteger_repr n

theorem signed_append {negative : Bool} {body : List Char} (h : Signed negative body cs)
    (more : List Char) : Signed negative (body ++ more) (cs ++ more) := by
  cases h with
  | bare => exact .bare _
  | plus => exact .plus _
  | minus => exact .minus _

theorem subset_of_signed {negative : Bool} {body : List Char} (h : Signed negative body cs) :
    body ⊆ cs := by
  cases h with
  | bare => exact List.Subset.refl cs
  | plus => exact List.subset_cons_self _ body
  | minus => exact List.subset_cons_self _ body

/-- A numeral that an engine takes as it is: one with a point has an exponent as well, if the
engine asks for that. -/
def Settled (needsExponent : Bool) (cs : List Char) : Prop :=
  needsExponent = true → '.' ∈ cs → ∃ c ∈ cs, isExponentMark c = true

theorem ofDecimal_of_settled {needsExponent : Bool} (h : Settled needsExponent cs) :
    ofDecimal needsExponent cs = .ofList cs := by
  unfold ofDecimal
  split
  · rename_i hlacks
    simp only [Bool.and_eq_true, Bool.not_eq_true', List.any_eq_false,
      List.contains_iff_mem] at hlacks
    obtain ⟨c, hc, hmark⟩ := h hlacks.1.1 hlacks.1.2
    exact absurd hmark (hlacks.2 c hc)
  · rfl

theorem ofDecimal_of_not_settled {needsExponent : Bool} (h : ¬ Settled needsExponent cs) :
    (∀ c ∈ cs, isExponentMark c = false) ∧
      ofDecimal needsExponent cs = .ofList (cs ++ ['E', '0']) := by
  simp only [Settled, not_forall, not_exists, not_and, Bool.not_eq_true] at h
  obtain ⟨hneeds, hpoint, hmarks⟩ := h
  have hany : cs.any isExponentMark = false := by simpa using hmarks
  exact ⟨hmarks, by simp [ofDecimal, hneeds, hpoint, hany]⟩

theorem settled_ofDecimal (needsExponent : Bool) (cs : List Char) :
    Settled needsExponent (ofDecimal needsExponent cs).toList := by
  by_cases h : Settled needsExponent cs
  · rw [ofDecimal_of_settled h, String.toList_ofList]
    exact h
  · rw [(ofDecimal_of_not_settled h).2, String.toList_ofList]
    intro _ _
    exact ⟨'E', by simp, rfl⟩

theorem ofDecimal_ofDecimal (needsExponent : Bool) (cs : List Char) :
    ofDecimal needsExponent (ofDecimal needsExponent cs).toList = ofDecimal needsExponent cs := by
  rw [ofDecimal_of_settled (settled_ofDecimal needsExponent cs), String.ofList_toList]

theorem writes_ofDecimal (needsExponent : Bool) {n : Decimal} (h : Writes n cs) :
    Writes n (ofDecimal needsExponent cs).toList := by
  by_cases hsettled : Settled needsExponent cs
  · rw [ofDecimal_of_settled hsettled, String.toList_ofList]
    exact h
  · obtain ⟨hmarks, htext⟩ := ofDecimal_of_not_settled hsettled
    rw [htext, String.toList_ofList]
    obtain ⟨mantissa, tail, hsigned, hjoins, htail, hrest⟩ := h
    generalize he : n.exponent = e at htail
    cases htail with
    | none =>
        rw [List.append_nil] at hsigned
        have hzero : WritesExponent n.exponent ['E', '0'] := by
          rw [he]
          exact .mark rfl ⟨false, ['0'], .bare _, List.cons_ne_nil _ _, rfl, rfl⟩
        exact ⟨mantissa, ['E', '0'], signed_append hsigned _, hjoins, hzero, hrest⟩
    | @mark m _ written hm _ =>
        have hmem : m ∈ cs := subset_of_signed hsigned (by simp)
        rw [hmarks m hmem] at hm
        cases hm

/-- Two texts that denote one and the same number, and no other. -/
def SameNumber (a b : String) : Prop :=
  ∃ q : ℚ, (∀ x, Denotes a x ↔ x = q) ∧ ∀ x, Denotes b x ↔ x = q

theorem denotes_iff_of_writesInteger {text : String} {n : Int}
    (h : WritesInteger n (trimChars text.toList)) (x : ℚ) : Denotes text x ↔ x = n := by
  obtain ⟨negative, digits, hwrites, hn⟩ := exists_writes_of_writesInteger h
  have hvalue : DecimalValue.value ⟨negative, digits, [], 0⟩ = n := by
    rw [hn, DecimalValue.value]
    cases negative with
    | false => simp [valueOf]
    | true => simp [valueOf]
  rw [denotes_iff hwrites, hvalue]

theorem denotes_repr_iff (n : Int) (x : ℚ) : Denotes n.repr x ↔ x = n :=
  denotes_iff_of_writesInteger (writesInteger_trimChars_repr n) x

theorem literal_eq_ok_iff :
    d.literal value type = .ok literal ↔ write? d.composition value type = some literal := by
  constructor
  · exact write?_of_write
  · intro h
    simp [Dialect.literal, write, h]

theorem decimal_literal_iff (htype : type = .numeric ∨ type = .double) :
    d.literal value type = .ok literal ↔ isDecimal (trimChars value.toList) = true ∧
      literal = ofDecimal (d.has .requiresExponentLiteral) (trimChars value.toList) := by
  have hwrite : write? d.composition value type =
      if isDecimal (trimChars value.toList) then
        some (ofDecimal (d.has .requiresExponentLiteral) (trimChars value.toList))
      else none := by
    rcases htype with rfl | rfl
    · rfl
    · rfl
  rw [literal_eq_ok_iff, hwrite, Option.ite_none_right_eq_some, Option.some.injEq,
    eq_comm (b := literal)]

/-- How many bits an integer of a type has. -/
def bits? : LogicalType → Option Nat
  | .integer => some 32
  | .long => some 64
  | _ => none

def FitsBits (bits : Nat) (n : Int) : Prop :=
  -2 ^ (bits - 1) ≤ n ∧ n < 2 ^ (bits - 1)

theorem exists_bounds {bits : Nat} (htype : bits? type = some bits) :
    ∃ low high, (∀ n, FitsBits bits n ↔ low ≤ n ∧ n ≤ high) ∧ ∀ c value,
      write? c value type = (integerWithin? low high (trimChars value.toList)).map Int.repr := by
  cases type with
  | integer =>
      obtain rfl := Option.some.inj htype
      refine ⟨-2147483648, 2147483647, ?_, fun _ _ => rfl⟩
      intro n
      unfold FitsBits
      omega
  | long =>
      obtain rfl := Option.some.inj htype
      refine ⟨-9223372036854775808, 9223372036854775807, ?_, fun _ _ => rfl⟩
      intro n
      unfold FitsBits
      omega
  | string | numeric | double | boolean | date | time | timestamp | object => cases htype

theorem integer_literal_iff {bits : Nat} (htype : bits? type = some bits) :
    d.literal value type = .ok literal ↔
      ∃ n, WritesInteger n (trimChars value.toList) ∧ FitsBits bits n ∧ literal = n.repr := by
  obtain ⟨low, high, hfits, hwrite⟩ := exists_bounds htype
  rw [literal_eq_ok_iff, hwrite, Option.map_eq_some_iff]
  simp only [integerWithin?_eq_some_iff, hfits, and_assoc, eq_comm (b := literal)]

/-- What is written for a numeral, beside the numeral. -/
structure KeepsDecimal (d : Dialect) (value literal : String) : Prop where
  numeral : literal.toList ∈ decimal
  same_number : SameNumber value literal
  has_exponent : d.has .requiresExponentLiteral = true → '.' ∈ literal.toList →
    literal.toList ∈ exponential
  unchanged : d.has .requiresExponentLiteral = false → literal = Text.trim value

theorem keepsDecimal_of_literal (htype : type = .numeric ∨ type = .double)
    (h : d.literal value type = .ok literal) : KeepsDecimal d value literal := by
  obtain ⟨hdecimal, rfl⟩ := (decimal_literal_iff htype).mp h
  obtain ⟨n, hwrites⟩ := isDecimal_iff.mp hdecimal
  have hliteral := writes_ofDecimal (d.has .requiresExponentLiteral) hwrites
  have hmem := mem_decimal_iff.mpr ⟨n, hliteral⟩
  refine ⟨hmem, ⟨DecimalValue.value n, denotes_iff hwrites, denotes_iff ?_⟩, ?_, ?_⟩
  · rwa [trimChars_of_isDecimal (isDecimal_iff.mpr ⟨n, hliteral⟩)]
  · intro hneeds hpoint
    exact mem_exponential_of_mark hmem (settled_ofDecimal _ _ hneeds hpoint)
  · intro hneeds
    rw [hneeds]
    rfl

theorem literal_literal_of_decimal (htype : type = .numeric ∨ type = .double)
    (h : d.literal value type = .ok literal) : d.literal literal type = .ok literal := by
  obtain ⟨-, hliteral⟩ := (decimal_literal_iff htype).mp h
  have hdecimal := isDecimal_iff_mem.mpr (keepsDecimal_of_literal htype h).numeral
  rw [decimal_literal_iff htype, trimChars_of_isDecimal hdecimal, hliteral, ofDecimal_ofDecimal]
  rw [hliteral] at hdecimal
  exact ⟨hdecimal, rfl⟩

theorem literal_literal_of_integer {bits : Nat} (htype : bits? type = some bits)
    (h : d.literal value type = .ok literal) : d.literal literal type = .ok literal := by
  obtain ⟨n, -, hfits, rfl⟩ := (integer_literal_iff htype).mp h
  exact (integer_literal_iff htype).mpr ⟨n, writesInteger_trimChars_repr n, hfits, rfl⟩

theorem exists_luciddb :
    ∃ registry d, Builtin.registrations.build = .ok registry ∧
      registry.resolveTag "luciddb" .unknown = .ok d ∧ d.has .requiresExponentLiteral = true :=
  exists_dialect_of_run _ _ (fun d => d.has .requiresExponentLiteral) (by decide +kernel)

/-- A literal of a number is a numeral of the number that the value denotes, and writing it once
more changes nothing. For an integer it is the one canonical numeral. -/
theorem number_literal_keeps_number (d : Dialect) (type : LogicalType) (value literal : String)
    (h : d.literal value type = .ok literal) :
    (type = .numeric ∨ type = .double →
      KeepsDecimal d value literal ∧ d.literal literal type = .ok literal) ∧
    (type = .integer ∨ type = .long →
      (∃ n, WritesInteger n (trimChars value.toList) ∧
        ∀ cs, IsCanonical n cs ↔ cs = literal.toList) ∧
      d.literal literal type = .ok literal) := by
  constructor
  · intro htype
    exact ⟨keepsDecimal_of_literal htype h, literal_literal_of_decimal htype h⟩
  · intro htype
    obtain ⟨bits, hbits⟩ : ∃ bits, bits? type = some bits := by
      rcases htype with rfl | rfl
      · exact ⟨32, rfl⟩
      · exact ⟨64, rfl⟩
    refine ⟨?_, literal_literal_of_integer hbits h⟩
    obtain ⟨n, hwrites, -, rfl⟩ := (integer_literal_iff hbits).mp h
    exact ⟨n, hwrites, fun _ => isCanonical_iff⟩

theorem number_literal_luciddb :
    ∃ registry d, Builtin.registrations.build = .ok registry ∧
      registry.resolveTag "luciddb" .unknown = .ok d ∧
      d.literal " -.50 " .double = .ok "-.50E0" ∧
      KeepsDecimal d " -.50 " "-.50E0" ∧ d.literal "-.50E0" .double = .ok "-.50E0" ∧
      d.literal "\t-007 " .integer = .ok "-7" ∧ d.literal "-7" .integer = .ok "-7" := by
  obtain ⟨registry, d, hbuild, hd, hneeds⟩ := exists_luciddb
  have hdouble : d.literal " -.50 " .double = .ok "-.50E0" := by
    rw [decimal_literal_iff (.inr rfl), hneeds]
    decide +kernel
  have hinteger : d.literal "\t-007 " .integer = .ok "-7" := by
    rw [literal_eq_ok_iff]
    show (int32? (trimChars "\t-007 ".toList)).map Int.repr = some "-7"
    decide +kernel
  obtain ⟨hkeeps, hagain⟩ := (number_literal_keeps_number d _ _ _ hdouble).1 (.inr rfl)
  obtain ⟨-, hsame⟩ := (number_literal_keeps_number d _ _ _ hinteger).2 (.inl rfl)
  exact ⟨registry, d, hbuild, hd, hdouble, hkeeps, hagain, hinteger, hsame⟩

end SqlDialects.Proofs.NumericLiterals
