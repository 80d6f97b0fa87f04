import Mathlib.Computability.Language
import SqlDialects.Proofs.DecimalSpelling
import SqlDialects.Proofs.TableAcceptance

/-!
The grammar of numerals as a regular language over single letters. The check of numerals accepts
the texts of this language and no others, and a value is a literal of a decimal type just if it is
one of them without the white space at its ends.
-/

namespace SqlDialects.Proofs.NumeralGrammar

open DecimalSpelling
open LiteralCharacters (JoinsAtPoint mem_digitLetters_iff)
open Numeral
open TableAcceptance
open Text (trimChars)
open scoped Computability

/-- The texts of one letter out of some. -/
def oneOf (letters : String) : Language Char :=
  {cs | ∃ c ∈ letters.toList, cs = [c]}

def sign : Language Char :=
  1 + oneOf "+-"

def digit : Language Char :=
  oneOf "0123456789"

def point : Language Char :=
  oneOf "."

/-- Digits, and a point and more digits after them or not. One digit at least is among them. -/
def mantissa : Language Char :=
  {cs | cs ∈ digit∗ * (1 + point * digit∗) ∧ ∃ c ∈ cs, [c] ∈ digit}

/-- Integers in decimal digits, of which there is at least one. -/
def integer : Language Char :=
  sign * (digit * digit∗)

def exponent : Language Char :=
  oneOf "eE" * integer

/-- Decimal numerals, with an exponent or without one. -/
def decimal : Language Char :=
  sign * (mantissa * (1 + exponent))

def exponential : Language Char :=
  sign * (mantissa * exponent)

variable {letters : String} {cs : List Char} {c : Char}

theorem singleton_mem_oneOf_iff : [c] ∈ oneOf letters ↔ c ∈ letters.toList := by
  constructor
  · rintro ⟨other, hother, hsame⟩
    rwa [List.singleton_inj.mp hsame]
  · intro hc
    exact ⟨c, hc, rfl⟩

theorem mem_kstar_oneOf_iff : cs ∈ (oneOf letters)∗ ↔ ∀ c ∈ cs, c ∈ letters.toList := by
  constructor
  · rintro ⟨words, rfl, hwords⟩ c hc
    obtain ⟨word, hword, hc⟩ := List.mem_flatten.mp hc
    obtain ⟨letter, hletter, rfl⟩ := hwords word hword
    rwa [List.mem_singleton.mp hc]
  · intro hcs
    have hflatten : cs = (cs.map fun c => [c]).flatten := by
      rw [← List.flatMap_def, List.flatMap_singleton']
    rw [hflatten]
    apply Language.join_mem_kstar
    intro word hword
    obtain ⟨c, hc, rfl⟩ := List.mem_map.mp hword
    exact singleton_mem_oneOf_iff.mpr (hcs c hc)

theorem mem_digits_iff : cs ∈ digit∗ ↔ allDigits cs = true := by
  rw [digit, mem_kstar_oneOf_iff, allDigits, List.all_eq_true]
  exact forall₂_congr fun c _ => mem_digitLetters_iff

theorem mem_someDigits_iff : cs ∈ digit * digit∗ ↔ cs ≠ [] ∧ allDigits cs = true := by
  rw [Language.mem_mul]
  constructor
  · rintro ⟨first, ⟨c, hc, rfl⟩, rest, hrest, rfl⟩
    have hdigit : c.isDigit = true := mem_digitLetters_iff.mp hc
    rw [mem_digits_iff] at hrest
    exact ⟨List.cons_ne_nil c rest, Bool.and_eq_true_iff.mpr ⟨hdigit, hrest⟩⟩
  · rintro ⟨hne, hall⟩
    obtain ⟨c, rest, rfl⟩ := List.exists_cons_of_ne_nil hne
    obtain ⟨hdigit, hrest⟩ := Bool.and_eq_true_iff.mp hall
    exact ⟨[c], ⟨c, mem_digitLetters_iff.mpr hdigit, rfl⟩, rest, mem_digits_iff.mpr hrest, rfl⟩

theorem mem_sign_mul_iff {body : Language Char} :
    cs ∈ sign * body ↔ ∃ negative rest, Signed negative rest cs ∧ rest ∈ body := by
  rw [Language.mem_mul]
  constructor
  · rintro ⟨front, hfront, rest, hrest, rfl⟩
    rcases hfront with hnone | ⟨c, hc, rfl⟩
    · obtain rfl : front = [] := hnone
      exact ⟨false, rest, .bare rest, hrest⟩
    · rcases List.mem_pair.mp hc with rfl | rfl
      · exact ⟨false, rest, .plus rest, hrest⟩
      · exact ⟨true, rest, .minus rest, hrest⟩
  · rintro ⟨negative, rest, hsigned, hrest⟩
    cases hsigned with
    | bare => exact ⟨[], .inl rfl, cs, hrest, rfl⟩
    | plus => exact ⟨['+'], .inr ⟨'+', by decide, rfl⟩, rest, hrest, rfl⟩
    | minus => exact ⟨['-'], .inr ⟨'-', by decide, rfl⟩, rest, hrest, rfl⟩

theorem mem_integer_iff : cs ∈ integer ↔ ∃ n, WritesInteger n cs := by
  rw [integer, mem_sign_mul_iff]
  constructor
  · rintro ⟨negative, digits, hsigned, hdigits⟩
    obtain ⟨hne, hall⟩ := mem_someDigits_iff.mp hdigits
    exact ⟨_, negative, digits, hsigned, hne, hall, rfl⟩
  · rintro ⟨n, negative, digits, hsigned, hne, hall, -⟩
    exact ⟨negative, digits, hsigned, mem_someDigits_iff.mpr ⟨hne, hall⟩⟩

theorem mem_joined_iff :
    cs ∈ digit∗ * (1 + point * digit∗) ↔ ∃ whole fraction, JoinsAtPoint cs whole fraction ∧
      allDigits whole = true ∧ allDigits fraction = true := by
  rw [Language.mem_mul]
  constructor
  · rintro ⟨whole, hwhole, tail, htail, rfl⟩
    rw [mem_digits_iff] at hwhole
    rcases htail with hnone | ⟨mark, ⟨c, hc, rfl⟩, fraction, hfraction, rfl⟩
    · obtain rfl : tail = [] := hnone
      exact ⟨whole, [], .inl ⟨rfl, List.append_nil whole⟩, hwhole, rfl⟩
    · obtain rfl : c = '.' := List.mem_singleton.mp hc
      exact ⟨whole, fraction, .inr rfl, hwhole, mem_digits_iff.mp hfraction⟩
  · rintro ⟨whole, fraction, hjoins, hwhole, hfraction⟩
    refine ⟨whole, mem_digits_iff.mpr hwhole, ?_⟩
    rcases hjoins with ⟨-, rfl⟩ | rfl
    · exact ⟨[], .inl rfl, List.append_nil cs⟩
    · have hpoint : ['.'] ∈ point := ⟨'.', by decide, rfl⟩
      exact ⟨'.' :: fraction,
        .inr (Language.append_mem_mul hpoint (mem_digits_iff.mpr hfraction)), rfl⟩

theorem exists_digit_iff {whole fraction : List Char} (hjoins : JoinsAtPoint cs whole fraction)
    (hwhole : allDigits whole = true) (hfraction : allDigits fraction = true) :
    (∃ c ∈ cs, [c] ∈ digit) ↔ whole ≠ [] ∨ fraction ≠ [] := by
  have hdigit : ∀ c, [c] ∈ digit ↔ c.isDigit = true := by
    intro c
    rw [digit, singleton_mem_oneOf_iff, mem_digitLetters_iff]
  constructor
  · rintro ⟨c, hc, hletter⟩
    rw [hdigit] at hletter
    by_contra hnone
    obtain ⟨rfl, rfl⟩ : whole = [] ∧ fraction = [] := by simpa using hnone
    rcases hjoins with ⟨-, rfl⟩ | rfl
    · cases hc
    · obtain rfl : c = '.' := List.mem_singleton.mp hc
      cases hletter
  · intro hsome
    have hfirst : ∃ c, c ∈ whole ∨ c ∈ fraction := by
      rcases hsome with hne | hne
      · exact (List.exists_mem_of_ne_nil whole hne).imp fun _ => .inl
      · exact (List.exists_mem_of_ne_nil fraction hne).imp fun _ => .inr
    obtain ⟨c, hc⟩ := hfirst
    refine ⟨c, ?_, (hdigit c).mpr ?_⟩
    · rcases hjoins with ⟨rfl, rfl⟩ | rfl
      · simpa using hc
      · rw [List.mem_append, List.mem_cons]
        exact hc.imp_right .inr
    · rcases hc with hc | hc
      · exact List.all_eq_true.mp hwhole c hc
      · exact List.all_eq_true.mp hfraction c hc

theorem mem_mantissa_iff :
    cs ∈ mantissa ↔ ∃ whole fraction, JoinsAtPoint cs whole fraction ∧
      allDigits whole = true ∧ allDigits fraction = true ∧ (whole ≠ [] ∨ fraction ≠ []) := by
  constructor
  · rintro ⟨hjoined, hdigit⟩
    obtain ⟨whole, fraction, hjoins, hwhole, hfraction⟩ := mem_joined_iff.mp hjoined
    exact ⟨whole, fraction, hjoins, hwhole, hfraction,
      (exists_digit_iff hjoins hwhole hfraction).mp hdigit⟩
  · rintro ⟨whole, fraction, hjoins, hwhole, hfraction, hsome⟩
    exact ⟨mem_joined_iff.mpr ⟨whole, fraction, hjoins, hwhole, hfraction⟩,
      (exists_digit_iff hjoins hwhole hfraction).mpr hsome⟩

theorem mem_markLetters_iff : c ∈ "eE".toList ↔ isExponentMark c = true := by
  simp [isExponentMark]

theorem mem_exponent_iff :
    cs ∈ exponent ↔ ∃ m e written, isExponentMark m = true ∧ WritesInteger e written ∧
      cs = m :: written := by
  rw [exponent, Language.mem_mul]
  constructor
  · rintro ⟨mark, ⟨m, hm, rfl⟩, written, hwritten, rfl⟩
    obtain ⟨e, he⟩ := mem_integer_iff.mp hwritten
    exact ⟨m, e, written, mem_markLetters_iff.mp hm, he, rfl⟩
  · rintro ⟨m, e, written, hm, he, rfl⟩
    exact ⟨[m], ⟨m, mem_markLetters_iff.mpr hm, rfl⟩, written, mem_integer_iff.mpr ⟨e, he⟩, rfl⟩

theorem mem_optional_exponent_iff : cs ∈ 1 + exponent ↔ ∃ e, WritesExponent e cs := by
  rw [Language.mem_add, Language.mem_one, mem_exponent_iff]
  constructor
  · rintro (rfl | ⟨m, e, written, hm, he, rfl⟩)
    · exact ⟨0, .none⟩
    · exact ⟨e, .mark hm he⟩
  · rintro ⟨e, he⟩
    cases he with
    | none => exact .inl rfl
    | mark hm he => exact .inr ⟨_, e, _, hm, he, rfl⟩

theorem mem_decimal_iff : cs ∈ decimal ↔ ∃ n, Writes n cs := by
  rw [decimal, mem_sign_mul_iff]
  constructor
  · rintro ⟨negative, rest, hsigned, hrest⟩
    obtain ⟨front, hfront, tail, htail, rfl⟩ := Language.mem_mul.mp hrest
    obtain ⟨whole, fraction, hjoins, hwhole, hfraction, hsome⟩ := mem_mantissa_iff.mp hfront
    obtain ⟨e, he⟩ := mem_optional_exponent_iff.mp htail
    exact ⟨⟨negative, whole, fraction, e⟩, front, tail, hsigned, hjoins, he, hwhole, hfraction,
      hsome⟩
  · rintro ⟨n, front, tail, hsigned, hjoins, he, hwhole, hfraction, hsome⟩
    refine ⟨n.negative, front ++ tail, hsigned, ?_⟩
    apply Language.append_mem_mul
    · exact mem_mantissa_iff.mpr ⟨n.whole, n.fraction, hjoins, hwhole, hfraction, hsome⟩
    · exact mem_optional_exponent_iff.mpr ⟨n.exponent, he⟩

/-- The letter of an exponent can stand nowhere but before one. -/
theorem mem_exponential_of_mark (h : cs ∈ decimal) (hmark : ∃ c ∈ cs, isExponentMark c = true) :
    cs ∈ exponential := by
  obtain ⟨negative, rest, hsigned, hrest⟩ := mem_sign_mul_iff.mp h
  obtain ⟨front, hfront, tail, htail, rfl⟩ := Language.mem_mul.mp hrest
  rcases htail with hnone | htail
  · obtain rfl : tail = [] := hnone
    obtain ⟨whole, fraction, hjoins, hwhole, hfraction, -⟩ := mem_mantissa_iff.mp hfront
    obtain ⟨c, hc, hmark⟩ := hmark
    rw [List.append_nil] at hsigned
    have hmem : c ∈ front := by
      cases hsigned with
      | bare => exact hc
      | plus => exact List.mem_of_ne_of_mem (fun hsign => by rw [hsign] at hmark; cases hmark) hc
      | minus => exact List.mem_of_ne_of_mem (fun hsign => by rw [hsign] at hmark; cases hmark) hc
    rcases mem_mantissa hjoins hwhole hfraction hmem with hdigit | rfl
    · rw [not_exponentMark_of_isDigit hdigit] at hmark
      cases hmark
    · cases hmark
  · exact mem_sign_mul_iff.mpr ⟨negative, _, hsigned, Language.append_mem_mul hfront htail⟩

theorem isDecimal_iff_mem : isDecimal cs = true ↔ cs ∈ decimal := by
  rw [isDecimal_iff, mem_decimal_iff]

/-- The check accepts the texts of the grammar and nothing else, and so does every dialect for
decimals, exact or approximate, once the white space at the ends of a value is dropped. -/
theorem decimal_accepted_iff_mem_grammar :
    (∀ cs : List Char, isDecimal cs = true ↔ cs ∈ decimal) ∧
    ∀ (d : Dialect) (value : String),
      ((∃ literal, d.literal value .numeric = .ok literal) ↔
        trimChars value.toList ∈ decimal) ∧
      ((∃ literal, d.literal value .double = .ok literal) ↔
        trimChars value.toList ∈ decimal) := by
  refine ⟨fun cs => isDecimal_iff_mem, ?_⟩
  intro d value
  rw [exists_literal_iff, exists_literal_iff]
  exact ⟨isDecimal_iff_mem, isDecimal_iff_mem⟩

example : "+.5E-07".toList ∈ decimal ∧ ".E5".toList ∉ decimal := by
  simp only [← isDecimal_iff_mem]
  decide

end SqlDialects.Proofs.NumeralGrammar
