import SqlDialects.Json.Text
import SqlDialects.Proofs.IntegerSpelling
import SqlDialects.Proofs.JsonReader

namespace SqlDialects.Proofs.JsonNumbers

open DecimalSpelling
open DecimalValue (valueOf_lt)
open IntegerSpelling
open JsonReader
open LiteralCharacters (natRepr_ne_nil)
open Numeral

variable {whole fraction tail : List Char}

theorem valueOf_append (front back : List Char) :
    valueOf (front ++ back) = valueOf front * 10 ^ back.length + valueOf back := by
  rw [valueOf, Nat.ofDigitChars_append, Nat.ofDigitChars_eq_ofDigitChars_zero, Nat.mul_comm]
  rfl

/-- The digits of a remainder below a power of ten, with zeros in front to fill the places. -/
def padding (n places : Nat) : List Char :=
  (n % 10 ^ places + 10 ^ places).repr.toList.drop 1

theorem length_repr_above {r places : Nat} (h : r < 10 ^ places) :
    (r + 10 ^ places).repr.toList.length = places + 1 := by
  have hpower : 10 ^ (places + 1) = 10 ^ places * 10 := pow_succ 10 places
  have hmost : (Nat.toDigits 10 (r + 10 ^ places)).length ≤ places + 1 := by
    rw [Nat.length_toDigits_le_iff (by decide) (Nat.succ_pos places)]
    omega
  have hleast : ¬ (Nat.toDigits 10 (r + 10 ^ places)).length ≤ places := by
    cases places with
    | zero =>
        have hne := List.length_pos_iff.mpr (Nat.toDigits_ne_nil (b := 10) (n := r + 10 ^ 0))
        omega
    | succ places =>
        rw [Nat.length_toDigits_le_iff (by decide) (Nat.succ_pos places)]
        omega
  rw [Nat.toList_repr]
  omega

theorem exists_repr_eq (n places : Nat) :
    ∃ first, (n % 10 ^ places + 10 ^ places).repr.toList = first :: padding n places := by
  obtain ⟨first, rest, h⟩ :=
    List.exists_cons_of_ne_nil (natRepr_ne_nil (n % 10 ^ places + 10 ^ places))
  refine ⟨first, ?_⟩
  rw [padding, h]
  rfl

theorem allDigits_padding (n places : Nat) : allDigits (padding n places) = true := by
  obtain ⟨first, h⟩ := exists_repr_eq n places
  have hall := allDigits_natRepr (n % 10 ^ places + 10 ^ places)
  rw [h, ← List.singleton_append, allDigits_append_iff] at hall
  exact hall.2

theorem length_padding (n places : Nat) : (padding n places).length = places := by
  obtain ⟨first, h⟩ := exists_repr_eq n places
  have hpos : 0 < 10 ^ places := Nat.pow_pos (by decide)
  have hlength := length_repr_above (Nat.mod_lt n hpos)
  rw [h, List.length_cons] at hlength
  omega

theorem valueOf_padding (n places : Nat) : valueOf (padding n places) = n % 10 ^ places := by
  obtain ⟨first, h⟩ := exists_repr_eq n places
  have hvalue := valueOf_natRepr (n % 10 ^ places + 10 ^ places)
  rw [h, ← List.singleton_append, valueOf_append, length_padding] at hvalue
  have hlt := valueOf_lt (allDigits_padding n places)
  rw [length_padding] at hlt
  -- Both sides below the power of ten.
  have hmod := congrArg (· % 10 ^ places) hvalue
  simpa [Nat.mod_eq_of_lt hlt] using hmod

/-- What stands behind the digits before the point. -/
inductive WritesFraction : List Char → List Char → Prop
  | none : WritesFraction [] []
  | point {fraction : List Char} (hne : fraction ≠ []) (hdigits : allDigits fraction = true) :
      WritesFraction fraction ('.' :: fraction)

theorem not_exponentMark_of_tail (h : WritesFraction fraction tail) :
    ∀ c ∈ tail, isExponentMark c = false := by
  cases h with
  | none => simp
  | point _ hdigits =>
      rw [List.forall_mem_cons]
      refine ⟨rfl, ?_⟩
      intro c hc
      exact not_exponentMark_of_isDigit (List.all_eq_true.mp hdigits c hc)

theorem cutAt_point (hwhole : allDigits whole = true) (h : WritesFraction fraction tail) :
    ∃ behind, cutAt (· == '.') (whole ++ tail) = (whole, behind) ∧
      fraction? behind = some fraction := by
  have hno : ∀ c ∈ whole, (c == '.') = false := by
    intro c hc
    exact not_point_of_isDigit (List.all_eq_true.mp hwhole c hc)
  cases h with
  | none =>
      refine ⟨none, ?_, rfl⟩
      rw [List.append_nil, cutAt, cut?_eq_none hno]
  | point hne hdigits =>
      refine ⟨some fraction, ?_, ?_⟩
      · rw [cutAt, cut?_append fraction hno rfl]
      · simp [fraction?, hne, hdigits]

def minus (negative : Bool) : List Char :=
  if negative then ['-'] else []

theorem splitMinus_minus (negative : Bool) {figures : List Char}
    (h : ∀ c ∈ figures.head?, c ≠ '-') :
    splitMinus (minus negative ++ figures) = (negative, figures) := by
  cases negative with
  | true => rfl
  | false =>
      show splitMinus figures = (false, figures)
      unfold splitMinus
      split
      · exact absurd rfl (h '-' rfl)
      · rfl

theorem number?_eq (negative : Bool) (hwhole : isWhole whole = true)
    (htail : WritesFraction fraction tail) :
    number? (minus negative ++ (whole ++ tail)) =
      some (.number (if negative then -(valueOf (whole ++ fraction) : Int)
        else valueOf (whole ++ fraction)) fraction.length) := by
  have hdigits : allDigits whole = true := by
    simp only [isWhole, Bool.and_eq_true] at hwhole
    exact hwhole.1.2
  have hfirst : ∀ c ∈ (whole ++ tail).head?, c ≠ '-' := by
    intro c hc
    obtain ⟨d, rest, rfl⟩ : ∃ d rest, whole = d :: rest := by
      apply List.exists_cons_of_ne_nil
      rintro rfl
      simp [isWhole] at hwhole
    obtain rfl : d = c := by simpa using hc
    exact ne_of_isDigit (List.all_eq_true.mp hdigits d List.mem_cons_self) rfl
  have hmantissa : cutAt isExponentMark (whole ++ tail) = (whole ++ tail, none) := by
    rw [cutAt, cut?_eq_none]
    rw [List.forall_mem_append]
    refine ⟨fun c hc => ?_, not_exponentMark_of_tail htail⟩
    exact not_exponentMark_of_isDigit (List.all_eq_true.mp hdigits c hc)
  obtain ⟨behind, hpoint, hfraction⟩ := cutAt_point hdigits htail
  simp only [number?, splitMinus_minus negative hfirst, hmantissa, hpoint, hwhole, if_true,
    hfraction]
  simp [exponent?, shifted]

theorem isWhole_natRepr (k : Nat) : isWhole k.repr.toList = true := by
  have hzero : k.repr.toList.head? ≠ some '0' ∨ k.repr.toList.length = 1 := by
    rw [or_iff_not_imp_left, not_not]
    intro hhead
    obtain ⟨rest, hrest⟩ := List.head?_eq_some_iff.mp hhead
    rw [hrest, eq_nil_of_natRepr hrest]
    rfl
  rw [isWhole, allDigits_natRepr, Bool.and_true, Bool.and_eq_true]
  exact ⟨by simp, by simpa using hzero⟩

theorem toList_repr (n : Int) :
    n.repr.toList = minus (n < 0) ++ n.natAbs.repr.toList := by
  cases n with
  | ofNat k => simp [minus, Int.repr]
  | negSucc k => simp [minus, Int.repr]

theorem exists_writes_numeral (n : Int) (places : Nat) :
    ∃ fraction tail, WritesFraction fraction tail ∧ fraction.length = places ∧
      valueOf ((n.natAbs / 10 ^ places).repr.toList ++ fraction) = n.natAbs ∧
      (Json.numeral n places).toList =
        minus (n < 0) ++ ((n.natAbs / 10 ^ places).repr.toList ++ tail) := by
  by_cases hplaces : places = 0
  · subst hplaces
    refine ⟨[], [], .none, rfl, ?_, ?_⟩
    · rw [List.append_nil, valueOf_natRepr, Nat.pow_zero, Nat.div_one]
    · simp [Json.numeral, toList_repr]
  · refine ⟨padding n.natAbs places, '.' :: padding n.natAbs places, .point ?_ ?_, ?_, ?_, ?_⟩
    · rw [← List.length_pos_iff, length_padding]
      omega
    · exact allDigits_padding n.natAbs places
    · exact length_padding n.natAbs places
    · rw [valueOf_append, valueOf_natRepr, valueOf_padding, length_padding]
      exact Nat.div_add_mod' n.natAbs (10 ^ places)
    · by_cases hn : n < 0 <;> simp [Json.numeral, hplaces, hn, minus, padding]

theorem number?_numeral (n : Int) (places : Nat) :
    number? (Json.numeral n places).toList = some (.number n places) := by
  obtain ⟨fraction, tail, htail, hlength, hvalue, hnumeral⟩ := exists_writes_numeral n places
  rw [hnumeral, number?_eq _ (isWhole_natRepr _) htail, hvalue, hlength]
  by_cases hn : n < 0
  · rw [if_pos (decide_eq_true hn), Int.ofNat_natAbs_of_nonpos (Int.le_of_lt hn), Int.neg_neg]
  · rw [if_neg (by simpa using hn), Int.natAbs_of_nonneg (by omega)]

end SqlDialects.Proofs.JsonNumbers
