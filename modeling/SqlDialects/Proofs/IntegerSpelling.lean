import SqlDialects.Proofs.DecimalValue

namespace SqlDialects.Proofs.IntegerSpelling

open DecimalSpelling
open DecimalValue
open LiteralCharacters (isDigit_of_mem_natRepr mem_digitLetters_iff natRepr_ne_nil)
open Numeral

variable {digits rest cs : List Char} {n : Int} {k : Nat}

/-- The spelling of an integer that has nothing to spare. -/
structure IsCanonical (n : Int) (cs : List Char) : Prop where
  writes : WritesInteger n cs
  no_plus : '+' ∉ cs
  no_leading_zero : ∀ rest, unsigned cs = '0' :: rest → rest = []
  no_minus_zero : cs ≠ ['-', '0']

theorem allDigits_natRepr (k : Nat) : allDigits k.repr.toList = true :=
  List.all_eq_true.mpr fun _ hc => isDigit_of_mem_natRepr hc

theorem valueOf_natRepr (k : Nat) : valueOf k.repr.toList = k := by
  rw [valueOf, Nat.toList_repr, Nat.ofDigitChars_ten_toDigits]

theorem eq_nil_of_natRepr (h : k.repr.toList = '0' :: rest) : rest = [] := by
  by_contra hne
  have hvalue : valueOf rest = k := by
    rw [← valueOf_natRepr k, h]
    rfl
  have hrest : allDigits rest = true := by
    have hall := allDigits_natRepr k
    rw [h] at hall
    exact hall
  have hlt : k < 10 ^ rest.length := by
    rw [← hvalue]
    exact valueOf_lt hrest
  have hlength := (Nat.length_toDigits_le_iff (by decide) (List.length_pos_iff.mpr hne)).mpr hlt
  rw [← Nat.toList_repr, h, List.length_cons] at hlength
  omega

theorem valueOf_concat (front : List Char) (c : Char) :
    valueOf (front ++ [c]) = 10 * valueOf front + (c.toNat - '0'.toNat) := by
  rw [valueOf, Nat.ofDigitChars_append, Nat.ofDigitChars_cons, Nat.ofDigitChars_nil]
  rfl

theorem digitChar_toNat_sub {c : Char} (h : c.isDigit = true) :
    c.toNat - '0'.toNat < 10 ∧ (c.toNat - '0'.toNat).digitChar = c := by
  have hall : "0123456789".toList.all
      (fun c => c.toNat - '0'.toNat < 10 ∧ (c.toNat - '0'.toNat).digitChar = c) = true := by
    decide
  simpa using List.all_eq_true.mp hall c (mem_digitLetters_iff.mpr h)

theorem natRepr_valueOf (hdigits : allDigits digits = true) (hne : digits ≠ [])
    (hzero : ∀ rest, digits = '0' :: rest → rest = []) :
    (valueOf digits).repr.toList = digits := by
  rw [Nat.toList_repr]
  induction digits using List.reverseRecOn with
  | nil => exact absurd rfl hne
  | append_singleton front c ih =>
      obtain ⟨hfront, hlast⟩ := allDigits_append_iff.mp hdigits
      obtain ⟨hlt, hchar⟩ := digitChar_toNat_sub (List.all_eq_true.mp hlast c List.mem_cons_self)
      rw [valueOf_concat]
      cases front with
      | nil =>
          rw [valueOf, Nat.ofDigitChars_nil, Nat.mul_zero, Nat.zero_add,
            Nat.toDigits_of_lt_base hlt, hchar]
          rfl
      | cons first front =>
          -- The digits before the last one begin with no zero at all, so their value is positive.
          have hfirst : first ≠ '0' := by
            rintro rfl
            exact absurd (hzero (front ++ [c]) rfl) (by simp)
          have hwritten := ih hfront (List.cons_ne_nil _ _) (by
            intro rest hrest
            exact absurd (List.cons.inj hrest).1 hfirst)
          have hpositive : 0 < valueOf (first :: front) := by
            rw [Nat.pos_iff_ne_zero]
            intro hvalue
            rw [hvalue, Nat.toDigits_zero] at hwritten
            exact hfirst (List.cons.inj hwritten).1.symm
          rw [← Nat.toDigits_append_toDigits (by decide) hpositive hlt, hwritten,
            Nat.toDigits_of_lt_base hlt, hchar]

theorem toList_repr_neg (k : Nat) :
    (-((k + 1 : Nat) : Int)).repr.toList = '-' :: (k + 1).repr.toList :=
  String.toList_append

theorem writesInteger_repr (n : Int) : WritesInteger n n.repr.toList := by
  rcases n with k | k
  · refine ⟨false, k.repr.toList, .bare _, natRepr_ne_nil k, allDigits_natRepr k, ?_⟩
    rw [if_neg Bool.false_ne_true, valueOf_natRepr]
    rfl
  · rw [Int.negSucc_eq, ← Nat.cast_succ, toList_repr_neg]
    refine ⟨true, _, .minus _, natRepr_ne_nil (k + 1), allDigits_natRepr (k + 1), ?_⟩
    rw [if_pos rfl, valueOf_natRepr]

theorem unsigned_eq {negative : Bool} (hsigned : Signed negative digits cs)
    (hdigits : allDigits digits = true) : unsigned cs = digits := by
  rw [unsigned, splitSign_of_signed hsigned (not_sign_of_allDigits hdigits)]

theorem not_mem_natRepr {c : Char} (hc : c.isDigit = false) (k : Nat) : c ∉ k.repr.toList :=
  fun hmem => ne_of_isDigit (isDigit_of_mem_natRepr hmem) hc rfl

theorem isCanonical_repr (n : Int) : IsCanonical n n.repr.toList := by
  have hwrites := writesInteger_repr n
  rcases n with k | k
  · refine ⟨hwrites, not_mem_natRepr rfl k, ?_, ?_⟩
    · intro rest hrest
      exact eq_nil_of_natRepr ((unsigned_eq (.bare _) (allDigits_natRepr k)).symm.trans hrest)
    · intro hminus
      exact not_mem_natRepr (c := '-') rfl k (hminus ▸ List.mem_cons_self)
  · rw [Int.negSucc_eq, ← Nat.cast_succ, toList_repr_neg] at hwrites ⊢
    refine ⟨hwrites, ?_, ?_, ?_⟩
    · rw [List.mem_cons, not_or]
      exact ⟨by decide, not_mem_natRepr rfl (k + 1)⟩
    · intro rest hrest
      exact eq_nil_of_natRepr hrest
    · intro hminus
      have hvalue := valueOf_natRepr (k + 1)
      rw [(List.cons.inj hminus).2] at hvalue
      cases hvalue

/-- Each integer has one canonical numeral. -/
theorem isCanonical_iff : IsCanonical n cs ↔ cs = n.repr.toList := by
  constructor
  · intro h
    obtain ⟨negative, digits, hsigned, hne, hdigits, hn⟩ := h.writes
    have hwritten := natRepr_valueOf hdigits hne (by
      intro rest hrest
      exact h.no_leading_zero rest ((unsigned_eq hsigned hdigits).trans hrest))
    cases hsigned with
    | bare =>
        rw [if_neg Bool.false_ne_true] at hn
        rw [hn]
        exact hwritten.symm
    | plus => exact absurd List.mem_cons_self h.no_plus
    | minus =>
        rw [if_pos rfl] at hn
        cases hvalue : valueOf digits with
        | zero =>
            rw [hvalue] at hwritten
            exact absurd (congrArg ('-' :: ·) hwritten.symm) h.no_minus_zero
        | succ k =>
            rw [hvalue] at hn hwritten
            rw [hn, toList_repr_neg, hwritten]
  · rintro rfl
    exact isCanonical_repr n

end SqlDialects.Proofs.IntegerSpelling
