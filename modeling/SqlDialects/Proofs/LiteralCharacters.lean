import Mathlib.Data.List.TakeWhile
import SqlDialects.Calendar
import SqlDialects.Numeral.Decimal

namespace SqlDialects.Proofs.LiteralCharacters

open Calendar
open Numeral

/-- A character of a decimal numeral. -/
def isNumeralChar (c : Char) : Bool :=
  c.isDigit || c = '+' || c = '-' || c = '.' || isExponentMark c

/-- A character of a number in a date or time: of the white space before it, its sign, its digits
or the fraction after it. -/
def isFigureChar (c : Char) : Bool :=
  c.isDigit || c = '+' || c = '-' || c = '.' || Text.isBlank c

/-- A character of a date or time. -/
def isCalendarChar (c : Char) : Bool :=
  c.isDigit || c = '+' || c = '-' || c = ':' || c = '.' || c = 'T' || Text.isBlank c

theorem eq_of_cut? {p : Char → Bool} {cs head tail : List Char}
    (h : Text.Search.cut? p cs = some (head, tail)) :
    ∃ m, p m = true ∧ cs = head ++ m :: tail := by
  induction cs generalizing head with
  | nil => simp [Text.Search.cut?] at h
  | cons c cs ih =>
      rw [Text.Search.cut?] at h
      split at h
      · rename_i hc
        obtain ⟨rfl, rfl⟩ := Prod.mk.inj (Option.some.inj h)
        exact ⟨c, hc, rfl⟩
      · obtain ⟨⟨inner, rest⟩, hinner, hpair⟩ := Option.map_eq_some_iff.mp h
        obtain ⟨rfl, rfl⟩ := Prod.mk.inj hpair
        obtain ⟨m, hm, rfl⟩ := ih hinner
        exact ⟨m, hm, rfl⟩

theorem mem_unsigned {cs : List Char} {c : Char} (h : c ∈ cs) :
    c = '+' ∨ c = '-' ∨ c ∈ unsigned cs := by
  unfold unsigned splitSign
  split
  · rcases List.mem_cons.mp h with rfl | h
    · exact .inr (.inl rfl)
    · exact .inr (.inr h)
  · rcases List.mem_cons.mp h with rfl | h
    · exact .inl rfl
    · exact .inr (.inr h)
  · exact .inr (.inr h)

/-- A mantissa with the parts before and after its point. -/
def JoinsAtPoint (mantissa whole fraction : List Char) : Prop :=
  (fraction = [] ∧ mantissa = whole) ∨ mantissa = whole ++ '.' :: fraction

theorem joinsAtPoint_cut (mantissa : List Char) (exponent : Option (List Char)) :
    ∃ whole fraction,
      (match Text.Search.cut? (· == '.') mantissa with
        | some (whole, fraction) => Parts.mk whole fraction exponent
        | none => ⟨mantissa, [], exponent⟩) = ⟨whole, fraction, exponent⟩ ∧
      JoinsAtPoint mantissa whole fraction := by
  cases hcut : Text.Search.cut? (· == '.') mantissa with
  | none => exact ⟨mantissa, [], rfl, .inl ⟨rfl, rfl⟩⟩
  | some pair =>
      obtain ⟨m, hm, hmantissa⟩ := eq_of_cut? hcut
      obtain rfl : m = '.' := by simpa using hm
      exact ⟨pair.1, pair.2, rfl, .inr hmantissa⟩

theorem exists_mantissa (cs : List Char) :
    ∃ mantissa, JoinsAtPoint mantissa (partsOf cs).whole (partsOf cs).fraction ∧
      (((partsOf cs).exponent = none ∧ cs = mantissa) ∨
        ∃ m exponent, isExponentMark m = true ∧ (partsOf cs).exponent = some exponent ∧
          cs = mantissa ++ m :: exponent) := by
  cases hcut : Text.Search.cut? isExponentMark cs with
  | none =>
      obtain ⟨whole, fraction, hpoint, hjoins⟩ := joinsAtPoint_cut cs none
      have hparts : partsOf cs = ⟨whole, fraction, none⟩ := by
        simp only [partsOf, hcut]
        exact hpoint
      rw [hparts]
      exact ⟨cs, hjoins, .inl ⟨rfl, rfl⟩⟩
  | some cut =>
      obtain ⟨mantissa, exponent⟩ := cut
      obtain ⟨whole, fraction, hpoint, hjoins⟩ := joinsAtPoint_cut mantissa (some exponent)
      have hparts : partsOf cs = ⟨whole, fraction, some exponent⟩ := by
        simp only [partsOf, hcut]
        exact hpoint
      obtain ⟨m, hm, hcs⟩ := eq_of_cut? hcut
      rw [hparts]
      exact ⟨mantissa, hjoins, .inr ⟨m, exponent, hm, rfl, hcs⟩⟩

theorem isDigit_of_mem_natRepr {n : Nat} {c : Char} (h : c ∈ n.repr.toList) :
    c.isDigit = true := by
  rw [Nat.toList_repr] at h
  exact Nat.isDigit_of_mem_toDigits (by decide) (by decide) h

theorem natRepr_ne_nil (n : Nat) : n.repr.toList ≠ [] := by
  rw [Nat.toList_repr]
  exact Nat.toDigits_ne_nil

theorem mem_digitLetters_iff {c : Char} : c ∈ "0123456789".toList ↔ c.isDigit = true := by
  constructor
  · intro hc
    have hall : "0123456789".toList.all Char.isDigit = true := by decide
    exact List.all_eq_true.mp hall c hc
  · intro hc
    obtain ⟨hlow, hhigh⟩ := Char.isDigit_iff_toNat.mp hc
    have hcode : ∀ n ≤ '9'.toNat, '0'.toNat ≤ n → Char.ofNat n ∈ "0123456789".toList := by decide
    have hletter := hcode c.toNat hhigh hlow
    rwa [Char.ofNat_toNat] at hletter

theorem isBlank_of_isDigit {c : Char} (h : c.isDigit = true) : Text.isBlank c = false := by
  have hall : "0123456789".toList.all (!Text.isBlank ·) = true := by decide
  simpa using List.all_eq_true.mp hall c (mem_digitLetters_iff.mpr h)

theorem isBlank_of_isNumeralChar {c : Char} (h : isNumeralChar c = true) :
    Text.isBlank c = false := by
  simp only [isNumeralChar, isExponentMark, Bool.or_eq_true, decide_eq_true_eq, beq_iff_eq] at h
  rcases h with (((h | rfl) | rfl) | rfl) | rfl | rfl
  · exact isBlank_of_isDigit h
  · rfl
  · rfl
  · rfl
  · rfl
  · rfl

theorem isNumeralChar_of_isDigit {c : Char} (h : c.isDigit = true) : isNumeralChar c = true := by
  simp [isNumeralChar, h]

theorem isNumeralChar_of_allDigits {cs : List Char} (h : allDigits cs = true) :
    ∀ c ∈ cs, isNumeralChar c = true := by
  intro c hc
  exact isNumeralChar_of_isDigit (List.all_eq_true.mp h c hc)

theorem isNumeralChar_of_unsigned {cs : List Char}
    (h : ∀ c ∈ unsigned cs, isNumeralChar c = true) : ∀ c ∈ cs, isNumeralChar c = true := by
  intro c hc
  rcases mem_unsigned hc with rfl | rfl | hc
  · rfl
  · rfl
  · exact h c hc

theorem isNumeralChar_of_isDecimal {cs : List Char} (h : isDecimal cs = true) :
    cs ≠ [] ∧ ∀ c ∈ cs, isNumeralChar c = true := by
  simp only [isDecimal, Bool.and_eq_true, Bool.not_eq_true', Bool.and_eq_false_iff] at h
  obtain ⟨⟨⟨hsome, hwhole⟩, hfraction⟩, hexponent⟩ := h
  obtain ⟨mantissa, hjoins, hcs⟩ := exists_mantissa (unsigned cs)
  have hmantissa : ∀ c ∈ mantissa, isNumeralChar c = true := by
    rcases hjoins with ⟨-, rfl⟩ | rfl
    · exact isNumeralChar_of_allDigits hwhole
    · rw [List.forall_mem_append, List.forall_mem_cons]
      exact ⟨isNumeralChar_of_allDigits hwhole, rfl, isNumeralChar_of_allDigits hfraction⟩
  constructor
  · rintro rfl
    simp [unsigned, splitSign, partsOf, Text.Search.cut?] at hsome
  · refine isNumeralChar_of_unsigned ?_
    rcases hcs with ⟨-, hcs⟩ | ⟨m, exponent, hm, hexp, hcs⟩
    · rw [hcs]
      exact hmantissa
    · rw [hexp] at hexponent
      simp only [Bool.and_eq_true] at hexponent
      rw [hcs, List.forall_mem_append, List.forall_mem_cons]
      refine ⟨hmantissa, by simp [isNumeralChar, hm], isNumeralChar_of_unsigned ?_⟩
      exact isNumeralChar_of_allDigits hexponent.2

theorem mem_skipBlanks {cs : List Char} {c : Char} (h : c ∈ cs) :
    Text.isBlank c = true ∨ c ∈ Text.skipBlanks cs := by
  rw [← List.takeWhile_append_dropWhile (p := Text.isBlank) (l := cs)] at h
  rcases List.mem_append.mp h with h | h
  · exact .inl (List.mem_takeWhile_imp h)
  · exact .inr h

theorem mem_digits? {limit : Nat} {cs digits rest : List Char} {c : Char}
    (h : digits? limit cs = some (digits, rest)) (hc : c ∈ cs) : c.isDigit = true ∨ c ∈ rest := by
  simp only [digits?] at h
  split at h
  · simp at h
  · obtain ⟨hdigits, hrest⟩ := Prod.mk.inj (Option.some.inj h)
    have hprefix : digits <+: cs := by
      rw [← hdigits]
      exact (List.takeWhile_prefix _).trans (List.take_prefix _ _)
    obtain ⟨tail, rfl⟩ := hprefix
    obtain rfl : tail = rest := by
      rw [← hrest, hdigits, List.drop_left]
    rcases List.mem_append.mp hc with hc | hc
    · rw [← hdigits] at hc
      exact .inl (List.mem_takeWhile_imp hc)
    · exact .inr hc

theorem isFigureChar_of_isDigit {c : Char} (h : c.isDigit = true) : isFigureChar c = true := by
  simp [isFigureChar, h]

theorem isCalendarChar_of_isFigureChar {c : Char} (h : isFigureChar c = true) :
    isCalendarChar c = true := by
  simp only [isFigureChar, Bool.or_eq_true] at h
  rcases h with (((h | h) | h) | h) | h
  · simp [isCalendarChar, h]
  · simp [isCalendarChar, h]
  · simp [isCalendarChar, h]
  · simp [isCalendarChar, h]
  · simp [isCalendarChar, h]

theorem mem_of_map_digits? {limit : Nat} {cs rest : List Char} {n : Int} {c : Char}
    {f : List Char × List Char → Int × List Char} (hf : ∀ pair, (f pair).2 = pair.2)
    (h : (digits? limit cs).map f = some (n, rest)) (hc : c ∈ cs) :
    isFigureChar c = true ∨ c ∈ rest := by
  obtain ⟨⟨digits, tail⟩, hread, hpair⟩ := Option.map_eq_some_iff.mp h
  have hrest := hf (digits, tail)
  rw [hpair] at hrest
  obtain rfl : rest = tail := hrest
  rcases mem_digits? hread hc with hdigit | hc
  · exact .inl (isFigureChar_of_isDigit hdigit)
  · exact .inr hc

theorem mem_number? {field : Field} {cs rest : List Char} {n : Int} {c : Char}
    (h : number? field cs = some (n, rest)) (hc : c ∈ cs) :
    isFigureChar c = true ∨ c ∈ rest := by
  rcases mem_skipBlanks hc with hblank | hc
  · exact .inl (by simp [isFigureChar, hblank])
  · unfold number? at h
    split at h
    · rename_i text htext
      rw [htext] at hc
      rcases List.mem_cons.mp hc with rfl | hc
      · exact .inl rfl
      · exact mem_of_map_digits? (fun _ => rfl) h hc
    · rename_i text htext
      rw [htext] at hc
      rcases List.mem_cons.mp hc with rfl | hc
      · exact .inl rfl
      · exact mem_of_map_digits? (fun _ => rfl) h hc
    · exact mem_of_map_digits? (fun _ => rfl) h hc
    · exact mem_of_map_digits? (fun _ => rfl) h hc

theorem mem_read? {items : List Item} {r result : Reading} {cs : List Char}
    (h : read? items r cs = some result) :
    ∀ c ∈ cs, isFigureChar c = true ∨ .mark c ∈ items := by
  fun_induction read? items r cs with
  | case1 => simp
  | case2 => simp at h
  | case3 field items r cs ih =>
      obtain ⟨⟨n, rest⟩, hnumber, hrest⟩ := Option.bind_eq_some_iff.mp h
      intro c hc
      rcases mem_number? hnumber hc with hfigure | hc
      · exact .inl hfigure
      · exact (ih n rest hrest c hc).imp_right (List.mem_cons_of_mem _)
  | case4 => simp at h
  | case5 items r c cs ih =>
      rw [List.forall_mem_cons]
      refine ⟨.inr List.mem_cons_self, ?_⟩
      intro d hd
      exact (ih h d hd).imp_right (List.mem_cons_of_mem _)
  | case6 => simp at h
  | case7 items r cs ih =>
      intro c hc
      rcases mem_skipBlanks hc with hblank | hc
      · exact .inl (by simp [isFigureChar, hblank])
      · exact (ih h c hc).imp_right (List.mem_cons_of_mem _)
  | case8 items r cs ih =>
      obtain ⟨⟨digits, rest⟩, hdigits, hrest⟩ := Option.bind_eq_some_iff.mp h
      rw [List.forall_mem_cons]
      refine ⟨.inl rfl, ?_⟩
      intro c hc
      rcases mem_digits? hdigits hc with hdigit | hc
      · exact .inl (isFigureChar_of_isDigit hdigit)
      · exact (ih digits rest hrest c hc).imp_right (List.mem_cons_of_mem _)
  | case9 items r cs _ ih =>
      intro c hc
      exact (ih h c hc).imp_right (List.mem_cons_of_mem _)

theorem isCalendarChar_of_read? {items : List Item}
    (hmarks : ∀ m, .mark m ∈ items → isCalendarChar m = true) {r result : Reading}
    {cs : List Char} (h : read? items r cs = some result) : ∀ c ∈ cs, isCalendarChar c = true := by
  intro c hc
  rcases mem_read? h c hc with hfigure | hmark
  · exact isCalendarChar_of_isFigureChar hfigure
  · exact hmarks c hmark

def allowsMark : Item → Bool
  | .mark m => isCalendarChar m
  | _ => true

theorem isCalendarChar_of_mark {items : List Item} (h : items.all allowsMark = true) (m : Char)
    (hm : .mark m ∈ items) : isCalendarChar m = true :=
  List.all_eq_true.mp h (.mark m) hm

theorem isCalendarChar_of_forms {α : Type} {forms : List (List Item)} {f : Reading → α}
    {p : α → Bool} {cs : List Char} {a : α} (hforms : forms.all (·.all allowsMark) = true)
    (h : forms.findSome? (fun form => ((read? form {} cs).map f).filter p) = some a) :
    ∀ c ∈ cs, isCalendarChar c = true := by
  obtain ⟨form, hform, hread⟩ := List.exists_of_findSome?_eq_some h
  obtain ⟨hread, -⟩ := Option.filter_eq_some_iff.mp hread
  obtain ⟨r, hread, -⟩ := Option.map_eq_some_iff.mp hread
  exact isCalendarChar_of_read? (isCalendarChar_of_mark (List.all_eq_true.mp hforms form hform))
    hread

theorem isCalendarChar_of_date? {cs : List Char} {d : Day} (h : date? cs = some d) :
    ∀ c ∈ cs, isCalendarChar c = true := by
  obtain ⟨hread, -⟩ := Option.filter_eq_some_iff.mp h
  obtain ⟨r, hread, -⟩ := Option.map_eq_some_iff.mp hread
  exact isCalendarChar_of_read? (isCalendarChar_of_mark (by decide)) hread

theorem isCalendarChar_of_time? {cs : List Char} {t : TimeOfDay} (h : time? cs = some t) :
    ∀ c ∈ cs, isCalendarChar c = true :=
  isCalendarChar_of_forms (by decide) h

theorem isCalendarChar_of_timestamp? {cs : List Char} {pair : Day × TimeOfDay}
    (h : timestamp? cs = some pair) : ∀ c ∈ cs, isCalendarChar c = true :=
  isCalendarChar_of_forms (by decide) h

end SqlDialects.Proofs.LiteralCharacters
