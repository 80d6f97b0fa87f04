import SqlDialects.Proofs.LiteralCharacters

namespace SqlDialects.Proofs.DecimalSpelling

open LiteralCharacters
open Numeral

/-- A text after its sign, or after none; whether the sign is a minus comes first. -/
inductive Signed : Bool → List Char → List Char → Prop
  | bare (cs : List Char) : Signed false cs cs
  | plus (cs : List Char) : Signed false cs ('+' :: cs)
  | minus (cs : List Char) : Signed true cs ('-' :: cs)

def WritesInteger (n : Int) (cs : List Char) : Prop :=
  ∃ negative digits, Signed negative digits cs ∧ digits ≠ [] ∧ allDigits digits = true ∧
    n = if negative then -(valueOf digits : Int) else valueOf digits

/-- What follows the digits of a numeral: nothing, or a letter and an integer. -/
inductive WritesExponent : Int → List Char → Prop
  | none : WritesExponent 0 []
  | mark {m : Char} {e : Int} {cs : List Char} (hm : isExponentMark m = true)
      (he : WritesInteger e cs) : WritesExponent e (m :: cs)

structure Decimal where
  negative : Bool
  whole : List Char
  fraction : List Char
  exponent : Int
deriving DecidableEq

/-- The spelling of a numeral: a sign, digits with at most one point among them, an exponent. -/
def Writes (n : Decimal) (cs : List Char) : Prop :=
  ∃ mantissa tail, Signed n.negative (mantissa ++ tail) cs ∧
    JoinsAtPoint mantissa n.whole n.fraction ∧ WritesExponent n.exponent tail ∧
    allDigits n.whole = true ∧ allDigits n.fraction = true ∧ (n.whole ≠ [] ∨ n.fraction ≠ [])

theorem signed_splitSign (cs : List Char) : Signed (splitSign cs).1 (splitSign cs).2 cs := by
  unfold splitSign
  split
  · exact .minus _
  · exact .plus _
  · exact .bare _

theorem splitSign_of_signed {negative : Bool} {body cs : List Char}
    (h : Signed negative body cs) (hbody : ∀ c ∈ body.head?, c ≠ '-' ∧ c ≠ '+') :
    splitSign cs = (negative, body) := by
  cases h with
  | plus => rfl
  | minus => rfl
  | bare =>
      unfold splitSign
      split
      · exact absurd rfl (hbody '-' rfl).1
      · exact absurd rfl (hbody '+' rfl).2
      · rfl

theorem ne_of_isDigit {c other : Char} (h : c.isDigit = true) (hother : other.isDigit = false) :
    c ≠ other := by
  rintro rfl
  rw [h] at hother
  cases hother

theorem not_sign_of_isDigit {c : Char} (h : c.isDigit = true) : c ≠ '-' ∧ c ≠ '+' :=
  ⟨ne_of_isDigit h rfl, ne_of_isDigit h rfl⟩

theorem not_sign_of_allDigits {digits : List Char} (h : allDigits digits = true) :
    ∀ c ∈ digits.head?, c ≠ '-' ∧ c ≠ '+' := by
  intro c hc
  exact not_sign_of_isDigit (List.all_eq_true.mp h c (List.mem_of_mem_head? hc))

theorem allDigits_append_iff {front back : List Char} :
    allDigits (front ++ back) = true ↔ allDigits front = true ∧ allDigits back = true := by
  rw [allDigits, List.all_append, Bool.and_eq_true]
  rfl

theorem integer?_eq_some_iff {cs : List Char} {n : Int} :
    integer? cs = some n ↔ WritesInteger n cs := by
  constructor
  · intro h
    obtain ⟨hdigits, hn⟩ := Option.ite_none_left_eq_some.mp h
    simp only [Bool.or_eq_true, List.isEmpty_iff, Bool.not_eq_true', not_or,
      Bool.not_eq_false] at hdigits
    exact ⟨_, _, signed_splitSign cs, hdigits.1, hdigits.2, (Option.some.inj hn).symm⟩
  · rintro ⟨negative, digits, hsigned, hne, hdigits, rfl⟩
    have hsplit := splitSign_of_signed hsigned (not_sign_of_allDigits hdigits)
    simp [integer?, hsplit, hne, hdigits]

theorem integerWithin?_eq_some_iff {low high n : Int} {cs : List Char} :
    integerWithin? low high cs = some n ↔ WritesInteger n cs ∧ low ≤ n ∧ n ≤ high := by
  rw [integerWithin?, Option.filter_eq_some_iff, integer?_eq_some_iff]
  simp

theorem exists_writes_of_writesInteger {n : Int} {cs : List Char} (h : WritesInteger n cs) :
    ∃ negative digits, Writes ⟨negative, digits, [], 0⟩ cs ∧
      n = if negative then -(valueOf digits : Int) else valueOf digits := by
  obtain ⟨negative, digits, hsigned, hne, hdigits, hn⟩ := h
  refine ⟨negative, digits, ⟨digits, [], ?_, .inl ⟨rfl, rfl⟩, .none, hdigits, rfl, .inl hne⟩, hn⟩
  rw [List.append_nil]
  exact hsigned

theorem cut?_append {p : Char → Bool} {head : List Char} {m : Char} (tail : List Char)
    (hhead : ∀ c ∈ head, p c = false) (hm : p m = true) :
    Text.Search.cut? p (head ++ m :: tail) = some (head, tail) := by
  induction head with
  | nil => simp [Text.Search.cut?, hm]
  | cons c head ih =>
      obtain ⟨hc, hhead⟩ := List.forall_mem_cons.mp hhead
      simp [Text.Search.cut?, hc, ih hhead]

theorem cut?_eq_none {p : Char → Bool} {cs : List Char} (h : ∀ c ∈ cs, p c = false) :
    Text.Search.cut? p cs = none := by
  induction cs with
  | nil => rfl
  | cons c cs ih =>
      obtain ⟨hc, hcs⟩ := List.forall_mem_cons.mp h
      simp [Text.Search.cut?, hc, ih hcs]

theorem not_point_of_isDigit {c : Char} (h : c.isDigit = true) : (c == '.') = false :=
  beq_false_of_ne (ne_of_isDigit h rfl)

theorem not_exponentMark_of_isDigit {c : Char} (h : c.isDigit = true) :
    isExponentMark c = false := by
  rw [isExponentMark, beq_false_of_ne (ne_of_isDigit h rfl), beq_false_of_ne (ne_of_isDigit h rfl)]
  rfl

variable {mantissa whole fraction : List Char}

theorem mem_mantissa (hjoins : JoinsAtPoint mantissa whole fraction)
    (hwhole : allDigits whole = true) (hfraction : allDigits fraction = true) {c : Char}
    (hc : c ∈ mantissa) : c.isDigit = true ∨ c = '.' := by
  rcases hjoins with ⟨-, rfl⟩ | rfl
  · exact .inl (List.all_eq_true.mp hwhole c hc)
  · rcases List.mem_append.mp hc with hc | hc
    · exact .inl (List.all_eq_true.mp hwhole c hc)
    · rcases List.mem_cons.mp hc with rfl | hc
      · exact .inr rfl
      · exact .inl (List.all_eq_true.mp hfraction c hc)

theorem mantissa_ne_nil (hjoins : JoinsAtPoint mantissa whole fraction)
    (hdigits : whole ≠ [] ∨ fraction ≠ []) : mantissa ≠ [] := by
  rcases hjoins with ⟨rfl, rfl⟩ | rfl
  · simpa using hdigits
  · simp

theorem cut_at_point (exponent : Option (List Char))
    (hjoins : JoinsAtPoint mantissa whole fraction) (hwhole : allDigits whole = true) :
    (match Text.Search.cut? (· == '.') mantissa with
      | some (whole, fraction) => Parts.mk whole fraction exponent
      | none => ⟨mantissa, [], exponent⟩) = ⟨whole, fraction, exponent⟩ := by
  have hpoint : ∀ c ∈ whole, (c == '.') = false :=
    fun c hc => not_point_of_isDigit (List.all_eq_true.mp hwhole c hc)
  rcases hjoins with ⟨rfl, rfl⟩ | rfl
  · rw [cut?_eq_none hpoint]
  · rw [cut?_append fraction hpoint rfl]

/-- What the parts of a numeral say of its exponent. -/
def ReadsExponent (e : Int) : Option (List Char) → Prop
  | none => e = 0
  | some written => WritesInteger e written

/-- Cutting a text into parts undoes the spelling. -/
theorem exists_partsOf {n : Decimal} {cs : List Char} (h : Writes n cs) :
    (splitSign cs).1 = n.negative ∧
      ∃ exponent, partsOf (unsigned cs) = ⟨n.whole, n.fraction, exponent⟩ ∧
        ReadsExponent n.exponent exponent := by
  obtain ⟨mantissa, tail, hsigned, hjoins, htail, hwhole, hfraction, hdigits⟩ := h
  have hmantissa : ∀ c ∈ mantissa, c.isDigit = true ∨ c = '.' :=
    fun c hc => mem_mantissa hjoins hwhole hfraction hc
  have hstart : ∀ c ∈ (mantissa ++ tail).head?, c ≠ '-' ∧ c ≠ '+' := by
    obtain ⟨d, rest, rfl⟩ := List.exists_cons_of_ne_nil (mantissa_ne_nil hjoins hdigits)
    rintro c ⟨⟩
    rcases hmantissa d List.mem_cons_self with hdigit | rfl
    · exact not_sign_of_isDigit hdigit
    · decide
  -- The first mark is thus the one before the exponent, and cutting there gives the mantissa.
  have hmark : ∀ c ∈ mantissa, isExponentMark c = false := by
    intro c hc
    rcases hmantissa c hc with hdigit | rfl
    · exact not_exponentMark_of_isDigit hdigit
    · rfl
  have hsplit := splitSign_of_signed hsigned hstart
  rw [unsigned, hsplit]
  refine ⟨rfl, ?_⟩
  generalize n.exponent = e at htail ⊢
  cases htail with
  | none =>
      refine ⟨none, ?_, rfl⟩
      simp only [partsOf, List.append_nil, cut?_eq_none hmark]
      exact cut_at_point none hjoins hwhole
  | @mark m e written hm he =>
      refine ⟨some written, ?_, he⟩
      simp only [partsOf, cut?_append written hmark hm]
      exact cut_at_point (some written) hjoins hwhole

theorem exponent_of_writes {n : Decimal} {cs : List Char} (h : Writes n cs) :
    n.exponent = ((partsOf (unsigned cs)).exponent.bind integer?).getD 0 := by
  obtain ⟨-, exponent, hparts, hexponent⟩ := exists_partsOf h
  rw [hparts]
  cases exponent with
  | none => exact hexponent
  | some written =>
      show n.exponent = (integer? written).getD 0
      rw [integer?_eq_some_iff.mpr hexponent, Option.getD_some]

theorem Signed.length_le {negative : Bool} {body cs : List Char} (h : Signed negative body cs) :
    body.length ≤ cs.length := by
  cases h with
  | bare => exact Nat.le_refl _
  | plus => exact Nat.le_succ _
  | minus => exact Nat.le_succ _

theorem Writes.length_le {n : Decimal} {cs : List Char} (h : Writes n cs) :
    n.whole.length + n.fraction.length ≤ cs.length := by
  obtain ⟨mantissa, tail, hsigned, hjoins, -⟩ := h
  have hbody := hsigned.length_le
  have hmantissa : n.whole.length + n.fraction.length ≤ mantissa.length := by
    rcases hjoins with ⟨hfraction, rfl⟩ | rfl
    · simp [hfraction]
    · simp
  rw [List.length_append] at hbody
  omega

theorem Writes.unique {n other : Decimal} {cs : List Char} (h : Writes n cs)
    (hother : Writes other cs) : n = other := by
  obtain ⟨hnegative, exponent, hparts, -⟩ := exists_partsOf h
  obtain ⟨hnegative', exponent', hparts', -⟩ := exists_partsOf hother
  obtain ⟨hwhole, hfraction, -⟩ := Parts.mk.inj (hparts.symm.trans hparts')
  have hsame : n.exponent = other.exponent :=
    (exponent_of_writes h).trans (exponent_of_writes hother).symm
  cases n
  cases other
  simp_all

theorem exists_writes_of_isDecimal {cs : List Char} (h : isDecimal cs = true) :
    ∃ n, Writes n cs := by
  simp only [isDecimal, Bool.and_eq_true, Bool.not_eq_true', Bool.and_eq_false_iff,
    List.isEmpty_eq_false_iff] at h
  obtain ⟨⟨⟨hdigits, hwhole⟩, hfraction⟩, hexponent⟩ := h
  obtain ⟨mantissa, hjoins, hcs⟩ := exists_mantissa (unsigned cs)
  have hsigned := signed_splitSign cs
  rcases hcs with ⟨-, hcs⟩ | ⟨m, written, hm, hwritten, hcs⟩
  · refine ⟨⟨(splitSign cs).1, _, _, 0⟩, mantissa, [], ?_, hjoins, .none, hwhole, hfraction,
      hdigits⟩
    rw [List.append_nil, ← hcs]
    exact hsigned
  · rw [hwritten] at hexponent
    simp only [Bool.and_eq_true, Bool.not_eq_true', List.isEmpty_eq_false_iff] at hexponent
    refine ⟨⟨(splitSign cs).1, _, _, _⟩, mantissa, m :: written, ?_, hjoins,
      .mark hm ⟨_, _, signed_splitSign written, hexponent.1, hexponent.2, rfl⟩, hwhole, hfraction,
      hdigits⟩
    rw [← hcs]
    exact hsigned

/-- The check of numerals accepts what is spelled as one and nothing else. -/
theorem isDecimal_iff {cs : List Char} : isDecimal cs = true ↔ ∃ n, Writes n cs := by
  refine ⟨exists_writes_of_isDecimal, ?_⟩
  rintro ⟨n, h⟩
  obtain ⟨-, exponent, hparts, hexponent⟩ := exists_partsOf h
  obtain ⟨-, -, -, -, -, hwhole, hfraction, hdigits⟩ := h
  have hsome : (!(n.whole.isEmpty && n.fraction.isEmpty)) = true := by
    simpa [List.isEmpty_iff, imp_iff_not_or] using hdigits
  simp only [isDecimal, hparts, hwhole, hfraction, hsome, Bool.and_true, Bool.true_and]
  cases exponent with
  | none => rfl
  | some written =>
      obtain ⟨negative, digits, hsigned, hne, hall, -⟩ := hexponent
      have hsplit := splitSign_of_signed hsigned (not_sign_of_allDigits hall)
      simp [unsigned, hsplit, hne, hall]

theorem isDecimal_of_writesInteger {n : Int} {cs : List Char} (h : WritesInteger n cs) :
    isDecimal cs = true := by
  obtain ⟨negative, digits, hwrites, -⟩ := exists_writes_of_writesInteger h
  exact isDecimal_iff.mpr ⟨_, hwrites⟩

end SqlDialects.Proofs.DecimalSpelling
