import SqlDialects.Numeral.Integer
import SqlDialects.Text.Search

namespace SqlDialects.Numeral

structure Parts where
  whole : List Char
  fraction : List Char
  /-- What stands after the letter of the exponent, if there is one. -/
  exponent : Option (List Char)
deriving DecidableEq

/-- Whether a character begins an exponent. -/
def isExponentMark (c : Char) : Bool :=
  c == 'e' || c == 'E'

/-- Cuts a text without sign at its first exponent letter and the part before it at its first
point. -/
def partsOf (cs : List Char) : Parts :=
  let (mantissa, exponent) :=
    match Text.Search.cut? isExponentMark cs with
    | some (before, rest) => (before, some rest)
    | none => (cs, none)
  match Text.Search.cut? (· == '.') mantissa with
  | some (whole, fraction) => ⟨whole, fraction, exponent⟩
  | none => ⟨mantissa, [], exponent⟩

/-- Whether a text is a decimal numeral: an optional sign, digits with at most one point among
them, and an optional exponent of an optional sign and digits. -/
def isDecimal (cs : List Char) : Bool :=
  let parts := partsOf (unsigned cs)
  !(parts.whole.isEmpty && parts.fraction.isEmpty) &&
    allDigits parts.whole && allDigits parts.fraction &&
    match parts.exponent with
    | none => true
    | some exponent => !(unsigned exponent).isEmpty && allDigits (unsigned exponent)

/-- How far the exponent moves the point: an exponent that 64 bits do not hold moves it by
nothing. -/
def Parts.shift (parts : Parts) : Int64 :=
  match parts.exponent with
  | none => 0
  | some exponent => .ofInt ((int64? exponent).getD 0)

/-- How many digits a numeral has before and after the point once its exponent is applied. Sums of
64 bits wrap around, as they do in an optimised build, which does not check for overflow. -/
def digitCounts (cs : List Char) : Nat × Nat :=
  let parts := partsOf (unsigned cs)
  let digits := Int64.ofNat (parts.whole.length + parts.fraction.length)
  let point := Int64.ofNat parts.whole.length + parts.shift
  (point.toNatClampNeg, (digits - point).toNatClampNeg)

end SqlDialects.Numeral
