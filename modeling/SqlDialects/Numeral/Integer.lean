namespace SqlDialects.Numeral

/-- Whether a text holds nothing but the digits 0 to 9. -/
def allDigits (cs : List Char) : Bool :=
  cs.all Char.isDigit

/-- The number that a run of digits denotes; the empty run denotes zero. -/
def valueOf (digits : List Char) : Nat :=
  Nat.ofDigitChars 10 digits 0

/-- Splits a text after its sign, if it has one: whether the sign is a minus, and the rest. -/
def splitSign : List Char → Bool × List Char
  | '-' :: rest => (true, rest)
  | '+' :: rest => (false, rest)
  | cs => (false, cs)

/-- A text after its sign, if it has one. -/
def unsigned (cs : List Char) : List Char :=
  (splitSign cs).2

/-- The integer that a text denotes: at most one sign, then one or more digits. -/
def integer? (cs : List Char) : Option Int :=
  let (negative, digits) := splitSign cs
  if digits.isEmpty || !allDigits digits then none
  else some (if negative then -(valueOf digits : Int) else valueOf digits)

/-- The integer that a text denotes, if it lies between two bounds. -/
def integerWithin? (low high : Int) (cs : List Char) : Option Int :=
  (integer? cs).filter fun n => low ≤ n && n ≤ high

/-- The integer that a text denotes, if 32 bits hold it. -/
def int32? (cs : List Char) : Option Int :=
  integerWithin? (-2147483648) 2147483647 cs

/-- The integer that a text denotes, if 64 bits hold it. -/
def int64? (cs : List Char) : Option Int :=
  integerWithin? (-9223372036854775808) 9223372036854775807 cs

end SqlDialects.Numeral
