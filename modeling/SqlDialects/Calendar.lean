import SqlDialects.Numeral.Integer
import SqlDialects.Text.Blank

namespace SqlDialects.Calendar

/-- A day of the calendar, with astronomical years. -/
structure Day where
  year : Int
  month : Nat
  day : Nat
deriving DecidableEq, Repr

/-- A time of day; a second of 60 is a leap second. -/
structure TimeOfDay where
  hour : Nat
  minute : Nat
  second : Nat
  nanosecond : Nat
deriving DecidableEq, Repr

/-- Whether a year has a 29th of February. -/
def isLeap (year : Int) : Bool :=
  year % 4 == 0 && (year % 100 != 0 || year % 400 == 0)

def daysIn (year : Int) (month : Nat) : Nat :=
  if month == 2 then if isLeap year then 29 else 28
  else if month == 4 || month == 6 || month == 9 || month == 11 then 30
  else 31

/-- Whether a day is in the calendar, within the years that are supported. -/
def Day.isValid (d : Day) : Bool :=
  -262143 ≤ d.year && d.year ≤ 262142 && 1 ≤ d.month && d.month ≤ 12 &&
    1 ≤ d.day && d.day ≤ daysIn d.year d.month

def TimeOfDay.isValid (t : TimeOfDay) : Bool :=
  t.hour ≤ 23 && t.minute ≤ 59 && t.second ≤ 60

inductive Field where
  | year
  | month
  | day
  | hour
  | minute
  | second
deriving DecidableEq, Repr

inductive Item where
  /-- A number, after any white space. -/
  | number (field : Field)
  | mark (c : Char)
  /-- Any white space, or none. -/
  | blanks
  /-- A point and digits, or nothing. -/
  | fraction
deriving DecidableEq, Repr

/-- What has been read; what was not mentioned is zero. -/
structure Reading where
  year : Int := 0
  month : Nat := 0
  day : Nat := 0
  hour : Nat := 0
  minute : Nat := 0
  second : Nat := 0
  nanosecond : Nat := 0
deriving DecidableEq, Repr

def Reading.set (r : Reading) (field : Field) (n : Int) : Reading :=
  match field with
  | .year => { r with year := n }
  | .month => { r with month := n.toNat }
  | .day => { r with day := n.toNat }
  | .hour => { r with hour := n.toNat }
  | .minute => { r with minute := n.toNat }
  | .second => { r with second := n.toNat }

def Reading.date (r : Reading) : Day :=
  ⟨r.year, r.month, r.day⟩

def Reading.time (r : Reading) : TimeOfDay :=
  ⟨r.hour, r.minute, r.second, r.nanosecond⟩

/-- The digits at the head of a text, at most `limit` of them, and the rest. There has to be one. -/
def digits? (limit : Nat) (cs : List Char) : Option (List Char × List Char) :=
  let digits := (cs.take limit).takeWhile Char.isDigit
  if digits.isEmpty then none else some (digits, cs.drop digits.length)

/-- Reads a number: a year has up to four digits, or a sign and any number of digits; the others
have one or two digits. -/
def number? (field : Field) (cs : List Char) : Option (Int × List Char) :=
  match field, Text.skipBlanks cs with
  | .year, '-' :: rest =>
      (digits? rest.length rest).map fun (digits, rest) => (-(Numeral.valueOf digits : Int), rest)
  | .year, '+' :: rest =>
      (digits? rest.length rest).map fun (digits, rest) => ((Numeral.valueOf digits : Int), rest)
  | .year, rest =>
      (digits? 4 rest).map fun (digits, rest) => ((Numeral.valueOf digits : Int), rest)
  | _, rest =>
      (digits? 2 rest).map fun (digits, rest) => ((Numeral.valueOf digits : Int), rest)

/-- The nanoseconds of the digits after the point; digits after the ninth do not count. -/
def nanoseconds (digits : List Char) : Nat :=
  let counted := digits.take 9
  Numeral.valueOf counted * Nat.pow 10 (9 - counted.length)

def read? : List Item → Reading → List Char → Option Reading
  | [], r, [] => some r
  | [], _, _ :: _ => none
  | .number field :: items, r, cs =>
      (number? field cs).bind fun (n, rest) => read? items (r.set field n) rest
  | .mark _ :: _, _, [] => none
  | .mark m :: items, r, c :: rest => if m = c then read? items r rest else none
  | .blanks :: items, r, cs => read? items r (Text.skipBlanks cs)
  | .fraction :: items, r, '.' :: cs =>
      (digits? cs.length cs).bind fun (digits, rest) =>
        read? items { r with nanosecond := nanoseconds digits } rest
  | .fraction :: items, r, cs => read? items r cs

/-- Year, month and day between hyphens. -/
def dateForm : List Item :=
  [.number .year, .mark '-', .number .month, .mark '-', .number .day]

/-- Hour and minute between colons, without and with seconds. -/
def shortTimeForm : List Item :=
  [.number .hour, .mark ':', .number .minute]

/-- Hour, minute and second between colons, and perhaps a fraction of a second. -/
def longTimeForm : List Item :=
  shortTimeForm ++ [.mark ':', .number .second, .fraction]

/-- The forms of a time, the fuller one first. -/
def timeForms : List (List Item) :=
  [longTimeForm, shortTimeForm]

/-- The forms of a date with a time: between them stands white space, or none, or a `T`. -/
def timestampForms : List (List Item) :=
  [dateForm ++ .blanks :: longTimeForm, dateForm ++ .mark 'T' :: longTimeForm,
    dateForm ++ .blanks :: shortTimeForm, dateForm ++ .mark 'T' :: shortTimeForm]

def date? (cs : List Char) : Option Day :=
  ((read? dateForm {} cs).map (·.date)).filter (·.isValid)

def time? (cs : List Char) : Option TimeOfDay :=
  timeForms.findSome? fun form => ((read? form {} cs).map (·.time)).filter (·.isValid)

def timestamp? (cs : List Char) : Option (Day × TimeOfDay) :=
  timestampForms.findSome? fun form =>
    ((read? form {} cs).map fun r => (r.date, r.time)).filter fun (d, t) =>
      d.isValid && t.isValid

end SqlDialects.Calendar
