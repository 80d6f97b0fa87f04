import SqlDialects.Numeral.Integer
import SqlDialects.Text.Search

namespace SqlDialects

/-- A version of three numbers of 32 bits. -/
structure Version where
  major : UInt32
  minor : UInt32
  patch : UInt32
deriving DecidableEq, Repr

namespace Version

/-- Whether one version comes before another: the first number that differs decides. -/
def before (a b : Version) : Bool :=
  a.major < b.major ||
    (a.major == b.major &&
      (a.minor < b.minor || (a.minor == b.minor && a.patch < b.patch)))

instance : LT Version :=
  ⟨fun a b => before a b = true⟩

instance (a b : Version) : Decidable (a < b) :=
  inferInstanceAs (Decidable (before a b = true))

/-- The order of two versions. -/
def order (a b : Version) : Ordering :=
  if a < b then .lt else if a = b then .eq else .gt

/-- The text of a version, with all three numbers. -/
def text (v : Version) : String :=
  v.major.toNat.repr ++ "." ++ v.minor.toNat.repr ++ "." ++ v.patch.toNat.repr

/-- The first run of digits and points of a text, from its first digit on. -/
def firstRun (cs : List Char) : List Char :=
  (cs.dropWhile fun c => !c.isDigit).takeWhile fun c => c.isDigit || c == '.'

/-- The runs of digits within the first run of digits and points. -/
def components (cs : List Char) : List (List Char) :=
  (Text.Search.pieces (· == '.') (firstRun cs)).filter fun digits => !digits.isEmpty

/-- The number of a run of digits, if 32 bits hold it. -/
def component? (digits : List Char) : Option UInt32 :=
  let n := Numeral.valueOf digits
  if n < 4294967296 then some (.ofNat n) else none

/-- Reads the version that a text mentions first. Without a first number that fits there is none;
a further number that is missing or does not fit counts as zero. -/
def read? (s : String) : Option Version :=
  match components s.toList with
  | [] => none
  | major :: rest => do
      let major ← component? major
      pure ⟨major, (rest[0]?.bind component?).getD 0, (rest[1]?.bind component?).getD 0⟩

end Version

end SqlDialects
