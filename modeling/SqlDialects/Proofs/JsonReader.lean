import Mathlib.Algebra.Group.Int.Defs
import SqlDialects.Json
import SqlDialects.Numeral.Decimal

/-!
JSON values read from their text. The reader accepts every JSON text, with blanks wherever they may
stand, any of the ways to escape a character, and numbers with an exponent.
-/

namespace SqlDialects.Proofs.JsonReader

open Numeral
open Text.Search (cut?)

inductive Token where
  | openArray
  | closeArray
  | openObject
  | closeObject
  | comma
  | colon
  | blank
  | string (s : String)
  /-- Anything else, up to the next token. -/
  | word (cs : List Char)
deriving DecidableEq

/-- The token that a character is on its own. -/
def mark? (c : Char) : Option Token :=
  if c = '[' then some .openArray
  else if c = ']' then some .closeArray
  else if c = '\x7b' then some .openObject
  else if c = '\x7d' then some .closeObject
  else if c = ',' then some .comma
  else if c = ':' then some .colon
  else if c = ' ' || c = '\n' || c = '\r' || c = '\t' then some .blank
  else none

/-- What stands after an opening quote: the code units that are meant, and the number of characters
up to the closing quote. -/
structure Quoted where
  units : List Nat
  length : Nat
deriving DecidableEq

def Quoted.push (unit length : Nat) (quoted : Quoted) : Quoted :=
  ⟨unit :: quoted.units, length + quoted.length⟩

def hexDigit? (c : Char) : Option Nat :=
  if c.isDigit then some (c.toNat - '0'.toNat)
  else if 'a' ≤ c ∧ c ≤ 'f' then some (c.toNat - 'a'.toNat + 10)
  else if 'A' ≤ c ∧ c ≤ 'F' then some (c.toNat - 'A'.toNat + 10)
  else none

def hex? (cs : List Char) : Option Nat :=
  cs.foldlM (fun n c => (hexDigit? c).map (16 * n + ·)) 0

/-- The code unit that a letter means after a backslash. -/
def escaped? (c : Char) : Option Nat :=
  if c = '"' || c = '\\' || c = '/' then some c.toNat
  else if c = 'b' then some 8
  else if c = 't' then some 9
  else if c = 'n' then some 10
  else if c = 'f' then some 12
  else if c = 'r' then some 13
  else none

/-- Reads up to a closing quote. -/
def readQuoted : List Char → Option Quoted
  | [] => none
  | '"' :: _ => some ⟨[], 1⟩
  | '\\' :: 'u' :: a :: b :: c :: d :: rest =>
      (hex? [a, b, c, d]).bind fun unit => (readQuoted rest).map (.push unit 6)
  | '\\' :: c :: rest => (escaped? c).bind fun unit => (readQuoted rest).map (.push unit 2)
  | c :: rest =>
      if c.toNat < 32 then none else (readQuoted rest).map (.push c.toNat 1)

/-- The character that two surrogates stand for. -/
def surrogates? (high low : Nat) : Option Char :=
  if 0xd800 ≤ high ∧ high < 0xdc00 ∧ 0xdc00 ≤ low ∧ low < 0xe000 then
    some (Char.ofNat (0x10000 + (high - 0xd800) * 0x400 + (low - 0xdc00)))
  else none

/-- The characters of code units, in which surrogates come in pairs. -/
def characters? : List Nat → Option (List Char)
  | [] => some []
  | [unit] => if unit.isValidChar then some [Char.ofNat unit] else none
  | unit :: next :: rest =>
      if unit.isValidChar then (characters? (next :: rest)).map (Char.ofNat unit :: ·)
      else (surrogates? unit next).bind fun c => (characters? rest).map (c :: ·)

/-- Puts a character in front of a word, or makes it a word. -/
def extend (c : Char) : List Token → List Token
  | .word cs :: tokens => .word (c :: cs) :: tokens
  | tokens => .word [c] :: tokens

/-- The tokens of a text after its first `skip` characters. -/
def tokensFrom : (skip : Nat) → List Char → Option (List Token)
  | _, [] => some []
  | skip + 1, _ :: rest => tokensFrom skip rest
  | 0, c :: rest =>
      if c = '"' then
        (readQuoted rest).bind fun quoted => (characters? quoted.units).bind fun value =>
          (tokensFrom quoted.length rest).map (.string (.ofList value) :: ·)
      else
        match mark? c with
        | some t => (tokensFrom 0 rest).map (t :: ·)
        | none => (tokensFrom 0 rest).map (extend c)

/-- The tokens of a text without the blanks between them. -/
def tokens (cs : List Char) : Option (List Token) :=
  (tokensFrom 0 cs).map (·.filter (· ≠ .blank))

def splitMinus : List Char → Bool × List Char
  | '-' :: rest => (true, rest)
  | cs => (false, cs)

def cutAt (p : Char → Bool) (cs : List Char) : List Char × Option (List Char) :=
  match cut? p cs with
  | some (before, rest) => (before, some rest)
  | none => (cs, none)

/-- Whether digits can stand before the point: a zero in front stands alone. -/
def isWhole (cs : List Char) : Bool :=
  !cs.isEmpty && allDigits cs && (cs.head? != some '0' || cs.length = 1)

/-- The digits after a point, of which there is at least one. -/
def fraction? : Option (List Char) → Option (List Char)
  | none => some []
  | some cs => if cs.isEmpty || !allDigits cs then none else some cs

def exponent? : Option (List Char) → Option Int
  | none => some 0
  | some cs => integer? cs

/-- The number with the point moved to the right. -/
def shifted (mantissa : Int) (places : Nat) (exponent : Int) : Json :=
  if exponent ≤ places then .number mantissa (places - exponent).toNat
  else .number (mantissa * 10 ^ (exponent - places).toNat) 0

def number? (cs : List Char) : Option Json :=
  let (negative, figures) := splitMinus cs
  let (mantissa, exponent) := cutAt isExponentMark figures
  let (whole, fraction) := cutAt (· == '.') mantissa
  if isWhole whole then do
    let fraction ← fraction? fraction
    let exponent ← exponent? exponent
    let n := valueOf (whole ++ fraction)
    pure (shifted (if negative then -n else n) fraction.length exponent)
  else none

def scalar? (cs : List Char) : Option Json :=
  if cs = "null".toList then some .null
  else if cs = "true".toList then some (.bool true)
  else if cs = "false".toList then some (.bool false)
  else number? cs

mutual

/-- Reads a value and leaves what follows it. -/
def readValue : (fuel : Nat) → List Token → Option (Json × List Token)
  | _ + 1, .string s :: rest => some (.string s, rest)
  | _ + 1, .word cs :: rest => (scalar? cs).map (·, rest)
  | _ + 1, .openArray :: .closeArray :: rest => some (.array [], rest)
  | fuel + 1, .openArray :: rest =>
      (readItems fuel rest).map fun (items, rest) => (.array items, rest)
  | _ + 1, .openObject :: .closeObject :: rest => some (.object [], rest)
  | fuel + 1, .openObject :: rest =>
      (readMembers fuel rest).map fun (members, rest) => (.object members, rest)
  | _, _ => none

def readItems : (fuel : Nat) → List Token → Option (List Json × List Token)
  | 0, _ => none
  | fuel + 1, ts =>
      match readValue fuel ts with
      | some (item, .closeArray :: rest) => some ([item], rest)
      | some (item, .comma :: rest) =>
          (readItems fuel rest).map fun (items, rest) => (item :: items, rest)
      | _ => none

def readMembers : (fuel : Nat) → List Token → Option (List (String × Json) × List Token)
  | fuel + 1, .string name :: .colon :: ts =>
      match readValue fuel ts with
      | some (value, .closeObject :: rest) => some ([(name, value)], rest)
      | some (value, .comma :: rest) =>
          (readMembers fuel rest).map fun (members, rest) => ((name, value) :: members, rest)
      | _ => none
  | _, _ => none

end

/-- The value of a JSON text. -/
def read? (s : String) : Option Json :=
  (tokens s.toList).bind fun ts =>
    match readValue ts.length ts with
    | some (j, []) => some j
    | _ => none

end SqlDialects.Proofs.JsonReader
