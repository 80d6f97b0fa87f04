import SqlDialects.Text.LetterCase.Table

namespace SqlDialects.Text.LetterCase

/-- The lower-case form of one character, apart from its place in a word. -/
def lowerChar (c : Char) : List Char :=
  if c.toNat < 128 then
    [if 'A' ≤ c ∧ c ≤ 'Z' then Char.ofNat (c.toNat + 32) else c]
  else if c.toNat == 0x130 then ['i', Char.ofNat 0x307]
  else match mapped? lowerRuns c.toNat with
    | some code => [Char.ofNat code]
    | none => [c]

def upperChar (c : Char) : List Char :=
  if c.toNat < 128 then
    [if 'a' ≤ c ∧ c ≤ 'z' then Char.ofNat (c.toNat - 32) else c]
  else match upperExpansions.lookup c.toNat with
    | some codes => codes.map Char.ofNat
    | none =>
      match mapped? upperRuns c.toNat with
      | some code => [Char.ofNat code]
      | none => [c]

def isCased (c : Char) : Bool :=
  CodeRange.contains casedRanges c.toNat

/-- Whether the rule for a final sigma passes over a character. -/
def isCaseIgnorable (c : Char) : Bool :=
  CodeRange.contains caseIgnorableRanges c.toNat

def isUpper (c : Char) : Bool :=
  if c.toNat < 128 then 'A' ≤ c && c ≤ 'Z'
  else
    (lowerChar c != [c] && !CodeRange.contains titleRanges c.toNat) ||
      CodeRange.contains fixedUpperRanges c.toNat

/-- Whether the first character that is not passed over has case. -/
def startsCased (cs : List Char) : Bool :=
  match cs.dropWhile isCaseIgnorable with
  | c :: _ => isCased c
  | [] => false

/-- Lower-cases a text, given the characters before it, the nearest first: a capital sigma after
a letter with case and before none takes its final form. -/
def lowerAfter (before : List Char) : List Char → List Char
  | [] => []
  | c :: rest =>
      let form :=
        if c = 'Σ' then [if startsCased before && !startsCased rest then 'ς' else 'σ']
        else lowerChar c
      form ++ lowerAfter (c :: before) rest

def lowerChars (cs : List Char) : List Char :=
  lowerAfter [] cs

def upperChars (cs : List Char) : List Char :=
  cs.flatMap upperChar

def lower (s : String) : String :=
  String.ofList (lowerChars s.toList)

def upper (s : String) : String :=
  String.ofList (upperChars s.toList)

end SqlDialects.Text.LetterCase
