namespace SqlDialects.Yaml

/-- Whether a character may stand in a YAML text. -/
def isAllowed (c : Char) : Bool :=
  let n := c.toNat
  n == 9 || n == 10 || n == 13 || (32 ≤ n && n ≤ 126) || n == 0x85 ||
    (0xa0 ≤ n && n ≤ 0xfffd) || 0x10000 ≤ n

/-- A text with a line feed for every other line break but the separators. -/
def uniformBreaks : List Char → List Char
  | [] => []
  | '\r' :: '\n' :: rest => '\n' :: uniformBreaks rest
  | c :: rest => (if c = '\r' || c = '\x85' then '\n' else c) :: uniformBreaks rest

/-- Whether a character ends a line. -/
def isBreak (c : Char) : Bool :=
  c == '\n' || c == '\u2028' || c == '\u2029'

def isWhite (c : Char) : Bool :=
  c == ' ' || c == '\t'

def isGap (c : Char) : Bool :=
  isWhite c || isBreak c

/-- Whether a text is at its end or goes on with white space. -/
def atGap : List Char → Bool
  | [] => true
  | c :: _ => isGap c

/-- Whether a character may stand in the name of an anchor, a handle or a directive. -/
def isWord (c : Char) : Bool :=
  c.isAlphanum || c == '_' || c == '-'

/-- Whether a line begins with one of the marks that start or end a document. -/
def atMarker : List Char → Bool
  | '-' :: '-' :: '-' :: rest => atGap rest
  | '.' :: '.' :: '.' :: rest => atGap rest
  | _ => false

def skipLine (cs : List Char) : List Char :=
  cs.dropWhile fun c => !isBreak c

/-- What follows a line of which only white space and a comment are left. -/
def nextLine? (cs : List Char) : Option (List Char) :=
  let cs := cs.dropWhile isWhite
  match if cs.head? = some '#' then skipLine cs else cs with
  | [] => some []
  | c :: rest => if isBreak c then some rest else none

/-- The number that a digit of base sixteen stands for. -/
def hexValue? (c : Char) : Option Nat :=
  if c.isDigit then some (c.toNat - '0'.toNat)
  else if 'a' ≤ c && c ≤ 'f' then some (c.toNat - 'a'.toNat + 10)
  else if 'A' ≤ c && c ≤ 'F' then some (c.toNat - 'A'.toNat + 10)
  else none

/-- The number that the first `count` characters of a text denote in base sixteen, after digits
that denote `value`. -/
def hexNumber? : (count value : Nat) → List Char → Option Nat
  | 0, value, _ => some value
  | _ + 1, _, [] => none
  | count + 1, value, c :: rest => do
      let digit ← hexValue? c
      hexNumber? count (16 * value + digit) rest

def charOf? (n : Nat) : Option Char :=
  if n.isValidChar then some (.ofNat n) else none

structure Position where
  /-- The number of octets before it, in UTF-8. -/
  offset : Nat
  line : Nat
  column : Nat

def Position.past (p : Position) (cs : List Char) : Position :=
  cs.foldl (fun p c =>
    if isBreak c then ⟨p.offset + c.utf8Size, p.line + 1, 0⟩
    else ⟨p.offset + c.utf8Size, p.line, p.column + 1⟩) p

end SqlDialects.Yaml
