import SqlDialects.Yaml.Character

namespace SqlDialects.Yaml

/-- A tag as it is written; the empty handle stands for nothing. -/
structure TagToken where
  handle : String
  suffix : String
deriving DecidableEq, Repr

abbrev Handles :=
  List (String × String)

/-- The handles that need no directive. -/
def standardHandles : Handles :=
  [("!", "!"), ("!!", "tag:yaml.org,2002:")]

/-- The tag that is meant, if its handle is known. -/
def TagToken.resolve? (t : TagToken) (handles : Handles) : Option String :=
  if t.handle.isEmpty then some t.suffix
  else (handles.lookup t.handle).map (· ++ t.suffix)

/-- Reads an octet that is written as a percent sign and two digits. -/
def octet? : List Char → Option Nat
  | '%' :: digits => hexNumber? 2 0 digits
  | _ => none

/-- The number of octets of a character in UTF-8, its bits in the first of them, and the least
number that needs so many. -/
def leadingOctet? (octet : Nat) : Option (Nat × Nat × Nat) :=
  if octet < 0x80 then some (1, octet, 0)
  else if octet / 32 = 6 then some (2, octet % 32, 0x80)
  else if octet / 16 = 14 then some (3, octet % 16, 0x800)
  else if octet / 8 = 30 then some (4, octet % 8, 0x10000)
  else none

def trailingOctets? : (count bits : Nat) → List Char → Option Nat
  | 0, bits, _ => some bits
  | count + 1, bits, cs => do
      let octet ← octet? cs
      if octet / 64 = 2 then trailingOctets? count (64 * bits + octet % 64) (cs.drop 3) else none

/-- Reads a character that is written as octets: the character, and the length of what is
written. One that has a shorter form is no character. -/
def escapedOctets? (cs : List Char) : Option (Char × Nat) := do
  let octet ← octet? cs
  let (width, bits, least) ← leadingOctet? octet
  let n ← trailingOctets? (width - 1) bits (cs.drop 3)
  let c := if least ≤ n then (charOf? n).getD '\ufffd' else '\ufffd'
  pure (c, 3 * width)

/-- Whether a character may stand in a tag. Some may not where brackets and commas have a
meaning. -/
def isTagChar (bracketed : Bool) (c : Char) : Bool :=
  isWord c || ";/?:@&=+$.%!~*'()".toList.contains c || (bracketed && ",[]".toList.contains c)

def tagPiece? (bracketed : Bool) (cs : List Char) : Option (List Char × List Char) :=
  match cs with
  | [] => some ([], [])
  | c :: rest =>
      if c = '%' then do
        let (decoded, width) ← escapedOctets? cs
        let (piece, rest) ← tagPiece? bracketed (rest.drop (width - 1))
        pure (decoded :: piece, rest)
      else if isTagChar bracketed c then do
        let (piece, rest) ← tagPiece? bracketed rest
        pure (c :: piece, rest)
      else some ([], cs)
termination_by cs.length
decreasing_by
  all_goals simp only [List.length_cons, List.length_drop]
  all_goals omega

/-- What a piece of a tag says. A null character in it ends it. -/
def tagText (piece : List Char) : String :=
  .ofList (piece.takeWhile (· != '\x00'))

/-- Reads a piece of a tag that is not empty. -/
def tagSuffix? (bracketed : Bool) (cs : List Char) : Option (String × List Char) := do
  let (piece, rest) ← tagPiece? bracketed cs
  if piece.isEmpty then none else pure (tagText piece, rest)

/-- Reads a tag after its exclamation mark. The mark alone is a tag of its own. -/
def tagToken? : List Char → Option (TagToken × List Char)
  | '<' :: rest => do
      let (suffix, rest) ← tagSuffix? true rest
      match rest with
      | '>' :: rest => pure (⟨"", suffix⟩, rest)
      | _ => none
  | cs =>
      let name := cs.takeWhile isWord
      match cs.dropWhile isWord with
      | '!' :: rest => do
          let (suffix, rest) ← tagSuffix? false rest
          pure (⟨.ofList ('!' :: name ++ ['!']), suffix⟩, rest)
      | rest => do
          let (piece, rest) ← tagPiece? false rest
          let suffix := tagText (name ++ piece)
          pure (if suffix.isEmpty then ⟨"", "!"⟩ else ⟨"!", suffix⟩, rest)

inductive Directive where
  | version (major minor : Nat)
  /-- What a handle stands for. -/
  | handle (handle meaning : String)
deriving DecidableEq, Repr

def versionNumber? (cs : List Char) : Option (Nat × List Char) :=
  let digits := cs.takeWhile Char.isDigit
  if digits.isEmpty || 9 < digits.length then none
  else some (Nat.ofDigitChars 10 digits 0, cs.dropWhile Char.isDigit)

def versionDirective? (cs : List Char) : Option (Directive × List Char) := do
  let (major, rest) ← versionNumber? (cs.dropWhile isWhite)
  match rest with
  | '.' :: rest =>
      let (minor, rest) ← versionNumber? rest
      pure (.version major minor, rest)
  | _ => none

def handle? : List Char → Option (String × List Char)
  | '!' :: rest =>
      let name := rest.takeWhile isWord
      match rest.dropWhile isWord with
      | '!' :: rest => some (.ofList ('!' :: name ++ ['!']), rest)
      | rest => if name.isEmpty then some ("!", rest) else none
  | _ => none

/-- Reads what a handle stands for. -/
def handleDirective? (cs : List Char) : Option (Directive × List Char) := do
  let (handle, rest) ← handle? (cs.dropWhile isWhite)
  if rest.head?.any isWhite then
    let (meaning, rest) ← tagSuffix? true (rest.dropWhile isWhite)
    if atGap rest then pure (.handle handle meaning, rest) else none
  else none

/-- Reads a directive after its percent sign, up to the end of its line. -/
def directive? (cs : List Char) : Option (Directive × List Char) := do
  let rest := cs.dropWhile isWord
  let (directive, rest) ←
    if !atGap rest then none
    else if cs.takeWhile isWord = "YAML".toList then versionDirective? rest
    else if cs.takeWhile isWord = "TAG".toList then handleDirective? rest
    else none
  let rest ← nextLine? rest
  pure (directive, rest)

end SqlDialects.Yaml
