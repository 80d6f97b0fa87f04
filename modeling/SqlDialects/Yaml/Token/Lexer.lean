import SqlDialects.Yaml.Token

/-!
From a YAML text to its tokens. That a node is a key shows only at the colon after it; so the
place where a key may have begun is remembered, and the token for it is put there later.
-/

namespace SqlDialects.Yaml

/-- A place where a key may have begun. -/
structure Candidate where
  /-- Whether nothing but a key may stand there. -/
  required : Bool
  number : Nat
  position : Position

/-- Whether no colon may follow any more: a key has one line, and at most 1024 octets. -/
def Candidate.isStale (k : Candidate) (p : Position) : Bool :=
  k.position.line < p.line || k.position.offset + 1024 < p.offset

/-- A text that has been read up to some place. -/
structure Lexer where
  rest : List Char
  position : Position
  /-- The columns of the open collections of indented lines, the innermost first. -/
  columns : List Nat
  candidate : Option Candidate
  /-- The candidates outside of each open bracket, the innermost first. -/
  outer : List (Option Candidate)
  /-- Whether a key may begin here. -/
  keyAllowed : Bool
  /-- The tokens so far, the last one first. -/
  tokens : List Token

namespace Lexer

/-- A text of which nothing has been read. -/
def ofText (cs : List Char) : Lexer :=
  ⟨cs, ⟨0, 0, 0⟩, [], none, [], true, []⟩

def inFlow (l : Lexer) : Bool :=
  !l.outer.isEmpty

def skip (l : Lexer) (count : Nat) : Lexer :=
  { l with rest := l.rest.drop count, position := l.position.past (l.rest.take count) }

/-- Moves on to the place from which `rest` follows. -/
def moveTo (l : Lexer) (rest : List Char) : Lexer :=
  l.skip (l.rest.length - rest.length)

def emit (l : Lexer) (t : Token) : Lexer :=
  { l with tokens := t :: l.tokens }

/-- Says whether a key may begin at the next token. -/
def allowKey (l : Lexer) (keyAllowed : Bool) : Lexer :=
  { l with keyAllowed }

/-- The white space and the comments in front of a token: their length after `length`, and
whether a key may begin after them. A tab is white space only where it cannot be taken for
indentation. A byte order mark may start a line, and takes a column of it. -/
def gap (inFlow : Bool) :
    (keyAllowed lineStart comment : Bool) → (length : Nat) → List Char → Bool × Nat
  | keyAllowed, _, _, length, [] => (keyAllowed, length)
  | keyAllowed, lineStart, comment, length, c :: rest =>
      if isBreak c then gap inFlow (keyAllowed || !inFlow) true false (length + 1) rest
      else if comment || c = '#' then gap inFlow keyAllowed false true (length + 1) rest
      else if c = ' ' || (c = '\t' && (inFlow || !keyAllowed)) || (c = '\ufeff' && lineStart) then
        gap inFlow keyAllowed false false (length + 1) rest
      else (keyAllowed, length)

/-- Moves on to the next token. -/
def toToken (l : Lexer) : Lexer :=
  let (keyAllowed, length) := gap l.inFlow l.keyAllowed (l.position.column = 0) false 0 l.rest
  (l.skip length).allowKey keyAllowed

/-- Gives up a candidate that has become stale. One that is required cannot be given up. -/
def expire (p : Position) (k : Option Candidate) : Option (Option Candidate) :=
  match k with
  | some k => if k.isStale p then (if k.required then none else some none) else some (some k)
  | none => some none

/-- Gives up all candidates that have become stale. -/
def expireAll (l : Lexer) : Option Lexer := do
  let candidate ← expire l.position l.candidate
  let outer ← l.outer.mapM (expire l.position)
  pure { l with candidate, outer }

/-- Gives up the candidate within the innermost brackets. -/
def dropCandidate (l : Lexer) : Option Lexer :=
  if l.candidate.any (·.required) then none else some { l with candidate := none }

/-- Remembers that a key may begin here. Where the column is that of the keys before, it has to. -/
def saveCandidate (l : Lexer) : Option Lexer :=
  if l.keyAllowed then do
    let l ← l.dropCandidate
    let required := !l.inFlow && l.columns.head? = some l.position.column
    pure { l with candidate := some ⟨required, l.tokens.length, l.position⟩ }
  else some l

/-- Ends the collections whose lines are indented more than a column. -/
def closeBeyond (l : Lexer) (column : Nat) : Lexer :=
  if l.inFlow then l
  else
    let ended := l.columns.takeWhile (column < ·)
    { l with
      columns := l.columns.drop ended.length
      tokens := List.replicate ended.length .blockEnd ++ l.tokens }

def closeAll (l : Lexer) : Lexer :=
  if l.inFlow then l
  else
    { l with
      columns := []
      tokens := List.replicate l.columns.length .blockEnd ++ l.tokens }

/-- Whether the lines at a column are indented more than those of the innermost collection. -/
def isDeeper (l : Lexer) (column : Nat) : Bool :=
  !l.inFlow && l.columns.head?.all (· < column)

/-- Begins a collection at this column unless it is there already. -/
def openHere (l : Lexer) (t : Token) : Lexer :=
  let column := l.position.column
  if l.isDeeper column then { l.emit t with columns := column :: l.columns } else l

def directive (l : Lexer) : Option Lexer := do
  let l ← l.closeAll.dropCandidate
  let (d, rest) ← directive? (l.rest.drop 1)
  pure (((l.moveTo rest).allowKey false).emit (.directive d))

/-- Reads the mark that starts or ends a document. -/
def marker (l : Lexer) (t : Token) : Option Lexer := do
  let l ← l.closeAll.dropCandidate
  pure (((l.skip 3).allowKey false).emit t)

def openFlow (l : Lexer) (t : Token) : Option Lexer := do
  let l ← l.saveCandidate
  pure ((({ l with candidate := none, outer := l.candidate :: l.outer }.skip 1).allowKey
    true).emit t)

/-- Reads a closing bracket. One that closes nothing is a token all the same. -/
def closeFlow (l : Lexer) (t : Token) : Option Lexer := do
  let l ← l.dropCandidate
  let l :=
    match l.outer with
    | candidate :: outer => { l with candidate, outer }
    | [] => l
  pure (((l.skip 1).allowKey false).emit t)

def comma (l : Lexer) : Option Lexer := do
  let l ← l.dropCandidate
  pure (((l.skip 1).allowKey true).emit .comma)

/-- Reads the mark in front of an item, or the one in front of a key that may have many lines. -/
def entry (l : Lexer) (start mark : Token) (keyAllowed : Bool) : Option Lexer :=
  if l.inFlow || l.keyAllowed then do
    let l ← (l.openHere start).dropCandidate
    pure (((l.skip 1).allowKey keyAllowed).emit mark)
  else none

/-- Reads the colon in front of a value. If a key may have begun, it did, and perhaps a mapping
with it. -/
def value (l : Lexer) : Option Lexer :=
  match l.candidate with
  | some k =>
      let newer := l.tokens.take (l.tokens.length - k.number)
      let older := l.tokens.drop (l.tokens.length - k.number)
      let column := k.position.column
      let l :=
        if l.isDeeper column then
          { l with
            columns := column :: l.columns
            tokens := newer ++ Token.key :: Token.entriesStart :: older }
        else { l with tokens := newer ++ Token.key :: older }
      some ((({ l with candidate := none }.skip 1).allowKey false).emit .value)
  | none =>
      if l.inFlow || l.keyAllowed then
        some ((((l.openHere .entriesStart).skip 1).allowKey !l.inFlow).emit .value)
      else none

/-- Whether a character may follow the name of an anchor. -/
def endsName (cs : List Char) : Bool :=
  atGap cs || cs.head?.any "?:,]\x7d%@\x60".toList.contains

def name (l : Lexer) (token : String → Token) : Option Lexer := do
  let l ← l.saveCandidate
  let word := (l.rest.drop 1).takeWhile isWord
  let l := l.skip (word.length + 1)
  if word.isEmpty || !endsName l.rest then none
  else pure ((l.allowKey false).emit (token (.ofList word)))

def tag (l : Lexer) : Option Lexer := do
  let l ← l.saveCandidate
  let (t, rest) ← tagToken? (l.rest.drop 1)
  if atGap rest || (l.inFlow && rest.head? = some ',') then
    pure (((l.moveTo rest).allowKey false).emit (.tag t))
  else none

def quoted (l : Lexer) (style : ScalarStyle)
    (read : List Char → Option (List Char × List Char)) : Option Lexer := do
  let l ← l.saveCandidate
  let (text, rest) ← read (l.rest.drop 1)
  pure (((l.moveTo rest).allowKey false).emit (.scalar style (.ofList text)))

def block (l : Lexer) (style : ScalarStyle) : Option Lexer := do
  let l ← l.dropCandidate
  let (text, rest) ← block? (style == .folded) l.columns.head? (l.rest.drop 1)
  pure (((l.moveTo rest).allowKey true).emit (.scalar style (.ofList text)))

def plainScalar (l : Lexer) : Option Lexer := do
  let l ← l.saveCandidate
  let r ← plain l.inFlow (l.columns.head?.elim 0 (· + 1)) l.rest
  pure (((l.moveTo r.rest).allowKey r.endsLine).emit (.scalar .plain (.ofList r.text)))

/-- Reads the token that begins with `c`; after `c` comes `rest`. -/
def token (l : Lexer) (c : Char) (rest : List Char) : Option Lexer :=
  let isMark := l.inFlow || atGap rest
  if l.position.column = 0 && c = '%' then l.directive
  else if l.position.column = 0 && atMarker l.rest then
    l.marker (if c = '-' then .documentStart else .documentEnd)
  else match c with
    | '[' => l.openFlow .bracketOpen
    | '\x7b' => l.openFlow .braceOpen
    | ']' => l.closeFlow .bracketClose
    | '\x7d' => l.closeFlow .braceClose
    | ',' => l.comma
    | '-' => if atGap rest then l.entry .itemsStart .item true else l.plainScalar
    | '?' => if isMark then l.entry .entriesStart .key !l.inFlow else l.plainScalar
    | ':' => if isMark then l.value else l.plainScalar
    | '*' => l.name .reference
    | '&' => l.name .anchor
    | '!' => l.tag
    | '|' => if l.inFlow then none else l.block .literal
    | '>' => if l.inFlow then none else l.block .folded
    | '\'' => l.quoted .singleQuoted singleQuoted
    | '"' => l.quoted .doubleQuoted doubleQuoted
    | '%' | '@' | '\x60' => none
    | c => if isGap c then none else l.plainScalar

/-- Reads all tokens, at most `fuel` of them that are written. -/
def run : (fuel : Nat) → Lexer → Option (List Token)
  | 0, _ => none
  | fuel + 1, l => do
      let l ← l.toToken.expireAll
      match l.rest with
      | [] =>
          let l ← l.closeAll.dropCandidate
          pure l.tokens.reverse
      | c :: rest =>
          let l ← (l.closeBeyond l.position.column).token c rest
          run fuel l

end Lexer

/-- The tokens of a text. Each takes a character at least, so the length of the text bounds their
number. -/
def tokens? (text : String) : Option (List Token) :=
  if text.toList.all isAllowed then
    let cs := uniformBreaks text.toList
    Lexer.run (cs.length + 1) (.ofText cs)
  else none

end SqlDialects.Yaml
