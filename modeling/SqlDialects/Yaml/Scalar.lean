import SqlDialects.Yaml.Character

namespace SqlDialects.Yaml

inductive ScalarStyle where
  | plain
  | singleQuoted
  | doubleQuoted
  | literal
  | folded
deriving DecidableEq, Repr

/-- What white space between the words of a scalar stands for. A line break is a space, and
further ones stand for themselves; without a line break all of it stands for itself. -/
def foldGap (gap : List Char) : List Char :=
  match gap.filter isBreak with
  | [] => gap
  | ['\n'] => [' ']
  | '\n' :: more => more
  | breaks => breaks

/-- Whether white space ends at the beginning of a line. -/
def endsLine (gap : List Char) : Bool :=
  gap.getLast?.any isBreak

/-- Whether a document starts or ends after white space. -/
def interrupted (gap rest : List Char) : Bool :=
  endsLine gap && atMarker rest

def preceded (cs : List Char) (value : Option (List Char × List Char)) :
    Option (List Char × List Char) :=
  value.map fun (text, rest) => (cs ++ text, rest)

theorem length_dropWhile_le (p : Char → Bool) (cs : List Char) :
    (cs.dropWhile p).length ≤ cs.length :=
  (List.dropWhile_sublist p).length_le

/-! ## Between quotes -/

/-- Reads a scalar between single quotes, where a quote is written twice. -/
def singleQuoted (cs : List Char) : Option (List Char × List Char) :=
  match cs with
  | [] => none
  | '\'' :: '\'' :: rest => preceded ['\''] (singleQuoted rest)
  | '\'' :: rest => some ([], rest)
  | c :: rest =>
      if isGap c then
        let gap := c :: rest.takeWhile isGap
        let next := rest.dropWhile isGap
        if interrupted gap next then none
        else preceded (foldGap gap) (singleQuoted next)
      else preceded [c] (singleQuoted rest)
termination_by cs.length
decreasing_by
  all_goals simp only [List.length_cons]
  all_goals have := length_dropWhile_le isGap rest
  all_goals omega

/-- The character that a letter stands for after a backslash. -/
def escaped? : Char → Option Char
  | '0' => some '\x00'
  | 'a' => some '\x07'
  | 'b' => some '\x08'
  | 't' | '\t' => some '\t'
  | 'n' => some '\n'
  | 'v' => some '\x0b'
  | 'f' => some '\x0c'
  | 'r' => some '\r'
  | 'e' => some '\x1b'
  | ' ' => some ' '
  | '"' => some '"'
  | '/' => some '/'
  | '\\' => some '\\'
  | 'N' => some '\x85'
  | '_' => some '\xa0'
  | 'L' => some '\u2028'
  | 'P' => some '\u2029'
  | _ => none

/-- The number of digits after a backslash and a letter that announces the number of a
character. -/
def escapeDigits? : Char → Option Nat
  | 'x' => some 2
  | 'u' => some 4
  | 'U' => some 8
  | _ => none

/-- Reads a scalar between double quotes, where a backslash escapes. An escaped line break stands
for nothing, nor does the white space around it. -/
def doubleQuoted (cs : List Char) : Option (List Char × List Char) :=
  match cs with
  | [] => none
  | '"' :: rest => some ([], rest)
  | ['\\'] => none
  | '\\' :: c :: rest =>
      if isBreak c then
        let gap := rest.takeWhile isGap
        let next := rest.dropWhile isGap
        if interrupted (c :: gap) next then none
        else preceded (gap.filter isBreak) (doubleQuoted next)
      else
        match escapeDigits? c with
        | some count => do
            let c ← (hexNumber? count 0 rest).bind charOf?
            preceded [c] (doubleQuoted (rest.drop count))
        | none => do
            let c ← escaped? c
            preceded [c] (doubleQuoted rest)
  | c :: rest =>
      if isGap c then
        let gap := c :: rest.takeWhile isGap
        let next := rest.dropWhile isGap
        if interrupted gap next then none
        else preceded (foldGap gap) (doubleQuoted next)
      else preceded [c] (doubleQuoted rest)
termination_by cs.length
decreasing_by
  all_goals simp only [List.length_cons, List.length_drop]
  all_goals have := length_dropWhile_le isGap rest
  all_goals omega

/-! ## Plain scalars -/

/-- Whether a character ends a plain scalar within brackets. -/
def isFlowMark (c : Char) : Bool :=
  c == ',' || c == '[' || c == ']' || c == '\x7b' || c == '\x7d'

/-- The length of the first word of a plain scalar. It has none if, within brackets, a colon
stands where it is neither part of a word nor followed by a value. -/
def wordLength? (inFlow : Bool) : List Char → Option Nat
  | [] => some 0
  | c :: rest =>
      if isGap c || (inFlow && isFlowMark c) then some 0
      else if c == ':' && inFlow && rest.head?.any fun d => d == '?' || isFlowMark d then none
      else if c == ':' && atGap rest then some 0
      else (wordLength? inFlow rest).map (· + 1)

/-- Whether a tab stands where a line has to be indented. The column is unknown in the first
line. -/
def tabIndents (indent : Nat) : (column : Option Nat) → List Char → Bool
  | _, [] => false
  | column, c :: rest =>
      if isBreak c then tabIndents indent (some 0) rest
      else (c == '\t' && column.any (· < indent)) || tabIndents indent (column.map (· + 1)) rest

/-- The number of characters after the last line break. -/
def lastColumn (gap : List Char) : Nat :=
  (gap.reverse.takeWhile fun c => !isBreak c).length

/-- What is left of a plain scalar: its value, what follows, and whether the scalar was ended by
a line break. -/
structure PlainRest where
  text : List Char
  rest : List Char
  endsLine : Bool

/-- Reads on after a word of a plain scalar. The next word belongs to it unless it is a comment,
starts or ends a document, or, outside of brackets, stands on a line that is indented less than
`indent`. -/
def plainRest (inFlow : Bool) (indent : Nat) (cs : List Char) : Option PlainRest :=
  let gap := cs.takeWhile isGap
  let next := cs.dropWhile isGap
  let stop := some ⟨[], next, gap.any isBreak⟩
  if tabIndents indent none gap then none
  else if gap.isEmpty || interrupted gap next || next.head? = some '#' then stop
  else if !inFlow && gap.any isBreak && lastColumn gap < indent then stop
  else
    match h : wordLength? inFlow next with
    | none => none
    | some 0 => stop
    | some (n + 1) =>
        (plainRest inFlow indent (next.drop (n + 1))).map fun r =>
          { r with text := foldGap gap ++ next.take (n + 1) ++ r.text }
termination_by cs.length
decreasing_by
  have hpos : 0 < (cs.dropWhile isGap).length := by
    cases hnext : cs.dropWhile isGap with
    | nil => simp [next, hnext, wordLength?] at h
    | cons => simp
  have hle := length_dropWhile_le isGap cs
  simp only [List.length_drop]
  omega

def plain (inFlow : Bool) (indent : Nat) (cs : List Char) : Option PlainRest := do
  let n ← wordLength? inFlow cs
  let r ← plainRest inFlow indent (cs.drop n)
  pure { r with text := cs.take n ++ r.text }

/-! ## Blocks of lines -/

/-- What becomes of the line breaks at the end of a block. -/
inductive Chomping where
  /-- None is kept. -/
  | strip
  /-- The first one is kept. -/
  | clip
  /-- All are kept. -/
  | keep
deriving DecidableEq, Repr

def chomping (cs : List Char) : Chomping × List Char :=
  match cs with
  | '+' :: rest => (.keep, rest)
  | '-' :: rest => (.strip, rest)
  | _ => (.clip, cs)

/-- Reads the digit for the indentation. A zero is refused. -/
def indentation? (cs : List Char) : Option (Option Nat × List Char) :=
  match cs with
  | [] => some (none, [])
  | c :: rest =>
      if c = '0' then none
      else if c.isDigit then some (some (c.toNat - '0'.toNat), rest)
      else some (none, cs)

/-- Reads the line that begins a block; its sign and its digit come in any order. -/
def blockHeader? (cs : List Char) : Option (Chomping × Option Nat × List Char) := do
  let (first, rest) := chomping cs
  let (indent, rest) ← indentation? rest
  let (second, rest) := if first = .clip then chomping rest else (first, rest)
  let rest ← nextLine? rest
  pure (second, indent, rest)

/-- The empty lines in front of a line: their breaks, the width of the widest, and the line with
the column from which on it has not been read. -/
structure Margin where
  breaks : List Char
  width : Nat
  column : Nat
  rest : List Char

/-- Reads empty lines. Where the indentation is known, spaces beyond it belong to a line. A tab
cannot indent. -/
def margin? (indent : Option Nat) (column width : Nat) : List Char → Option Margin
  | [] => some ⟨[], max width column, column, []⟩
  | c :: rest =>
      let within := indent.all (column < ·)
      if c = ' ' && within then margin? indent (column + 1) width rest
      else if c = '\t' && within then none
      else if isBreak c then
        (margin? indent 0 (max width column) rest).map fun m =>
          { m with breaks := c :: m.breaks }
      else some ⟨[], max width column, column, c :: rest⟩

theorem length_margin_le {indent : Option Nat} {column width : Nat} {cs : List Char} {m : Margin}
    (h : margin? indent column width cs = some m) : m.rest.length ≤ cs.length := by
  induction cs generalizing column width m with
  | nil =>
      simp only [margin?, Option.some.injEq] at h
      simp [← h]
  | cons c rest ih =>
      simp only [margin?] at h
      split at h
      · exact Nat.le_succ_of_le (ih h)
      · split at h
        · simp at h
        · split at h
          · obtain ⟨tail, htail, htail_eq⟩ := Option.map_eq_some_iff.mp h
            subst htail_eq
            have hle := ih htail
            exact Nat.le_succ_of_le hle
          · simp only [Option.some.injEq] at h
            simp [← h]

/-- What is left of a block: the text of its lines, the last line break, the breaks of the empty
lines after it, and what follows. -/
structure BlockRest where
  text : List Char
  last : List Char
  breaks : List Char
  rest : List Char

/-- Reads the lines of a block. In a folded block the break between two lines that do not begin
with white space is a space, or nothing before an empty line. -/
def blockLines (folds : Bool) (indent : Nat) (last : List Char) (indented : Bool) (m : Margin) :
    Option BlockRest :=
  if hend : m.rest = [] || m.column ≠ indent then some ⟨[], last, m.breaks, m.rest⟩
  else
    let indents := m.rest.head?.any isWhite
    let line := m.rest.takeWhile fun c => !isBreak c
    let next := skipLine m.rest
    let joint :=
      if folds && last = ['\n'] && !indented && !indents then
        if m.breaks.isEmpty then [' '] else []
      else last
    match hmargin : margin? (some indent) 0 0 (next.drop 1) with
    | none => none
    | some following =>
        have : following.rest.length < m.rest.length := by
          have hle := length_margin_le hmargin
          have hnext : next.length ≤ m.rest.length := length_dropWhile_le _ m.rest
          have hpos : 0 < m.rest.length := List.length_pos_iff.mpr fun h => hend (by simp [h])
          simp only [List.length_drop] at hle
          omega
        (blockLines folds indent (next.take 1) indents following).map fun r =>
          { r with text := joint ++ m.breaks ++ line ++ r.text }
termination_by m.rest.length

/-- Reads a block of lines within a collection at the column `outer`, or within none. Without a
digit the first line that is not empty shows the indentation; it is at least one column more than
that of the collection. -/
def block? (folds : Bool) (outer : Option Nat) (cs : List Char) :
    Option (List Char × List Char) := do
  let (chomping, digit, rest) ← blockHeader? cs
  let given := digit.map (outer.getD 0 + ·)
  let m ← margin? given 0 0 rest
  let indent := given.getD (max m.width (outer.elim 1 (· + 1)))
  let r ← blockLines folds indent [] false m
  let ending :=
    match chomping with
    | .strip => []
    | .clip => r.last
    | .keep => r.last ++ r.breaks
  pure (r.text ++ ending, r.rest)

end SqlDialects.Yaml
