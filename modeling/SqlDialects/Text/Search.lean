namespace SqlDialects.Text.Search

/-- Whether `needle` occurs in a text. -/
def occursIn (needle : List Char) : List Char → Bool
  | [] => needle.isEmpty
  | c :: rest => needle.isPrefixOf (c :: rest) || occursIn needle rest

/-- Copies a text, with `new` for every occurrence of `old` from left to right, after leaving out
its first `skip` characters. -/
def replaceFrom (old new : List Char) : (skip : Nat) → List Char → List Char
  | _, [] => []
  | skip + 1, _ :: rest => replaceFrom old new skip rest
  | 0, c :: rest =>
      if old.isPrefixOf (c :: rest) then new ++ replaceFrom old new (old.length - 1) rest
      else c :: replaceFrom old new 0 rest

/-- A string with `new` for every occurrence of `old`, where `old` is not empty. -/
def replace (s old new : String) : String :=
  String.ofList (replaceFrom old.toList new.toList 0 s.toList)

/-- Whether `needle` occurs in a string. -/
def contains (s needle : String) : Bool :=
  occursIn needle.toList s.toList

/-- Whether a string begins with another. -/
def startsWith (s start : String) : Bool :=
  start.toList.isPrefixOf s.toList

/-- What follows `start` in a text that begins with it. -/
def after? : (start : List Char) → List Char → Option (List Char)
  | [], cs => some cs
  | _ :: _, [] => none
  | s :: start, c :: cs => if s = c then after? start cs else none

/-- The pieces of a text between the characters that satisfy `p`; there is one more piece than
there are such characters. -/
def pieces (p : Char → Bool) : List Char → List (List Char)
  | [] => [[]]
  | c :: rest =>
      if p c then [] :: pieces p rest
      else match pieces p rest with
        | piece :: more => (c :: piece) :: more
        | [] => [[c]]

/-- A text before the first character that satisfies `p`, and what follows that character. -/
def cut? (p : Char → Bool) : List Char → Option (List Char × List Char)
  | [] => none
  | c :: rest =>
      if p c then some ([], rest) else (cut? p rest).map fun (head, tail) => (c :: head, tail)

end SqlDialects.Text.Search
