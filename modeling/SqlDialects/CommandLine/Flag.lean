import SqlDialects.Text.Search

namespace SqlDialects.CommandLine

/-- Why words do not ask for anything to be done. -/
inductive Stop where
  /-- They are not understood. -/
  | usage
  | help
  | version
deriving DecidableEq, Repr

inductive Takes where
  /-- Nothing; the flag stands once. -/
  | nothing
  /-- One value that passes a test; the flag stands once. -/
  | one (accepts : String → Bool)
  | many
  /-- Nothing, and no more words are read. -/
  | stop (reason : Stop)

/-- A flag: two hyphens and a name, or one hyphen and a letter. -/
structure Flag where
  name : String
  takes : Takes
  letter : Option Char := none
  /-- Whether its value may begin with a hyphen. -/
  hyphens : Bool := false

/-- The flags and the words that stand for themselves, in their order. -/
structure Given where
  flags : List (String × String)
  words : List String

namespace Given

/-- Nothing. -/
def empty : Given :=
  ⟨[], []⟩

def has (g : Given) (name : String) : Bool :=
  g.flags.any (·.1 == name)

/-- The first value of a flag. -/
def value? (g : Given) (name : String) : Option String :=
  g.flags.lookup name

def values (g : Given) (name : String) : List String :=
  (g.flags.filter (·.1 == name)).map (·.2)

def addFlag (g : Given) (f : Flag) (value : String) : Except Stop Given :=
  let added : Given := { g with flags := g.flags ++ [(f.name, value)] }
  match f.takes with
  | .nothing => if g.has f.name then .error .usage else .ok added
  | .one accepts =>
      if g.has f.name || !accepts value then .error .usage else .ok added
  | .many => .ok added
  | .stop reason => .error reason

end Given

/-- What may follow a name: flags, and at most some words that stand for themselves. -/
structure Form where
  flags : List Flag
  words : Nat

namespace Form

def addWords (form : Form) (g : Given) (words : List String) : Except Stop Given :=
  let words := g.words ++ words
  if words.length ≤ form.words then .ok { g with words } else .error .usage

/-- A flag with a value that may stand in the same word, or else in the next. -/
def addLong (form : Form) (g : Given) (text : List Char) : Except Stop (Given × Option Flag) :=
  let (name, value) :=
    match Text.Search.cut? (· == '=') text with
    | some (name, value) => (name, some value)
    | none => (text, none)
  match form.flags.find? (·.name == String.ofList name) with
  | none => .error .usage
  | some f =>
      match f.takes, value with
      | .one _, none | .many, none => .ok (g, some f)
      | .one _, some value | .many, some value => do
          let g ← g.addFlag f (.ofList value)
          pure (g, none)
      | _, none => do
          let g ← g.addFlag f ""
          pure (g, none)
      | _, some _ => .error .usage

/-- Flags by their letters. What follows the letter of one with a value is the value. -/
def addLetters (form : Form) (g : Given) : List Char → Except Stop (Given × Option Flag)
  | [] => .ok (g, none)
  | c :: rest =>
      match form.flags.find? (·.letter == some c) with
      | none => .error .usage
      | some f =>
          match f.takes, rest with
          | .one _, [] | .many, [] => .ok (g, some f)
          | .one _, '=' :: value | .many, '=' :: value => do
              let g ← g.addFlag f (.ofList value)
              pure (g, none)
          | .one _, value | .many, value => do
              let g ← g.addFlag f (.ofList value)
              pure (g, none)
          | _, _ => do
              let g ← g.addFlag f ""
              addLetters form g rest

/-- Reads words up to the name of a command, which is given with the words after it. The value of
a flag may be awaited. After two hyphens all words stand for themselves. -/
def read (form : Form) (commands : List String) :
    (awaited : Option Flag) → Given → List String →
      Except Stop (Given × Option (String × List String))
  | none, g, [] => .ok (g, none)
  | some _, _, [] => .error .usage
  | some f, g, word :: rest =>
      if !f.hyphens && word != "-" && Text.Search.startsWith word "-" then .error .usage
      else do
        let g ← g.addFlag f word
        read form commands none g rest
  | none, g, word :: rest =>
      if commands.contains word then .ok (g, some (word, rest))
      else
        match word.toList with
        | ['-', '-'] => do
            let g ← form.addWords g rest
            pure (g, none)
        | '-' :: '-' :: text => do
            let (g, awaited) ← form.addLong g text
            read form commands awaited g rest
        | '-' :: c :: text => do
            let (g, awaited) ← form.addLetters g (c :: text)
            read form commands awaited g rest
        | _ => do
            let g ← form.addWords g [word]
            read form commands none g rest

end Form

end SqlDialects.CommandLine
