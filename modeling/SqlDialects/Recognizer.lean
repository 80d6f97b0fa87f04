import SqlDialects.Identity
import SqlDialects.Text.Display

namespace SqlDialects

inductive Comparison where
  | equals
  | startsWith
  | contains
deriving DecidableEq, Repr

/-- A test of a product name. Letter case and white space around the name do not matter. -/
structure Pattern where
  comparison : Comparison
  text : String
deriving DecidableEq, Repr

namespace Pattern

def accepts (p : Pattern) (productName : String) : Bool :=
  let name := Text.LetterCase.lowerChars (Text.trimChars productName.toList)
  let text := Text.LetterCase.lowerChars p.text.toList
  match p.comparison with
  | .equals => name == text
  | .startsWith => text.isPrefixOf name
  | .contains => Text.Search.occursIn text name

def display (p : Pattern) : String :=
  let sign :=
    match p.comparison with
    | .equals => "= "
    | .startsWith => "^ "
    | .contains => "~ "
  sign ++ Text.Display.quoted p.text

end Pattern

/-- Accepts the connections of a dialect. -/
structure Recognizer where
  tag : String
  patterns : List Pattern
  /-- A further test that an identity has to pass. -/
  guard : Option (Identity → Bool)

namespace Recognizer

/-- Accepts by patterns alone. -/
def ofPatterns (tag : String) (patterns : List (Comparison × String)) : Recognizer :=
  ⟨tag, patterns.map fun (comparison, text) => ⟨comparison, text⟩, none⟩

def guarded (r : Recognizer) (guard : Identity → Bool) : Recognizer :=
  { r with guard := some guard }

/-- Whether an identity is accepted: one of the patterns does, and so does the further test. -/
def accepts (r : Recognizer) (identity : Identity) : Bool :=
  r.patterns.any (·.accepts identity.productName) && r.guard.all (· identity)

end Recognizer

end SqlDialects
