import SqlDialects.Editions
import SqlDialects.Recognizer

/-!
Registries of dialects. A registry is checked once, when it is built: whatever is asked of it
later, its definitions have lines and compositions, and its recognisers and impersonation rules
name dialects that it holds.
-/

namespace SqlDialects

/-- Definitions and recognisers in the order in which they were added. -/
structure Registrations where
  definitions : List Definition
  recognizers : List Recognizer

/-- What has been checked: the definitions with their gates in order, the editions of each, and
the recognisers in the order in which they are tried. -/
structure Registry where
  definitions : List Definition
  editions : List (String × Editions)
  recognizers : List Recognizer

namespace Registrations

/-- No definition and no recogniser. -/
def empty : Registrations :=
  ⟨[], []⟩

def append (a b : Registrations) : Registrations :=
  ⟨a.definitions ++ b.definitions, a.recognizers ++ b.recognizers⟩

/-- Whether a tag is fit to name a dialect: it has no white space at its ends, is not empty, and
has no upper-case letter. -/
def isCanonical (tag : String) : Bool :=
  !tag.isEmpty && tag == Text.trim tag && !tag.toList.any Text.LetterCase.isUpper

/-- Refuses what does not hold, under a tag. -/
def require (tag : String) (fault : DefinitionFault) (holds : Bool) : Except Error Unit :=
  if holds then .ok () else .error (.definition tag fault)

/-- Checks tags and thresholds from the first definition to the last and puts the gates of each
in order. -/
def checkDefinitions (seen : List String) : List Definition → Except Error (List Definition)
  | [] => .ok []
  | d :: rest => do
      require d.tag .nonCanonicalTag (isCanonical d.tag)
      require d.tag .duplicateDefinition (!seen.contains d.tag)
      let gates := Definition.sortGates d.gates
      require d.tag .sharedThreshold (!Definition.sharesThreshold gates)
      let others ← checkDefinitions (d.tag :: seen) rest
      pure ({ d with gates } :: others)

def line (definitions : List Definition) (tag : String) : Except Error (List Definition) :=
  match Definition.line definitions tag with
  | .ok line => .ok line
  | .error (.cycle through) => .error (.definition tag (.cycle through))
  | .error (.unknown base) => .error (.definition tag (.unknownBase base))

/-- The first engine that a rule of some compositions names and that is not defined. -/
def strayTarget? (definitions : List Definition) (compositions : List Composition) :
    Option String :=
  ((compositions.flatMap (·.impersonations)).map (·.detected)).find? fun target =>
    !definitions.any (·.tag == target)

def editionsOf (definitions : List Definition) (d : Definition) : Except Error Editions := do
  let line ← line definitions d.tag
  let editions ← (Editions.compose (line.map (·.overlay)) d.gates).mapError fun fault =>
    .definition d.tag (.composition fault)
  match strayTarget? definitions editions.compositions with
  | some target => .error (.definition d.tag (.unregisteredTarget target))
  | none => pure editions

/-- The editions of some of the definitions, each with its tag. -/
def allEditions (definitions : List Definition) :
    List Definition → Except Error (List (String × Editions))
  | [] => .ok []
  | d :: rest => do
      let editions ← editionsOf definitions d
      let others ← allEditions definitions rest
      pure ((d.tag, editions) :: others)

/-- Checks recognisers from the first to the last. -/
def checkRecognizers (definitions : List Definition) (seen : List String) :
    List Recognizer → Except Error Unit
  | [] => .ok ()
  | r :: rest => do
      require r.tag .nonCanonicalTag (isCanonical r.tag)
      require r.tag .duplicateRecognizer (!seen.contains r.tag)
      require r.tag .noPatterns (!r.patterns.isEmpty)
      require r.tag .noDefinition (definitions.any (·.tag == r.tag))
      checkRecognizers definitions (r.tag :: seen) rest

/-- Checks all registrations and composes the editions. -/
def build (r : Registrations) : Except Error Registry := do
  let definitions ← checkDefinitions [] r.definitions
  let editions ← allEditions definitions definitions
  checkRecognizers definitions [] r.recognizers
  pure ⟨definitions, editions, r.recognizers⟩

end Registrations

namespace Registry

/-- The tags of the recognisers, in the order in which they are tried. -/
def tags (r : Registry) : List String :=
  r.recognizers.map (·.tag)

/-- The tags of the definitions, in the order in which they were added. -/
def definedTags (r : Registry) : List String :=
  r.definitions.map (·.tag)

def definition? (r : Registry) (tag : String) : Option Definition :=
  Definition.find? r.definitions tag

def recognizer? (r : Registry) (tag : String) : Option Recognizer :=
  r.recognizers.find? (·.tag == tag)

def defines (r : Registry) (tag : String) : Bool :=
  r.definitions.any (·.tag == tag)

def accepting (r : Registry) (identity : Identity) : List String :=
  (r.recognizers.filter (·.accepts identity)).map (·.tag)

/-- Strings in brackets, each in its quoted display. -/
def displayList (items : List String) : String :=
  "[" ++ ", ".intercalate (items.map Text.Display.quoted) ++ "]"

def display (r : Registry) : String :=
  "DialectRegistry \x7b specs: " ++ displayList r.definedTags ++
    ", entries: " ++ displayList r.tags ++ " \x7d"

end Registry

end SqlDialects
