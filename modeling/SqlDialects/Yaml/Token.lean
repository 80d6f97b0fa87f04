import SqlDialects.Yaml.Scalar
import SqlDialects.Yaml.Tag

/-!
The tokens of a YAML text. Those that begin and end collections of indented lines are not written
anywhere: the columns of the others show where they belong.
-/

namespace SqlDialects.Yaml

inductive Token where
  | directive (d : Directive)
  | documentStart
  | documentEnd
  /-- A sequence of indented items begins. -/
  | itemsStart
  /-- A mapping of indented entries begins. -/
  | entriesStart
  /-- The innermost collection of indented lines ends. -/
  | blockEnd
  | bracketOpen
  | bracketClose
  | braceOpen
  | braceClose
  | comma
  /-- An item of a sequence follows. -/
  | item
  /-- The key of an entry follows. -/
  | key
  /-- The value of an entry follows. -/
  | value
  /-- The node of an anchor is meant. -/
  | reference (name : String)
  | anchor (name : String)
  | tag (t : TagToken)
  | scalar (style : ScalarStyle) (text : String)
deriving DecidableEq, Repr

end SqlDialects.Yaml
