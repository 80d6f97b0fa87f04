import SqlDialects.Literal

namespace SqlDialects

/-- What resolving a connection gives. -/
structure Dialect where
  tag : String
  identity : Identity
  /-- The tag of the engine whose driver the connection uses, if that is another one. -/
  impersonatedVia : Option String
  composition : Composition

namespace Dialect

/-- The names of the overlays, root first. -/
def chain (d : Dialect) : List String :=
  d.composition.chain

def has (d : Dialect) (c : Capability) : Bool :=
  d.composition.has c

def quoteIdentifier (d : Dialect) (name : String) : String :=
  d.composition.quoteStyle.value.quote name

/-- Quotes the parts of a qualified name and puts points between them; empty parts are left out. -/
def quoteQualified (d : Dialect) (parts : List String) : String :=
  ".".intercalate ((parts.filter fun part => !part.isEmpty).map d.quoteIdentifier)

/-- Writes a value as a literal of a type. -/
def literal (d : Dialect) (value : String) (type : LogicalType) : Except Error String :=
  Literal.write d.composition value type

/-- What a type is cast to, with places for the sizes of a column. -/
def castTemplate (d : Dialect) (type : LogicalType) : String :=
  (d.composition.castType type).value

/-- What a NULL is cast to in a column with the given target. -/
def nullCastTarget (d : Dialect) (target : String) : String :=
  match d.composition.nullCast.value with
  | some wrapper => Text.Search.replace wrapper "\x7btype\x7d" target
  | none => target

/-- A query as a derived table. It has an alias if one is given or needed. -/
def fromQuery (d : Dialect) (sql : String) (alias? : Option String) : String :=
  let alias? := alias?.or (if d.has .requiresAliasForFromQuery then some "t" else none)
  match alias? with
  | some name =>
      "(" ++ sql ++ (if d.has .allowsAs then ") AS " else ") ") ++ d.quoteIdentifier name
  | none => "(" ++ sql ++ ")"

def direction (ascending : Bool) : String :=
  if ascending then "ASC" else "DESC"

/-- An item of ORDER BY. Where the engine has no words for the place of NULLs, a first key moves
them there; it rises if they come last, whatever the direction of the expression. -/
def orderItem (d : Dialect) (expr : String) (nullable ascending nullsLast : Bool) : String :=
  let plain := expr ++ " " ++ direction ascending
  if nullable then
    match d.composition.nullsOrdering.value with
    | .standard => plain ++ " NULLS " ++ (if nullsLast then "LAST" else "FIRST")
    | .isNullFunction => "ISNULL(" ++ expr ++ ") " ++ direction nullsLast ++ ", " ++ plain
    | .caseExpression =>
        "CASE WHEN " ++ expr ++ " IS NULL THEN 1 ELSE 0 END " ++ direction nullsLast ++ ", " ++
          plain
  else plain

def classify (d : Dialect) (columns : List Column) (index : Nat) : Except Error LogicalType :=
  Column.classify d.composition.typeRules columns index

end Dialect

end SqlDialects
