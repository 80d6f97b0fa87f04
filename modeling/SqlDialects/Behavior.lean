import SqlDialects.LogicalType

namespace SqlDialects

inductive QuoteStyle where
  /-- Double quotes, as in the standard. -/
  | doubleQuote
  /-- Backticks. -/
  | backtick
  /-- Square brackets. -/
  | bracket
deriving DecidableEq, Repr

/-- The way string literals are written. -/
structure StringStyle where
  /-- What stands before the opening quote, such as `N`. -/
  lead : String
  /-- Whether a backslash escapes, and so has to be doubled. -/
  escapesBackslash : Bool
deriving DecidableEq, Repr

/-- String literals as in the standard. -/
def StringStyle.standard : StringStyle :=
  ⟨"", false⟩

inductive BooleanStyle where
  /-- `TRUE` and `FALSE`. -/
  | keyword
  /-- `1` and `0`. -/
  | numeric
deriving DecidableEq, Repr

inductive TemporalStyle where
  /-- With the type in front: `DATE '2024-01-31'`. -/
  | typed
  /-- As a string: `'2024-01-31'`. -/
  | quoted
deriving DecidableEq, Repr

inductive NullsOrdering where
  /-- `e ASC NULLS LAST`. -/
  | standard
  /-- `ISNULL(e) ASC, e ASC`. -/
  | isNullFunction
  /-- `CASE WHEN e IS NULL THEN 1 ELSE 0 END ASC, e ASC`. -/
  | caseExpression
deriving DecidableEq, Repr

/-- One way of writing that an overlay may decide. -/
inductive Behavior where
  | quoteStyle
  | dummyTable
  | stringLiteral
  | booleanLiteral
  | temporalLiteral
  | temporalLiteralFor (type : LogicalType)
  | nullCast
  | nullsOrdering
  | maxValueList
  | castType (type : LogicalType)
deriving DecidableEq, Repr

namespace Behavior

def name : Behavior → String
  | quoteStyle => "quote_style"
  | dummyTable => "dummy_table"
  | stringLiteral => "string_literal"
  | booleanLiteral => "boolean_literal"
  | temporalLiteral => "temporal_literal"
  | temporalLiteralFor t => "temporal_literal[" ++ t.name ++ "]"
  | nullCast => "null_cast"
  | nullsOrdering => "nulls_ordering"
  | maxValueList => "max_value_list"
  | castType t => "cast_type[" ++ t.name ++ "]"

def all : List Behavior :=
  [quoteStyle, dummyTable, stringLiteral, booleanLiteral, temporalLiteral] ++
    LogicalType.all.map temporalLiteralFor ++ [nullCast, nullsOrdering, maxValueList] ++
    LogicalType.all.map castType

def ofName? (s : String) : Option Behavior :=
  all.find? (·.name == s)

end Behavior

end SqlDialects
