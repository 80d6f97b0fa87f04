namespace SqlDialects

inductive LogicalType where
  /-- Character data. -/
  | string
  /-- Exact decimals with a fraction, or of unknown scale. -/
  | numeric
  /-- Integers of 32 bits. -/
  | integer
  /-- Integers of 64 bits. -/
  | long
  /-- Approximate numbers. -/
  | double
  /-- True or false. -/
  | boolean
  /-- Days of the calendar. -/
  | date
  /-- Times of day. -/
  | time
  /-- Days with a time. -/
  | timestamp
  /-- Values of which nothing is assumed. -/
  | object
deriving DecidableEq, Repr

namespace LogicalType

/-- All logical types, in the order in which they are listed and checked. -/
def all : List LogicalType :=
  [.string, .numeric, .integer, .long, .double, .boolean, .date, .time, .timestamp, .object]

theorem mem_all (t : LogicalType) : t ∈ all := by
  cases t <;> decide

def name : LogicalType → String
  | string => "STRING"
  | numeric => "NUMERIC"
  | integer => "INTEGER"
  | long => "LONG"
  | double => "DOUBLE"
  | boolean => "BOOLEAN"
  | date => "DATE"
  | time => "TIME"
  | timestamp => "TIMESTAMP"
  | object => "OBJECT"

/-- Whether values of the type are written as bare numerals. -/
def isNumeric : LogicalType → Bool
  | numeric | integer | long | double => true
  | _ => false

/-- The logical type that an upper-case word stands for: a name, or a common alias of one. -/
def ofWord? : String → Option LogicalType
  | "STRING" | "VARCHAR" | "TEXT" | "CHAR" => some string
  | "NUMERIC" | "DECIMAL" => some numeric
  | "INTEGER" | "INT" => some integer
  | "LONG" | "BIGINT" => some long
  | "DOUBLE" | "FLOAT" | "REAL" => some double
  | "BOOLEAN" | "BOOL" => some boolean
  | "DATE" => some date
  | "TIME" => some time
  | "TIMESTAMP" | "DATETIME" => some timestamp
  | "OBJECT" => some object
  | _ => none

end LogicalType

end SqlDialects
