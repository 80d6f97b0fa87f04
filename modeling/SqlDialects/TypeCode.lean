namespace SqlDialects

inductive TypeCode where
  | bit
  | tinyInt
  | smallInt
  | integer
  | bigInt
  | float
  | real
  | double
  | numeric
  | decimal
  | char
  | varchar
  | longVarchar
  | nChar
  | nVarchar
  | longNVarchar
  | clob
  | nClob
  | date
  | time
  | timestamp
  | timeWithTimezone
  | timestampWithTimezone
  | binary
  | varbinary
  | longVarbinary
  | blob
  | boolean
  | null
  | array
  | struct
  | sqlXml
  /-- A code of no common meaning. -/
  | other (code : Int)
deriving DecidableEq, Repr

namespace TypeCode

/-- The codes that have a meaning: the type, its number, its word and its label. -/
def known : List (TypeCode × Int × String × String) :=
  [(bit, -7, "BIT", "Bit"),
    (tinyInt, -6, "TINYINT", "TinyInt"),
    (smallInt, 5, "SMALLINT", "SmallInt"),
    (integer, 4, "INTEGER", "Integer"),
    (bigInt, -5, "BIGINT", "BigInt"),
    (float, 6, "FLOAT", "Float"),
    (real, 7, "REAL", "Real"),
    (double, 8, "DOUBLE", "Double"),
    (numeric, 2, "NUMERIC", "Numeric"),
    (decimal, 3, "DECIMAL", "Decimal"),
    (char, 1, "CHAR", "Char"),
    (varchar, 12, "VARCHAR", "Varchar"),
    (longVarchar, -1, "LONGVARCHAR", "LongVarchar"),
    (nChar, -15, "NCHAR", "NChar"),
    (nVarchar, -9, "NVARCHAR", "NVarchar"),
    (longNVarchar, -16, "LONGNVARCHAR", "LongNVarchar"),
    (clob, 2005, "CLOB", "Clob"),
    (nClob, 2011, "NCLOB", "NClob"),
    (date, 91, "DATE", "Date"),
    (time, 92, "TIME", "Time"),
    (timestamp, 93, "TIMESTAMP", "Timestamp"),
    (timeWithTimezone, 2013, "TIME_WITH_TIMEZONE", "TimeWithTimezone"),
    (timestampWithTimezone, 2014, "TIMESTAMP_WITH_TIMEZONE", "TimestampWithTimezone"),
    (binary, -2, "BINARY", "Binary"),
    (varbinary, -3, "VARBINARY", "Varbinary"),
    (longVarbinary, -4, "LONGVARBINARY", "LongVarbinary"),
    (blob, 2004, "BLOB", "Blob"),
    (boolean, 16, "BOOLEAN", "Boolean"),
    (null, 0, "NULL", "Null"),
    (array, 2003, "ARRAY", "Array"),
    (struct, 2002, "STRUCT", "Struct"),
    (sqlXml, 2009, "SQLXML", "SqlXml")]

def ofCode (code : Int) : TypeCode :=
  match known.find? (·.2.1 == code) with
  | some (type, _) => type
  | none => other code

def ofWord? (word : String) : Option TypeCode :=
  if word == "INT" then some integer
  else (known.find? (·.2.2.1 == word)).map (·.1)

def code : TypeCode → Int
  | bit => -7
  | tinyInt => -6
  | smallInt => 5
  | integer => 4
  | bigInt => -5
  | float => 6
  | real => 7
  | double => 8
  | numeric => 2
  | decimal => 3
  | char => 1
  | varchar => 12
  | longVarchar => -1
  | nChar => -15
  | nVarchar => -9
  | longNVarchar => -16
  | clob => 2005
  | nClob => 2011
  | date => 91
  | time => 92
  | timestamp => 93
  | timeWithTimezone => 2013
  | timestampWithTimezone => 2014
  | binary => -2
  | varbinary => -3
  | longVarbinary => -4
  | blob => 2004
  | boolean => 16
  | null => 0
  | array => 2003
  | struct => 2002
  | sqlXml => 2009
  | other n => n

def label (type : TypeCode) : String :=
  match known.find? (·.1 == type) with
  | some (_, _, _, label) => label
  | none => "Other(" ++ type.code.repr ++ ")"

end TypeCode

end SqlDialects
