import SqlDialects.Error
import SqlDialects.TypeCode

namespace SqlDialects

/-- A column as a driver describes it; a precision or scale of zero may mean that it is unknown. -/
structure Column where
  name : String
  code : TypeCode
  precision : Int
  scale : Int
deriving DecidableEq, Repr

/-- A rule of a dialect: a code, and a precision or scale where those narrow it, give a class. -/
structure TypeRule where
  code : TypeCode
  precision : Option Int
  scale : Option Int
  logical : LogicalType
deriving DecidableEq, Repr

def TypeRule.forCode (code : TypeCode) (logical : LogicalType) : TypeRule :=
  ⟨code, none, none, logical⟩

/-- A rule for the columns of a code that have just this precision and scale. -/
def TypeRule.forShape (code : TypeCode) (precision scale : Int) (logical : LogicalType) :
    TypeRule :=
  ⟨code, some precision, some scale, logical⟩

def TypeRule.applies (rule : TypeRule) (column : Column) : Bool :=
  rule.code == column.code &&
    rule.precision.all (· == column.precision) && rule.scale.all (· == column.scale)

namespace Column

/-- The class of a column by its shape alone. An exact number without a scale is an integer where
its precision is known and small enough. -/
def defaultType (code : TypeCode) (precision scale : Int) : LogicalType :=
  match code with
  | .char | .varchar | .longVarchar | .nChar | .nVarchar | .longNVarchar | .clob | .nClob =>
      .string
  | .tinyInt | .smallInt | .integer => .integer
  | .bigInt => .long
  | .real | .float | .double => .double
  | .numeric | .decimal =>
      if scale == 0 && 1 ≤ precision && precision ≤ 9 then .integer
      else if scale == 0 && 10 ≤ precision && precision ≤ 18 then .long
      else .numeric
  | .bit | .boolean => .boolean
  | .date => .date
  | .time | .timeWithTimezone => .time
  | .timestamp | .timestampWithTimezone => .timestamp
  | _ => .object

/-- The class of a column: the first rule that applies, or else the default. -/
def logicalType (rules : List TypeRule) (column : Column) : LogicalType :=
  match rules.find? (·.applies column) with
  | some rule => rule.logical
  | none => defaultType column.code column.precision column.scale

def classify (rules : List TypeRule) (columns : List Column) (index : Nat) :
    Except Error LogicalType :=
  match columns[index]? with
  | some column => .ok (column.logicalType rules)
  | none => .error (.columnIndex index columns.length)

/-- What is known of a column that is not there. -/
def absent : Column :=
  ⟨"", .null, 0, 0⟩

end Column

end SqlDialects
