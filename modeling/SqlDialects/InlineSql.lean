import SqlDialects.Dialect
import SqlDialects.InlineTable

/-!
Inline tables as SQL. Every value is cast to the target of its column, so that all rows agree on
the types whatever the engine would make of a bare literal. Where the engine has row
constructors they are used, and otherwise a union of SELECTs; a table without rows is a query
that keeps its columns and returns nothing.
-/

namespace SqlDialects

/-- What the cast target of a column has to hold. -/
structure ColumnSize where
  length : Nat
  wholeDigits : Nat
  fractionDigits : Nat
deriving DecidableEq, Repr

namespace ColumnSize

/-- The size of a column without values. -/
def least : ColumnSize :=
  ⟨1, 0, 0⟩

def widen (type : LogicalType) (size : ColumnSize) (value : String) : ColumnSize :=
  let length := max size.length value.length
  if type.isNumeric then
    let (whole, fraction) := Numeral.digitCounts (Text.trimChars value.toList)
    ⟨length, max size.wholeDigits whole, max size.fractionDigits fraction⟩
  else { size with length }

def ofValues (type : LogicalType) (values : List String) : ColumnSize :=
  values.foldl (widen type) least

/-- The number of digits in all; there is at least one. -/
def precision (size : ColumnSize) : Nat :=
  max (size.wholeDigits + size.fractionDigits) 1

def fill (size : ColumnSize) (template : String) : String :=
  let sized := Text.Search.replace template "\x7blen\x7d" size.length.repr
  let sized := Text.Search.replace sized "\x7bprecision\x7d" size.precision.repr
  Text.Search.replace sized "\x7bscale\x7d" size.fractionDigits.repr

end ColumnSize

namespace Dialect

def inlineAlias : String :=
  "t"

/-- The cast targets of the columns, sized by their values. -/
def castTargets (d : Dialect) (t : InlineTable) : List String :=
  t.types.mapIdx fun i type =>
    (ColumnSize.ofValues type (t.valuesAt i)).fill (d.castTemplate type)

def nullCast (d : Dialect) (target : String) : String :=
  "CAST(NULL AS " ++ d.nullCastTarget target ++ ")"

def castValue (d : Dialect) (value : Option String) (type : LogicalType) (target : String) :
    Except Error String :=
  match value with
  | some v => (d.literal v type).map fun literal => "CAST(" ++ literal ++ " AS " ++ target ++ ")"
  | none => .ok (d.nullCast target)

/-- The values of a row, each cast to the target of its column. -/
def castRow (d : Dialect) :
    List (Option String) → List LogicalType → List String → Except Error (List String)
  | value :: row, type :: types, target :: targets => do
      let cast ← d.castValue value type target
      let casts ← castRow d row types targets
      pure (cast :: casts)
  | _, _, _ => .ok []

/-- The rows of a table, each cast in turn. -/
def castRows (d : Dialect) (types : List LogicalType) (targets : List String) :
    List (List (Option String)) → Except Error (List (List String))
  | [] => .ok []
  | row :: rows => do
      let casts ← d.castRow row types targets
      let more ← castRows d types targets rows
      pure (casts :: more)

/-- The FROM clause of a SELECT that needs no table. -/
def dummyFrom (d : Dialect) : String :=
  match d.composition.dummyTable.value with
  | some table => " FROM " ++ table
  | none => ""

def listed (items : List String) : String :=
  ", ".intercalate items

def orderBy (key : String) : String :=
  " ORDER BY " ++ key

def orderByName (d : Dialect) (t : InlineTable) (order : Option Nat) : String :=
  match order.bind (t.columns[·]?) with
  | some column => orderBy (d.quoteIdentifier column)
  | none => ""

/-- The expressions of a row with the names of the columns. -/
def named (d : Dialect) (columns : List String) (casts : List String) : List String :=
  List.zipWith (fun cast column => cast ++ " AS " ++ d.quoteIdentifier column) casts columns

def valuesForm (d : Dialect) (t : InlineTable) (rows : List (List String))
    (order : Option Nat) : String :=
  let body := "VALUES " ++ listed (rows.map fun row => "(" ++ listed row ++ ")")
  "SELECT * FROM " ++ d.fromQuery body (some inlineAlias) ++
    " (" ++ listed (t.columns.map d.quoteIdentifier) ++ ")" ++ d.orderByName t order

/-- The rows as a union of SELECTs, of which the first names the columns. -/
def unionForm (d : Dialect) (t : InlineTable) (rows : List (List String))
    (order : Option Nat) : String :=
  let select (items : List String) := "SELECT " ++ listed items ++ d.dummyFrom
  let selects :=
    match rows with
    | [] => []
    | first :: others => select (d.named t.columns first) :: others.map select
  " UNION ALL ".intercalate selects ++
    if d.has .requiresUnionOrderByOrdinal then
      match order with
      | some i => orderBy (i + 1).repr
      | none => ""
    else d.orderByName t order

def emptyForm (d : Dialect) (t : InlineTable) (targets : List String)
    (order : Option Nat) : String :=
  let inner := "SELECT " ++ listed (d.named t.columns (targets.map d.nullCast)) ++ d.dummyFrom
  (if d.has .allowsFromQuery then
      "SELECT * FROM " ++ d.fromQuery inner (some inlineAlias)
    else inner) ++
    " WHERE 1 = 0" ++ d.orderByName t order

def inlineSql (d : Dialect) (t : InlineTable) : Except Error String := do
  t.validate
  let order ← t.orderPosition
  let targets := d.castTargets t
  if t.rows.isEmpty then
    pure (d.emptyForm t targets order)
  else
    let rows ← d.castRows t.types targets t.rows
    if d.has .supportsValuesList && d.has .allowsFromQuery then
      pure (d.valuesForm t rows order)
    else
      pure (d.unionForm t rows order)

end Dialect

end SqlDialects
