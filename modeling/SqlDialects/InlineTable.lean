import SqlDialects.Error

namespace SqlDialects

/-- Column names, column types and rows of values; a value that is not there is NULL. Whether the
parts fit together is asked when SQL is written. -/
structure InlineTable where
  columns : List String
  types : List LogicalType
  rows : List (List (Option String))
  orderBy : Option String
deriving DecidableEq

/-- The runs of `size + 1` elements of a list, of which the last may be shorter. -/
def runsOf {α : Type} (size : Nat) (elements : List α) : List (List α) :=
  match elements with
  | [] => []
  | e :: rest => (e :: rest.take size) :: runsOf size (rest.drop size)
termination_by elements.length
decreasing_by
  simp only [List.length_cons, List.length_drop]
  omega

namespace InlineTable

def empty : InlineTable :=
  ⟨[], [], [], none⟩

def ofColumns (columns : List String) (types : List LogicalType) : InlineTable :=
  ⟨columns, types, [], none⟩

def push (t : InlineTable) (row : List (Option String)) : InlineTable :=
  { t with rows := t.rows ++ [row] }

def orderedBy (t : InlineTable) (column : String) : InlineTable :=
  { t with orderBy := some column }

/-- The first row whose length is not the given one, with its index counted from `start`. -/
def unevenRow? (width : Nat) : (start : Nat) → List (List (Option String)) → Option (Nat × Nat)
  | _, [] => none
  | start, row :: rows =>
      if row.length = width then unevenRow? width (start + 1) rows
      else some (start, row.length)

/-- Refuses a table whose names, types and rows do not fit together. -/
def validate (t : InlineTable) : Except Error Unit :=
  if t.columns.isEmpty then .error (.schema .noColumns)
  else if t.columns.length ≠ t.types.length then
    .error (.schema (.typeCount t.columns.length t.types.length))
  else match unevenRow? t.columns.length 0 t.rows with
    | some (row, found) => .error (.schema (.rowLength row found t.columns.length))
    | none => .ok ()

/-- The position of the column by which the table is ordered. -/
def orderPosition (t : InlineTable) : Except Error (Option Nat) :=
  match t.orderBy with
  | none => .ok none
  | some name =>
      match t.columns.idxOf? name with
      | some i => .ok (some i)
      | none => .error (.schema (.unknownOrderColumn name))

/-- The table in parts of at most `max` rows, in order. A table that fits into one part, and any
table if `max` is zero, stays whole. -/
def chunks (t : InlineTable) : (max : Nat) → List InlineTable
  | 0 => [t]
  | max + 1 =>
      if t.rows.length ≤ max + 1 then [t]
      else (runsOf max t.rows).map fun rows => { t with rows }

/-- The values of a column that are not NULL, from the first row to the last. -/
def valuesAt (t : InlineTable) (index : Nat) : List String :=
  t.rows.filterMap fun row => (row[index]?).join

end InlineTable

end SqlDialects
