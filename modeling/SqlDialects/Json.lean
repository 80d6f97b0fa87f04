import SqlDialects.Dictionary

namespace SqlDialects

/-- A JSON value. A number is `mantissa / 10 ^ places`. -/
inductive Json where
  | null
  | bool (b : Bool)
  | number (mantissa : Int) (places : Nat)
  | string (s : String)
  | array (items : List Json)
  | object (members : List (String × Json))

namespace Json

def int (n : Int) : Json :=
  .number n 0

def nat (n : Nat) : Json :=
  .number n 0

/-- A string, or null. -/
def stringOrNull : Option String → Json
  | some s => .string s
  | none => .null

def strings (items : List String) : Json :=
  .array (items.map .string)

def ofDictionary (d : Dictionary) : Json :=
  .object (d.entries.map fun (key, value) => (key, .string value))

/-- A member that stands in an object only if it has a value. -/
def optional (name : String) (value : Option Json) : List (String × Json) :=
  match value with
  | some value => [(name, value)]
  | none => []

/-- The fields of a record, by name. Members of other names do not matter, but an array must not
be longer than the list of the names. -/
def fields? (names : List String) : Json → Option (String → Option Json)
  | .object members => some fun name => members.lookup name
  | .array items =>
      if items.length ≤ names.length then some fun name => (names.zip items).lookup name
      else none
  | _ => none

def string? : Json → Option String
  | .string s => some s
  | _ => none

def bool? : Json → Option Bool
  | .bool b => some b
  | _ => none

def members? : List (String × Json) → Option (List (String × String))
  | [] => some []
  | (name, value) :: rest => do
      let s ← value.string?
      let others ← members? rest
      pure ((name, s) :: others)

/-- The dictionary of an object whose members are strings. -/
def dictionary? : Json → Option Dictionary
  | .object members => (members? members).map Dictionary.ofList
  | _ => none

/-- Reads a field that may be missing. -/
def field? {α : Type} (field : Option Json) (missing : α) (read : Json → Option α) : Option α :=
  match field with
  | none => some missing
  | some value => read value

/-- Reads a value that may be null. -/
def nullable {α : Type} (read : Json → Option α) : Json → Option (Option α)
  | .null => some none
  | value => (read value).map some

end Json

end SqlDialects
