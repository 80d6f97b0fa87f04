import SqlDialects.Json
import SqlDialects.Text.Display

namespace SqlDialects.Json

/-- The form of a character within a string: controls, quotes and backslashes are escaped. -/
def escape (c : Char) : List Char :=
  if c = '"' then ['\\', '"']
  else if c = '\\' then ['\\', '\\']
  else if c = '\n' then ['\\', 'n']
  else if c = '\r' then ['\\', 'r']
  else if c = '\t' then ['\\', 't']
  else if c = '\x08' then ['\\', 'b']
  else if c = '\x0c' then ['\\', 'f']
  else if c.toNat < 32 then
    ['\\', 'u', '0', '0', Nat.digitChar (c.toNat / 16), Nat.digitChar (c.toNat % 16)]
  else [c]

def quoted (s : String) : String :=
  String.ofList ('"' :: s.toList.flatMap escape ++ ['"'])

/-- The digits of a number that has `places` of them after the point. -/
def numeral (mantissa : Int) (places : Nat) : String :=
  if places = 0 then mantissa.repr
  else
    let scale := Nat.pow 10 places
    let sign := if mantissa < 0 then "-" else ""
    let fraction := (mantissa.natAbs % scale + scale).repr
    sign ++ (mantissa.natAbs / scale).repr ++ "." ++ String.ofList (fraction.toList.drop 1)

/-- Items between brackets, on one line. -/
def bracketed (opening : String) (items : List String) (closing : String) : String :=
  opening ++ ",".intercalate items ++ closing

mutual

/-- A value on one line. -/
def compact : Json → String
  | .null => "null"
  | .bool true => "true"
  | .bool false => "false"
  | .number mantissa places => numeral mantissa places
  | .string s => quoted s
  | .array items => bracketed "[" (compactItems items) "]"
  | .object members => bracketed "\x7b" (compactMembers members) "\x7d"

/-- The items of an array, each on one line. -/
def compactItems : List Json → List String
  | [] => []
  | item :: rest => compact item :: compactItems rest

/-- The members of an object, each on one line. -/
def compactMembers : List (String × Json) → List String
  | [] => []
  | (name, value) :: rest => (quoted name ++ ":" ++ compact value) :: compactMembers rest

end

/-- The beginning of a line at some depth. -/
def lineStart (depth : Nat) : String :=
  "\n" ++ String.ofList (List.replicate (2 * depth) ' ')

/-- Items between brackets, each on a line of its own below the given depth. -/
def stacked (depth : Nat) (opening : String) (items : List String) (closing : String) : String :=
  if items.isEmpty then opening ++ closing
  else
    opening ++ lineStart (depth + 1) ++ ("," ++ lineStart (depth + 1)).intercalate items ++
      lineStart depth ++ closing

mutual

/-- A value over several lines, at some depth. -/
def indented (depth : Nat) : Json → String
  | .null => "null"
  | .bool true => "true"
  | .bool false => "false"
  | .number mantissa places => numeral mantissa places
  | .string s => quoted s
  | .array items => stacked depth "[" (indentedItems (depth + 1) items) "]"
  | .object members => stacked depth "\x7b" (indentedMembers (depth + 1) members) "\x7d"

/-- The items of an array, each over several lines. -/
def indentedItems (depth : Nat) : List Json → List String
  | [] => []
  | item :: rest => indented depth item :: indentedItems depth rest

/-- The members of an object, each over several lines. -/
def indentedMembers (depth : Nat) : List (String × Json) → List String
  | [] => []
  | (name, value) :: rest =>
      (quoted name ++ ": " ++ indented depth value) :: indentedMembers depth rest

end

/-- A value over several lines. -/
def pretty (j : Json) : String :=
  indented 0 j

end SqlDialects.Json
