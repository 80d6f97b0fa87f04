import SqlDialects.Dictionary
import SqlDialects.Yaml.Node

namespace SqlDialects.Yaml

def nullTag : String :=
  "tag:yaml.org,2002:null"

def boolTag : String :=
  "tag:yaml.org,2002:bool"

/-- Whether a text stands for null. -/
def isNullWord (text : String) : Bool :=
  ["null", "Null", "NULL", "~"].contains text

/-- The truth value that a text stands for. -/
def boolOfWord? : String → Option Bool
  | "true" | "True" | "TRUE" => some true
  | "false" | "False" | "FALSE" => some false
  | _ => none

def string? (anchors : Anchors) (node : Node) : Option String := do
  match ← node.target anchors with
  | .scalar _ _ text => pure text
  | _ => none

/-- A string, or nothing. Only a plain scalar can stand for nothing. -/
def nullableString? (anchors : Anchors) (node : Node) : Option (Option String) := do
  match ← node.target anchors with
  | .scalar p .plain text =>
      if p.tag = some nullTag then
        if isNullWord text then pure none else none
      else if p.tag.isNone && (text.isEmpty || isNullWord text) then pure none
      else pure (some text)
  | .scalar _ _ text => pure (some text)
  | _ => none

def bool? (anchors : Anchors) (node : Node) : Option Bool := do
  match ← node.target anchors with
  | .scalar _ .plain text => boolOfWord? text
  | .scalar p .literal text => if p.tag = some boolTag then boolOfWord? text else none
  | _ => none

def named? (anchors : Anchors) : List (Node × Node) → Option (List (String × Node))
  | [] => some []
  | (key, value) :: rest => do
      let name ← string? anchors key
      let others ← named? anchors rest
      pure ((name, value) :: others)

def strings? (anchors : Anchors) : List (Node × Node) → Option (List (String × String))
  | [] => some []
  | (key, value) :: rest => do
      let name ← string? anchors key
      let text ← string? anchors value
      let others ← strings? anchors rest
      pure ((name, text) :: others)

/-- A dictionary; the last entry of a key counts. -/
def dictionary? (anchors : Anchors) (node : Node) : Option Dictionary := do
  match ← node.target anchors with
  | .mapping _ entries => (strings? anchors entries).map Dictionary.ofList
  | .scalar _ .plain "" => pure .empty
  | _ => none

def isRepeated (entries : List (String × Node)) (name : String) : Bool :=
  1 < (entries.filter (·.1 == name)).length

/-- The fields of a record, by name. Entries of other names do not matter. -/
def fields? (anchors : Anchors) (names : List String) (node : Node) :
    Option (String → Option Node) := do
  match ← node.target anchors with
  | .mapping _ entries =>
      let entries ← named? anchors entries
      if names.any (isRepeated entries) then none else pure fun name => entries.lookup name
  | .scalar _ .plain "" => pure fun _ => none
  | _ => none

/-- Reads a field that may be missing. -/
def field? {α : Type} (field : Option Node) (missing : α) (read : Node → Option α) : Option α :=
  match field with
  | none => some missing
  | some node => read node

end SqlDialects.Yaml
