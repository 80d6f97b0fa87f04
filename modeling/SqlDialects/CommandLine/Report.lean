import SqlDialects.Dialect.Summary
import SqlDialects.Json.Text
import SqlDialects.Registry
import SqlDialects.Resolution

namespace SqlDialects.CommandLine

def padded (width : Nat) (text : String) : String :=
  text ++ String.ofList (List.replicate (width - text.length) ' ')

/-- Lines, each with its end. -/
def lines (items : List String) : String :=
  String.join (items.map (· ++ "\n"))

def dialectLines (d : Dialect) : List String :=
  ["dialect: " ++ d.tag] ++
    (if d.identity.productName.isEmpty then []
      else ["product: " ++ d.identity.productName ++ " " ++ d.identity.productVersion]) ++
    (d.impersonatedVia.map ("impersonated via: " ++ ·)).toList ++
    ["chain: " ++ " -> ".intercalate d.chain]

def capabilityLine (d : Dialect) (c : Capability) : String :=
  let flag := d.composition.flag c
  "  " ++ padded 36 c.name ++ " " ++ padded 5 (if flag.value then "true" else "false") ++
    " (" ++ flag.origin ++ ")"

def recognizerLine (r : Recognizer) : String :=
  padded 12 r.tag ++ " " ++ ", ".intercalate (r.patterns.map (·.display)) ++
    (if r.guard.isSome then " (guarded)" else "")

/-- A recogniser as a record, with the chain of its dialect. -/
def recognizerJson (registry : Registry) (r : Recognizer) : Json :=
  let chain :=
    match registry.dialect? r.tag .unknown with
    | some d => d.chain
    | none => []
  .object [("tag", .string r.tag), ("chain", .strings chain),
    ("patterns", .strings (r.patterns.map (·.display))), ("guarded", .bool r.guard.isSome)]

end SqlDialects.CommandLine
