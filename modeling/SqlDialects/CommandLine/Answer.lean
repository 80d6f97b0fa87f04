import SqlDialects.Builtin
import SqlDialects.CommandLine.Files
import SqlDialects.CommandLine.Report
import SqlDialects.CommandLine.Request
import SqlDialects.Config.Resolution
import SqlDialects.Config.Yaml
import SqlDialects.InlineSql
import SqlDialects.Words

/-!
The answers to requests. Steps that can fail stand between steps that print; a request that fails
ends with the report of its error, and the exit code tells which kind of error it was.
-/

namespace SqlDialects.CommandLine

/-- How a run of the program ends: its exit code, what it prints, and what it reports. -/
structure Outcome where
  exitCode : Nat
  output : String
  report : Option String
deriving DecidableEq

/-- Steps that may print and may fail. What has been printed stays printed if a later step fails. -/
abbrev Printing :=
  ExceptT Error (StateM String)

def printLine (line : String) : Printing Unit :=
  modify (· ++ line ++ "\n")

def printLines (items : List String) : Printing Unit :=
  items.forM printLine

/-- Prints a JSON value over several lines. -/
def printJson (j : Json) : Printing Unit :=
  printLine j.pretty

/-- The values of a row, of which the word `NULL` stands for none. -/
def rowOf (text : String) : List (Option String) :=
  (commaParts text).map fun value => if value = "NULL" then none else some value

def readTypes : List String → Except Error (List LogicalType)
  | [] => .ok []
  | word :: rest => do
      let type ← LogicalType.read word
      let types ← readTypes rest
      pure (type :: types)

/-- The dialect of a configuration file, of which the contents are given, or why there are none. -/
def configured (registry : Registry) (contents : Except ReadFailure String) :
    Except Error Dialect := do
  let text ← contents.mapError fun failure => .io failure.message
  let config ← Config.read text
  config.dialect registry

/-- The dialect of a tag, or else that of the configuration. -/
def dialectFor (registry : Registry) (contents : Except ReadFailure String) :
    Option String → Except Error Dialect
  | some tag => registry.resolveTag tag .unknown
  | none => configured registry contents

def inlineAnswer (asJson : Bool) (d : Dialect) (columns types rows : List String)
    (orderBy : Option String) : Printing Unit := do
  let types ← readTypes types
  let sql ← d.inlineSql ⟨columns, types, rows.map rowOf, orderBy⟩
  if asJson then
    printJson (.object
      [("dialect", .string d.tag), ("rows", .nat rows.length), ("sql", .string sql)])
  else printLine sql

/-- The answer to a request for the logical type of a column. -/
def mapTypeAnswer (asJson : Bool) (d : Dialect) (code : String) (precision scale : Int) :
    Printing Unit := do
  let code ← TypeCode.read code
  let type ← d.classify [⟨"value", code, precision, scale⟩] 0
  if asJson then
    printJson (.object
      [("dialect", .string d.tag), ("code", .int code.code), ("precision", .int precision),
        ("scale", .int scale), ("logical", .string type.name)])
  else printLine type.name

def Request.answer (r : Request) (asJson : Bool) (registry : Registry)
    (contents : Except ReadFailure String) : Printing Unit :=
  match r with
  | .resolve => do
      let d ← configured registry contents
      if asJson then printJson d.summary else printLines (dialectLines d)
  | .list =>
      if asJson then printJson (.array (registry.recognizers.map (recognizerJson registry)))
      else printLines (registry.recognizers.map recognizerLine)
  | .capabilities tag version => do
      let d ← registry.resolveTag tag (.ofProduct tag version)
      if asJson then printJson d.summary
      else
        printLines (dialectLines d)
        printLine ""
        printLines (Capability.all.map (capabilityLine d))
  | .inlineTable columns types rows orderBy dialect => do
      let d ← dialectFor registry contents dialect
      inlineAnswer asJson d columns types rows orderBy
  | .mapType code precision scale dialect => do
      let d ← dialectFor registry contents dialect
      mapTypeAnswer asJson d code precision scale

/-- What the program says of itself when asked for its version. -/
def versionText : String :=
  lines ["sql-dialect-resolver 0.3.0"]

def helpText : String :=
  lines ["Resolve SQL dialects and inspect their capabilities", "",
    "Commands: " ++ ", ".intercalate commandNames]

/-- The end of a run that does nothing. -/
def Stop.outcome : Stop → Outcome
  | usage => ⟨2, "", none⟩
  | help => ⟨0, helpText, none⟩
  | version => ⟨0, versionText, none⟩

/-- The end of a run of some steps, with all that they have printed. -/
def Outcome.ofSteps (steps : Printing Unit) : Outcome :=
  match steps.run.run "" with
  | (.ok (), output) => ⟨0, output, none⟩
  | (.error e, output) => ⟨e.exitCode, output, some e.report⟩

/-- Runs the program on the words after its name. `contents` gives what is in the file at a path,
or why it cannot be read. -/
def run {m : Type → Type} [Monad m] (contents : String → m (Except ReadFailure String))
    (words : List String) : m Outcome := do
  match Invocation.read words with
  | .error stop => pure stop.outcome
  | .ok i =>
      let contents ← if i.request.usesConfig then contents i.configPath else pure (.ok "")
      pure (.ofSteps do
        let registry ← Builtin.registry
        i.request.answer i.asJson registry contents)

end SqlDialects.CommandLine
