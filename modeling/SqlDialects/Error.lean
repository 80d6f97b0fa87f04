import SqlDialects.Behavior
import SqlDialects.Capability
import SqlDialects.Text.Display

namespace SqlDialects

/-- Why a chain of overlays does not describe an engine. -/
inductive CompositionFault where
  /-- No overlay of the chain says whether the capability is there. -/
  | undefinedFlag (capability : Capability)
  | undefinedBehavior (behavior : Behavior)
  /-- The first capability is set, and the second, which it needs, is not. -/
  | brokenImplication (set unset : Capability)
deriving DecidableEq

/-- Why a definition or a recogniser is not fit for a registry. -/
inductive DefinitionFault where
  | nonCanonicalTag
  | duplicateDefinition
  | sharedThreshold
  | cycle (through : String)
  | unknownBase (base : String)
  | composition (fault : CompositionFault)
  | unregisteredTarget (target : String)
  | duplicateRecognizer
  | noPatterns
  | noDefinition
  | other (text : String)
deriving DecidableEq

/-- Why an inline table, or the type of one of its columns, is refused. -/
inductive SchemaFault where
  | noColumns
  | typeCount (names types : Nat)
  | rowLength (row found expected : Nat)
  | unknownOrderColumn (name : String)
  | unknownLogicalType (word : String)
  | other (text : String)
deriving DecidableEq

/-- Why a name or a configuration is refused. -/
inductive ConfigFault where
  | unknownCapability (text : String)
  | unknownQuery (text : String)
  | unknownTypeCode (word : String)
  | emptyForcedDialect
  | forcedDialectNoTag (text : String)
  | missingProductName
  | responseKey (key : String)
  | emptyVariableName
  | other (text : String)
deriving DecidableEq

inductive Error where
  /-- No recogniser accepts the product, or no definition has the asked tag. -/
  | unsupported (product version : String)
  | connection (text : String)
  /-- A table does not fit together. -/
  | schema (fault : SchemaFault)
  | definition (tag : String) (fault : DefinitionFault)
  /-- A value is no literal of the type. -/
  | literal (value type : String)
  /-- A column was asked for that is not there. -/
  | columnIndex (index count : Nat)
  /-- A name or a configuration is refused. -/
  | config (fault : ConfigFault)
  /-- A file could not be read. -/
  | io (text : String)
  /-- A text is not the YAML that was expected. -/
  | yaml
  /-- A value is not the JSON that was expected. -/
  | json
deriving DecidableEq

def CompositionFault.message : CompositionFault → String
  | undefinedFlag c => "no overlay in the chain defines flag " ++ c.name
  | undefinedBehavior b => "no overlay in the chain defines " ++ b.name
  | brokenImplication set unset => set.name ++ " is set but " ++ unset.name ++ " is not"

def DefinitionFault.message : DefinitionFault → String
  | nonCanonicalTag => "tags must be non-empty, lowercase and unpadded"
  | duplicateDefinition => "duplicate descriptor tag"
  | sharedThreshold => "two version gates share a threshold"
  | cycle tag => "inheritance cycle through '" ++ tag ++ "'"
  | unknownBase tag => "unknown base dialect '" ++ tag ++ "'"
  | composition fault => fault.message
  | unregisteredTarget tag => "impersonation rule names unregistered dialect '" ++ tag ++ "'"
  | duplicateRecognizer => "duplicate factory entry"
  | noPatterns => "factory entry has no product patterns"
  | noDefinition => "factory entry has no descriptor spec"
  | other text => text

def SchemaFault.message : SchemaFault → String
  | noColumns => "inline table has no columns"
  | typeCount names types =>
      names.repr ++ " column names but " ++ types.repr ++ " column types"
  | rowLength row found expected =>
      "row " ++ row.repr ++ " has " ++ found.repr ++ " values, expected " ++ expected.repr
  | unknownOrderColumn name =>
      "order-by column '" ++ name ++ "' is not one of the inline columns"
  | unknownLogicalType word => "unknown logical type '" ++ word ++ "'"
  | other text => text

def ConfigFault.message : ConfigFault → String
  | unknownCapability text => "unknown capability '" ++ text ++ "'"
  | unknownQuery text =>
      "unknown probe '" ++ text ++ "' (expected 'version_banner' or 'variable:<name>')"
  | unknownTypeCode word => "unknown SQL type code '" ++ word ++ "'"
  | emptyForcedDialect => "resolver.force_dialect must not be empty"
  | forcedDialectNoTag text =>
      "resolver.force_dialect must be a lowercase dialect tag, got '" ++ text ++ "'"
  | missingProductName =>
      "connection.product_name is required unless resolver.force_dialect is set"
  | responseKey key =>
      "probe.responses key '" ++ key ++ "' must be 'version_banner' or 'variable:<name>'"
  | emptyVariableName => "connection.variables names must not be empty"
  | other text => text

namespace Error

def message : Error → String
  | unsupported product version =>
      "Unsupported dialect: no registered dialect matches product '" ++ product ++
        "' (version '" ++ version ++ "')"
  | connection text => "Connection error: " ++ text
  | schema fault => "Schema mismatch: " ++ fault.message
  | definition tag fault =>
      "Capability validation failed for '" ++ tag ++ "': " ++ fault.message
  | literal value type => "Invalid " ++ type ++ " literal: " ++ Text.Display.quoted value
  | columnIndex index count =>
      "Column index " ++ index.repr ++ " out of range (result has " ++ count.repr ++ " columns)"
  | config fault => "Configuration error: " ++ fault.message
  | io text => "IO error: " ++ text
  | yaml => "YAML error"
  | json => "JSON error"

/-- The exit code of a program that ends with the error. -/
def exitCode : Error → Nat
  | config _ | yaml | json => 1
  | unsupported .. => 2
  | connection _ => 3
  | schema _ | literal .. | columnIndex .. => 4
  | definition .. => 5
  | io _ => 7

/-- The wording of what caused an error from outside. -/
def causes : Error → List String
  | io text => [text]
  | _ => []

/-- The report of an error: its wording, and below it each cause with its depth. -/
def report (e : Error) : String :=
  "Error: " ++ e.message ++ "\n" ++
    String.join (e.causes.mapIdx fun i cause =>
      "\nCaused by:\n  " ++ (i + 1).repr ++ ": " ++ cause)

end Error

end SqlDialects
