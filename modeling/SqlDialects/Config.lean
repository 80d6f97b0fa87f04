import SqlDialects.Identity
import SqlDialects.Probe

namespace SqlDialects

/-- What the connection reports, and what has been asked of its server beforehand. -/
structure ConnectionConfig where
  productName : String
  productVersion : String
  banner : Option String
  serverVariables : Dictionary
deriving DecidableEq

/-- Canned answers under the names of their queries, or the reason why asking fails. -/
structure ProbeConfig where
  responses : Dictionary
  failure : Option String
deriving DecidableEq

/-- A tag to use whatever the connection reports, and whether rules may show another engine. -/
structure ResolverConfig where
  forcedDialect : Option String
  refines : Bool
deriving DecidableEq

structure Config where
  connection : ConnectionConfig
  probe : ProbeConfig
  resolver : ResolverConfig
deriving DecidableEq

/-- A connection of which nothing is said. -/
def ConnectionConfig.default : ConnectionConfig :=
  ⟨"", "", none, .empty⟩

def ProbeConfig.default : ProbeConfig :=
  ⟨.empty, none⟩

/-- No tag, and rules are used. -/
def ResolverConfig.default : ResolverConfig :=
  ⟨none, true⟩

/-- The configuration that says nothing. -/
def Config.default : Config :=
  ⟨.default, .default, .default⟩

/-- The identity that a connection reports. Variables are recorded under their lower-case names;
where two names become one, the one that comes later in order wins. -/
def ConnectionConfig.identity (c : ConnectionConfig) : Identity :=
  let product := Identity.ofProduct c.productName c.productVersion
  if c.banner.isNone && c.serverVariables.isEmpty then product
  else
    let named := c.serverVariables.entries.map fun (name, value) =>
      (Text.LetterCase.lower name, value)
    product.withSnapshot ⟨c.banner, .ofList named⟩

namespace ProbeConfig

/-- Adds answers under the names of their queries to a recording. -/
def respondAll : List (String × String) → Recording → Except Error Recording
  | [], r => .ok r
  | (name, answer) :: rest, r => do
      let q ← Query.read name
      respondAll rest (r.respond q answer)

/-- The recording that stands in for the server. -/
def recording (p : ProbeConfig) : Except Error Recording :=
  respondAll p.responses.entries ⟨[], p.failure⟩

end ProbeConfig

namespace Config

/-- Refuses a forced dialect that cannot be a tag, and a missing product name where no dialect is
forced. -/
def checkTarget (c : Config) : Except Error Unit :=
  match c.resolver.forcedDialect with
  | some tag =>
      if Text.isAllBlank tag then .error (.config .emptyForcedDialect)
      else if tag.toList.any Text.LetterCase.isUpper || tag != Text.trim tag then
        .error (.config (.forcedDialectNoTag tag))
      else .ok ()
  | none =>
      if Text.isAllBlank c.connection.productName then .error (.config .missingProductName)
      else .ok ()

/-- Refuses the first name that is not the name of a query. -/
def checkNames : List (String × String) → Except Error Unit
  | [] => .ok ()
  | (name, _) :: rest =>
      match Query.read name with
      | .ok _ => checkNames rest
      | .error _ => .error (.config (.responseKey name))

/-- Refuses a configuration that cannot be used. -/
def validate (c : Config) : Except Error Unit := do
  c.checkTarget
  checkNames c.probe.responses.entries
  if c.connection.serverVariables.entries.any fun (name, _) => Text.isAllBlank name then
    .error (.config .emptyVariableName)
  else .ok ()

end Config

end SqlDialects
