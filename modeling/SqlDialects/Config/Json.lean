import SqlDialects.Config
import SqlDialects.Json

namespace SqlDialects

namespace ConnectionConfig

/-- The names of the fields, in order. -/
def fieldNames : List String :=
  ["product_name", "product_version", "version_banner", "variables"]

def toJson (c : ConnectionConfig) : Json :=
  .object (
    [("product_name", .string c.productName), ("product_version", .string c.productVersion)] ++
      Json.optional "version_banner" (c.banner.map .string) ++
      Json.optional "variables"
        (if c.serverVariables.isEmpty then none else some (.ofDictionary c.serverVariables)))

def ofJson? (j : Json) : Option ConnectionConfig := do
  let field ← j.fields? fieldNames
  let name ← Json.field? (field "product_name") "" Json.string?
  let version ← Json.field? (field "product_version") "" Json.string?
  let banner ← Json.field? (field "version_banner") none (Json.nullable Json.string?)
  let serverVariables ← Json.field? (field "variables") .empty Json.dictionary?
  pure ⟨name, version, banner, serverVariables⟩

end ConnectionConfig

namespace ProbeConfig

/-- The names of the fields, in order. -/
def fieldNames : List String :=
  ["responses", "fail_with"]

def toJson (p : ProbeConfig) : Json :=
  .object ([("responses", .ofDictionary p.responses)] ++
    Json.optional "fail_with" (p.failure.map .string))

def ofJson? (j : Json) : Option ProbeConfig := do
  let field ← j.fields? fieldNames
  let responses ← Json.field? (field "responses") .empty Json.dictionary?
  let failure ← Json.field? (field "fail_with") none (Json.nullable Json.string?)
  pure ⟨responses, failure⟩

end ProbeConfig

namespace ResolverConfig

/-- The names of the fields, in order. -/
def fieldNames : List String :=
  ["force_dialect", "refine_identity"]

def toJson (r : ResolverConfig) : Json :=
  .object (Json.optional "force_dialect" (r.forcedDialect.map .string) ++
    [("refine_identity", .bool r.refines)])

def ofJson? (j : Json) : Option ResolverConfig := do
  let field ← j.fields? fieldNames
  let forced ← Json.field? (field "force_dialect") none (Json.nullable Json.string?)
  let refines ← Json.field? (field "refine_identity") true Json.bool?
  pure ⟨forced, refines⟩

end ResolverConfig

namespace Config

/-- The names of the fields, in order. -/
def fieldNames : List String :=
  ["connection", "probe", "resolver"]

def toJson (c : Config) : Json :=
  .object [("connection", c.connection.toJson), ("probe", c.probe.toJson),
    ("resolver", c.resolver.toJson)]

def ofJson? (j : Json) : Option Config := do
  let field ← j.fields? fieldNames
  let connection ← Json.field? (field "connection") .default ConnectionConfig.ofJson?
  let probe ← Json.field? (field "probe") .default ProbeConfig.ofJson?
  let resolver ← Json.field? (field "resolver") .default ResolverConfig.ofJson?
  pure ⟨connection, probe, resolver⟩

end Config

end SqlDialects
