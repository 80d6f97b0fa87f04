import SqlDialects.Config.Json
import SqlDialects.Yaml.Decode
import SqlDialects.Yaml.Node.Reader

namespace SqlDialects

def ConnectionConfig.ofYaml? (anchors : Yaml.Anchors) (node : Yaml.Node) :
    Option ConnectionConfig := do
  let field ← Yaml.fields? anchors fieldNames node
  let name ← Yaml.field? (field "product_name") "" (Yaml.string? anchors)
  let version ← Yaml.field? (field "product_version") "" (Yaml.string? anchors)
  let banner ← Yaml.field? (field "version_banner") none (Yaml.nullableString? anchors)
  let serverVariables ← Yaml.field? (field "variables") .empty (Yaml.dictionary? anchors)
  pure ⟨name, version, banner, serverVariables⟩

def ProbeConfig.ofYaml? (anchors : Yaml.Anchors) (node : Yaml.Node) : Option ProbeConfig := do
  let field ← Yaml.fields? anchors fieldNames node
  let responses ← Yaml.field? (field "responses") .empty (Yaml.dictionary? anchors)
  let failure ← Yaml.field? (field "fail_with") none (Yaml.nullableString? anchors)
  pure ⟨responses, failure⟩

def ResolverConfig.ofYaml? (anchors : Yaml.Anchors) (node : Yaml.Node) :
    Option ResolverConfig := do
  let field ← Yaml.fields? anchors fieldNames node
  let forced ← Yaml.field? (field "force_dialect") none (Yaml.nullableString? anchors)
  let refines ← Yaml.field? (field "refine_identity") true (Yaml.bool? anchors)
  pure ⟨forced, refines⟩

namespace Config

def ofYaml? (anchors : Yaml.Anchors) (node : Yaml.Node) : Option Config := do
  let field ← Yaml.fields? anchors fieldNames node
  let connection ←
    Yaml.field? (field "connection") .default (ConnectionConfig.ofYaml? anchors)
  let probe ← Yaml.field? (field "probe") .default (ProbeConfig.ofYaml? anchors)
  let resolver ← Yaml.field? (field "resolver") .default (ResolverConfig.ofYaml? anchors)
  pure ⟨connection, probe, resolver⟩

/-- Reads a configuration and refuses one that cannot be used. -/
def read (text : String) : Except Error Config :=
  match (Yaml.Document.read? text).bind fun d => ofYaml? d.anchors d.node with
  | none => .error .yaml
  | some config => config.validate.map fun _ => config

end Config

end SqlDialects
