import SqlDialects.Identity
import SqlDialects.Json

namespace SqlDialects

namespace Snapshot

def toJson (s : Snapshot) : Json :=
  .object (
    Json.optional "version_banner" (s.banner.map .string) ++
      Json.optional "variables"
        (if s.serverVariables.isEmpty then none else some (.ofDictionary s.serverVariables)))

def ofJson? (j : Json) : Option Snapshot := do
  let field ← j.fields? ["version_banner", "variables"]
  let banner ← Json.field? (field "version_banner") none (Json.nullable Json.string?)
  let serverVariables ← Json.field? (field "variables") .empty Json.dictionary?
  pure ⟨banner, serverVariables⟩

end Snapshot

namespace Identity

def toJson (i : Identity) : Json :=
  .object ([("product_name", .string i.productName), ("product_version", .string i.productVersion)]
    ++ Json.optional "snapshot" (i.snapshot.map (·.toJson)))

def ofJson? (j : Json) : Option Identity := do
  let field ← j.fields? ["product_name", "product_version", "snapshot"]
  let name ← (field "product_name").bind Json.string?
  let version ← Json.field? (field "product_version") "" Json.string?
  let snapshot ← Json.field? (field "snapshot") none (Json.nullable Snapshot.ofJson?)
  pure ⟨name, version, snapshot⟩

end Identity

end SqlDialects
