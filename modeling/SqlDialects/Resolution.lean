import SqlDialects.Dialect
import SqlDialects.Registry

namespace SqlDialects.Registry

/-- The dialect of a tag in its edition for the version that an identity reports. -/
def dialect? (r : Registry) (tag : String) (identity : Identity) : Option Dialect :=
  (r.editions.lookup tag).map fun editions =>
    ⟨tag, identity, none, editions.select identity.version?⟩

/-- The dialect of a tag, whatever the identity says about the product. -/
def resolveTag (r : Registry) (tag : String) (identity : Identity) : Except Error Dialect :=
  match r.dialect? tag identity with
  | some d => .ok d
  | none => .error (.unsupported (tag ++ " (forced)") identity.productVersion)

/-- The dialect of the first recogniser that accepts an identity. -/
def resolveUnrefined (r : Registry) (identity : Identity) : Except Error Dialect :=
  match r.recognizers.find? (·.accepts identity) with
  | none => .error (.unsupported identity.productName identity.productVersion)
  | some recognizer =>
      match r.dialect? recognizer.tag identity with
      | some d => .ok d
      | none => .error (.definition recognizer.tag .noDefinition)

def pendingRules (d : Dialect) : List Impersonation :=
  d.composition.impersonations.filter fun rule => rule.detected != d.tag

/-- The dialect that a rule shows to stand behind the matched one, or the matched one itself. -/
def refined (r : Registry) (matched : Dialect) (rule : Option Impersonation) :
    Except Error Dialect :=
  match rule with
  | none => .ok matched
  | some rule =>
      match r.dialect? rule.detected matched.identity with
      | some d => .ok { d with impersonatedVia := some matched.tag }
      | none => .error (.definition rule.detected (.other "impersonation target is not registered"))

/-- The dialect of a connection, refined by what its snapshot answers. -/
def resolve (r : Registry) (identity : Identity) : Except Error Dialect := do
  let matched ← r.resolveUnrefined identity
  r.refined matched (Impersonation.detectRecorded (pendingRules matched) identity)

/-- The dialect of a connection, refined by what its snapshot or a probe answers. -/
def resolveConnection {σ : Type} (r : Registry) (identity : Identity) (probe : Probe σ)
    (state : σ) : Except Error Dialect × σ :=
  match r.resolveUnrefined identity with
  | .error e => (.error e, state)
  | .ok matched =>
      match Impersonation.detect (pendingRules matched) identity probe state with
      | (.error e, state) => (.error e, state)
      | (.ok rule, state) => (r.refined matched rule, state)

end SqlDialects.Registry
