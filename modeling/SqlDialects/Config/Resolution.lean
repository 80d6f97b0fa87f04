import SqlDialects.Config
import SqlDialects.Resolution

namespace SqlDialects

def Config.dialect (c : Config) (r : Registry) : Except Error Dialect :=
  let identity := c.connection.identity
  match c.resolver.forcedDialect with
  | some tag => r.resolveTag tag identity
  | none =>
      if c.resolver.refines then do
        let recording ← c.probe.recording
        (r.resolveConnection identity recording.probe 0).1
      else r.resolveUnrefined identity

end SqlDialects
