import SqlDialects.Dictionary
import SqlDialects.Query
import SqlDialects.Version

namespace SqlDialects

/-- Answers that are known without asking the server. -/
structure Snapshot where
  banner : Option String
  serverVariables : Dictionary
deriving DecidableEq

namespace Snapshot

/-- The snapshot that holds no answer. -/
def empty : Snapshot :=
  ⟨none, .empty⟩

/-- The answer to a query. Variables are looked up under their lower-case names. -/
def answer? (s : Snapshot) : Query → Option String
  | .versionBanner => s.banner
  | .serverVariable name => s.serverVariables.get? (Text.LetterCase.lower name)

end Snapshot

/-- What a connection reports. -/
structure Identity where
  productName : String
  productVersion : String
  snapshot : Option Snapshot
deriving DecidableEq

namespace Identity

/-- The identity of which nothing is known. -/
def unknown : Identity :=
  ⟨"", "", none⟩

def ofProduct (name version : String) : Identity :=
  ⟨name, version, none⟩

def withBanner (i : Identity) (banner : String) : Identity :=
  { i with snapshot := some { i.snapshot.getD .empty with banner := some banner } }

/-- Records the value of a variable, under its lower-case name. -/
def withVariable (i : Identity) (name value : String) : Identity :=
  let s := i.snapshot.getD .empty
  let serverVariables := s.serverVariables.insert (Text.LetterCase.lower name) value
  { i with snapshot := some { s with serverVariables } }

def withSnapshot (i : Identity) (s : Snapshot) : Identity :=
  { i with snapshot := some s }

/-- The version that the product reports, if its text mentions one. -/
def version? (i : Identity) : Option Version :=
  Version.read? i.productVersion

def answer? (i : Identity) (q : Query) : Option String :=
  i.snapshot.bind (·.answer? q)

end Identity

end SqlDialects
