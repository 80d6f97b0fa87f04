import SqlDialects.Identity
import SqlDialects.Probe

/-!
Engines that speak through the driver of another engine and report its name. A rule names a
query, a word that gives the engine away when it stands in the answer, and the engine. Rules are
tried in order and the first that hits decides; what the snapshot answers is not asked, and no
query is asked twice.
-/

namespace SqlDialects

/-- If the answer to the query mentions the needle, the engine is the detected one. -/
structure Impersonation where
  query : Query
  needle : String
  detected : String
deriving DecidableEq

namespace Impersonation

/-- Whether an answer gives the engine away; letter case does not matter. -/
def hits (rule : Impersonation) (answer : String) : Bool :=
  Text.Search.contains (Text.LetterCase.lower answer) (Text.LetterCase.lower rule.needle)

/-- The first rule that hits on what the snapshot answers. -/
def detectRecorded (rules : List Impersonation) (identity : Identity) : Option Impersonation :=
  rules.find? fun rule => (identity.answer? rule.query).any rule.hits

/-- The answer to a query: from the snapshot, or from the answers so far, or else from the probe;
with the answers known from then on. -/
def ask {σ : Type} (identity : Identity) (probe : Probe σ) (known : List (Query × Option String))
    (query : Query) (state : σ) :
    Except Error (Option String × List (Query × Option String)) × σ :=
  match identity.answer? query with
  | some answer => (.ok (some answer, known), state)
  | none =>
      match known.lookup query with
      | some answer => (.ok (answer, known), state)
      | none =>
          match probe query state with
          | (.ok answer, state) => (.ok (answer, (query, answer) :: known), state)
          | (.error e, state) => (.error e, state)

/-- The first rule that hits, where answers other than the known ones come from the snapshot or
from the probe. A failure of the probe ends the search. -/
def detectFrom {σ : Type} (identity : Identity) (probe : Probe σ) :
    List (Query × Option String) → List Impersonation → σ →
      Except Error (Option Impersonation) × σ
  | _, [], state => (.ok none, state)
  | known, rule :: rules, state =>
      match ask identity probe known rule.query state with
      | (.error e, state) => (.error e, state)
      | (.ok (answer, known), state) =>
          if answer.any rule.hits then (.ok (some rule), state)
          else detectFrom identity probe known rules state

/-- The first rule that hits on what the snapshot or the probe answers. -/
def detect {σ : Type} (rules : List Impersonation) (identity : Identity) (probe : Probe σ)
    (state : σ) : Except Error (Option Impersonation) × σ :=
  detectFrom identity probe [] rules state

end Impersonation

end SqlDialects
