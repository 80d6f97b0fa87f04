import SqlDialects.Query

namespace SqlDialects

/-- Puts a query to a server in some state. No answer means that the server knows none. -/
abbrev Probe (σ : Type) :=
  Query → σ → Except Error (Option String) × σ

/-- Canned answers, the latest first, and whether asking fails instead. -/
structure Recording where
  responses : List (Query × String)
  failure : Option String
deriving DecidableEq

namespace Recording

def empty : Recording :=
  ⟨[], none⟩

/-- Adds an answer, in place of an earlier one to the same query. -/
def respond (r : Recording) (q : Query) (answer : String) : Recording :=
  { r with responses := (q, answer) :: r.responses }

def answer (r : Recording) (q : Query) : Except Error (Option String) :=
  match r.failure with
  | some reason => .error (.connection ("probe '" ++ q.name ++ "' failed: " ++ reason))
  | none => .ok (r.responses.lookup q)

/-- The probe that plays a recording and counts the questions. -/
def probe (r : Recording) : Probe Nat :=
  fun q calls => (r.answer q, calls + 1)

end Recording

end SqlDialects
