import SqlDialects.Column
import SqlDialects.Impersonation

namespace SqlDialects

/-- A named set of decisions. Where a decision may itself be "none", the outer option says whether
the overlay decides at all. -/
structure Overlay where
  name : String
  flag : Capability → Option Bool := fun _ => none
  quoteStyle : Option QuoteStyle := none
  /-- What to select from where a SELECT needs no table. -/
  dummyTable : Option (Option String) := none
  stringStyle : Option StringStyle := none
  booleanStyle : Option BooleanStyle := none
  temporalStyle : Option TemporalStyle := none
  /-- Exceptions from the temporal style, by type. -/
  temporalStyleFor : LogicalType → Option TemporalStyle := fun _ => none
  /-- What to wrap around the cast target of a NULL. -/
  nullCast : Option (Option String) := none
  nullsOrdering : Option NullsOrdering := none
  /-- The longest value list that one statement should hold. -/
  maxValueList : Option (Option Nat) := none
  /-- Cast targets, with places for the length, the precision and the scale of a column. -/
  castType : LogicalType → Option String := fun _ => none
  typeRules : List TypeRule := []
  impersonations : List Impersonation := []

/-- The decisions of a list: each key has the value of its first pair. -/
def decided {κ α : Type} [BEq κ] (decisions : List (κ × α)) : κ → Option α :=
  fun key => decisions.lookup key

end SqlDialects
