import SqlDialects.Definition

/-!
The editions of a dialect: one composition for each range of versions between the thresholds of
its gates. An edition applies every gate whose threshold is above the version, the highest one
first, so that the lowest is nearest.
-/

namespace SqlDialects

/-- The compositions below each threshold, lowest threshold first, and the one that no gate
changes. -/
structure Editions where
  gated : List (Version × Composition)
  plain : Composition

namespace Editions

/-- The overlays of gates, given lowest threshold first, in the order in which they are applied. -/
def gateLayers (gates : List Gate) : List Overlay :=
  (gates.map (·.overlay)).reverse

/-- Composes the overlays of a line with those of gates, given lowest threshold first: with all
of them, then without the first, and so on. -/
def compose (layers : List Overlay) : List Gate → Except CompositionFault Editions
  | [] => do
      let plain ← Composition.ofLayers layers
      pure ⟨[], plain⟩
  | g :: gates => do
      let composition ← Composition.ofLayers (layers ++ gateLayers (g :: gates))
      let others ← compose layers gates
      pure ⟨(g.below, composition) :: others.gated, others.plain⟩

/-- The composition for a version. Without a version no gate applies. -/
def select (e : Editions) (version : Option Version) : Composition :=
  match version with
  | none => e.plain
  | some v =>
      match e.gated.find? fun edition => v < edition.1 with
      | some edition => edition.2
      | none => e.plain

/-- All compositions, those with more gates first. -/
def compositions (e : Editions) : List Composition :=
  e.gated.map (·.2) ++ [e.plain]

end Editions

end SqlDialects
