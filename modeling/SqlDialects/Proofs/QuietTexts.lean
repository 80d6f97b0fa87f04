import SqlDialects.Proofs.CastTargets
import SqlDialects.Proofs.NearestOverlay
import SqlDialects.Proofs.ReturnedDialects
import SqlDialects.Proofs.Vocabulary

namespace SqlDialects.Proofs.QuietTexts

open CastTargets (nullCastTarget_eq wrapped)
open SqlDialects.Composition (ofLayers)
open NearestOverlay
open ReturnedDialects
open Text.Search (replace)
open Tokens (Quotes)
open Vocabulary

/-- The words that would give a query without rows a row or another condition. -/
def clauses : List String :=
  ["VALUES", "UNION", "WHERE"]

def rowClauses : List String :=
  ["VALUES", "UNION"]

/-- The wrapper of the engine whose types do not take NULL unless they say so. -/
def nullable : String :=
  "Nullable(\x7btype\x7d)"

/-- Whether the texts of an overlay bring no clause into a cast. -/
def isQuietOverlay (layer : Overlay) : Bool :=
  LogicalType.all.all (fun type =>
      (layer.castType type).all fun template => lacksAll clauses (ColumnSize.least.fill template)) &&
    layer.nullCast.all fun wrapper => wrapper.all (· == nullable)

/-- Whether the table of a SELECT that needs none brings no clause with it. A condition of its own
does no harm in a derived table. -/
def hasQuietTable (c : Composition) : Bool :=
  c.dummyTable.value.all fun table =>
    lacksAll (if c.has .allowsFromQuery then rowClauses else clauses) table

theorem builtin_isQuietOverlay :
    (Builtin.registrations.definitions.all fun d =>
      isQuietOverlay d.overlay && d.gates.all fun g => isQuietOverlay g.overlay) = true := by
  decide +kernel

theorem builtin_hasQuietTable :
    (match Builtin.registrations.build with
      | .ok registry => registry.editions.all fun (_, e) => e.compositions.all hasQuietTable
      | .error _ => false) = true := by
  decide +kernel

/-- A composition whose texts make no clause of a query without rows. -/
structure QuietComposition (c : Composition) : Prop where
  target : ∀ type, lacksAll clauses (ColumnSize.least.fill (c.castType type).value) = true
  nullCast : ∀ wrapper, c.nullCast.value = some wrapper → wrapper = nullable
  table : ∀ table, c.dummyTable.value = some table →
    lacksAll (if c.has .allowsFromQuery then rowClauses else clauses) table = true

theorem quietComposition_of_ofLayers {layers : List Overlay} {c : Composition}
    (hlayers : ∀ layer ∈ layers, isQuietOverlay layer = true) (h : ofLayers layers = .ok c)
    (htable : hasQuietTable c = true) : QuietComposition c := by
  obtain ⟨hnearest, -⟩ := (ofLayers_eq_ok_iff layers c).mp h
  simp only [isQuietOverlay, Bool.and_eq_true] at hlayers
  constructor
  · intro type
    obtain ⟨layer, hmem, hdecision, -⟩ := lastDecides_mem (hnearest.castType type)
    have htarget := List.all_eq_true.mp (hlayers layer hmem).1 type (LogicalType.mem_all type)
    rw [hdecision, Option.all_some] at htarget
    exact htarget
  · intro wrapper hwrapper
    obtain ⟨layer, hmem, hdecision, -⟩ := lastDecides_mem hnearest.nullCast
    have hnullable := (hlayers layer hmem).2
    rw [hdecision, hwrapper, Option.all_some, Option.all_some] at hnullable
    exact beq_iff_eq.mp hnullable
  · intro table hsome
    rw [hasQuietTable, hsome, Option.all_some] at htable
    exact htable

theorem hasQuietTable_of_fromEditions {registry : Registry}
    (hbuild : Builtin.registrations.build = .ok registry) {d : Dialect}
    (h : FromEditions registry d) : hasQuietTable d.composition = true := by
  obtain ⟨tag, e, hlookup, hmem⟩ := h
  obtain ⟨before, after, heditions, -⟩ := List.lookup_eq_some_iff.mp hlookup
  have hall := builtin_hasQuietTable
  rw [hbuild] at hall
  have hentry : (tag, e) ∈ registry.editions := by
    rw [heditions]
    exact List.mem_append_right before List.mem_cons_self
  exact List.all_eq_true.mp (List.all_eq_true.mp hall (tag, e) hentry) _ hmem

theorem quietComposition_of_returns {registry : Registry}
    (hbuild : Builtin.registrations.build = .ok registry) {d : Dialect}
    (h : Returns registry d) : QuietComposition d.composition := by
  obtain ⟨layers, hregistered, hlayers⟩ := h.exists_layers hbuild
  refine quietComposition_of_ofLayers ?_ hlayers (hasQuietTable_of_fromEditions hbuild h.fromEditions)
  intro layer hmem
  exact (hregistered layer hmem).of_all builtin_isQuietOverlay

/-- What a NULL is cast to in a column of which no value is known: the target has the least sizes. -/
def emptyTarget (d : Dialect) (type : LogicalType) : String :=
  wrapped d.composition.nullCast.value (replace (replace (replace
    (d.composition.castType type).value "\x7blen\x7d" "1") "\x7bprecision\x7d" "1")
    "\x7bscale\x7d" "0")

theorem emptyTarget_eq (d : Dialect) (type : LogicalType) :
    emptyTarget d type = wrapped d.composition.nullCast.value
      (ColumnSize.least.fill (d.castTemplate type)) := rfl

theorem replace_nullable (target : String) :
    (replace nullable "\x7btype\x7d" target).toList =
      "Nullable".toList ++ '(' :: (target.toList ++ ')' :: []) := by
  rw [Text.Search.replace, String.toList_ofList]
  rfl

theorem lacks_emptyTarget {d : Dialect} (h : QuietComposition d.composition) (q : Quotes)
    (type : LogicalType) : Lacks q clauses (emptyTarget d type).toList := by
  have hfilled : Lacks q clauses (ColumnSize.least.fill (d.castTemplate type)).toList :=
    lacks_of_lacksAll (h.target type)
  rw [emptyTarget_eq]
  cases hwrapper : d.composition.nullCast.value with
  | none => exact hfilled
  | some wrapper =>
      obtain rfl := h.nullCast wrapper hwrapper
      rw [wrapped, replace_nullable]
      exact (Lacks.word (by decide) (by decide)).group hfilled .nil

end SqlDialects.Proofs.QuietTexts
