import SqlDialects.Proofs.CastTargets
import SqlDialects.Proofs.LiteralReading
import SqlDialects.Proofs.NearestOverlay
import SqlDialects.Proofs.ReturnedDialects

namespace SqlDialects.Proofs.PlainTexts

open CastTargets
open SqlDialects.Composition (ofLayers)
open LiteralReading
open NearestOverlay
open ReturnedDialects
open Tokens
open Trees

/-- Whether a tree is a word that begins another branch of a union or an order. -/
def endsTable (tree : Tree) : Bool :=
  Tree.isWord "UNION" tree || Tree.isWord "ORDER" tree

/-- A plain text that ends where it seems to when it stands after FROM. -/
structure PlainTable (table : String) : Prop where
  plain : Plain table.toList
  whole : ∀ trees, nestOnto (plainTokens table.toList) [[]] = some [trees] →
    ∀ tree ∈ trees, endsTable tree = false

/-- A composition whose texts can stand in a statement as they are. -/
structure PlainComposition (c : Composition) : Prop where
  lead : FitsLead c.stringStyle.value.lead
  castType : ∀ type, Plain (c.castType type).value.toList
  nullCast : ∀ wrapper, c.nullCast.value = some wrapper → Plain wrapper.toList
  dummyTable : ∀ table, c.dummyTable.value = some table → PlainTable table

def isPlain (s : String) : Bool :=
  s.toList.all (fun c => !isQuote c) && surplus '(' ')' s.toList == some 0

def isPlainTable (table : String) : Bool :=
  isPlain table &&
    match nestOnto (plainTokens table.toList) [[]] with
    | some [trees] => trees.all fun tree => !endsTable tree
    | _ => true

def fitsLead (lead : String) : Bool :=
  lead != "AS" && lead.toList.all isLetter

/-- Whether the texts of an overlay can stand in a statement as they are. -/
def isPlainOverlay (layer : Overlay) : Bool :=
  layer.stringStyle.all (fun style => fitsLead style.lead) &&
    LogicalType.all.all (fun type => (layer.castType type).all isPlain) &&
    layer.nullCast.all (·.all isPlain) && layer.dummyTable.all (·.all isPlainTable)

theorem plain_of_isPlain {s : String} (h : isPlain s = true) : Plain s.toList := by
  simp only [isPlain, Bool.and_eq_true, List.all_eq_true, Bool.not_eq_true', beq_iff_eq] at h
  exact ⟨h.1, h.2⟩

theorem plainTable_of_isPlainTable {table : String} (h : isPlainTable table = true) :
    PlainTable table := by
  obtain ⟨hplain, htrees⟩ := Bool.and_eq_true_iff.mp h
  refine ⟨plain_of_isPlain hplain, ?_⟩
  intro trees hnest tree hmem
  rw [hnest] at htrees
  simpa using List.all_eq_true.mp htrees tree hmem

theorem fitsLead_of_fitsLead {lead : String} (h : fitsLead lead = true) : FitsLead lead := by
  simpa [fitsLead, FitsLead] using h

theorem plainComposition_of_ofLayers {layers : List Overlay} {c : Composition}
    (hlayers : ∀ layer ∈ layers, isPlainOverlay layer = true) (h : ofLayers layers = .ok c) :
    PlainComposition c := by
  obtain ⟨hnearest, -⟩ := (ofLayers_eq_ok_iff layers c).mp h
  simp only [isPlainOverlay, Bool.and_eq_true] at hlayers
  constructor
  · obtain ⟨layer, hmem, hdecision, -⟩ := lastDecides_mem hnearest.stringStyle
    have hlead := (hlayers layer hmem).1.1.1
    rw [hdecision] at hlead
    exact fitsLead_of_fitsLead hlead
  · intro type
    obtain ⟨layer, hmem, hdecision, -⟩ := lastDecides_mem (hnearest.castType type)
    have hcast := List.all_eq_true.mp (hlayers layer hmem).1.1.2 type (LogicalType.mem_all type)
    rw [hdecision] at hcast
    exact plain_of_isPlain hcast
  · intro wrapper hwrapper
    obtain ⟨layer, hmem, hdecision, -⟩ := lastDecides_mem hnearest.nullCast
    have hcast := (hlayers layer hmem).1.2
    rw [hdecision, hwrapper] at hcast
    exact plain_of_isPlain hcast
  · intro table htable
    obtain ⟨layer, hmem, hdecision, -⟩ := lastDecides_mem hnearest.dummyTable
    have hdummy := (hlayers layer hmem).2
    rw [hdecision, htable] at hdummy
    exact plainTable_of_isPlainTable hdummy

theorem builtin_isPlainOverlay :
    (Builtin.registrations.definitions.all fun d =>
      isPlainOverlay d.overlay && d.gates.all fun g => isPlainOverlay g.overlay) = true := by
  -- The overlays are closed data, and the check of a text is structural.
  decide +kernel

theorem isPlainOverlay_of_registered {layer : Overlay}
    (h : Registered Builtin.registrations.definitions layer) : isPlainOverlay layer = true :=
  h.of_all builtin_isPlainOverlay

/-- Every dialect of the built-in registry is put together from plain texts. -/
theorem plainComposition_of_returns {registry : Registry}
    (hbuild : Builtin.registrations.build = .ok registry) {d : Dialect}
    (h : Returns registry d) : PlainComposition d.composition := by
  obtain ⟨layers, hregistered, hlayers⟩ := h.exists_layers hbuild
  refine plainComposition_of_ofLayers ?_ hlayers
  intro layer hmem
  exact isPlainOverlay_of_registered (hregistered layer hmem)

end SqlDialects.Proofs.PlainTexts
