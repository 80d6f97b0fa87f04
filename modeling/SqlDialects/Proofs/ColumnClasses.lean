import SqlDialects.Proofs.NearestOverlay
import SqlDialects.Proofs.RegistryContents

/-!
What a dialect makes of the columns of a result. The rules of the gates that apply to it come first,
the lowest threshold foremost, then its own rules; where none of them matches it goes by what the
dialect that it is built on says without gates, and a root by the shape of the column.
-/

namespace SqlDialects.Proofs.ColumnClasses

open SqlDialects.Composition (ofLayers)
open EditionChoice
open Lineage
open NearestOverlay
open Outcome (bind_eq_ok_iff)
open RegistryBuild
open RegistryContents
open VersionGates

variable {r : Registrations} {registry : Registry} {column : Column} {rule : TypeRule}
  {rules more : List TypeRule} {inherited type : LogicalType}

/-- A rule for the code of a column, and for its precision and scale where it names them. -/
structure Matches (rule : TypeRule) (column : Column) : Prop where
  code : rule.code = column.code
  precision : ∀ p ∈ rule.precision, p = column.precision
  scale : ∀ s ∈ rule.scale, s = column.scale

theorem applies_iff : rule.applies column = true ↔ Matches rule column := by
  simp only [TypeRule.applies, Bool.and_eq_true, beq_iff_eq, Option.all_eq_true]
  constructor
  · rintro ⟨⟨hcode, hprecision⟩, hscale⟩
    exact ⟨hcode, hprecision, hscale⟩
  · rintro ⟨hcode, hprecision, hscale⟩
    exact ⟨⟨hcode, hprecision⟩, hscale⟩

/-- The class of a column by some rules: that of the first one that matches, and the inherited one
if none does. -/
inductive Classed (column : Column) (inherited : LogicalType) :
    List TypeRule → LogicalType → Prop
  | inherited : Classed column inherited [] inherited
  | here {rule : TypeRule} {rest : List TypeRule} :
      Matches rule column → Classed column inherited (rule :: rest) rule.logical
  | there {rule : TypeRule} {rest : List TypeRule} {type : LogicalType} :
      ¬ Matches rule column → Classed column inherited rest type →
        Classed column inherited (rule :: rest) type

theorem Classed.eq_inherited (h : Classed column inherited rules type)
    (hnone : ∀ rule ∈ rules, ¬ Matches rule column) : type = inherited := by
  induction h with
  | inherited => rfl
  | here hmatch => exact absurd hmatch (hnone _ List.mem_cons_self)
  | there _ _ ih => exact ih fun rule hrule => hnone rule (List.mem_cons_of_mem _ hrule)

theorem logicalType_cons_of_matches (h : Matches rule column) :
    column.logicalType (rule :: rules) = rule.logical := by
  rw [Column.logicalType, List.find?_cons, applies_iff.mpr h]

theorem logicalType_cons_of_not_matches (h : ¬ Matches rule column) :
    column.logicalType (rule :: rules) = column.logicalType rules := by
  have happlies : rule.applies column = false := by
    rw [← Bool.not_eq_true, applies_iff]
    exact h
  rw [Column.logicalType, List.find?_cons, happlies, Column.logicalType]

theorem classed_append (column : Column) (rules more : List TypeRule) :
    Classed column (column.logicalType more) rules (column.logicalType (rules ++ more)) := by
  induction rules with
  | nil => exact .inherited
  | cons rule rules ih =>
      by_cases h : Matches rule column
      · rw [List.cons_append, logicalType_cons_of_matches h]
        exact .here h
      · rw [List.cons_append, logicalType_cons_of_not_matches h]
        exact .there h ih

theorem classify_eq_ok {columns : List Column} {index : Nat} (h : columns[index]? = some column) :
    Column.classify rules columns index = .ok (column.logicalType rules) := by
  rw [Column.classify, h]

theorem classify_eq_error_iff {columns : List Column} {index : Nat} {e : Error} :
    Column.classify rules columns index = .error e ↔
      columns.length ≤ index ∧ e = .columnIndex index columns.length := by
  rw [← List.getElem?_eq_none_iff]
  cases hcolumn : columns[index]? with
  | none => simp [Column.classify, hcolumn, eq_comm]
  | some column => simp [Column.classify, hcolumn]

theorem typeRules_eq {layers : List Overlay} {c : Composition} (h : ofLayers layers = .ok c) :
    c.typeRules = layers.reverse.flatMap (·.typeRules) :=
  ((ofLayers_eq_ok_iff layers c).mp h).1.typeRules

/-- The rules of the definitions on a path, nearest first. -/
def rulesAlong (path : List Definition) : List TypeRule :=
  path.reverse.flatMap (·.overlay.typeRules)

/-- The rules that a definition adds to those of its base, where some of its gates apply, given in
the order in which they are put on top. -/
def addedRules (x : Definition) (applied : List Gate) : List TypeRule :=
  applied.reverse.flatMap (·.overlay.typeRules) ++ x.overlay.typeRules

/-- No gate of a tag applies to an identity, as where its version is unknown. -/
def Ungated (definitions : List Definition) (tag : String) (identity : Identity) : Prop :=
  ∀ x ∈ definitions, x.tag = tag → ∀ g ∈ x.gates, appliesTo identity.version? g = false

theorem ungated_unknown (definitions : List Definition) (tag : String) :
    Ungated definitions tag .unknown := by
  intro x _ _ g _
  rfl

/-- What a definition finds below itself: the answer of its base without gates, or at a root the
default for the shape of the column. -/
def Inherits (r : Registrations) (registry : Registry) (x : Definition) (columns : List Column)
    (index : Nat) (column : Column) (type : LogicalType) : Prop :=
  match x.base with
  | none => type = Column.defaultType column.code column.precision column.scale
  | some base => ∀ identity, Ungated r.definitions base identity →
      ∃ d, registry.resolveTag base identity = .ok d ∧ d.classify columns index = .ok type

theorem exists_typeRules (hbuild : r.build = .ok registry) {x : Definition}
    (hx : x ∈ r.definitions) (identity : Identity) :
    ∃ path applied d, BasePath r.definitions x.tag path ∧
      Applied x.gates identity.version? applied ∧ registry.resolveTag x.tag identity = .ok d ∧
      d.composition.typeRules =
        applied.reverse.flatMap (·.overlay.typeRules) ++ rulesAlong path := by
  obtain ⟨_, composition, ⟨path, applied, hpath, happlied, rfl⟩, hcompose, hdialect⟩ :=
    exists_dialect hbuild hx identity
  refine ⟨path, applied, _, hpath, happlied, resolveTag_eq_ok_iff.mpr hdialect, ?_⟩
  rw [typeRules_eq hcompose, List.reverse_append, List.flatMap_append, ← List.map_reverse,
    ← List.map_reverse, List.flatMap_map, List.flatMap_map, rulesAlong]

theorem exists_ungated (hbuild : r.build = .ok registry) {tag : String} {path : List Definition}
    (hpath : BasePath r.definitions tag path) {identity : Identity}
    (hidentity : Ungated r.definitions tag identity) :
    ∃ d, registry.resolveTag tag identity = .ok d ∧
      d.composition.typeRules = rulesAlong path := by
  obtain ⟨⟨-, -, htags⟩, -⟩ := build_eq_ok_iff.mp hbuild
  obtain ⟨x, hx, rfl⟩ := hpath.exists_mem
  obtain ⟨other, applied, d, hother, happlied, hd, hrules⟩ := exists_typeRules hbuild hx identity
  obtain rfl := hpath.unique htags hother
  have hnone : x.gates.filter (appliesTo identity.version?) = [] := by
    rw [List.filter_eq_nil_iff]
    intro g hg
    rw [hidentity x hx rfl g hg]
    exact Bool.false_ne_true
  obtain rfl : applied = [] := by
    have hperm := happlied.1
    rwa [hnone, List.perm_nil] at hperm
  exact ⟨d, hd, hrules⟩

/-- What a definition finds below itself is what the rules below it make of the column. -/
theorem exists_inherits (hbuild : r.build = .ok registry) {x : Definition}
    (hx : x ∈ r.definitions) {path : List Definition}
    (hpath : BasePath r.definitions x.tag path) :
    ∃ below, path = below ++ [x] ∧
      ∀ (columns : List Column) (index : Nat) (column : Column), columns[index]? = some column →
        Inherits r registry x columns index column (column.logicalType (rulesAlong below)) := by
  obtain ⟨⟨-, -, htags⟩, -⟩ := build_eq_ok_iff.mp hbuild
  rcases hpath.of_mem htags hx with ⟨hroot, rfl⟩ | ⟨base, below, hbase, hbelow, rfl⟩
  · refine ⟨[], rfl, ?_⟩
    intro columns index column _
    simp only [Inherits, hroot]
    rfl
  · refine ⟨below, rfl, ?_⟩
    intro columns index column hcolumn
    simp only [Inherits, hbase]
    intro identity hidentity
    obtain ⟨d, hd, hrules⟩ := exists_ungated hbuild hbelow hidentity
    refine ⟨d, hd, ?_⟩
    rw [Dialect.classify, classify_eq_ok hcolumn, hrules]

/-- The class of a column follows the chain of definitions: a definition overrides what it finds
below itself by the rules that it adds, and by those alone. An index that is too high is refused,
and no other. -/
theorem column_class_follows_chain (hbuild : r.build = .ok registry) {x : Definition}
    (hx : x ∈ r.definitions) (identity : Identity) :
    ∃ applied d, Applied x.gates identity.version? applied ∧
      registry.resolveTag x.tag identity = .ok d ∧
      ∀ (columns : List Column) (index : Nat),
        (∀ e, d.classify columns index = .error e ↔
          columns.length ≤ index ∧ e = .columnIndex index columns.length) ∧
        ∀ column, columns[index]? = some column →
          ∃ inherited type, Inherits r registry x columns index column inherited ∧
            d.classify columns index = .ok type ∧
            Classed column inherited (addedRules x applied) type ∧
            ((∀ rule ∈ addedRules x applied, ¬ Matches rule column) → type = inherited) := by
  obtain ⟨path, applied, d, hpath, happlied, hd, hrules⟩ := exists_typeRules hbuild hx identity
  obtain ⟨below, rfl, hinherits⟩ := exists_inherits hbuild hx hpath
  have hsplit : d.composition.typeRules = addedRules x applied ++ rulesAlong below := by
    simp [hrules, addedRules, rulesAlong]
  refine ⟨applied, d, happlied, hd, ?_⟩
  intro columns index
  refine ⟨fun e => classify_eq_error_iff, ?_⟩
  intro column hcolumn
  have hclassed := classed_append column (addedRules x applied) (rulesAlong below)
  refine ⟨_, _, hinherits columns index column hcolumn, ?_, hclassed, hclassed.eq_inherited⟩
  rw [Dialect.classify, classify_eq_ok hcolumn, hsplit]

/-- Two dialects of which one is built on the other. Their rules for decimals overlap. -/
def outlets : Registrations where
  definitions :=
    [.root Builtin.standardTag Builtin.standard,
      (Definition.on Builtin.standardTag "depot"
          { name := "depot", typeRules := [.forCode .decimal .object] }).gate
        (Builtin.version 2 0)
        { name := "depot-before-2", typeRules := [.forCode .decimal .string] },
      ((Definition.on "depot" "outlet"
          { name := "outlet", typeRules := [.forShape .decimal 9 0 .double] }).gate
        (Builtin.version 8 0)
        { name := "outlet-before-8", typeRules := [.forShape .decimal 9 0 .integer] }).gate
        (Builtin.version 7 0)
        { name := "outlet-before-7", typeRules := [.forShape .decimal 9 0 .long] }]
  recognizers := []

def decimals : List Column :=
  [⟨"price", .decimal, 5, 2⟩, ⟨"id", .decimal, 9, 0⟩]

theorem column_class_outlet :
    ∃ registry d, outlets.build = .ok registry ∧
      registry.resolveTag "outlet" (.ofProduct "Outlet" "1.5") = .ok d ∧
      d.classify decimals 0 = .ok .object ∧ d.classify decimals 1 = .ok .long ∧
      d.classify decimals 2 = .error (.columnIndex 2 2) := by
  have hrun : (do
      let registry ← outlets.build
      let depot ← registry.resolveTag "depot" .unknown
      depot.classify decimals 0) = .ok .object := by
    decide +kernel
  obtain ⟨registry, hbuild, hrest⟩ := bind_eq_ok_iff.mp hrun
  obtain ⟨depot, hdepot, hprice⟩ := bind_eq_ok_iff.mp hrest
  obtain ⟨x, hx⟩ : ∃ x, outlets.definitions[2]? = some x := ⟨_, rfl⟩
  obtain ⟨applied, d, happlied, hd, hclassify⟩ :=
    column_class_follows_chain hbuild (List.mem_of_getElem? hx) (.ofProduct "Outlet" "1.5")
  obtain rfl := Option.some.inj hx
  have hversion : (Identity.ofProduct "Outlet" "1.5").version? = some ⟨1, 5, 0⟩ := by decide
  rw [hversion] at happlied
  obtain rfl := happlied.unique ⟨.of_eq rfl, List.pairwise_pair.mpr (by decide)⟩
  refine ⟨registry, d, hbuild, hd, ?_, ?_, ?_⟩
  · obtain ⟨inherited, type, hinherits, htype, -, hkept⟩ := (hclassify decimals 0).2 _ rfl
    obtain ⟨other, hother, hinherited⟩ := hinherits .unknown (ungated_unknown _ _)
    obtain rfl := Except.ok.inj (hother.symm.trans hdepot)
    obtain rfl := Except.ok.inj (hinherited.symm.trans hprice)
    have hnone : ∀ rule ∈ [TypeRule.forShape .decimal 9 0 .long, .forShape .decimal 9 0 .integer,
        .forShape .decimal 9 0 .double], ¬ Matches rule ⟨"price", .decimal, 5, 2⟩ := by
      simp only [← applies_iff]
      decide
    rw [htype, hkept hnone]
  · obtain ⟨inherited, type, -, htype, hclassed, -⟩ := (hclassify decimals 1).2 _ rfl
    cases hclassed with
    | here _ => exact htype
    | there hmiss _ => exact absurd (applies_iff.mp (by decide)) hmiss
  · exact ((hclassify decimals 2).1 _).mpr ⟨by decide, rfl⟩

end SqlDialects.Proofs.ColumnClasses
