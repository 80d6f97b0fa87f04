import SqlDialects.Proofs.InlineReadBack
import SqlDialects.Proofs.QuietTexts

namespace SqlDialects.Proofs.EmptyTables

open BuiltinRegistry (exists_dialect_of_run)
open CastTargets
open InlineReadBack
open InlineReader
open InlineReading
open LiteralReading
open PlainTexts
open QuietTexts
open ReturnedDialects
open TableAcceptance
open Tokens (Quotes)
open Trees
open Vocabulary

/-- The name of a derived table, and whether AS stands before it. -/
structure Alias where
  name : String
  withAs : Bool
deriving DecidableEq

/-- What is read of a query that is to return nothing. -/
structure EmptyReading where
  columns : List String
  casts : List Cast
  /-- The derived table of which all columns are selected, if they come from one. -/
  derived : Option Alias
  condition : List String
  orderBy : Option OrderKey
deriving DecidableEq

def readAlias : List Tree → Option Alias
  | [.leaf (.identifier name)] => some ⟨.ofList name, false⟩
  | [as, .leaf (.identifier name)] =>
      if Tree.isWord "AS" as then some ⟨.ofList name, true⟩ else none
  | _ => none

/-- Reads a SELECT of all columns of a derived table. -/
def readDerived (q : Quotes) (trees : List Tree) : Option (List (Cast × String) × Alias) := do
  let rest ← after "SELECT" trees
  let rest ← after "*" rest
  let rest ← after "FROM" rest
  match rest with
  | .group inner :: rest => do
      let named ← readSelect (readNamedCast q) (solid inner)
      let derived ← readAlias rest
      pure (named, derived)
  | _ => none

def readQuery (q : Quotes) (trees : List Tree) : Option (List (Cast × String) × Option Alias) :=
  (readSelect (readNamedCast q) trees).map (·, none) <|>
    (readDerived q trees).map fun (named, derived) => (named, some derived)

/-- Reads a query with one WHERE outside of parentheses, and with no more than one. -/
def readFiltered (q : Quotes) (trees : List Tree) :
    Option ((List (Cast × String) × Option Alias) × List String) :=
  match trees.splitOnP (Tree.isWord "WHERE") with
  | [query, condition] =>
      (readQuery q query).map (·, condition.map fun tree => .ofList (tree.text q))
  | _ => none

def readEmpty (q : Quotes) (sql : String) : Option EmptyReading := do
  let trees ← trees? q sql.toList
  let (((named, derived), condition), orderBy) ← readOrdered (readFiltered q) (solid trees)
  pure ⟨named.map (·.2), named.map (·.1), derived, condition, orderBy⟩

/-- A query that has the columns of a table and returns nothing. -/
structure KeepsColumns (d : Dialect) (t : InlineTable) (reading : EmptyReading) : Prop where
  columns : reading.columns = t.columns
  casts : reading.casts = t.types.map fun type => ⟨"NULL", emptyTarget d type⟩
  derived : reading.derived =
    if d.has .allowsFromQuery then some ⟨"t", d.has .allowsAs⟩ else none
  condition : reading.condition = ["1", "=", "0"]
  orderBy : reading.orderBy = t.orderBy.map .column

variable {q : Quotes} {d : Dialect}

/-- The SELECT of named casts around which a query without rows is put. -/
def innerSql (d : Dialect) (columns : List String) (casts : List Cast) : String :=
  selectSql d (d.named columns (casts.map castSql))

/-- A query of named casts in which, outside of parentheses, there is no other clause. -/
def ReadsQuery (q : Quotes) (query : String)
    (named : List (Cast × String) × Option Alias) : Prop :=
  ∃ trees, ReadsAs q query.toList trees ∧
    (∀ tree ∈ trees, Tree.isWord "WHERE" tree = false ∧ Tree.isWord "ORDER" tree = false) ∧
    readQuery q trees = some named

section Vocabulary

variable {words : List String} (hwords : words ⊆ clauses)

include hwords

theorem lacks_keyword (w : String) (hword : Tokens.isWordText w.toList = true)
    (hother : ∀ v ∈ clauses, (w.toList.map Char.toUpper == v.toList) = false) :
    Lacks q words w.toList :=
  (Lacks.word hword hother).mono hwords

theorem lacks_nullCast {target : String} (h : Lacks q words target.toList) :
    Lacks q words (castSql ⟨"NULL", target⟩).toList := by
  have hnull : Lacks q words "NULL".toList := lacks_keyword hwords "NULL" (by decide) (by decide)
  have has : Lacks q words "AS".toList := lacks_keyword hwords "AS" (by decide) (by decide)
  have hcast : Lacks q words "CAST".toList := lacks_keyword hwords "CAST" (by decide) (by decide)
  apply (hcast.group (hnull.blank (has.blank h)) .nil).of_eq
  simp [castSql]

theorem lacks_named {casts : List Cast}
    (h : ∀ cast ∈ casts, Lacks (quotesOf d.composition) words (castSql cast).toList)
    (columns : List String) :
    ∀ item ∈ d.named columns (casts.map castSql),
      Lacks (quotesOf d.composition) words item.toList := by
  induction casts generalizing columns with
  | nil => simp [Dialect.named]
  | cons cast casts ih =>
      obtain ⟨hcast, hcasts⟩ := List.forall_mem_cons.mp h
      rcases columns with _ | ⟨column, columns⟩
      · simp [Dialect.named]
      · have has : Lacks (quotesOf d.composition) words "AS".toList :=
          lacks_keyword hwords "AS" (by decide) (by decide)
        have hitem := hcast.blank (has.blank (.identifier column))
        refine List.forall_mem_cons.mpr ⟨?_, ih hcasts columns⟩
        apply hitem.of_eq
        simp [Dialect.quoteIdentifier, quotesOf]

theorem lacks_innerSql {casts : List Cast}
    (hcasts : ∀ cast ∈ casts, Lacks (quotesOf d.composition) words (castSql cast).toList)
    (htable : ∀ table, d.composition.dummyTable.value = some table →
      Lacks (quotesOf d.composition) words table.toList) (columns : List String) :
    Lacks (quotesOf d.composition) words (innerSql d columns casts).toList := by
  have hselect : Lacks (quotesOf d.composition) words "SELECT".toList :=
    lacks_keyword hwords "SELECT" (by decide) (by decide)
  have hitems := hselect.blank (lacks_listed (lacks_named hwords hcasts columns))
  unfold innerSql selectSql Dialect.dummyFrom
  split
  · rename_i table hsome
    have hfrom : Lacks (quotesOf d.composition) words "FROM".toList :=
      lacks_keyword hwords "FROM" (by decide) (by decide)
    apply (hitems.blank (hfrom.blank (htable table hsome))).of_eq
    simp
  · apply hitems.of_eq
    simp

end Vocabulary

theorem readSelect_star (rest : List Tree) :
    readSelect (readNamedCast q) (keyword "SELECT" :: keyword "*" :: keyword "FROM" :: rest) =
      none := by
  rw [readSelect, after_keyword, Option.bind_some, List.takeWhile_cons_of_pos (by simp),
    List.takeWhile_cons_of_neg (by simp), readList, List.splitOnP_eq_singleton (by simp)]
  rfl

theorem readsQuery_flat {inner : String} {named : List (Cast × String)}
    (hselect : ReadsSelect q (readNamedCast q) inner.toList named)
    (hlacks : Lacks q clauses inner.toList) : ReadsQuery q inner (named, none) := by
  obtain ⟨trees, htrees, hwords, hread⟩ := hselect
  have hwhere := hlacks.isWord_eq_false (w := "WHERE") htrees (by decide) (by decide)
  refine ⟨trees, htrees, fun tree hmem => ⟨hwhere tree hmem, (hwords tree hmem).2⟩, ?_⟩
  rw [readQuery, hread]
  rfl

theorem exists_derived_trees (inner table : String) {innerTrees : List Tree}
    (hinner : Reads q inner.toList innerTrees) (withAs : Bool) :
    ∃ rest, ReadsAs q
        ("SELECT * FROM " ++ ("(" ++ inner ++ (if withAs then ") AS " else ") ") ++
          q.style.quote table)).toList
        (keyword "SELECT" :: keyword "*" :: keyword "FROM" :: .group innerTrees :: rest) ∧
      (∀ tree ∈ rest, Tree.isWord "WHERE" tree = false ∧ Tree.isWord "ORDER" tree = false) ∧
      readAlias rest = some ⟨table, withAs⟩ := by
  have hselect := readsAs_keyword (q := q) "SELECT" (by decide)
  have hstar := readsAs_keyword (q := q) "*" (by decide)
  have hfrom := readsAs_keyword (q := q) "FROM" (by decide)
  have htable : ReadsAs q (q.style.quote table).toList [.leaf (.identifier table.toList)] :=
    .identifier table
  cases withAs with
  | false =>
      refine ⟨[.leaf (.identifier table.toList)], ?_, by simp, by simp [readAlias]⟩
      have hrest := ReadsAs.nil.blank htable
      apply (hselect.blank (hstar.blank (hfrom.blank (ReadsAs.nil.group hinner hrest)))).of_eq
      simp
  | true =>
      refine ⟨[keyword "AS", .leaf (.identifier table.toList)], ?_, by simp, by simp [readAlias]⟩
      have has := readsAs_keyword (q := q) "AS" (by decide)
      have hrest := ReadsAs.nil.blank (has.blank htable)
      apply (hselect.blank (hstar.blank (hfrom.blank (ReadsAs.nil.group hinner hrest)))).of_eq
      simp

/-- In parentheses a SELECT may have a WHERE of its own. -/
theorem readsQuery_derived {inner : String} {named : List (Cast × String)}
    (hselect : ReadsSelect (quotesOf d.composition) (readNamedCast (quotesOf d.composition))
      inner.toList named) :
    ReadsQuery (quotesOf d.composition)
      ("SELECT * FROM " ++ d.fromQuery inner (some Dialect.inlineAlias))
      (named, some ⟨Dialect.inlineAlias, d.has .allowsAs⟩) := by
  obtain ⟨_, ⟨innerTrees, hinner, rfl⟩, -, hread⟩ := hselect
  obtain ⟨rest, htrees, hwords, halias⟩ :=
    exists_derived_trees inner Dialect.inlineAlias hinner (d.has .allowsAs)
  refine ⟨_, htrees, ?_, ?_⟩
  · simp only [List.forall_mem_cons]
    refine ⟨by simp, by simp, by simp, by simp, hwords⟩
  · rw [readQuery, readSelect_star]
    simp only [readDerived, after_keyword, Option.bind_eq_bind, Option.bind_some, hread, halias]
    rfl

theorem exists_filtered_trees {query : String} {named : List (Cast × String) × Option Alias}
    (h : ReadsQuery q query named) :
    ∃ trees, ReadsAs q (query ++ " WHERE 1 = 0").toList trees ∧
      (∀ tree ∈ trees, Tree.isWord "ORDER" tree = false) ∧
      readFiltered q trees = some (named, ["1", "=", "0"]) := by
  obtain ⟨trees, htrees, hwords, hread⟩ := h
  have hwhere := readsAs_keyword (q := q) "WHERE" (by decide)
  have hone := readsAs_keyword (q := q) "1" (by decide)
  have hequals := readsAs_keyword (q := q) "=" (by decide)
  have hzero := readsAs_keyword (q := q) "0" (by decide)
  refine ⟨trees ++ keyword "WHERE" :: [keyword "1", keyword "=", keyword "0"], ?_, ?_, ?_⟩
  · apply (htrees.blank (hwhere.blank (hone.blank (hequals.blank hzero)))).of_eq
    simp
  · rw [List.forall_mem_append]
    exact ⟨fun tree hmem => (hwords tree hmem).2, by simp⟩
  · have hsplit : (trees ++ keyword "WHERE" :: [keyword "1", keyword "=", keyword "0"]).splitOnP
        (Tree.isWord "WHERE") = [trees, [keyword "1", keyword "=", keyword "0"]] := by
      rw [List.splitOnP_append_cons_of_forall_mem (fun tree hmem => (hwords tree hmem).1) _ (by simp),
        List.splitOnP_eq_singleton (by simp)]
    rw [readFiltered, hsplit]
    simp [hread, keyword, Tree.text, Tokens.Token.text]

/-- The casts of NULL in a table without rows. -/
def nullCasts (d : Dialect) (t : InlineTable) : List Cast :=
  t.types.map fun type => ⟨"NULL", emptyTarget d type⟩

theorem map_nullCast_castTargets {t : InlineTable} (hrows : t.rows = []) :
    (d.castTargets t).map d.nullCast = (nullCasts d t).map castSql := by
  have htargets : d.castTargets t =
      t.types.map fun type => ColumnSize.least.fill (d.castTemplate type) := by
    apply List.ext_getElem?
    intro i
    simp [Dialect.castTargets, InlineTable.valuesAt, hrows, ColumnSize.ofValues]
  rw [htargets, nullCasts, List.map_map, List.map_map]
  apply List.map_congr_left
  intro type _
  simp [Dialect.nullCast, nullCastTarget_eq, castSql, emptyTarget_eq, String.append_assoc]

theorem readable_nullCasts (hd : PlainComposition d.composition) (t : InlineTable) :
    ∀ cast ∈ nullCasts d t, Readable (quotesOf d.composition) cast := by
  rw [nullCasts, List.forall_mem_map]
  intro type _
  have hentry : CastsEntry d none type (ColumnSize.least.fill (d.castTemplate type))
      ⟨"NULL", emptyTarget d type⟩ := by
    rw [emptyTarget_eq]
    exact rfl
  exact readable_of_castsEntry hd (plain_fill _ (hd.castType type)) hentry

/-- The query around which the condition and the order of a table without rows are put. -/
def querySql (d : Dialect) (t : InlineTable) : String :=
  if d.has .allowsFromQuery then
    "SELECT * FROM " ++ d.fromQuery (innerSql d t.columns (nullCasts d t)) (some Dialect.inlineAlias)
  else innerSql d t.columns (nullCasts d t)

theorem emptyForm_eq {t : InlineTable} (hrows : t.rows = []) {order : Option Nat}
    (horder : Positions t order) :
    d.emptyForm t (d.castTargets t) order =
      querySql d t ++ " WHERE 1 = 0" ++
        orderSql (quotesOf d.composition) (t.orderBy.map .column) := by
  rw [← orderByName_eq horder, Dialect.emptyForm, map_nullCast_castTargets hrows]
  rfl

/-- The words that nothing may bring into the SELECT: in a derived table a condition may stand. -/
def innerClauses (d : Dialect) : List String :=
  if d.has .allowsFromQuery then rowClauses else clauses

theorem rowClauses_subset : rowClauses ⊆ clauses := by
  decide

theorem innerClauses_subset (d : Dialect) : innerClauses d ⊆ clauses := by
  unfold innerClauses
  split
  · exact rowClauses_subset
  · exact fun _ h => h

theorem rowClauses_subset_inner (d : Dialect) : rowClauses ⊆ innerClauses d := by
  unfold innerClauses
  split
  · exact fun _ h => h
  · exact rowClauses_subset

theorem lacks_dummyTable (hquiet : QuietComposition d.composition) {table : String}
    (htable : d.composition.dummyTable.value = some table) :
    Lacks q (innerClauses d) table.toList :=
  lacks_of_lacksAll (hquiet.table table htable)

theorem lacks_inner (hquiet : QuietComposition d.composition) (t : InlineTable) :
    Lacks (quotesOf d.composition) (innerClauses d)
      (innerSql d t.columns (nullCasts d t)).toList := by
  apply lacks_innerSql (innerClauses_subset d)
  · rw [nullCasts, List.forall_mem_map]
    intro type _
    apply lacks_nullCast (innerClauses_subset d)
    exact (lacks_emptyTarget hquiet _ type).mono (innerClauses_subset d)
  · intro table htable
    exact lacks_dummyTable hquiet htable

theorem lacks_derived {inner : String} (h : Lacks q rowClauses inner.toList) (table : String)
    (withAs : Bool) :
    Lacks q rowClauses ("SELECT * FROM " ++ ("(" ++ inner ++
      (if withAs then ") AS " else ") ") ++ q.style.quote table)).toList := by
  have hselect := lacks_keyword (q := q) rowClauses_subset "SELECT" (by decide) (by decide)
  have hstar := lacks_keyword (q := q) rowClauses_subset "*" (by decide) (by decide)
  have hfrom := lacks_keyword (q := q) rowClauses_subset "FROM" (by decide) (by decide)
  have htable : Lacks q rowClauses (q.style.quote table).toList := .identifier table
  cases withAs with
  | false =>
      have hrest := Lacks.nil.blank htable
      apply (hselect.blank (hstar.blank (hfrom.blank (Lacks.nil.group h hrest)))).of_eq
      simp
  | true =>
      have has := lacks_keyword (q := q) rowClauses_subset "AS" (by decide) (by decide)
      have hrest := Lacks.nil.blank (has.blank htable)
      apply (hselect.blank (hstar.blank (hfrom.blank (Lacks.nil.group h hrest)))).of_eq
      simp

theorem lacks_querySql (hquiet : QuietComposition d.composition) (t : InlineTable) :
    Lacks (quotesOf d.composition) rowClauses (querySql d t).toList := by
  have hinner := (lacks_inner hquiet t).mono (rowClauses_subset_inner d)
  unfold querySql
  split
  · exact lacks_derived hinner Dialect.inlineAlias (d.has .allowsAs)
  · exact hinner

theorem lacks_orderSql {body : String} (h : Lacks q rowClauses body.toList) (name : Option String) :
    Lacks q rowClauses (body ++ orderSql q (name.map .column)).toList := by
  cases name with
  | none =>
      apply h.of_eq
      simp [orderSql]
  | some name =>
      have horder := lacks_keyword (q := q) rowClauses_subset "ORDER" (by decide) (by decide)
      have hby := lacks_keyword (q := q) rowClauses_subset "BY" (by decide) (by decide)
      apply (h.blank (horder.blank (hby.blank (.identifier name)))).of_eq
      simp [orderSql, Dialect.orderBy, keySql]

theorem lacks_filtered {query : String} (h : Lacks q rowClauses query.toList) :
    Lacks q rowClauses (query ++ " WHERE 1 = 0").toList := by
  have hwhere : Lacks q rowClauses "WHERE".toList := .word (by decide) (by decide)
  have hone := lacks_keyword (q := q) rowClauses_subset "1" (by decide) (by decide)
  have hequals := lacks_keyword (q := q) rowClauses_subset "=" (by decide) (by decide)
  have hzero := lacks_keyword (q := q) rowClauses_subset "0" (by decide) (by decide)
  apply (h.blank (hwhere.blank (hone.blank (hequals.blank hzero)))).of_eq
  simp

theorem readsQuery_querySql (hd : PlainComposition d.composition)
    (hquiet : QuietComposition d.composition) {t : InlineTable} (hcolumns : t.columns ≠ [])
    (htypes : t.columns.length = t.types.length) :
    ReadsQuery (quotesOf d.composition) (querySql d t) ((nullCasts d t).zip t.columns,
      if d.has .allowsFromQuery then some ⟨Dialect.inlineAlias, d.has .allowsAs⟩ else none) := by
  have hreadable := readable_nullCasts hd t
  have hitems : d.named t.columns ((nullCasts d t).map castSql) ≠ [] := by
    have hne : t.types ≠ [] := by
      rw [← List.length_pos_iff, ← htypes, List.length_pos_iff]
      exact hcolumns
    simp [Dialect.named, List.zipWith_eq_nil_iff, nullCasts, hcolumns, hne]
  have hselect : ReadsSelect (quotesOf d.composition) (readNamedCast (quotesOf d.composition))
      (innerSql d t.columns (nullCasts d t)).toList ((nullCasts d t).zip t.columns) :=
    readsSelect_listed (forall₂_named t.columns _ hreadable) hitems (endsSelect_dummyFrom hd)
  unfold querySql
  by_cases hfrom : d.has .allowsFromQuery = true
  · rw [if_pos hfrom, if_pos hfrom]
    exact readsQuery_derived hselect
  · rw [if_neg hfrom, if_neg hfrom]
    -- Outside of parentheses a WHERE of the dummy table would stand beside that of the query.
    have hlacks := lacks_inner hquiet t
    rw [innerClauses, if_neg hfrom] at hlacks
    exact readsQuery_flat hselect hlacks

/-- A table without rows is written as a query that has its columns and returns nothing. -/
theorem empty_table_reads_back {registry : Registry}
    (hbuild : Builtin.registrations.build = .ok registry) {d : Dialect} (hd : Returns registry d)
    {t : InlineTable} (hvalid : t.validate = .ok ()) (hrows : t.rows = [])
    (horder : ∀ name ∈ t.orderBy, name ∈ t.columns) :
    ∃ sql reading, d.inlineSql t = .ok sql ∧
      readEmpty (quotesOf d.composition) sql = some reading ∧ KeepsColumns d t reading ∧
      Lacks (quotesOf d.composition) rowClauses sql.toList ∧
      (d.has .allowsFromQuery = false → ∀ table, d.composition.dummyTable.value = some table →
        Lacks (quotesOf d.composition) ["WHERE"] table.toList) := by
  have hplain := plainComposition_of_returns hbuild hd
  have hquiet := quietComposition_of_returns hbuild hd
  obtain ⟨hcolumns, htypes, -⟩ := fits_of_validate hvalid
  obtain ⟨order, hposition⟩ : ∃ order, t.orderPosition = .ok order := by
    rw [(judged_orderPosition t).exists_ok_iff]
    simpa [orderRequirements] using horder
  have hpositions := positions_of_orderPosition hposition
  have hsql : d.inlineSql t = .ok (d.emptyForm t (d.castTargets t) order) := by
    simp [Dialect.inlineSql, hvalid, hposition, hrows, bind, Except.bind, pure, Except.pure]
  obtain ⟨filtered, hfiltered, hunordered, hread⟩ :=
    exists_filtered_trees (readsQuery_querySql hplain hquiet hcolumns htypes)
  obtain ⟨_, ⟨all, hall, rfl⟩, hreadAll⟩ :=
    exists_ordered_trees hfiltered hunordered hread (t.orderBy.map .column)
  have hlength : (nullCasts d t).length = t.columns.length := by
    rw [nullCasts, List.length_map, htypes]
  rw [emptyForm_eq hrows hpositions] at hsql
  have hnames := List.map_snd_zip hlength.ge
  have hcasts := List.map_fst_zip hlength.le
  refine ⟨_, ⟨t.columns, nullCasts d t, _, ["1", "=", "0"], t.orderBy.map .column⟩, hsql, ?_,
    ⟨rfl, rfl, rfl, rfl, rfl⟩,
    lacks_orderSql (lacks_filtered (lacks_querySql hquiet t)) t.orderBy, ?_⟩
  · simp only [readEmpty, hall.trees?, hreadAll, Option.bind_eq_bind, Option.bind_some, hnames,
      hcasts]
    rfl
  · intro hflat table htable
    have hlacks := lacks_dummyTable (q := quotesOf d.composition) hquiet htable
    rw [innerClauses, if_neg (by simp [hflat])] at hlacks
    exact hlacks.mono (by decide)

/-- A table without rows whose names look like clauses. -/
def deceptiveTable : InlineTable where
  columns := ["a\x60 WHERE (", "UNION VALUES"]
  types := [.string, .integer]
  rows := []
  orderBy := some "UNION VALUES"

/-- The table for a MySQL that has no derived tables. -/
def deceptiveSql : String :=
  "SELECT CAST(NULL AS CHAR(1)) AS \x60a\x60\x60 WHERE (\x60, " ++
    "CAST(NULL AS SIGNED) AS \x60UNION VALUES\x60 FROM DUAL WHERE 1 = 0 ORDER BY \x60UNION VALUES\x60"

/-- The table for ClickHouse, which has derived tables and wraps the type of a NULL. -/
def deceptiveNullableSql : String :=
  "SELECT * FROM (SELECT CAST(NULL AS Nullable(String)) AS \"a\x60 WHERE (\", " ++
    "CAST(NULL AS Nullable(Int32)) AS \"UNION VALUES\") AS \"t\" WHERE 1 = 0 " ++
    "ORDER BY \"UNION VALUES\""

def deceptiveNullableReading : EmptyReading where
  columns := deceptiveTable.columns
  casts := [⟨"NULL", "Nullable(String)"⟩, ⟨"NULL", "Nullable(Int32)"⟩]
  derived := some ⟨"t", true⟩
  condition := ["1", "=", "0"]
  orderBy := some (.column "UNION VALUES")

theorem empty_table_deceptiveTable :
    deceptiveTable.validate = .ok () ∧ deceptiveTable.rows = [] ∧
      (∀ name ∈ deceptiveTable.orderBy, name ∈ deceptiveTable.columns) ∧
      (∃ registry d reading, Builtin.registrations.build = .ok registry ∧ Returns registry d ∧
        d.inlineSql deceptiveTable = .ok deceptiveSql ∧
        readEmpty (quotesOf d.composition) deceptiveSql = some reading ∧
        KeepsColumns d deceptiveTable reading ∧
        Lacks (quotesOf d.composition) rowClauses deceptiveSql.toList) ∧
      ∃ registry d, Builtin.registrations.build = .ok registry ∧ Returns registry d ∧
        d.composition.nullCast.value = some "Nullable(\x7btype\x7d)" ∧
        d.inlineSql deceptiveTable = .ok deceptiveNullableSql ∧
        readEmpty (quotesOf d.composition) deceptiveNullableSql = some deceptiveNullableReading ∧
        KeepsColumns d deceptiveTable deceptiveNullableReading ∧
        Lacks (quotesOf d.composition) rowClauses deceptiveNullableSql.toList := by
  have horder : ∀ name ∈ deceptiveTable.orderBy, name ∈ deceptiveTable.columns := by decide
  refine ⟨rfl, rfl, horder, ?_, ?_⟩
  · obtain ⟨registry, d, hbuild, hd, hsql⟩ := exists_dialect_of_run "mysql"
      (.ofProduct "MySQL" "4.0") (·.inlineSql deceptiveTable) (a := .ok deceptiveSql)
      (by decide +kernel)
    obtain ⟨sql, reading, hwritten, hread, hkeeps, hlacks, -⟩ :=
      empty_table_reads_back hbuild (.tag hd) (t := deceptiveTable) rfl rfl horder
    obtain rfl : deceptiveSql = sql := Except.ok.inj (hsql.symm.trans hwritten)
    exact ⟨registry, d, reading, hbuild, .tag hd, hsql, hread, hkeeps, hlacks⟩
  · obtain ⟨registry, d, hbuild, hd, hrun⟩ := exists_dialect_of_run "clickhouse" .unknown
      (fun d => (d.composition.nullCast.value, d.inlineSql deceptiveTable,
        readEmpty (quotesOf d.composition) deceptiveNullableSql))
      (a := (some "Nullable(\x7btype\x7d)", .ok deceptiveNullableSql,
        some deceptiveNullableReading)) (by decide +kernel)
    simp only [Prod.mk.injEq] at hrun
    obtain ⟨hwrapper, hsql, hreading⟩ := hrun
    obtain ⟨sql, reading, hwritten, hread, hkeeps, hlacks, -⟩ :=
      empty_table_reads_back hbuild (.tag hd) (t := deceptiveTable) rfl rfl horder
    obtain rfl : deceptiveNullableSql = sql := Except.ok.inj (hsql.symm.trans hwritten)
    obtain rfl : reading = deceptiveNullableReading := Option.some.inj (hread.symm.trans hreading)
    exact ⟨registry, d, hbuild, .tag hd, hwrapper, hsql, hread, hkeeps, hlacks⟩

end SqlDialects.Proofs.EmptyTables
