import SqlDialects.Proofs.Outcome
import SqlDialects.Proofs.PlainTexts
import SqlDialects.Proofs.TableAcceptance

namespace SqlDialects.Proofs.InlineReadBack

open BuiltinRegistry (exists_dialect_of_run)
open CastTargets
open InlineReader
open InlineReading
open LiteralReading
open Outcome
open PlainTexts
open ReturnedDialects
open TableAcceptance
open Trees

/-- The cast that an entry of a row is asked to become. -/
def CastsEntry (d : Dialect) (entry : Option String) (type : LogicalType) (target : String)
    (cast : Cast) : Prop :=
  match entry with
  | none => cast = ⟨"NULL", wrapped d.composition.nullCast.value target⟩
  | some value => d.literal value type = .ok cast.expression ∧ cast.target = target

/-- The casts of a row, one for each entry, type and target. -/
inductive CastsRow (d : Dialect) :
    List (Option String) → List LogicalType → List String → List Cast → Prop
  | nil : CastsRow d [] [] [] []
  | cons {entry : Option String} {type : LogicalType} {target : String} {cast : Cast}
      {row : List (Option String)} {types : List LogicalType} {targets : List String}
      {casts : List Cast} :
      CastsEntry d entry type target cast → CastsRow d row types targets casts →
        CastsRow d (entry :: row) (type :: types) (target :: targets) (cast :: casts)

/-- Whether a dialect writes the rows of an inline table as row constructors. -/
def hasRowConstructors (d : Dialect) : Bool :=
  d.has .supportsValuesList && d.has .allowsFromQuery

/-- The key by which a table is asked to be ordered: the name of a column, or its position where a
union takes no names. -/
def orderKey (d : Dialect) (t : InlineTable) : Option OrderKey :=
  t.orderBy.bind fun name =>
    if !hasRowConstructors d && d.has .requiresUnionOrderByOrdinal then
      (t.columns.idxOf? name).map fun i => .ordinal (i + 1)
    else some (.column name)

/-- What is read is the table that was asked for. -/
structure Recovers (d : Dialect) (t : InlineTable) (reading : Reading) : Prop where
  columns : reading.columns = t.columns
  rows : List.Forall₂ (fun row casts => CastsRow d row t.types (d.castTargets t) casts) t.rows
    reading.rows
  orderBy : reading.orderBy = orderKey d t

variable {d : Dialect}

theorem castValue_eq_ok {entry : Option String} {type : LogicalType} {target text : String}
    (h : d.castValue entry type target = .ok text) :
    ∃ cast, CastsEntry d entry type target cast ∧ text = castSql cast := by
  cases entry with
  | none =>
      obtain rfl := Except.ok.inj h
      refine ⟨⟨"NULL", wrapped d.composition.nullCast.value target⟩, rfl, ?_⟩
      rw [Dialect.nullCast, nullCastTarget_eq]
      rfl
  | some value =>
      rw [Dialect.castValue] at h
      cases hliteral : d.literal value type with
      | error e => simp [hliteral, Except.map] at h
      | ok literal =>
          rw [hliteral] at h
          obtain rfl := Except.ok.inj h
          exact ⟨⟨literal, target⟩, ⟨hliteral, rfl⟩, rfl⟩

theorem castRow_eq_ok {row : List (Option String)} {types : List LogicalType}
    {targets texts : List String} (htypes : row.length = types.length)
    (htargets : types.length = targets.length) (h : d.castRow row types targets = .ok texts) :
    ∃ casts, CastsRow d row types targets casts ∧ texts = casts.map castSql := by
  induction row generalizing types targets texts with
  | nil =>
      obtain rfl : types = [] := List.eq_nil_of_length_eq_zero htypes.symm
      obtain rfl : targets = [] := List.eq_nil_of_length_eq_zero htargets.symm
      rw [Dialect.castRow.eq_def] at h
      obtain rfl := Except.ok.inj h
      exact ⟨[], .nil, rfl⟩
  | cons entry row ih =>
      obtain ⟨type, types, rfl⟩ := List.exists_cons_of_length_eq_add_one htypes.symm
      obtain ⟨target, targets, rfl⟩ := List.exists_cons_of_length_eq_add_one htargets.symm
      simp only [Dialect.castRow, bind_eq_ok_iff, pure_eq_ok_iff] at h
      obtain ⟨text, htext, more, hmore, rfl⟩ := h
      obtain ⟨cast, hcast, rfl⟩ := castValue_eq_ok htext
      obtain ⟨casts, hcasts, rfl⟩ := ih (Nat.succ.inj htypes) (Nat.succ.inj htargets) hmore
      exact ⟨cast :: casts, .cons hcast hcasts, rfl⟩

theorem castRows_eq_ok {rows : List (List (Option String))} {types : List LogicalType}
    {targets : List String} {texts : List (List String)}
    (htypes : ∀ row ∈ rows, row.length = types.length) (htargets : types.length = targets.length)
    (h : d.castRows types targets rows = .ok texts) :
    ∃ casts, List.Forall₂ (fun row casts => CastsRow d row types targets casts) rows casts ∧
      texts = casts.map (·.map castSql) := by
  induction rows generalizing texts with
  | nil =>
      obtain rfl := Except.ok.inj h
      exact ⟨[], .nil, rfl⟩
  | cons row rows ih =>
      obtain ⟨hrow, hrows⟩ := List.forall_mem_cons.mp htypes
      simp only [Dialect.castRows, bind_eq_ok_iff, pure_eq_ok_iff] at h
      obtain ⟨text, htext, more, hmore, rfl⟩ := h
      obtain ⟨casts, hcasts, rfl⟩ := castRow_eq_ok hrow htargets htext
      obtain ⟨others, hothers, rfl⟩ := ih hrows hmore
      exact ⟨casts :: others, .cons hcasts hothers, rfl⟩

theorem CastsRow.length_eq {row : List (Option String)} {types : List LogicalType}
    {targets : List String} {casts : List Cast} (h : CastsRow d row types targets casts) :
    casts.length = row.length := by
  induction h with
  | nil => rfl
  | cons hentry hrow ih => rw [List.length_cons, List.length_cons, ih]

theorem CastsRow.getElem? {row : List (Option String)} {types : List LogicalType}
    {targets : List String} {casts : List Cast} {i : Nat} {type : LogicalType} {target : String}
    (h : CastsRow d row types targets casts) (htype : types[i]? = some type)
    (htarget : targets[i]? = some target) :
    ∃ entry cast, row[i]? = some entry ∧ casts[i]? = some cast ∧
      CastsEntry d entry type target cast := by
  induction h generalizing i with
  | nil => simp at htype
  | cons hentry hrow ih =>
      cases i with
      | zero =>
          obtain rfl := Option.some.inj htype
          obtain rfl := Option.some.inj htarget
          exact ⟨_, _, rfl, rfl, hentry⟩
      | succ i => exact ih htype htarget

theorem readable_of_castsEntry (hd : PlainComposition d.composition) {entry : Option String}
    {type : LogicalType} {target : String} {cast : Cast} (htarget : Plain target.toList)
    (h : CastsEntry d entry type target cast) : Readable (quotesOf d.composition) cast := by
  have hplain : ∀ {s : String}, Plain s.toList →
      ∃ trees, ReadsBack (quotesOf d.composition) s trees := by
    intro s hs
    obtain ⟨trees, -, hreads, htext⟩ := hs.reads (q := quotesOf d.composition)
    exact ⟨trees, hreads, htext⟩
  cases entry with
  | none =>
      have hnull : ReadsExpression (quotesOf d.composition) "NULL" :=
        readsExpression_word (by decide) (by decide)
      obtain rfl := h
      exact ⟨hnull, hplain (plain_wrapped hd.nullCast htarget)⟩
  | some value =>
      obtain ⟨hliteral, rfl⟩ := h
      exact ⟨readsExpression_write hd.lead hliteral, hplain htarget⟩

theorem CastsRow.readable (hd : PlainComposition d.composition) {row : List (Option String)}
    {types : List LogicalType} {targets : List String} {casts : List Cast}
    (h : CastsRow d row types targets casts) (htargets : ∀ target ∈ targets, Plain target.toList) :
    ∀ cast ∈ casts, Readable (quotesOf d.composition) cast := by
  induction h with
  | nil => simp
  | cons hentry hrow ih =>
      obtain ⟨htarget, htargets⟩ := List.forall_mem_cons.mp htargets
      rw [List.forall_mem_cons]
      exact ⟨readable_of_castsEntry hd htarget hentry, ih htargets⟩

theorem fits_of_castsRows (hd : PlainComposition d.composition)
    {rows : List (List (Option String))} {types : List LogicalType} {targets : List String}
    {casts : List (List Cast)} {width : Nat}
    (h : List.Forall₂ (fun row casts => CastsRow d row types targets casts) rows casts)
    (hlength : ∀ row ∈ rows, row.length = width)
    (htargets : ∀ target ∈ targets, Plain target.toList) :
    ∀ row ∈ casts, row.length = width ∧
      ∀ cast ∈ row, Readable (quotesOf d.composition) cast := by
  induction h with
  | nil => simp
  | cons hrow hrows ih =>
      obtain ⟨hwidth, hlength⟩ := List.forall_mem_cons.mp hlength
      rw [List.forall_mem_cons]
      exact ⟨⟨hrow.length_eq.trans hwidth, hrow.readable hd htargets⟩, ih hlength⟩

theorem fits_of_validate {t : InlineTable} {u : Unit} (h : t.validate = .ok u) :
    t.columns ≠ [] ∧ t.columns.length = t.types.length ∧
      ∀ row ∈ t.rows, row.length = t.columns.length := by
  rw [← shapeRequirements_hold_iff, ← (judged_validate t).exists_ok_iff]
  exact ⟨u, h⟩

/-- Where the order of a table stands among its columns. -/
structure Positions (t : InlineTable) (order : Option Nat) : Prop where
  index : order = t.orderBy.bind fun name => t.columns.idxOf? name
  found : ∀ name, t.orderBy = some name →
    ∃ i, t.columns.idxOf? name = some i ∧ t.columns[i]? = some name

theorem positions_of_orderPosition {t : InlineTable} {order : Option Nat}
    (h : t.orderPosition = .ok order) : Positions t order := by
  unfold InlineTable.orderPosition at h
  split at h
  · rename_i hnone
    obtain rfl := Except.ok.inj h
    exact ⟨by simp [hnone], by simp [hnone]⟩
  · rename_i name hname
    split at h
    · rename_i i hi
      obtain rfl := Except.ok.inj h
      refine ⟨by simp [hname, hi], ?_⟩
      intro other hother
      obtain rfl : name = other := Option.some.inj (hname.symm.trans hother)
      obtain ⟨hlength, hcolumn, -⟩ := List.idxOf?_eq_some_iff.mp hi
      exact ⟨i, hi, by rw [List.getElem?_eq_getElem hlength]; simpa using hcolumn⟩
    · simp at h

theorem orderByName_eq {t : InlineTable} {order : Option Nat} (h : Positions t order) :
    d.orderByName t order =
      orderSql (quotesOf d.composition) (t.orderBy.map .column) := by
  cases hname : t.orderBy with
  | none => simp [Dialect.orderByName, h.index, hname, orderSql]
  | some name =>
      obtain ⟨i, hi, hcolumn⟩ := h.found name hname
      simp [Dialect.orderByName, h.index, hname, hi, hcolumn, orderSql, keySql,
        Dialect.quoteIdentifier, quotesOf]

theorem orderByOrdinal_eq {t : InlineTable} {order : Option Nat} :
    Positions t order →
      (match order with
        | some i => Dialect.orderBy (i + 1).repr
        | none => "") =
        orderSql (quotesOf d.composition)
          (t.orderBy.bind fun name => (t.columns.idxOf? name).map fun i => .ordinal (i + 1)) := by
  intro h
  obtain ⟨rfl, hfound⟩ := h
  cases hname : t.orderBy with
  | none => rfl
  | some name =>
      obtain ⟨i, hi, -⟩ := hfound name hname
      simp [hi, orderSql, keySql]

theorem endsSelect_dummyFrom (hd : PlainComposition d.composition) :
    EndsSelect (quotesOf d.composition) d.dummyFrom := by
  unfold Dialect.dummyFrom
  split
  · rename_i table htable
    have hplain := hd.dummyTable table htable
    obtain ⟨trees, hnest, hreads, -⟩ := hplain.plain.reads (q := quotesOf d.composition)
    refine .inr ⟨table, solid trees, rfl, ⟨trees, hreads, rfl⟩, ?_⟩
    intro tree hmem
    have hends := hplain.whole trees hnest tree (List.mem_of_mem_filter hmem)
    simpa [endsTable] using hends
  · exact .inl rfl

theorem forall₂_named (columns : List String) (casts : List Cast)
    (h : ∀ cast ∈ casts, Readable (quotesOf d.composition) cast) :
    List.Forall₂ (fun item pair => ReadsItem (quotesOf d.composition)
        (readNamedCast (quotesOf d.composition)) item.toList pair)
      (d.named columns (casts.map castSql)) (casts.zip columns) := by
  induction casts generalizing columns with
  | nil => simp [Dialect.named]
  | cons cast casts ih =>
      obtain ⟨hcast, hcasts⟩ := List.forall_mem_cons.mp h
      cases columns with
      | nil => simp [Dialect.named]
      | cons column columns => exact .cons (readsItem_named hcast column) (ih columns hcasts)

/-- A branch of a union. -/
def selectSql (d : Dialect) (items : List String) : String :=
  "SELECT " ++ Dialect.listed items ++ d.dummyFrom

theorem derived_values_text (list word table names order : String) :
    "SELECT * FROM " ++ ("(" ++ ("VALUES " ++ list) ++ (")" ++ word ++ " ") ++ table) ++ " (" ++
        names ++ ")" ++ order =
      "SELECT * FROM (VALUES " ++ list ++ ")" ++ (word ++ " " ++ table ++ " (" ++ names ++ ")") ++
        order := by
  apply String.toList_inj.mp
  simp

theorem orderKey_of_names {t : InlineTable}
    (h : (!hasRowConstructors d && d.has .requiresUnionOrderByOrdinal) = false) :
    orderKey d t = t.orderBy.map .column := by
  rw [orderKey, h, Option.map_eq_bind]
  rfl

theorem valuesForm_eq {t : InlineTable} {casts : List (List Cast)} {order : Option Nat}
    (hform : hasRowConstructors d = true) (horder : Positions t order) :
    d.valuesForm t (casts.map (·.map castSql)) order =
      valuesSql (quotesOf d.composition) (if d.has .allowsAs then " AS" else "")
        Dialect.inlineAlias casts t.columns ++
      orderSql (quotesOf d.composition) (orderKey d t) := by
  have hword : (if d.has .allowsAs then ") AS " else ") ") =
      ")" ++ (if d.has .allowsAs then " AS" else "") ++ " " := by
    split
    · rfl
    · rfl
  rw [orderKey_of_names (by simp [hform]), ← orderByName_eq horder]
  unfold Dialect.valuesForm Dialect.fromQuery
  simp only [Option.some_or, hword, List.map_map]
  exact derived_values_text _ _ _ _ _

theorem unionOrder_eq {t : InlineTable} {order : Option Nat}
    (hform : hasRowConstructors d = false) :
    Positions t order →
      (if d.has .requiresUnionOrderByOrdinal then
          match order with
          | some i => Dialect.orderBy (i + 1).repr
          | none => ""
        else d.orderByName t order) =
        orderSql (quotesOf d.composition) (orderKey d t) := by
  intro horder
  by_cases hordinal : d.has .requiresUnionOrderByOrdinal = true
  · rw [if_pos hordinal, orderByOrdinal_eq (d := d) horder]
    simp [orderKey, hform, hordinal]
  · rw [if_neg hordinal, orderByName_eq horder, orderKey_of_names (by simp [hordinal])]

theorem unionForm_eq {t : InlineTable} {first : List Cast} {others : List (List Cast)}
    {order : Option Nat} (hform : hasRowConstructors d = false) (horder : Positions t order) :
    d.unionForm t ((first :: others).map (·.map castSql)) order =
      " UNION ALL ".intercalate (selectSql d (d.named t.columns (first.map castSql)) ::
        others.map fun row => selectSql d (row.map castSql)) ++
      orderSql (quotesOf d.composition) (orderKey d t) := by
  rw [← unionOrder_eq hform horder]
  simp only [Dialect.unionForm, List.map_cons, List.map_map]
  rfl

theorem readInline_valuesForm {t : InlineTable} {casts : List (List Cast)} {order : Option Nat}
    (hform : hasRowConstructors d = true) (horder : Positions t order) (hcasts : casts ≠ [])
    (hcolumns : t.columns ≠ [])
    (hrow : ∀ row ∈ casts, row ≠ [] ∧ ∀ cast ∈ row, Readable (quotesOf d.composition) cast) :
    readInline (quotesOf d.composition) (d.valuesForm t (casts.map (·.map castSql)) order) =
      some ⟨t.columns, casts, orderKey d t⟩ := by
  have hword : (if d.has .allowsAs then " AS" else "") = "" ∨
      (if d.has .allowsAs then " AS" else "") = " AS" := by
    split
    · exact .inr rfl
    · exact .inl rfl
  obtain ⟨trees, htrees, hnoOrder, hread⟩ :=
    readBody_values hword Dialect.inlineAlias hcasts hcolumns hrow
  rw [valuesForm_eq hform horder]
  exact readInline_eq htrees hnoOrder hread _

theorem readInline_unionForm (hd : PlainComposition d.composition) {t : InlineTable}
    {casts : List (List Cast)} {order : Option Nat} (hform : hasRowConstructors d = false)
    (horder : Positions t order) (hcasts : casts ≠ []) (hcolumns : t.columns ≠ [])
    (hlength : ∀ row ∈ casts, row.length = t.columns.length)
    (hrow : ∀ row ∈ casts, row ≠ [] ∧ ∀ cast ∈ row, Readable (quotesOf d.composition) cast) :
    readInline (quotesOf d.composition) (d.unionForm t (casts.map (·.map castSql)) order) =
      some ⟨t.columns, casts, orderKey d t⟩ := by
  obtain ⟨first, others, rfl⟩ := List.exists_cons_of_ne_nil hcasts
  obtain ⟨⟨hfirstNe, hfirst⟩, hothers⟩ := List.forall_mem_cons.mp hrow
  have hfirstLength : first.length = t.columns.length := hlength first List.mem_cons_self
  have hnamedNe : d.named t.columns (first.map castSql) ≠ [] := by
    simp [Dialect.named, List.zipWith_eq_nil_iff, hfirstNe, hcolumns]
  have hselect : ReadsSelect (quotesOf d.composition) (readNamedCast (quotesOf d.composition))
      (selectSql d (d.named t.columns (first.map castSql))).toList (first.zip t.columns) :=
    readsSelect_listed (forall₂_named t.columns first hfirst) hnamedNe (endsSelect_dummyFrom hd)
  have hselects : List.Forall₂ (fun select row =>
        ReadsSelect (quotesOf d.composition) (readCast (quotesOf d.composition)) select.toList row)
      (others.map fun row => selectSql d (row.map castSql)) others := by
    rw [List.forall₂_map_left_iff, List.forall₂_same]
    intro row hmem
    obtain ⟨hne, hreadable⟩ := hothers row hmem
    refine readsSelect_listed ?_ (by simpa using hne) (endsSelect_dummyFrom hd)
    rw [List.forall₂_map_left_iff, List.forall₂_same]
    intro cast hcast
    exact readsItem_cast (hreadable cast hcast)
  obtain ⟨trees, htrees, hnoOrder, hread⟩ := readBody_union hselect hselects
  rw [List.map_snd_zip (by omega), List.map_fst_zip (by omega)] at hread
  rw [unionForm_eq hform horder]
  exact readInline_eq htrees hnoOrder hread _

/-- Inline SQL of a built-in dialect reads back to the table that was asked for. -/
theorem inlineSql_reads_back {registry : Registry}
    (hbuild : Builtin.registrations.build = .ok registry) {d : Dialect} (hd : Returns registry d)
    {t : InlineTable} (hrows : t.rows ≠ []) {sql : String} (hsql : d.inlineSql t = .ok sql) :
    ∃ reading, readInline (quotesOf d.composition) sql = some reading ∧ Recovers d t reading := by
  have hplain := plainComposition_of_returns hbuild hd
  have htargets : ∀ target ∈ d.castTargets t, Plain target.toList :=
    fun target hmem => plain_castTarget (fun type => hplain.castType type) hmem
  simp only [Dialect.inlineSql, bind_eq_ok_iff] at hsql
  obtain ⟨u, hvalid, order, horder, hsql⟩ := hsql
  obtain ⟨hcolumns, htypes, hlengths⟩ := fits_of_validate hvalid
  have hpositions := positions_of_orderPosition horder
  rw [if_neg (by simpa using hrows)] at hsql
  obtain ⟨texts, htexts, hsql⟩ := bind_eq_ok_iff.mp hsql
  obtain ⟨casts, hcasts, rfl⟩ := castRows_eq_ok (fun row hmem => (hlengths row hmem).trans htypes)
    (by simp [Dialect.castTargets]) htexts
  have hrecovers : Recovers d t ⟨t.columns, casts, orderKey d t⟩ := ⟨rfl, hcasts, rfl⟩
  refine ⟨_, ?_, hrecovers⟩
  have hcastsNe : casts ≠ [] := by
    rintro rfl
    exact hrows (List.forall₂_nil_right_iff.mp hcasts)
  have hfits := fits_of_castsRows hplain hcasts hlengths htargets
  have hrow : ∀ row ∈ casts, row ≠ [] ∧
      ∀ cast ∈ row, Readable (quotesOf d.composition) cast := by
    intro row hmem
    obtain ⟨hlength, hreadable⟩ := hfits row hmem
    refine ⟨?_, hreadable⟩
    rintro rfl
    exact hcolumns (List.eq_nil_of_length_eq_zero hlength.symm)
  split at hsql
  · rename_i hform
    obtain rfl := Except.ok.inj hsql
    exact readInline_valuesForm hform hpositions hcastsNe hcolumns hrow
  · rename_i hform
    obtain rfl := Except.ok.inj hsql
    have hunion : hasRowConstructors d = false := by simpa [hasRowConstructors] using hform
    have hlength : ∀ row ∈ casts, row.length = t.columns.length :=
      fun row hmem => (hfits row hmem).1
    exact readInline_unionForm hplain hunion hpositions hcastsNe hcolumns hlength hrow

/-- A table whose names and values look like pieces of a statement. -/
def disguisedTable : InlineTable where
  columns := ["a`, CAST(", "n\"b"]
  types := [.string, .integer]
  rows := [[some "it's \\', NULL AS \"", some "7"], [none, some "-12"]]
  orderBy := some "n\"b"

/-- The table for MySQL, which doubles the backslash of the value and orders by position. -/
def disguisedSql : String :=
  "SELECT CAST('it''s \\\\'', NULL AS \"' AS CHAR(18)) AS `a``, CAST(`, " ++
    "CAST(7 AS SIGNED) AS `n\"b` " ++
    "UNION ALL SELECT CAST(NULL AS CHAR(18)), CAST(-12 AS SIGNED) ORDER BY 2"

/-- The table for ClickHouse, whose types take no NULL unless they are wrapped. -/
def disguisedNullableSql : String :=
  "SELECT CAST('it''s \\\\'', NULL AS \"' AS String) AS \"a\x60, CAST(\", " ++
    "CAST(7 AS Int32) AS \"n\"\"b\" " ++
    "UNION ALL SELECT CAST(NULL AS Nullable(String)), CAST(-12 AS Int32) ORDER BY 2"

def disguisedNullableReading : Reading where
  columns := disguisedTable.columns
  rows := [[⟨"'it''s \\\\'', NULL AS \"'", "String"⟩, ⟨"7", "Int32"⟩],
    [⟨"NULL", "Nullable(String)"⟩, ⟨"-12", "Int32"⟩]]
  orderBy := some (.ordinal 2)

theorem readInline_disguisedSql :
    disguisedTable.rows ≠ [] ∧
      (∃ registry d reading, Builtin.registrations.build = .ok registry ∧ Returns registry d ∧
        d.inlineSql disguisedTable = .ok disguisedSql ∧
        readInline (quotesOf d.composition) disguisedSql = some reading ∧
        Recovers d disguisedTable reading) ∧
      ∃ registry d, Builtin.registrations.build = .ok registry ∧ Returns registry d ∧
        d.composition.nullCast.value = some "Nullable(\x7btype\x7d)" ∧
        d.inlineSql disguisedTable = .ok disguisedNullableSql ∧
        readInline (quotesOf d.composition) disguisedNullableSql = some disguisedNullableReading ∧
        Recovers d disguisedTable disguisedNullableReading := by
  have hrows : disguisedTable.rows ≠ [] := by decide
  refine ⟨hrows, ?_, ?_⟩
  · obtain ⟨registry, d, hbuild, hd, hsql⟩ := exists_dialect_of_run "mysql"
      (.ofProduct "MySQL" "5.7") (·.inlineSql disguisedTable) (a := .ok disguisedSql)
      (by decide +kernel)
    obtain ⟨reading, hread, hrecovers⟩ := inlineSql_reads_back hbuild (.tag hd) hrows hsql
    exact ⟨registry, d, reading, hbuild, .tag hd, hsql, hread, hrecovers⟩
  · obtain ⟨registry, d, hbuild, hd, hrun⟩ := exists_dialect_of_run "clickhouse" .unknown
      (fun d => (d.composition.nullCast.value, d.inlineSql disguisedTable,
        readInline (quotesOf d.composition) disguisedNullableSql))
      (a := (some "Nullable(\x7btype\x7d)", .ok disguisedNullableSql,
        some disguisedNullableReading)) (by decide +kernel)
    simp only [Prod.mk.injEq] at hrun
    obtain ⟨hwrapper, hsql, hreading⟩ := hrun
    obtain ⟨reading, hread, hrecovers⟩ := inlineSql_reads_back hbuild (.tag hd) hrows hsql
    obtain rfl : reading = disguisedNullableReading :=
      Option.some.inj (hread.symm.trans hreading)
    exact ⟨registry, d, hbuild, .tag hd, hwrapper, hsql, hread, hrecovers⟩

end SqlDialects.Proofs.InlineReadBack
