import SqlDialects.Proofs.ColumnSizes
import SqlDialects.Proofs.InlineReadBack
import SqlDialects.Proofs.Quotation
import SqlDialects.Proofs.TemporalLiterals

namespace SqlDialects.Proofs.CharacterTargets

open BuiltinRegistry (exists_dialect_of_run)
open CastTargets (nullCastTarget_eq)
open ColumnSizes
open InlineReadBack
open InlineReader (Cast)
open InlineReading (castSql)
open Literal (spaceForT)
open Outcome (bind_eq_ok_iff)
open Quotation (unquote? unquote?_doubled)
open Spelling (length_trimChars_le)
open TemporalLiterals
open Text.Search (replace)
open Tokens

/-- The types whose literals are texts between quotes. -/
def quotedTypes : List LogicalType :=
  [.string, .object, .date, .time, .timestamp]

def leadOf (d : Dialect) (type : LogicalType) : String :=
  if type = .string ∨ type = .object then d.composition.stringStyle.value.lead
  else if d.composition.temporalStyleOf type = .typed then type.name ++ " " else ""

/-- What the literal of a value means between its quotes. -/
def contentOf (type : LogicalType) (value : String) : String :=
  if type = .string ∨ type = .object then value else .ofList (bodyOf type value)

/-- A literal that is read, by the quotes of its dialect and to its end, as the given content. -/
def Holds (d : Dialect) (type : LogicalType) (literal content : String) : Prop :=
  ∃ body, literal = leadOf d type ++ String.ofList ('\'' :: body) ∧
    unquote? '\'' d.composition.stringStyle.value.escapesBackslash body = some (content, [])

/-- The cast of an entry: a value as a literal for which the target has room, and a
NULL as the dialect casts it. -/
inductive HoldsEntry (d : Dialect) (type : LogicalType) (target : String) (length : Nat) :
    Option String → Cast → Prop
  | null : HoldsEntry d type target length none ⟨"NULL", d.nullCastTarget target⟩
  | value {value literal : String} :
      Holds d type literal (contentOf type value) → (contentOf type value).length ≤ length →
        HoldsEntry d type target length (some value) ⟨literal, target⟩

/-- The casts of the rows of a table, as far as one column goes. -/
def HoldsColumn (d : Dialect) (t : InlineTable) (i : Nat) (type : LogicalType) (target : String)
    (length : Nat) (rows : List (List Cast)) : Prop :=
  List.Forall₂ (fun row casts => ∃ entry cast, row[i]? = some entry ∧ casts[i]? = some cast ∧
    HoldsEntry d type target length entry cast) t.rows rows

/-- The statement of a table with rows that become the given casts. -/
def Writes (d : Dialect) (t : InlineTable) (rows : List (List Cast)) (sql : String) : Prop :=
  ∃ order, t.orderPosition = .ok order ∧
    sql = if hasRowConstructors d then d.valuesForm t (rows.map (·.map castSql)) order
      else d.unionForm t (rows.map (·.map castSql)) order

section Literals

variable {d : Dialect} {type : LogicalType} {value literal : String}

theorem holds_of_string (htype : type = .string ∨ type = .object)
    (h : d.literal value type = .ok literal) : Holds d type literal (contentOf type value) := by
  have hquote : literal = d.composition.stringStyle.value.quote value := by
    rcases htype with rfl | rfl
    · exact (Except.ok.inj h).symm
    · exact (Except.ok.inj h).symm
  refine ⟨value.toList.flatMap d.composition.stringStyle.value.escape ++ ['\''], ?_, ?_⟩
  · rw [hquote, leadOf, if_pos htype]
    rfl
  · rw [contentOf, if_pos htype, stringStyle_escape_eq]
    exact unquote?_doubled (by simp) value

theorem doubled_of_isBodyChar {escapes : Bool} {c : Char} (h : isBodyChar c = true) :
    doubled '\'' escapes c = [c] := by
  have hquote : c ≠ '\'' := fun hc => absurd (hc ▸ h) (by decide)
  have hbackslash : c ≠ '\\' := fun hc => absurd (hc ▸ h) (by decide)
  simp [doubled, hquote, hbackslash]

theorem holds_of_temporal (htype : type = .date ∨ type = .time ∨ type = .timestamp)
    (h : d.literal value type = .ok literal) : Holds d type literal (contentOf type value) := by
  obtain ⟨hliteral, hbody⟩ := isBodyChar_of_literal htype h
  have hother : ¬ (type = .string ∨ type = .object) := by
    rcases htype with rfl | rfl | rfl <;> decide
  refine ⟨bodyOf type value ++ ['\''], ?_, ?_⟩
  · rw [hliteral, ofTemporal_eq, leadOf, if_neg hother]
    rfl
  · -- No character of the body needs to be doubled, so the body is written as if each had been.
    have hdoubled : bodyOf type value = (String.ofList (bodyOf type value)).toList.flatMap
        (doubled '\'' d.composition.stringStyle.value.escapesBackslash) := by
      rw [String.toList_ofList, List.flatMap_congr fun c hc => doubled_of_isBodyChar (hbody c hc)]
      simp
    rw [contentOf, if_neg hother]
    nth_rewrite 1 [hdoubled]
    exact unquote?_doubled (by simp) _

theorem holds_of_literal (hquoted : type ∈ quotedTypes) (h : d.literal value type = .ok literal) :
    Holds d type literal (contentOf type value) := by
  by_cases hstring : type = .string ∨ type = .object
  · exact holds_of_string hstring h
  · refine holds_of_temporal ?_ h
    simp only [quotedTypes, List.mem_cons, List.not_mem_nil, or_false] at hquoted
    tauto

theorem length_spaceForT (cs : List Char) : (spaceForT cs).length = cs.length := by
  induction cs with
  | nil => rfl
  | cons c cs ih =>
      rw [spaceForT]
      split
      · rfl
      · rw [List.length_cons, List.length_cons, ih]

theorem length_contentOf_le (type : LogicalType) (value : String) :
    (contentOf type value).length ≤ value.length := by
  have htrim := length_trimChars_le value.toList
  rw [String.length_toList] at htrim
  unfold contentOf bodyOf
  split
  · exact Nat.le_refl _
  · rw [String.length_ofList]
    split
    · rwa [length_spaceForT]
    · exact htrim

end Literals

section Rows

variable {d : Dialect} {t : InlineTable} {i : Nat} {type : LogicalType} {target : String}

theorem holdsEntry_of_castsEntry (hquoted : type ∈ quotedTypes) {length : Nat}
    {entry : Option String} {cast : Cast} (h : CastsEntry d entry type target cast)
    (hlength : ∀ value ∈ entry, value.length ≤ length) :
    HoldsEntry d type target length entry cast := by
  cases entry with
  | none =>
      obtain rfl := h
      rw [← nullCastTarget_eq]
      exact .null
  | some value =>
      obtain ⟨expression, other⟩ := cast
      obtain ⟨hliteral, rfl⟩ := h
      exact .value (holds_of_literal hquoted hliteral)
        (Nat.le_trans (length_contentOf_le type value) (hlength value rfl))

theorem exists_casts_of_inlineSql {sql : String} (h : d.inlineSql t = .ok sql) :
    ∃ rows, List.Forall₂ (fun row casts => CastsRow d row t.types (d.castTargets t) casts) t.rows
        rows ∧ (t.rows ≠ [] → Writes d t rows sql) := by
  simp only [Dialect.inlineSql, bind_eq_ok_iff] at h
  obtain ⟨u, hvalid, order, horder, h⟩ := h
  obtain ⟨-, htypes, hlengths⟩ := fits_of_validate hvalid
  by_cases hrows : t.rows = []
  · exact ⟨[], by rw [hrows]; exact .nil, fun hne => absurd hrows hne⟩
  · rw [if_neg (by simpa using hrows)] at h
    obtain ⟨texts, htexts, h⟩ := bind_eq_ok_iff.mp h
    obtain ⟨rows, hcasts, rfl⟩ := castRows_eq_ok
      (fun row hmem => (hlengths row hmem).trans htypes) (by simp [Dialect.castTargets]) htexts
    refine ⟨rows, hcasts, fun _ => ⟨order, horder, ?_⟩⟩
    unfold hasRowConstructors
    split at h
    · rename_i hform
      rw [if_pos hform]
      exact (Except.ok.inj h).symm
    · rename_i hform
      rw [if_neg hform]
      exact (Except.ok.inj h).symm

end Rows

theorem fill_of_no_digits (length : Nat) (template : String) :
    ColumnSize.fill ⟨length, 0, 0⟩ template =
      replace (replace (replace template "\x7blen\x7d" length.repr) "\x7bprecision\x7d" "1")
        "\x7bscale\x7d" "0" := by
  have hprecision : (ColumnSize.precision ⟨length, 0, 0⟩).repr = "1" := by
    simp only [ColumnSize.precision]
    rfl
  have hscale : (0 : Nat).repr = "0" := rfl
  simp only [ColumnSize.fill, hprecision, hscale]

/-- The target of a column between quotes has room for each literal of the column. All rows are cast
to it, and a NULL to what the dialect makes of it for a NULL. -/
theorem character_target_holds_column (d : Dialect) (t : InlineTable) (sql : String) (i : Nat)
    (type : LogicalType) (haccepted : d.inlineSql t = .ok sql) (htype : t.types[i]? = some type)
    (hquoted : type ∈ quotedTypes) :
    ∃ length target, (1 :: (t.valuesAt i).map String.length).max? = some length ∧
      target = replace (replace (replace (d.castTemplate type) "\x7blen\x7d" length.repr)
        "\x7bprecision\x7d" "1") "\x7bscale\x7d" "0" ∧
      (d.castTargets t)[i]? = some target ∧
      d.nullCastTarget target =
        (d.composition.nullCast.value.map (replace · "\x7btype\x7d" target)).getD target ∧
      ∃ rows, HoldsColumn d t i type target length rows ∧ (t.rows ≠ [] → Writes d t rows sql) := by
  have hnumeric : type.isNumeric = false := by
    revert hquoted
    cases type <;> decide
  have hsize := ofValues_of_not_isNumeric hnumeric (t.valuesAt i)
  have htarget := castTargets_eq d htype
  rw [sizeAt, hsize, fill_of_no_digits] at htarget
  refine ⟨_, _, max?_greatest 1 String.length (t.valuesAt i), rfl, htarget, ?_, ?_⟩
  · unfold Dialect.nullCastTarget
    cases d.composition.nullCast.value with
    | none => rfl
    | some wrapper => rfl
  · obtain ⟨rows, hcasts, hwrites⟩ := exists_casts_of_inlineSql haccepted
    refine ⟨rows, ?_, hwrites⟩
    obtain ⟨hlength, hcasts⟩ := List.forall₂_iff_zip.mp hcasts
    refine List.forall₂_iff_zip.mpr ⟨hlength, ?_⟩
    intro row casts hmem
    obtain ⟨entry, cast, hentry, hcast, hholds⟩ := (hcasts hmem).getElem? htype htarget
    refine ⟨entry, cast, hentry, hcast, holdsEntry_of_castsEntry hquoted hholds ?_⟩
    rintro value rfl
    apply measure_le_greatest
    exact List.mem_filterMap.mpr ⟨row, (List.of_mem_zip hmem).1, by rw [hentry]; rfl⟩

/-- Times for Oracle, which has no type for them. White space counts for the length. -/
def clockTable : InlineTable where
  columns := ["at"]
  types := [.time]
  rows := [[some "\t9:05:07.5 "], [none], [some "23:59"]]
  orderBy := some "at"

def clockSql : String :=
  "SELECT CAST('9:05:07.5' AS VARCHAR2(11)) AS \"at\" FROM DUAL " ++
    "UNION ALL SELECT CAST(NULL AS VARCHAR2(11)) FROM DUAL " ++
    "UNION ALL SELECT CAST('23:59' AS VARCHAR2(11)) FROM DUAL ORDER BY 1"

theorem character_target_clockTable :
    ∃ registry d rows, Builtin.registrations.build = .ok registry ∧
      registry.resolveTag "oracle" .unknown = .ok d ∧
      d.inlineSql clockTable = .ok clockSql ∧ clockTable.types[0]? = some .time ∧
      .time ∈ quotedTypes ∧ (d.castTargets clockTable)[0]? = some "VARCHAR2(11)" ∧
      HoldsColumn d clockTable 0 .time "VARCHAR2(11)" 11 rows ∧
      Writes d clockTable rows clockSql := by
  obtain ⟨registry, d, hbuild, hd, hrun⟩ := exists_dialect_of_run "oracle" .unknown
    (fun d => (d.inlineSql clockTable, (d.castTargets clockTable)[0]?))
    (a := (.ok clockSql, some "VARCHAR2(11)")) (by decide +kernel)
  obtain ⟨hsql, htarget⟩ := Prod.mk.inj hrun
  have hquoted : LogicalType.time ∈ quotedTypes := by decide
  obtain ⟨length, target, hlength, -, hcolumn, -, rows, hholds, hwrites⟩ :=
    character_target_holds_column d clockTable clockSql 0 .time hsql rfl hquoted
  obtain rfl : target = "VARCHAR2(11)" := Option.some.inj (hcolumn.symm.trans htarget)
  have hlongest : (1 :: (clockTable.valuesAt 0).map String.length).max? = some 11 := by decide
  obtain rfl : length = 11 := Option.some.inj (hlength.symm.trans hlongest)
  exact ⟨registry, d, rows, hbuild, hd, hsql, rfl, hquoted, htarget, hholds,
    hwrites (List.cons_ne_nil _ _)⟩

/-- Every row of a table, NULL or not, is cast to the same target in a column. -/
def CastsAllTo (d : Dialect) (t : InlineTable) (i : Nat) (target : String) : Prop :=
  ∀ rows, d.castRows t.types (d.castTargets t) t.rows = .ok rows → ∀ row ∈ rows, ∀ text,
    row[i]? = some text → ∃ expression, text = castSql ⟨expression, target⟩

def nullableTable : InlineTable where
  columns := ["v"]
  types := [.string]
  rows := [[some "ab"], [none]]
  orderBy := none

theorem not_castsAllTo_nullableTable :
    ∃ registry d, Builtin.registrations.build = .ok registry ∧
      registry.resolveTag "clickhouse" .unknown = .ok d ∧
      d.inlineSql nullableTable = .ok ("SELECT CAST('ab' AS String) AS \"v\" " ++
        "UNION ALL SELECT CAST(NULL AS Nullable(String))") ∧
      (d.castTargets nullableTable)[0]? = some "String" ∧
      ¬ CastsAllTo d nullableTable 0 "String" := by
  obtain ⟨registry, d, hbuild, hd, hrun⟩ := exists_dialect_of_run "clickhouse" .unknown
    (fun d => (d.inlineSql nullableTable, (d.castTargets nullableTable)[0]?,
      d.castRows nullableTable.types (d.castTargets nullableTable) nullableTable.rows))
    (a := (.ok ("SELECT CAST('ab' AS String) AS \"v\" " ++
      "UNION ALL SELECT CAST(NULL AS Nullable(String))"), some "String",
      .ok [["CAST('ab' AS String)"], ["CAST(NULL AS Nullable(String))"]])) (by decide +kernel)
  simp only [Prod.mk.injEq] at hrun
  obtain ⟨hsql, htarget, hcasts⟩ := hrun
  refine ⟨registry, d, hbuild, hd, hsql, htarget, ?_⟩
  intro hall
  obtain ⟨expression, htext⟩ := hall _ hcasts ["CAST(NULL AS Nullable(String))"] (by simp)
    "CAST(NULL AS Nullable(String))" rfl
  have hreverse := congrArg (fun text => text.toList.reverse) htext
  simp [castSql] at hreverse

end SqlDialects.Proofs.CharacterTargets
