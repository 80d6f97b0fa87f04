import Mathlib.Logic.Basic
import SqlDialects.InlineSql

namespace SqlDialects.Proofs.TableAcceptance

open Text (trimChars)

/-- Whether a value is a literal of a type, however an engine would write it. -/
def isLiteral (value : String) (type : LogicalType) : Bool :=
  let text := trimChars value.toList
  match type with
  | .string | .object => true
  | .integer => (Numeral.int32? text).isSome
  | .long => (Numeral.int64? text).isSome
  | .numeric | .double => Numeral.isDecimal text
  | .boolean => (Literal.truth? value).isSome
  | .date => (Calendar.date? text).isSome
  | .time => (Calendar.time? text).isSome
  | .timestamp => (Calendar.timestamp? text).isSome

structure Requirement where
  holds : Prop
  error : Error

/-- The first of some requirements that does not hold has the given error. -/
inductive FirstBroken : List Requirement → Error → Prop
  | here {r : Requirement} {rest : List Requirement} : ¬ r.holds → FirstBroken (r :: rest) r.error
  | there {r : Requirement} {rest : List Requirement} {e : Error} :
      r.holds → FirstBroken rest e → FirstBroken (r :: rest) e

/-- An outcome that is a success if all requirements hold, and otherwise the error of the first one
that does not. -/
inductive Judged {α : Type} (requirements : List Requirement) : Except Error α → Prop
  | met (a : α) : (∀ r ∈ requirements, r.holds) → Judged requirements (.ok a)
  | broken {e : Error} : FirstBroken requirements e → Judged requirements (.error e)

/-- The values of a row that are not NULL, with the types of their columns. -/
def typedValues (types : List LogicalType) (row : List (Option String)) :
    List (String × LogicalType) :=
  (row.zip types).filterMap fun (entry, type) => entry.map (·, type)

def rowRequirement (width : Nat) : List (Option String) × Nat → Requirement
  | (row, index) => ⟨row.length = width, .schema (.rowLength index row.length width)⟩

def valueRequirement : String × LogicalType → Requirement
  | (value, type) => ⟨isLiteral value type = true, .literal value type.name⟩

def shapeRequirements (t : InlineTable) : List Requirement :=
  ⟨t.columns ≠ [], .schema .noColumns⟩ ::
    ⟨t.columns.length = t.types.length,
      .schema (.typeCount t.columns.length t.types.length)⟩ ::
    t.rows.zipIdx.map (rowRequirement t.columns.length)

def orderRequirements (t : InlineTable) : List Requirement :=
  t.orderBy.toList.map fun name => ⟨name ∈ t.columns, .schema (.unknownOrderColumn name)⟩

/-- The values are literals, from the first row to the last and in each row from left to right. -/
def valueRequirements (t : InlineTable) : List Requirement :=
  (t.rows.flatMap (typedValues t.types)).map valueRequirement

/-- All that a table has to meet, in the order in which it is asked. -/
def requirements (t : InlineTable) : List Requirement :=
  shapeRequirements t ++ (orderRequirements t ++ valueRequirements t)

/-- A table that can be written. -/
structure Acceptable (t : InlineTable) : Prop where
  columns : t.columns ≠ []
  types : t.columns.length = t.types.length
  rows : ∀ row ∈ t.rows, row.length = t.columns.length
  order : ∀ name ∈ t.orderBy, name ∈ t.columns
  values : ∀ row ∈ t.rows, ∀ value type, (some value, type) ∈ row.zip t.types →
    isLiteral value type = true

variable {α β : Type} {rs more : List Requirement} {r : Requirement} {e : Error}

theorem FirstBroken.not_met (h : FirstBroken rs e) : ¬ ∀ r ∈ rs, r.holds := by
  intro hmet
  induction h with
  | here hbroken => exact hbroken (hmet _ List.mem_cons_self)
  | there _ _ ih => exact ih fun r hr => hmet r (List.mem_cons_of_mem _ hr)

theorem FirstBroken.exists_mem (h : FirstBroken rs e) : ∃ r ∈ rs, r.error = e := by
  induction h with
  | @here r rest _ => exact ⟨r, List.mem_cons_self, rfl⟩
  | there _ _ ih =>
      obtain ⟨r, hr, rfl⟩ := ih
      exact ⟨r, List.mem_cons_of_mem _ hr, rfl⟩

theorem FirstBroken.unique {other : Error} (h : FirstBroken rs e)
    (hother : FirstBroken rs other) : e = other := by
  induction h with
  | here hbroken =>
      cases hother with
      | here => rfl
      | there hholds _ => exact absurd hholds hbroken
  | there hholds _ ih =>
      cases hother with
      | here hbroken => exact absurd hholds hbroken
      | there _ hrest => exact ih hrest

theorem FirstBroken.append (h : FirstBroken rs e) (more : List Requirement) :
    FirstBroken (rs ++ more) e := by
  induction h with
  | here hbroken => exact .here hbroken
  | there hholds _ ih => exact .there hholds ih

theorem FirstBroken.after (h : FirstBroken more e) (hmet : ∀ r ∈ rs, r.holds) :
    FirstBroken (rs ++ more) e := by
  induction rs with
  | nil => exact h
  | cons r rest ih =>
      obtain ⟨hr, hrest⟩ := List.forall_mem_cons.mp hmet
      exact .there hr (ih hrest)

theorem Judged.exists_ok_iff {outcome : Except Error α} (h : Judged rs outcome) :
    (∃ a, outcome = .ok a) ↔ ∀ r ∈ rs, r.holds := by
  cases h with
  | met a hmet => exact ⟨fun _ => hmet, fun _ => ⟨a, rfl⟩⟩
  | broken hbroken =>
      constructor
      · rintro ⟨a, ha⟩
        simp at ha
      · intro hmet
        exact absurd hmet hbroken.not_met

theorem Judged.eq_error_iff {outcome : Except Error α} (h : Judged rs outcome) :
    outcome = .error e ↔ FirstBroken rs e := by
  cases h with
  | met a hmet =>
      simp only [reduceCtorEq, false_iff]
      intro hbroken
      exact hbroken.not_met hmet
  | broken hbroken =>
      constructor
      · intro herror
        obtain rfl := Except.error.inj herror
        exact hbroken
      · intro hother
        rw [hbroken.unique hother]

theorem Judged.cons {outcome : Except Error α} (hr : r.holds) (h : Judged rs outcome) :
    Judged (r :: rs) outcome := by
  cases h with
  | met a hmet => exact .met a (List.forall_mem_cons.mpr ⟨hr, hmet⟩)
  | broken hbroken => exact .broken (.there hr hbroken)

theorem Judged.bind {first : Except Error α} {next : α → Except Error β} (h : Judged rs first)
    (hnext : ∀ a, Judged more (next a)) : Judged (rs ++ more) (first >>= next) := by
  cases h with
  | broken hbroken => exact .broken (hbroken.append more)
  | met a hmet =>
      change Judged (rs ++ more) (next a)
      have hrest := hnext a
      generalize next a = outcome at hrest ⊢
      cases hrest with
      | met b hmore => exact .met b (List.forall_mem_append.mpr ⟨hmet, hmore⟩)
      | broken hbroken => exact .broken (hbroken.after hmet)

theorem Judged.map {first : Except Error α} (h : Judged rs first) (f : α → β) :
    Judged rs (first.map f) := by
  cases h with
  | met a hmet => exact .met (f a) hmet
  | broken hbroken => exact .broken hbroken

theorem judged_rows (width start : Nat) (rows : List (List (Option String))) :
    Judged ((rows.zipIdx start).map (rowRequirement width))
      (match InlineTable.unevenRow? width start rows with
        | some (row, found) => .error (.schema (.rowLength row found width))
        | none => .ok ()) := by
  induction rows generalizing start with
  | nil => exact .met () (by simp)
  | cons row rows ih =>
      rw [List.zipIdx_cons, List.map_cons, InlineTable.unevenRow?]
      by_cases hrow : row.length = width
      · rw [if_pos hrow]
        exact (ih (start + 1)).cons hrow
      · rw [if_neg hrow]
        exact .broken (.here hrow)

theorem judged_validate (t : InlineTable) : Judged (shapeRequirements t) t.validate := by
  unfold InlineTable.validate shapeRequirements
  by_cases hcolumns : t.columns = []
  · rw [if_pos (by simpa using hcolumns)]
    exact .broken (.here (not_not.mpr hcolumns))
  · rw [if_neg (by simpa using hcolumns)]
    refine Judged.cons hcolumns ?_
    by_cases htypes : t.columns.length = t.types.length
    · rw [if_neg (not_not.mpr htypes)]
      exact (judged_rows _ 0 t.rows).cons htypes
    · rw [if_pos htypes]
      exact .broken (.here htypes)

theorem judged_orderPosition (t : InlineTable) :
    Judged (orderRequirements t) t.orderPosition := by
  unfold InlineTable.orderPosition orderRequirements
  cases t.orderBy with
  | none => exact .met none (by simp)
  | some name =>
      cases hindex : t.columns.idxOf? name with
      | none =>
          have hunknown : name ∉ t.columns := List.idxOf?_eq_none_iff.mp hindex
          simp only [hindex]
          exact .broken (.here hunknown)
      | some i =>
          have hmem : name ∈ t.columns := by
            have hsome : (t.columns.idxOf? name).isSome := by simp [hindex]
            simpa using hsome
          simp only [hindex]
          exact .met (some i) (by simpa using hmem)

theorem isSome_write? (c : Composition) (value : String) (type : LogicalType) :
    (Literal.write? c value type).isSome = isLiteral value type := by
  cases type with
  | string => rfl
  | object => rfl
  | numeric => exact Bool.eq_iff_iff.mpr Option.isSome_ite
  | double => exact Bool.eq_iff_iff.mpr Option.isSome_ite
  | integer => rw [Literal.write?, isLiteral, Option.isSome_map]
  | long => rw [Literal.write?, isLiteral, Option.isSome_map]
  | boolean => simp [Literal.write?, isLiteral]
  | date => simp [Literal.write?, isLiteral]
  | time => simp [Literal.write?, isLiteral]
  | timestamp => simp [Literal.write?, isLiteral]

theorem judged_literal (d : Dialect) (value : String) (type : LogicalType) :
    Judged [valueRequirement (value, type)] (d.literal value type) := by
  have hwrite := isSome_write? d.composition value type
  unfold Dialect.literal Literal.write
  cases hliteral : Literal.write? d.composition value type with
  | none =>
      have hvalue : ¬ isLiteral value type = true := by simp [← hwrite, hliteral]
      exact .broken (.here (r := valueRequirement (value, type)) hvalue)
  | some literal =>
      have hvalue : isLiteral value type = true := by simp [← hwrite, hliteral]
      exact .met literal (List.forall_mem_singleton.mpr hvalue)

theorem exists_literal_iff (d : Dialect) (value : String) (type : LogicalType) :
    (∃ literal, d.literal value type = .ok literal) ↔ isLiteral value type = true := by
  rw [(judged_literal d value type).exists_ok_iff, List.forall_mem_singleton]
  rfl

theorem judged_castRow (d : Dialect) (row : List (Option String)) {types : List LogicalType}
    {targets : List String} (h : types.length = targets.length) :
    Judged ((typedValues types row).map valueRequirement) (d.castRow row types targets) := by
  induction row generalizing types targets with
  | nil => exact .met [] (by simp [typedValues])
  | cons entry row ih =>
      cases types with
      | nil => exact .met [] (by simp [typedValues])
      | cons type types =>
          obtain ⟨target, targets, rfl⟩ := List.exists_cons_of_length_eq_add_one h.symm
          have hrow := ih (Nat.succ.inj h)
          -- The entries that follow are judged whatever the first one is cast to.
          have hcasts : ∀ cast : String, Judged ((typedValues types row).map valueRequirement)
              (d.castRow row types targets >>= fun casts => pure (cast :: casts)) :=
            fun cast => hrow.map (cast :: ·)
          cases entry with
          | none => exact hcasts (d.nullCast target)
          | some value => exact ((judged_literal d value type).map _).bind hcasts

theorem judged_castRows (d : Dialect) (rows : List (List (Option String)))
    {types : List LogicalType} {targets : List String} (h : types.length = targets.length) :
    Judged ((rows.flatMap (typedValues types)).map valueRequirement)
      (d.castRows types targets rows) := by
  induction rows with
  | nil => exact .met [] (by simp)
  | cons row rows ih =>
      rw [List.flatMap_cons, List.map_append]
      exact (judged_castRow d row h).bind fun casts => ih.map (casts :: ·)

theorem judged_inlineSql (d : Dialect) (t : InlineTable) :
    Judged (requirements t) (d.inlineSql t) := by
  refine (judged_validate t).bind fun _ => ?_
  refine (judged_orderPosition t).bind fun order => ?_
  have htargets : t.types.length = (d.castTargets t).length := by simp [Dialect.castTargets]
  by_cases hrows : t.rows = []
  · have hnone : valueRequirements t = [] := by simp [valueRequirements, hrows]
    rw [hnone, if_pos (by simpa using hrows)]
    exact .met _ (by simp)
  · rw [if_neg (by simpa using hrows), ← List.append_nil (valueRequirements t)]
    refine (judged_castRows d t.rows htargets).bind fun casts => ?_
    split
    · exact .met _ (by simp)
    · exact .met _ (by simp)

theorem rowRequirements_hold_iff (width : Nat) (rows : List (List (Option String))) :
    (∀ r ∈ rows.zipIdx.map (rowRequirement width), r.holds) ↔
      ∀ row ∈ rows, row.length = width := by
  rw [List.forall_mem_map]
  constructor
  · intro h row hrow
    obtain ⟨i, hi, rfl⟩ := List.getElem_of_mem hrow
    exact h (rows[i], i) (List.mem_zipIdx_iff_getElem?.mpr (List.getElem?_eq_getElem hi))
  · rintro h ⟨row, i⟩ hmem
    exact h row (List.fst_mem_of_mem_zipIdx hmem)

theorem shapeRequirements_hold_iff (t : InlineTable) :
    (∀ r ∈ shapeRequirements t, r.holds) ↔ t.columns ≠ [] ∧ t.columns.length = t.types.length ∧
      ∀ row ∈ t.rows, row.length = t.columns.length := by
  rw [shapeRequirements, List.forall_mem_cons, List.forall_mem_cons, rowRequirements_hold_iff]

theorem mem_typedValues_iff {types : List LogicalType} {row : List (Option String)}
    {value : String} {type : LogicalType} :
    (value, type) ∈ typedValues types row ↔ (some value, type) ∈ row.zip types := by
  simp only [typedValues, List.mem_filterMap, Option.map_eq_some_iff, Prod.mk.injEq]
  constructor
  · rintro ⟨⟨entry, other⟩, hmem, found, rfl, rfl, rfl⟩
    exact hmem
  · intro hmem
    exact ⟨_, hmem, value, rfl, rfl, rfl⟩

theorem valueRequirements_hold_iff (t : InlineTable) :
    (∀ r ∈ valueRequirements t, r.holds) ↔
      ∀ row ∈ t.rows, ∀ value type, (some value, type) ∈ row.zip t.types →
        isLiteral value type = true := by
  rw [valueRequirements, List.forall_mem_map]
  constructor
  · intro h row hrow value type hmem
    exact h (value, type) (List.mem_flatMap.mpr ⟨row, hrow, mem_typedValues_iff.mpr hmem⟩)
  · rintro h ⟨value, type⟩ hmem
    obtain ⟨row, hrow, hvalue⟩ := List.mem_flatMap.mp hmem
    exact h row hrow value type (mem_typedValues_iff.mp hvalue)

theorem requirements_hold_iff (t : InlineTable) :
    (∀ r ∈ requirements t, r.holds) ↔ Acceptable t := by
  have horder : (∀ r ∈ orderRequirements t, r.holds) ↔ ∀ name ∈ t.orderBy, name ∈ t.columns := by
    simp [orderRequirements]
  rw [requirements, List.forall_mem_append, List.forall_mem_append, horder,
    valueRequirements_hold_iff, shapeRequirements_hold_iff]
  constructor
  · rintro ⟨⟨hcolumns, htypes, hrows⟩, hname, hvalues⟩
    exact ⟨hcolumns, htypes, hrows, hname, hvalues⟩
  · intro h
    exact ⟨⟨h.columns, h.types, h.rows⟩, h.order, h.values⟩

theorem exists_inlineSql_iff (d : Dialect) (t : InlineTable) :
    (∃ sql, d.inlineSql t = .ok sql) ↔ Acceptable t := by
  rw [(judged_inlineSql d t).exists_ok_iff, requirements_hold_iff]

theorem acceptable_iff (t : InlineTable) :
    Acceptable t ↔ (t.columns ≠ [] ∧ t.columns.length = t.types.length ∧
      ∀ row ∈ t.rows, row.length = t.columns.length) ∧ (∀ name ∈ t.orderBy, name ∈ t.columns) ∧
      ∀ entry ∈ t.rows.flatMap (typedValues t.types), isLiteral entry.1 entry.2 = true := by
  have horder : (∀ r ∈ orderRequirements t, r.holds) ↔ ∀ name ∈ t.orderBy, name ∈ t.columns := by
    simp [orderRequirements]
  rw [← requirements_hold_iff, requirements, List.forall_mem_append, List.forall_mem_append,
    shapeRequirements_hold_iff, horder, valueRequirements, List.forall_mem_map]
  rfl

instance (t : InlineTable) : Decidable (Acceptable t) :=
  decidable_of_iff' _ (acceptable_iff t)

/-- Whether a table is accepted, and which error it is refused with, is the same for all dialects. A
table without rows is accepted if its columns fit together. -/
theorem acceptance_ignores_dialect (t : InlineTable) :
    (∀ d : Dialect, (∃ sql, d.inlineSql t = .ok sql) ↔ Acceptable t) ∧
    (∀ (d : Dialect) (e : Error), d.inlineSql t = .error e ↔ FirstBroken (requirements t) e) ∧
    (t.columns ≠ [] → t.columns.length = t.types.length → t.rows = [] →
      (∀ name ∈ t.orderBy, name ∈ t.columns) → ∀ d : Dialect, ∃ sql, d.inlineSql t = .ok sql) := by
  have haccepted : ∀ d : Dialect, (∃ sql, d.inlineSql t = .ok sql) ↔ Acceptable t := by
    intro d
    rw [(judged_inlineSql d t).exists_ok_iff, requirements_hold_iff]
  refine ⟨haccepted, fun d e => (judged_inlineSql d t).eq_error_iff, ?_⟩
  intro hcolumns htypes hrows horder d
  exact (haccepted d).mpr ⟨hcolumns, htypes, by simp [hrows], horder, by simp [hrows]⟩

def flawedTable : InlineTable where
  columns := ["id", "on"]
  types := [.integer, .date]
  rows := [[some " 7 ", none], [some "7x", some "2024-02-30"]]
  orderBy := some "on"

def withoutRows (t : InlineTable) : InlineTable :=
  { t with rows := [] }

theorem acceptance_flawedTable :
    (∀ d : Dialect, d.inlineSql flawedTable = .error (.literal "7x" "INTEGER")) ∧
    ((withoutRows flawedTable).columns ≠ [] ∧
      (withoutRows flawedTable).columns.length = (withoutRows flawedTable).types.length ∧
      (withoutRows flawedTable).rows = [] ∧
      ∀ name ∈ (withoutRows flawedTable).orderBy, name ∈ (withoutRows flawedTable).columns) ∧
    ∀ d : Dialect, ∃ sql, d.inlineSql (withoutRows flawedTable) = .ok sql := by
  have hread : isLiteral " 7 " .integer = true := by decide +kernel
  have hunread : ¬ isLiteral "7x" .integer = true := by decide +kernel
  have hbroken : FirstBroken (requirements flawedTable) (.literal "7x" "INTEGER") :=
    .there (List.cons_ne_nil _ _) <| .there rfl <| .there rfl <| .there rfl <|
      .there (List.mem_cons_of_mem "id" List.mem_cons_self) <| .there hread <| .here hunread
  refine ⟨fun d => ((acceptance_ignores_dialect flawedTable).2.1 d _).mpr hbroken, ?_, ?_⟩
  · decide
  · exact (acceptance_ignores_dialect (withoutRows flawedTable)).2.2 (by decide) rfl rfl (by decide)

end SqlDialects.Proofs.TableAcceptance
