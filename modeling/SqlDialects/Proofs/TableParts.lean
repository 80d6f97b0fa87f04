import Mathlib.Algebra.Order.Floor.Div
import SqlDialects.Proofs.ColumnSizes
import SqlDialects.Proofs.TableAcceptance

namespace SqlDialects.Proofs.TableParts

open ColumnSizes
open TableAcceptance

section Runs

variable {α : Type} {size : Nat} {elements run : List α}

theorem flatten_runsOf (size : Nat) (elements : List α) :
    (runsOf size elements).flatten = elements := by
  fun_induction runsOf size elements with
  | case1 => rfl
  | case2 e rest ih =>
      rw [List.flatten_cons, ih, List.cons_append, List.take_append_drop]

theorem bounds_of_mem_runsOf (h : run ∈ runsOf size elements) :
    run ≠ [] ∧ run.length ≤ size + 1 := by
  fun_induction runsOf size elements with
  | case1 => simp at h
  | case2 e rest ih =>
      rcases List.mem_cons.mp h with rfl | h
      · exact ⟨List.cons_ne_nil _ _, Nat.succ_le_succ (List.length_take_le size rest)⟩
      · exact ih h

theorem runsOf_eq_nil_iff : runsOf size elements = [] ↔ elements = [] := by
  cases elements with
  | nil => simp [runsOf]
  | cons e rest => simp [runsOf]

theorem length_of_mem_dropLast (h : run ∈ (runsOf size elements).dropLast) :
    run.length = size + 1 := by
  fun_induction runsOf size elements with
  | case1 => simp at h
  | case2 e rest ih =>
      by_cases hrest : runsOf size (rest.drop size) = []
      · simp [hrest] at h
      · rw [List.dropLast_cons_of_ne_nil hrest] at h
        rcases List.mem_cons.mp h with rfl | h
        · rw [runsOf_eq_nil_iff, List.drop_eq_nil_iff] at hrest
          rw [List.length_cons, List.length_take]
          omega
        · exact ih h

theorem length_runsOf (size : Nat) (elements : List α) :
    (runsOf size elements).length = elements.length ⌈/⌉ (size + 1) := by
  fun_induction runsOf size elements with
  | case1 => simp
  | case2 e rest ih =>
      rw [List.length_cons, ih, List.length_drop, List.length_cons, Nat.ceilDiv_eq_add_pred_div,
        Nat.ceilDiv_eq_add_pred_div]
      by_cases hrest : rest.length ≤ size
      · rw [Nat.sub_eq_zero_of_le hrest, Nat.div_eq_of_lt (by omega)]
        exact (Nat.div_eq_of_lt_le (by omega) (by omega)).symm
      · have hsum : rest.length + 1 + (size + 1) - 1 =
            rest.length - size + (size + 1) - 1 + (size + 1) := by omega
        rw [hsum, Nat.add_div_right _ (Nat.succ_pos size)]

theorem runsOf_of_length_le (hne : elements ≠ []) (h : elements.length ≤ size + 1) :
    runsOf size elements = [elements] := by
  obtain ⟨e, rest, rfl⟩ := List.exists_cons_of_ne_nil hne
  have hrest : rest.length ≤ size := Nat.le_of_succ_le_succ h
  rw [runsOf, List.take_of_length_le hrest, List.drop_eq_nil_of_le hrest, runsOf]

end Runs

/-- Tables that hold the rows of a table between them, in order. -/
structure Splits (t : InlineTable) (parts : List InlineTable) : Prop where
  nonempty : parts ≠ []
  rows : (parts.map (·.rows)).flatten = t.rows
  columns : ∀ part ∈ parts, part.columns = t.columns
  types : ∀ part ∈ parts, part.types = t.types
  orderBy : ∀ part ∈ parts, part.orderBy = t.orderBy

/-- Parts of at most `max` rows, as few of them as can be. -/
structure Fills (t : InlineTable) (max : Nat) (parts : List InlineTable) : Prop where
  short : ∀ part ∈ parts, part.rows.length ≤ max
  full : ∀ part ∈ parts.dropLast, part.rows.length = max
  count : t.rows ≠ [] → parts.length = t.rows.length ⌈/⌉ max

variable {t : InlineTable} {parts : List InlineTable} {max : Nat}

theorem splits_singleton (t : InlineTable) : Splits t [t] where
  nonempty := List.cons_ne_nil _ _
  rows := by simp
  columns := by simp
  types := by simp
  orderBy := by simp

theorem chunks_succ_eq (hrows : t.rows ≠ []) (max : Nat) :
    t.chunks (max + 1) = (runsOf max t.rows).map fun rows => { t with rows } := by
  rw [InlineTable.chunks]
  split
  · rename_i hlength
    rw [runsOf_of_length_le hrows hlength]
    rfl
  · rfl

theorem chunks_of_rows_eq_nil (hrows : t.rows = []) (max : Nat) : t.chunks max = [t] := by
  cases max with
  | zero => rfl
  | succ max => rw [InlineTable.chunks, if_pos (by simp [hrows])]

theorem splits_chunks (t : InlineTable) (max : Nat) : Splits t (t.chunks max) := by
  by_cases hrows : t.rows = []
  · rw [chunks_of_rows_eq_nil hrows]
    exact splits_singleton t
  · cases max with
    | zero => exact splits_singleton t
    | succ max =>
        rw [chunks_succ_eq hrows]
        refine ⟨?_, ?_, ?_, ?_, ?_⟩
        · rwa [Ne, List.map_eq_nil_iff, runsOf_eq_nil_iff]
        · rw [List.map_map]
          simpa [Function.comp_def] using flatten_runsOf max t.rows
        · simp
        · simp
        · simp

theorem rows_ne_nil_of_mem_chunks (hrows : t.rows ≠ []) {part : InlineTable}
    (h : part ∈ t.chunks max) : part.rows ≠ [] := by
  cases max with
  | zero =>
      obtain rfl := List.mem_singleton.mp h
      exact hrows
  | succ max =>
      rw [chunks_succ_eq hrows] at h
      obtain ⟨run, hrun, rfl⟩ := List.mem_map.mp h
      exact (bounds_of_mem_runsOf hrun).1

theorem fills_chunks (t : InlineTable) (max : Nat) : Fills t (max + 1) (t.chunks (max + 1)) := by
  by_cases hrows : t.rows = []
  · rw [chunks_of_rows_eq_nil hrows]
    exact ⟨by simp [hrows], by simp, fun hne => absurd hrows hne⟩
  · rw [chunks_succ_eq hrows]
    refine ⟨?_, ?_, ?_⟩
    · rw [List.forall_mem_map]
      intro run hrun
      exact (bounds_of_mem_runsOf hrun).2
    · rw [← List.map_dropLast, List.forall_mem_map]
      intro run hrun
      exact length_of_mem_dropLast hrun
    · intro _
      rw [List.length_map, length_runsOf]

theorem Splits.mem_rows_iff (h : Splits t parts) {row : List (Option String)} :
    row ∈ t.rows ↔ ∃ part ∈ parts, row ∈ part.rows := by
  rw [← h.rows, List.mem_flatten]
  simp

/-- A row that a table can have. -/
def FitsRow (t : InlineTable) (row : List (Option String)) : Prop :=
  row.length = t.columns.length ∧
    ∀ value type, (some value, type) ∈ row.zip t.types → isLiteral value type = true

theorem acceptable_iff_rows (t : InlineTable) :
    Acceptable t ↔ Acceptable (withoutRows t) ∧ ∀ row ∈ t.rows, FitsRow t row := by
  constructor
  · intro h
    refine ⟨⟨h.columns, h.types, List.forall_mem_nil _, h.order, List.forall_mem_nil _⟩, ?_⟩
    intro row hrow
    exact ⟨h.rows row hrow, h.values row hrow⟩
  · rintro ⟨h, hrows⟩
    exact ⟨h.columns, h.types, fun row hrow => (hrows row hrow).1, h.order,
      fun row hrow => (hrows row hrow).2⟩

theorem Splits.acceptable_iff (h : Splits t parts) :
    Acceptable t ↔ ∀ part ∈ parts, Acceptable part := by
  have hiff : ∀ part ∈ parts,
      (Acceptable part ↔ Acceptable (withoutRows t) ∧ ∀ row ∈ part.rows, FitsRow t row) := by
    intro part hpart
    have hempty : withoutRows part = withoutRows t := by
      simp only [withoutRows, h.columns part hpart, h.types part hpart, h.orderBy part hpart]
    have hfits : FitsRow part = FitsRow t := by
      funext row
      rw [FitsRow, FitsRow, h.columns part hpart, h.types part hpart]
    rw [acceptable_iff_rows, hempty, hfits]
  rw [acceptable_iff_rows]
  constructor
  · rintro ⟨hempty, hrows⟩ part hpart
    rw [hiff part hpart]
    exact ⟨hempty, fun row hrow => hrows row (h.mem_rows_iff.mpr ⟨part, hpart, hrow⟩)⟩
  · intro hparts
    obtain ⟨first, hfirst⟩ := List.exists_mem_of_ne_nil parts h.nonempty
    refine ⟨((hiff first hfirst).mp (hparts first hfirst)).1, ?_⟩
    intro row hrow
    obtain ⟨part, hpart, hmem⟩ := h.mem_rows_iff.mp hrow
    exact ((hiff part hpart).mp (hparts part hpart)).2 row hmem

theorem Splits.valuesAt_eq (h : Splits t parts) (i : Nat) :
    (parts.map (·.valuesAt i)).flatten = t.valuesAt i := by
  rw [InlineTable.valuesAt, ← h.rows, List.filterMap_flatten, List.map_map]
  rfl

/-- No part of a table asks for more room in a column than the table, and for each of the sizes some
part asks for as much. -/
structure SharesSize (whole : ColumnSize) (sizes : List ColumnSize) : Prop where
  length : (sizes.map (·.length)).max? = some whole.length
  wholeDigits : (sizes.map (·.wholeDigits)).max? = some whole.wholeDigits
  fractionDigits : (sizes.map (·.fractionDigits)).max? = some whole.fractionDigits

theorem Splits.sharesSize (h : Splits t parts) (i : Nat) (type : LogicalType) :
    SharesSize (sizeAt t i type) (parts.map (sizeAt · i type)) := by
  have hmax : ∀ least measure,
      (parts.map fun part => greatest least measure (part.valuesAt i)).max? =
        some (greatest least measure (t.valuesAt i)) := by
    intro least measure
    have hne : parts.map (·.valuesAt i) ≠ [] := by
      rw [Ne, List.map_eq_nil_iff]
      exact h.nonempty
    have hparts := max?_greatest_parts least measure hne
    rwa [h.valuesAt_eq, List.map_map] at hparts
  refine ⟨?_, ?_, ?_⟩
  · simp only [List.map_map, Function.comp_def, sizeAt, ofValues_eq]
    exact hmax _ _
  · simp only [List.map_map, Function.comp_def, sizeAt, ofValues_eq]
    exact hmax _ _
  · simp only [List.map_map, Function.comp_def, sizeAt, ofValues_eq]
    exact hmax _ _

/-- Cutting a table up loses nothing. Its parts hold its rows in order, none of them is empty unless
the table is, and all but the last are full. Any dialect writes the table just if it writes all of
the parts, and the room that they ask for in a column is at most, and taken together just, that of
the table. -/
theorem chunks_lose_nothing (t : InlineTable) (max : Nat) :
    Splits t (t.chunks max) ∧ (∀ part ∈ t.chunks max, part.rows = [] → t.rows = []) ∧
      (0 < max → Fills t max (t.chunks max)) ∧ t.chunks 0 = [t] ∧
      ∀ d : Dialect,
        ((∃ sql, d.inlineSql t = .ok sql) ↔
          ∀ part ∈ t.chunks max, ∃ sql, d.inlineSql part = .ok sql) ∧
        ∀ i type, t.types[i]? = some type →
          (∀ table ∈ t :: t.chunks max,
            (d.castTargets table)[i]? = some ((sizeAt table i type).fill (d.castTemplate type))) ∧
          SharesSize (sizeAt t i type) ((t.chunks max).map (sizeAt · i type)) := by
  have hsplits := splits_chunks t max
  refine ⟨hsplits, ?_, ?_, rfl, ?_⟩
  · intro part hpart hempty
    by_contra hrows
    exact rows_ne_nil_of_mem_chunks hrows hpart hempty
  · intro hmax
    obtain ⟨n, rfl⟩ := Nat.exists_eq_succ_of_ne_zero hmax.ne'
    exact fills_chunks t n
  · intro d
    refine ⟨?_, ?_⟩
    · simp only [exists_inlineSql_iff]
      exact hsplits.acceptable_iff
    · intro i type htype
      refine ⟨?_, hsplits.sharesSize i type⟩
      rw [List.forall_mem_cons]
      refine ⟨castTargets_eq d htype, ?_⟩
      intro part hpart
      rw [← hsplits.types part hpart] at htype
      exact castTargets_eq d htype

/-- A column whose longest value, most digits before the point and most digits after it stand in
different parts. -/
def longTable : InlineTable where
  columns := ["price"]
  types := [.numeric]
  rows := [[some "7.0625"], [none], [some "   1e3   "], [some "0"], [some "-20000.5"]]
  orderBy := some "price"

theorem chunks_longTable :
    0 < 2 ∧ longTable.types[0]? = some .numeric ∧ Fills longTable 2 (longTable.chunks 2) ∧
      (longTable.chunks 2).map (sizeAt · 0 .numeric) = [⟨6, 1, 4⟩, ⟨9, 4, 0⟩, ⟨8, 5, 1⟩] ∧
      SharesSize ⟨9, 5, 4⟩ [⟨6, 1, 4⟩, ⟨9, 4, 0⟩, ⟨8, 5, 1⟩] ∧
      ∀ d : Dialect, ∀ part ∈ longTable.chunks 2, ∃ sql, d.inlineSql part = .ok sql := by
  have hchunks : longTable.chunks 2 = [{ longTable with rows := [[some "7.0625"], [none]] },
      { longTable with rows := [[some "   1e3   "], [some "0"]] },
      { longTable with rows := [[some "-20000.5"]] }] := by
    simp [InlineTable.chunks, runsOf, longTable]
  have hsizes : (longTable.chunks 2).map (sizeAt · 0 .numeric) =
      [⟨6, 1, 4⟩, ⟨9, 4, 0⟩, ⟨8, 5, 1⟩] := by
    rw [hchunks]
    decide +kernel
  have hsize : sizeAt longTable 0 .numeric = ⟨9, 5, 4⟩ := by decide +kernel
  have hacceptable : Acceptable longTable := by decide +kernel
  obtain ⟨hsplits, -, hfills, -, hparts⟩ := chunks_lose_nothing longTable 2
  refine ⟨by decide, rfl, hfills (by decide), hsizes, ?_, ?_⟩
  · have hshares := hsplits.sharesSize 0 .numeric
    rwa [hsizes, hsize] at hshares
  · intro d
    exact (hparts d).1.mp ((exists_inlineSql_iff d longTable).mpr hacceptable)

end SqlDialects.Proofs.TableParts
