import SqlDialects.InlineSql

namespace SqlDialects.Proofs.ColumnSizes

open Numeral (digitCounts)
open Text (trimChars)

/-- The greatest measure of some values, and at least the given one. -/
def greatest (least : Nat) (measure : String → Nat) (values : List String) : Nat :=
  (values.map measure).foldl max least

variable {least : Nat} {measure : String → Nat} {values : List String}

theorem max?_greatest (least : Nat) (measure : String → Nat) (values : List String) :
    (least :: values.map measure).max? = some (greatest least measure values) :=
  List.max?_cons'

theorem least_le_greatest : least ≤ greatest least measure values :=
  (List.max?_eq_some_iff.mp (max?_greatest least measure values)).2 _ List.mem_cons_self

theorem measure_le_greatest (measure : String → Nat) {value : String} (h : value ∈ values) :
    measure value ≤ greatest least measure values :=
  (List.max?_eq_some_iff.mp (max?_greatest least measure values)).2 _
    (List.mem_cons_of_mem _ (List.mem_map_of_mem h))

theorem greatest_eq_or_mem (least : Nat) (measure : String → Nat) (values : List String) :
    greatest least measure values = least ∨
      ∃ value ∈ values, measure value = greatest least measure values := by
  have hmem := (List.max?_eq_some_iff.mp (max?_greatest least measure values)).1
  rwa [List.mem_cons, List.mem_map] at hmem

theorem greatest_le {bound : Nat} (hleast : least ≤ bound)
    (hvalues : ∀ value ∈ values, measure value ≤ bound) :
    greatest least measure values ≤ bound := by
  rcases greatest_eq_or_mem least measure values with h | ⟨value, hvalue, h⟩
  · rwa [h]
  · rw [← h]
    exact hvalues value hvalue

theorem max?_greatest_parts (least : Nat) (measure : String → Nat) {parts : List (List String)}
    (hparts : parts ≠ []) :
    (parts.map (greatest least measure)).max? = some (greatest least measure parts.flatten) := by
  have hle : ∀ part ∈ parts,
      greatest least measure part ≤ greatest least measure parts.flatten := by
    intro part hpart
    apply greatest_le least_le_greatest
    intro value hvalue
    exact measure_le_greatest measure (List.mem_flatten.mpr ⟨part, hpart, hvalue⟩)
  rw [List.max?_eq_some_iff, List.forall_mem_map]
  refine ⟨?_, hle⟩
  rw [List.mem_map]
  -- A part is as great as the whole if it has the whole's greatest value; any one if none counts.
  rcases greatest_eq_or_mem least measure parts.flatten with h | ⟨value, hvalue, h⟩
  · obtain ⟨part, rest, rfl⟩ := List.exists_cons_of_ne_nil hparts
    refine ⟨part, List.mem_cons_self, Nat.le_antisymm (hle part List.mem_cons_self) ?_⟩
    rw [h]
    exact least_le_greatest
  · obtain ⟨part, hpart, hmem⟩ := List.mem_flatten.mp hvalue
    refine ⟨part, hpart, Nat.le_antisymm (hle part hpart) ?_⟩
    rw [← h]
    exact measure_le_greatest measure hmem

/-- The digits of a value before and after its point, where its type counts digits. -/
def digitsOf (type : LogicalType) (value : String) : Nat × Nat :=
  if type.isNumeric then digitCounts (trimChars value.toList) else (0, 0)

theorem widen_eq (type : LogicalType) (size : ColumnSize) (value : String) :
    size.widen type value = ⟨max size.length value.length,
      max size.wholeDigits (digitsOf type value).1,
      max size.fractionDigits (digitsOf type value).2⟩ := by
  unfold ColumnSize.widen digitsOf
  generalize digitCounts (trimChars value.toList) = digits
  cases type.isNumeric with
  | false => simp
  | true => rfl

theorem foldl_widen (type : LogicalType) (size : ColumnSize) (values : List String) :
    values.foldl (ColumnSize.widen type) size = ⟨greatest size.length String.length values,
      greatest size.wholeDigits (fun value => (digitsOf type value).1) values,
      greatest size.fractionDigits (fun value => (digitsOf type value).2) values⟩ := by
  induction values generalizing size with
  | nil => rfl
  | cons value values ih =>
      rw [List.foldl_cons, ih, widen_eq]
      rfl

theorem ofValues_eq (type : LogicalType) (values : List String) :
    ColumnSize.ofValues type values = ⟨greatest 1 String.length values,
      greatest 0 (fun value => (digitsOf type value).1) values,
      greatest 0 (fun value => (digitsOf type value).2) values⟩ :=
  foldl_widen type ColumnSize.least values

theorem ofValues_of_not_isNumeric {type : LogicalType} (htype : type.isNumeric = false)
    (values : List String) :
    ColumnSize.ofValues type values = ⟨greatest 1 String.length values, 0, 0⟩ := by
  have hdigits : ∀ value, digitsOf type value = (0, 0) := by
    intro value
    rw [digitsOf, htype, if_neg Bool.false_ne_true]
  have hnone : greatest 0 (fun _ => 0) values = 0 :=
    Nat.le_zero.mp (greatest_le (Nat.le_refl 0) fun _ _ => Nat.le_refl 0)
  rw [ofValues_eq]
  simp only [hdigits, hnone]

/-- The size that a column has in a table. -/
def sizeAt (t : InlineTable) (i : Nat) (type : LogicalType) : ColumnSize :=
  ColumnSize.ofValues type (t.valuesAt i)

theorem castTargets_eq (d : Dialect) {t : InlineTable} {i : Nat} {type : LogicalType}
    (h : t.types[i]? = some type) :
    (d.castTargets t)[i]? = some ((sizeAt t i type).fill (d.castTemplate type)) := by
  rw [Dialect.castTargets, List.getElem?_mapIdx, h]
  rfl

end SqlDialects.Proofs.ColumnSizes
