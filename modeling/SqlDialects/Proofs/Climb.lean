import Mathlib.Data.List.Nodup
import Mathlib.Data.Option.Basic
import SqlDialects.Proofs.Ancestors

namespace SqlDialects.Proofs.Climb

open Ancestors
open Definition
open Lineage

variable {definitions : List Definition} {origin tag : String} {visited : List String}
  {below : List Definition} {count : Nat} {outcome : Except LineFault (List Definition)}

/-- A climb without any bound on its steps: having passed the tags `visited` and found the
definitions `below`, it looks at `count` tags more, of which `tag` is the first. -/
inductive Climbs (definitions : List Definition) : List String → List Definition → String → Nat →
    Except LineFault (List Definition) → Prop
  | cycle {visited : List String} {below : List Definition} {tag : String} :
      tag ∈ visited → Climbs definitions visited below tag 1 (.error (.cycle tag))
  | unknown {visited : List String} {below : List Definition} {tag : String} :
      tag ∉ visited → Undefined definitions tag →
        Climbs definitions visited below tag 1 (.error (.unknown tag))
  | root {visited : List String} {below : List Definition} {d : Definition} :
      d.tag ∉ visited → d ∈ definitions → d.base = none →
        Climbs definitions visited below d.tag 1 (.ok (d :: below))
  | step {visited : List String} {below : List Definition} {d : Definition} {base : String}
      {count : Nat} {outcome : Except LineFault (List Definition)} :
      d.tag ∉ visited → d ∈ definitions → d.base = some base →
        Climbs definitions (d.tag :: visited) (d :: below) base count outcome →
          Climbs definitions visited below d.tag (count + 1) outcome

/-- Tags that a climb has passed: they are defined, and it has passed none twice. -/
structure Passed (definitions : List Definition) (visited : List String) : Prop where
  distinct : visited.Nodup
  defined : visited ⊆ definitions.map (·.tag)

theorem Passed.nil : Passed definitions [] :=
  ⟨.nil, List.nil_subset _⟩

theorem Passed.cons (h : Passed definitions visited) {d : Definition} (hd : d ∈ definitions)
    (hfresh : d.tag ∉ visited) : Passed definitions (d.tag :: visited) :=
  ⟨List.nodup_cons.mpr ⟨hfresh, h.distinct⟩,
    List.cons_subset.mpr ⟨List.mem_map_of_mem hd, h.defined⟩⟩

theorem Passed.length_le (h : Passed definitions visited) :
    visited.length ≤ definitions.length := by
  have hsub := List.subperm_of_subset h.distinct h.defined
  simpa using hsub.length_le

theorem exists_climbs {visited : List String} (hpassed : Passed definitions visited)
    (below : List Definition) (tag : String) :
    ∃ count outcome, Climbs definitions visited below tag count outcome := by
  by_cases hvisited : tag ∈ visited
  · exact ⟨1, _, .cycle hvisited⟩
  by_cases hundefined : Undefined definitions tag
  · exact ⟨1, _, .unknown hvisited hundefined⟩
  obtain ⟨d, hd, rfl⟩ : ∃ d ∈ definitions, d.tag = tag := by
    simpa [Undefined] using hundefined
  cases hbase : d.base with
  | none => exact ⟨1, _, .root hvisited hd hbase⟩
  | some base =>
      have hnext := hpassed.cons hd hvisited
      have hlength : visited.length + 1 ≤ definitions.length := hnext.length_le
      obtain ⟨count, outcome, hclimbs⟩ := exists_climbs hnext (d :: below) base
      exact ⟨count + 1, outcome, .step hvisited hd hbase hclimbs⟩
termination_by definitions.length - visited.length
decreasing_by
  show definitions.length - (visited.length + 1) < definitions.length - visited.length
  omega

theorem Climbs.count_le (h : Climbs definitions visited below tag count outcome)
    (hpassed : Passed definitions visited) :
    visited.length + count ≤ definitions.length + 1 := by
  induction h with
  | cycle _ => exact Nat.succ_le_succ hpassed.length_le
  | unknown _ _ => exact Nat.succ_le_succ hpassed.length_le
  | root _ _ _ => exact Nat.succ_le_succ hpassed.length_le
  | step hfresh hd _ _ ih =>
      have hbound := ih (hpassed.cons hd hfresh)
      rw [List.length_cons] at hbound
      omega

theorem Climbs.climb_eq (htags : (definitions.map (·.tag)).Nodup)
    (h : Climbs definitions visited below tag count outcome) {steps : Nat}
    (hsteps : count ≤ steps) : climb definitions steps visited below tag = outcome := by
  induction h generalizing steps with
  | cycle hvisited =>
      obtain ⟨steps, rfl⟩ := Nat.exists_eq_add_of_le' hsteps
      simp [climb, hvisited]
  | unknown hvisited hundefined =>
      obtain ⟨steps, rfl⟩ := Nat.exists_eq_add_of_le' hsteps
      simp [climb, hvisited, find?_eq_none_iff.mpr hundefined]
  | root hvisited hd hbase =>
      obtain ⟨steps, rfl⟩ := Nat.exists_eq_add_of_le' hsteps
      simp [climb, hvisited, find?_tag htags hd, hbase]
  | step hvisited hd hbase _ ih =>
      obtain ⟨steps, rfl⟩ := Nat.exists_eq_add_of_le' hsteps
      simp only [climb, List.contains_iff_mem, hvisited, if_false, find?_tag htags hd, hbase]
      exact ih (Nat.le_add_left _ _)

/-- The bound on the steps of a line is never felt. -/
theorem climbs_line (htags : (definitions.map (·.tag)).Nodup) (tag : String) :
    ∃ count, Climbs definitions [] [] tag count (line definitions tag) := by
  have hpassed : Passed definitions [] := .nil
  obtain ⟨count, outcome, hclimbs⟩ := exists_climbs hpassed [] tag
  have hcount := hclimbs.count_le hpassed
  rw [List.length_nil, Nat.zero_add] at hcount
  have hline : line definitions tag = outcome := hclimbs.climb_eq htags hcount
  exact ⟨count, hline ▸ hclimbs⟩

/-- Where a climb from a tag stands: it has passed every tag above the first one up to this one. -/
structure Stands (definitions : List Definition) (origin : String) (visited : List String)
    (tag : String) : Prop where
  passed : visited.reverse.map some =
    (List.range visited.length).map (ancestor? definitions · origin)
  here : ancestor? definitions visited.length origin = some tag

theorem Stands.start (tag : String) : Stands definitions tag [] tag :=
  ⟨rfl, rfl⟩

theorem Stands.step (htags : (definitions.map (·.tag)).Nodup) {d : Definition}
    (h : Stands definitions origin visited d.tag) (hd : d ∈ definitions) {base : String}
    (hbase : d.base = some base) : Stands definitions origin (d.tag :: visited) base := by
  constructor
  · simp [List.range_succ, h.passed, h.here]
  · show (ancestor? definitions visited.length origin).bind (base? definitions) = some base
    rw [h.here, Option.bind_some, base?_of_mem htags hd, hbase]

/-- The way up from a tag comes back to a tag, and has come back to none before. -/
def ComesBackTo (definitions : List Definition) (tag through : String) : Prop :=
  ∃ first again, first < again ∧ ancestor? definitions first tag = some through ∧
    ancestor? definitions again tag = some through ∧
    ∀ m n, m < n → n < again → ancestor? definitions m tag ≠ ancestor? definitions n tag

theorem ComesBackTo.revisits {through : String} (h : ComesBackTo definitions tag through) :
    Revisits definitions tag := by
  obtain ⟨first, again, hlt, hfirst, hagain, -⟩ := h
  exact ⟨first, again, through, hlt, hfirst, hagain⟩

theorem Stands.comesBackTo (h : Stands definitions origin visited tag) (hdistinct : visited.Nodup)
    (hvisited : tag ∈ visited) : ComesBackTo definitions origin tag := by
  have hmem : some tag ∈ (List.range visited.length).map (ancestor? definitions · origin) := by
    rw [← h.passed]
    simpa using hvisited
  obtain ⟨first, hfirst, heq⟩ := List.mem_map.mp hmem
  have hnodup : ((List.range visited.length).map (ancestor? definitions · origin)).Nodup := by
    rw [← h.passed]
    exact (List.nodup_reverse.mpr hdistinct).map (Option.some_injective _)
  refine ⟨first, visited.length, List.mem_range.mp hfirst, heq, h.here, ?_⟩
  intro m n hm hn hsame
  have hmn := List.inj_on_of_nodup_map hnodup (List.mem_range.mpr (Nat.lt_trans hm hn))
    (List.mem_range.mpr hn) hsame
  omega

/-- What an outcome says of the way up. -/
def Explains (definitions : List Definition) (origin : String) :
    Except LineFault (List Definition) → Prop
  | .ok _ => Rooted definitions origin
  | .error (.cycle through) => ComesBackTo definitions origin through
  | .error (.unknown missing) => Dangles definitions origin missing

theorem Climbs.explains (htags : (definitions.map (·.tag)).Nodup)
    (h : Climbs definitions visited below tag count outcome)
    (hstands : Stands definitions origin visited tag) (hpassed : Passed definitions visited) :
    Explains definitions origin outcome := by
  -- Where the climb stands and what it has passed are kept by each step.
  induction h with
  | cycle hvisited => exact hstands.comesBackTo hpassed.distinct hvisited
  | unknown _ hundefined => exact ⟨⟨_, hstands.here⟩, hundefined⟩
  | root _ hd hbase => exact ⟨_, hd, hbase, _, hstands.here⟩
  | step hfresh hd hbase _ ih =>
      apply ih
      · exact hstands.step htags hd hbase
      · exact hpassed.cons hd hfresh

theorem explains_line (htags : (definitions.map (·.tag)).Nodup) (tag : String) :
    Explains definitions tag (line definitions tag) := by
  obtain ⟨count, hclimbs⟩ := climbs_line htags tag
  exact hclimbs.explains htags (.start tag) .nil

end SqlDialects.Proofs.Climb
