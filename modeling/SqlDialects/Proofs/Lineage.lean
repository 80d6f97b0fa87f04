import Mathlib.Data.List.Nodup
import Mathlib.Data.List.Perm.Subperm
import SqlDialects.Definition

namespace SqlDialects.Proofs.Lineage

open Definition

/-- The definitions from a root down to a tag, each built on the one before it. -/
inductive BasePath (definitions : List Definition) : String → List Definition → Prop
  | root {d : Definition} : d ∈ definitions → d.base = none → BasePath definitions d.tag [d]
  | step {d : Definition} {base : String} {path : List Definition} :
      BasePath definitions base path → d ∈ definitions → d.base = some base →
        BasePath definitions d.tag (path ++ [d])

theorem eq_of_tag_eq {definitions : List Definition} (htags : (definitions.map (·.tag)).Nodup)
    {d e : Definition} (hd : d ∈ definitions) (he : e ∈ definitions) (h : d.tag = e.tag) :
    d = e :=
  List.inj_on_of_nodup_map htags hd he h

theorem find?_tag {definitions : List Definition} (htags : (definitions.map (·.tag)).Nodup)
    {d : Definition} (hd : d ∈ definitions) : find? definitions d.tag = some d := by
  cases hfind : find? definitions d.tag with
  | none =>
      have := List.find?_eq_none.mp hfind d hd
      simp at this
  | some e =>
      have hmem : e ∈ definitions := List.mem_of_find?_eq_some hfind
      have htag : e.tag = d.tag := by simpa using List.find?_some hfind
      rw [eq_of_tag_eq htags hmem hd htag]

theorem BasePath.subset {definitions : List Definition} {tag : String} {path : List Definition}
    (h : BasePath definitions tag path) : path ⊆ definitions := by
  induction h with
  | root hd => simpa using hd
  | step _ hd _ ih => exact List.append_subset.mpr ⟨ih, by simpa using hd⟩

theorem BasePath.exists_mem {definitions : List Definition} {tag : String}
    {path : List Definition} (h : BasePath definitions tag path) :
    ∃ d ∈ definitions, d.tag = tag := by
  cases h with
  | root hd _ => exact ⟨_, hd, rfl⟩
  | step _ hd _ => exact ⟨_, hd, rfl⟩

theorem BasePath.of_mem {definitions : List Definition} (htags : (definitions.map (·.tag)).Nodup)
    {d : Definition} (hd : d ∈ definitions) {path : List Definition}
    (h : BasePath definitions d.tag path) :
    (d.base = none ∧ path = [d]) ∨
      ∃ base below, d.base = some base ∧ BasePath definitions base below ∧ path = below ++ [d] := by
  generalize htag : d.tag = tag at h
  cases h with
  | root he hbase =>
      obtain rfl := eq_of_tag_eq htags hd he htag
      exact .inl ⟨hbase, rfl⟩
  | step hbelow he hbase =>
      obtain rfl := eq_of_tag_eq htags hd he htag
      exact .inr ⟨_, _, hbase, hbelow, rfl⟩

theorem BasePath.unique {definitions : List Definition}
    (htags : (definitions.map (·.tag)).Nodup) {tag : String} {path other : List Definition}
    (h : BasePath definitions tag path) (hother : BasePath definitions tag other) :
    path = other := by
  induction h generalizing other with
  | root hd hbase =>
      rcases hother.of_mem htags hd with ⟨-, rfl⟩ | ⟨base, below, hsome, -⟩
      · rfl
      · simp [hbase] at hsome
  | step _ hd hbase ih =>
      rcases hother.of_mem htags hd with ⟨hnone, -⟩ | ⟨base, below, hsome, hbelow, rfl⟩
      · simp [hbase] at hnone
      · obtain rfl := Option.some.inj (hbase.symm.trans hsome)
        rw [ih hbelow]

theorem exists_basePath_of_climb {definitions : List Definition} {steps : Nat}
    {visited : List String} {below line : List Definition} {tag : String}
    (h : climb definitions steps visited below tag = .ok line) :
    ∃ path, BasePath definitions tag path ∧ line = path ++ below ∧
      (path.map (·.tag)).Nodup ∧ ∀ d ∈ path, d.tag ∉ visited := by
  induction steps generalizing visited below tag with
  | zero => simp [climb] at h
  | succ steps ih =>
      simp only [climb] at h
      split at h
      · simp at h
      · rename_i hvisited
        rw [List.contains_iff_mem] at hvisited
        split at h
        · simp at h
        · rename_i d hfind
          have hd : d ∈ definitions := List.mem_of_find?_eq_some hfind
          obtain rfl : d.tag = tag := by simpa using List.find?_some hfind
          split at h
          · rename_i hbase
            refine ⟨[d], .root hd hbase, by simpa using h.symm, by simp, ?_⟩
            simpa using hvisited
          · rename_i base hbase
            obtain ⟨path, hpath, rfl, hnodup, hfresh⟩ := ih h
            refine ⟨path ++ [d], .step hpath hd hbase, by simp, ?_, ?_⟩
            · rw [List.map_append, List.nodup_append]
              refine ⟨hnodup, by simp, ?_⟩
              -- The tag of this step is among the visited ones of the climb above it.
              rintro passed hpassed last hlast rfl
              obtain ⟨e, he, htag⟩ := List.mem_map.mp hpassed
              simp only [List.map_cons, List.map_nil, List.mem_singleton] at hlast
              exact hfresh e he (by simp [htag, hlast])
            · intro e he
              rcases List.mem_append.mp he with he | he
              · intro hmem
                exact hfresh e he (List.mem_cons_of_mem _ hmem)
              · rw [List.mem_singleton.mp he]
                exact hvisited

theorem climb_basePath {definitions : List Definition}
    (htags : (definitions.map (·.tag)).Nodup) {tag : String} {path : List Definition}
    (hpath : BasePath definitions tag path) (hnodup : (path.map (·.tag)).Nodup)
    {steps : Nat} (hsteps : path.length ≤ steps) {visited : List String}
    (hfresh : ∀ d ∈ path, d.tag ∉ visited) (below : List Definition) :
    climb definitions steps visited below tag = .ok (path ++ below) := by
  induction hpath generalizing steps visited below with
  | @root d hd hbase =>
      obtain ⟨steps, rfl⟩ : ∃ n, steps = n + 1 := ⟨steps - 1, by simp at hsteps; omega⟩
      have hvisited : d.tag ∉ visited := hfresh d List.mem_cons_self
      simp [climb, hvisited, find?_tag htags hd, hbase]
  | @step d base path _ hd hbase ih =>
      obtain ⟨steps, rfl⟩ : ∃ n, steps = n + 1 := ⟨steps - 1, by simp at hsteps; omega⟩
      have hvisited : d.tag ∉ visited := hfresh d (by simp)
      rw [List.map_append, List.nodup_append] at hnodup
      obtain ⟨hpathNodup, -, hlast⟩ := hnodup
      have hlength : path.length ≤ steps := by simpa using hsteps
      have hbelow : ∀ e ∈ path, e.tag ∉ d.tag :: visited := by
        intro e he
        rw [List.mem_cons, not_or]
        refine ⟨?_, hfresh e (by simp [he])⟩
        exact hlast e.tag (List.mem_map.mpr ⟨e, he, rfl⟩) d.tag (by simp)
      have hclimb := ih hpathNodup hlength hbelow (d :: below)
      simp [climb, hvisited, find?_tag htags hd, hbase, hclimb]

/-- A line is a path without repetition, and every such path is a line. A path of distinct tags is
no longer than the list of definitions, so the steps suffice. -/
theorem line_eq_ok_iff {definitions : List Definition}
    (htags : (definitions.map (·.tag)).Nodup) {tag : String} {path : List Definition} :
    line definitions tag = .ok path ↔
      BasePath definitions tag path ∧ (path.map (·.tag)).Nodup := by
  constructor
  · intro h
    obtain ⟨path, hpath, rfl, hnodup, -⟩ := exists_basePath_of_climb h
    rw [List.append_nil]
    exact ⟨hpath, hnodup⟩
  · rintro ⟨hpath, hnodup⟩
    have hlength : path.length ≤ definitions.length := by
      simpa using (List.subperm_of_subset hnodup (List.map_subset (·.tag) hpath.subset)).length_le
    have hfresh : ∀ d ∈ path, d.tag ∉ ([] : List String) := by simp
    simpa [line] using climb_basePath htags hpath hnodup (Nat.le_succ_of_le hlength) hfresh []

end SqlDialects.Proofs.Lineage
