import SqlDialects.Proofs.GateOrder
import SqlDialects.Proofs.Outcome

namespace SqlDialects.Proofs.EditionChoice

open Editions
open SqlDialects.Composition (ofLayers)
open GateOrder
open Outcome
open VersionOrder

/-- Whether a gate applies: its threshold has to be above the version. Without a version none
applies. -/
def appliesTo (version : Option Version) (g : Gate) : Bool :=
  version.any fun v => v < g.below

theorem compose_nil_eq_ok_iff {layers : List Overlay} {e : Editions} :
    compose layers [] = .ok e ↔ ∃ plain, ofLayers layers = .ok plain ∧ e = ⟨[], plain⟩ := by
  simp only [compose, bind_eq_ok_iff, pure_eq_ok_iff]
  constructor
  · rintro ⟨plain, hplain, rfl⟩
    exact ⟨plain, hplain, rfl⟩
  · rintro ⟨plain, hplain, rfl⟩
    exact ⟨plain, hplain, rfl⟩

theorem compose_cons_eq_ok_iff {layers : List Overlay} {g : Gate} {gates : List Gate}
    {e : Editions} :
    compose layers (g :: gates) = .ok e ↔
      ∃ c others, ofLayers (layers ++ gateLayers (g :: gates)) = .ok c ∧
        compose layers gates = .ok others ∧ e = ⟨(g.below, c) :: others.gated, others.plain⟩ := by
  simp only [compose, bind_eq_ok_iff, pure_eq_ok_iff]
  constructor
  · rintro ⟨c, hc, others, hothers, rfl⟩
    exact ⟨c, others, hc, hothers, rfl⟩
  · rintro ⟨c, others, hc, hothers, rfl⟩
    exact ⟨c, hc, others, hothers, rfl⟩

theorem exists_compose_eq_ok_iff (layers : List Overlay) (gates : List Gate) :
    (∃ e, compose layers gates = .ok e) ↔
      ∀ upper, upper <:+ gates → ∃ c, ofLayers (layers ++ gateLayers upper) = .ok c := by
  induction gates with
  | nil =>
      simp only [compose_nil_eq_ok_iff, List.suffix_nil, forall_eq]
      constructor
      · rintro ⟨e, plain, hplain, -⟩
        exact ⟨plain, by simpa [gateLayers] using hplain⟩
      · rintro ⟨plain, hplain⟩
        exact ⟨⟨[], plain⟩, plain, by simpa [gateLayers] using hplain, rfl⟩
  | cons g gates ih =>
      simp only [compose_cons_eq_ok_iff, List.suffix_cons_iff]
      constructor
      · rintro ⟨e, c, others, hc, hothers, -⟩ upper (rfl | hupper)
        · exact ⟨c, hc⟩
        · exact ih.mp ⟨others, hothers⟩ upper hupper
      · intro h
        obtain ⟨c, hc⟩ := h (g :: gates) (.inl rfl)
        obtain ⟨others, hothers⟩ := ih.mpr fun upper hupper => h upper (.inr hupper)
        exact ⟨_, c, others, hc, hothers, rfl⟩

theorem mem_compositions_iff {layers : List Overlay} {gates : List Gate} {e : Editions}
    (h : compose layers gates = .ok e) (c : Composition) :
    c ∈ e.compositions ↔
      ∃ upper, upper <:+ gates ∧ ofLayers (layers ++ gateLayers upper) = .ok c := by
  induction gates generalizing e with
  | nil =>
      obtain ⟨plain, hplain, rfl⟩ := compose_nil_eq_ok_iff.mp h
      simp [compositions, gateLayers, hplain, eq_comm]
  | cons g gates ih =>
      obtain ⟨first, others, hfirst, hothers, rfl⟩ := compose_cons_eq_ok_iff.mp h
      have hmem : c ∈ Editions.compositions ⟨(g.below, first) :: others.gated, others.plain⟩ ↔
          first = c ∨ c ∈ others.compositions := by
        simp [compositions, eq_comm]
      rw [hmem, ih hothers]
      constructor
      · rintro (rfl | ⟨upper, hupper, hc⟩)
        · exact ⟨g :: gates, List.suffix_rfl, hfirst⟩
        · exact ⟨upper, hupper.trans (List.suffix_cons g gates), hc⟩
      · rintro ⟨upper, hupper, hc⟩
        rcases List.suffix_cons_iff.mp hupper with rfl | hupper
        · exact .inl (Except.ok.inj (hfirst.symm.trans hc))
        · exact .inr ⟨upper, hupper, hc⟩

theorem select_mem_compositions (e : Editions) (version : Option Version) :
    e.select version ∈ e.compositions := by
  cases version with
  | none => simp [select, compositions]
  | some v =>
      simp only [select]
      split
      · rename_i edition hfind
        have hmem : edition ∈ e.gated := List.mem_of_find?_eq_some hfind
        exact List.mem_append_left _ (List.mem_map_of_mem hmem)
      · simp [compositions]

/-- The edition of a version. A gate that applies makes all the gates above it apply, so the first
edition whose threshold is above the version has just the gates that apply. -/
theorem ofLayers_select {layers : List Overlay} {gates : List Gate} {e : Editions}
    (h : compose layers gates = .ok e) (hgates : Ascending gates) (version : Option Version) :
    ofLayers (layers ++ gateLayers (gates.filter (appliesTo version))) =
      .ok (e.select version) := by
  induction gates generalizing e with
  | nil =>
      obtain ⟨plain, hplain, rfl⟩ := compose_nil_eq_ok_iff.mp h
      cases version with
      | none => simpa [gateLayers, select] using hplain
      | some v => simpa [gateLayers, select] using hplain
  | cons g gates ih =>
      obtain ⟨c, others, hc, hothers, rfl⟩ := compose_cons_eq_ok_iff.mp h
      obtain ⟨hlt, hascending⟩ := List.pairwise_cons.mp hgates
      have hrest := ih hothers hascending
      cases version with
      | none => simpa [appliesTo, select] using hrest
      | some v =>
          by_cases hv : v < g.below
          -- The gates behind this one have higher thresholds, so they apply as well.
          · have hall : (g :: gates).filter (appliesTo (some v)) = g :: gates := by
              rw [List.filter_eq_self]
              intro other hmem
              rcases List.mem_cons.mp hmem with rfl | hmem
              · simpa [appliesTo] using hv
              · simpa [appliesTo] using lt_trans hv (hlt other hmem)
            rw [hall, hc]
            simp [select, hv]
          · have hfilter : (g :: gates).filter (appliesTo (some v)) =
                gates.filter (appliesTo (some v)) := by
              simp [appliesTo, hv]
            rw [hfilter, hrest]
            simp [select, hv]

end SqlDialects.Proofs.EditionChoice
