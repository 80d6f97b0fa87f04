import Mathlib.Data.List.Perm.Basic
import SqlDialects.Editions
import SqlDialects.Proofs.VersionOrder

namespace SqlDialects.Proofs.GateOrder

open Definition
open VersionOrder

/-- Gates of which each has a lower threshold than those after it. -/
def Ascending (gates : List Gate) : Prop :=
  gates.Pairwise fun a b => a.below < b.below

/-- Gates of which each has a higher threshold than those after it. -/
def Descending (gates : List Gate) : Prop :=
  gates.Pairwise fun a b => b.below < a.below

/-- Gates of which none has a higher threshold than one after it. -/
def Sorted (gates : List Gate) : Prop :=
  gates.Pairwise fun a b => ¬ b.below < a.below

theorem descending_reverse_iff {gates : List Gate} :
    Descending gates.reverse ↔ Ascending gates :=
  List.pairwise_reverse

theorem insertGate_perm (g : Gate) (gates : List Gate) :
    (insertGate g gates).Perm (g :: gates) := by
  induction gates with
  | nil => simp [insertGate]
  | cons first rest ih =>
      simp only [insertGate]
      split
      · rfl
      · exact (ih.cons first).trans (List.Perm.swap g first rest)

theorem Sorted.insertGate {gates : List Gate} (h : Sorted gates) (g : Gate) :
    Sorted (insertGate g gates) := by
  induction gates with
  | nil => simp [Definition.insertGate, Sorted]
  | cons first rest ih =>
      obtain ⟨hfirst, hrest⟩ := List.pairwise_cons.mp h
      simp only [Definition.insertGate]
      split
      · rename_i hlt
        refine List.pairwise_cons.mpr ⟨?_, h⟩
        intro other hmem hother
        rcases List.mem_cons.mp hmem with rfl | hmem
        · exact lt_irrefl _ (lt_trans hlt hother)
        · exact hfirst other hmem (lt_trans hother hlt)
      · rename_i hnlt
        refine List.pairwise_cons.mpr ⟨?_, ih hrest⟩
        intro other hmem
        rcases List.mem_cons.mp ((insertGate_perm g rest).mem_iff.mp hmem) with rfl | hmem
        · exact hnlt
        · exact hfirst other hmem

theorem foldl_insertGate_perm (gates sorted : List Gate) :
    (gates.foldl (fun sorted g => insertGate g sorted) sorted).Perm (gates ++ sorted) := by
  induction gates generalizing sorted with
  | nil => rfl
  | cons g gates ih =>
      refine (ih (insertGate g sorted)).trans ?_
      exact ((insertGate_perm g sorted).append_left gates).trans List.perm_middle

theorem Sorted.foldl_insertGate {sorted : List Gate} (h : Sorted sorted) (gates : List Gate) :
    Sorted (gates.foldl (fun sorted g => Definition.insertGate g sorted) sorted) := by
  induction gates generalizing sorted with
  | nil => exact h
  | cons g gates ih => exact ih (h.insertGate g)

theorem sortGates_perm (gates : List Gate) : (sortGates gates).Perm gates := by
  simpa [sortGates] using foldl_insertGate_perm gates []

theorem sorted_sortGates (gates : List Gate) : Sorted (sortGates gates) :=
  Sorted.foldl_insertGate .nil gates

theorem sharesThreshold_eq_false_iff {gates : List Gate} (h : Sorted gates) :
    sharesThreshold gates = false ↔ Ascending gates := by
  induction gates with
  | nil => simp [sharesThreshold, Ascending]
  | cons a rest ih =>
      obtain ⟨ha, hrest⟩ := List.pairwise_cons.mp h
      cases rest with
      | nil => simp [sharesThreshold, Ascending]
      | cons b rest =>
          simp only [sharesThreshold, Bool.or_eq_false_iff, beq_eq_false_iff_ne, ih hrest]
          constructor
          · rintro ⟨hne, hasc⟩
            have hab : a.below < b.below :=
              (lt_or_eq_of_not_lt (ha b List.mem_cons_self)).resolve_right hne
            refine List.pairwise_cons.mpr ⟨?_, hasc⟩
            intro other hmem
            rcases List.mem_cons.mp hmem with rfl | hmem
            · exact hab
            · exact lt_trans hab ((List.pairwise_cons.mp hasc).1 other hmem)
          · intro hasc
            obtain ⟨hlt, htail⟩ := List.pairwise_cons.mp hasc
            refine ⟨?_, htail⟩
            intro heq
            have hab := hlt b List.mem_cons_self
            rw [heq] at hab
            exact lt_irrefl _ hab

theorem ascending_iff_nodup {gates : List Gate} (h : Sorted gates) :
    Ascending gates ↔ (gates.map (·.below)).Nodup := by
  rw [List.Nodup, List.pairwise_map]
  constructor
  · intro hasc
    refine hasc.imp ?_
    intro a b hlt heq
    rw [heq] at hlt
    exact lt_irrefl _ hlt
  · intro hne
    refine (h.and hne).imp ?_
    rintro a b ⟨hle, hne⟩
    exact (lt_or_eq_of_not_lt hle).resolve_right hne

theorem sharesThreshold_sortGates_iff (gates : List Gate) :
    sharesThreshold (sortGates gates) = false ↔ (gates.map (·.below)).Nodup := by
  rw [sharesThreshold_eq_false_iff (sorted_sortGates gates),
    ascending_iff_nodup (sorted_sortGates gates)]
  exact ((sortGates_perm gates).map _).nodup_iff

theorem sortGates_ascending {gates : List Gate} (h : (gates.map (·.below)).Nodup) :
    Ascending (sortGates gates) := by
  rwa [← sharesThreshold_eq_false_iff (sorted_sortGates gates), sharesThreshold_sortGates_iff]

/-- Two descending arrangements of the same gates are the same. -/
theorem Descending.eq_of_perm {a b : List Gate} (ha : Descending a) (hb : Descending b)
    (h : a.Perm b) : a = b := by
  refine List.Perm.eq_of_pairwise ?_ ha hb h
  intro x y _ _ hxy hyx
  exact absurd (lt_trans hxy hyx) (lt_irrefl _)

end SqlDialects.Proofs.GateOrder
