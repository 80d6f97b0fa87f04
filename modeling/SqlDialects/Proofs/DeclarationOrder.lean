import Mathlib.Data.List.Perm.Basic
import SqlDialects.Proofs.BuiltinRegistry
import SqlDialects.Proofs.Counterparts

namespace SqlDialects.Proofs.DeclarationOrder

open Counterparts
open RegistryContents
open RegistryValidation

/-- Registrations with the same recognisers in the same order, whose definitions, and the gates of
each definition, are declared in another order. -/
structure Reordered (r s : Registrations) : Prop where
  definitions : Relation.Comp (List.Forall₂ Counterpart) List.Perm r.definitions s.definitions
  recognizers : r.recognizers = s.recognizers

variable {r s : Registrations} {registry twin : Registry} {d e : Definition}

theorem Reordered.symm (h : Reordered r s) : Reordered s r := by
  obtain ⟨redeclared, hsame, hperm⟩ := h.definitions
  have hback : List.Forall₂ Counterpart redeclared r.definitions :=
    (hsame.imp fun _ _ hde => hde.symm).flip
  exact ⟨List.perm_comp_forall₂ hperm.symm hback, h.recognizers.symm⟩

theorem Reordered.coveredBy (h : Reordered r s) : CoveredBy r.definitions s.definitions := by
  obtain ⟨redeclared, hsame, hperm⟩ := h.definitions
  intro d hd
  obtain ⟨e, he, hde⟩ := coveredBy_of_counterparts hsame d hd
  exact ⟨e, hperm.subset he, hde⟩

theorem Reordered.tags_perm (h : Reordered r s) :
    (r.definitions.map (·.tag)).Perm (s.definitions.map (·.tag)) := by
  obtain ⟨redeclared, hsame, hperm⟩ := h.definitions
  rw [map_eq_of_counterparts (fun _ _ hde => hde.tag) hsame]
  exact hperm.map _

theorem exists_describes (hde : Counterpart d e) {definitions others path : List Definition}
    (h : CoveredBy definitions others) (hpath : Describes definitions d path) :
    ∃ other, Describes others e other := by
  obtain ⟨other, hother, hsame⟩ := h.exists_basePath hpath.basePath
  have htags : path.map (·.tag) = other.map (·.tag) :=
    map_eq_of_counterparts (fun _ _ hxy => hxy.tag) hsame
  have hoverlays : path.map (·.overlay) = other.map (·.overlay) :=
    map_eq_of_counterparts (fun _ _ hxy => hxy.overlay) hsame
  refine ⟨other, hde.tag ▸ hother, htags ▸ hpath.distinct, hoverlays ▸ hpath.decides, ?_, ?_⟩
  · intro upper lower hperm hdescending
    rw [← hoverlays]
    exact hpath.implications upper lower (hperm.trans hde.gates.symm) hdescending
  · intro layer hlayer rule hrule
    rw [← hoverlays, List.mem_append, ← (hde.gates.map (·.overlay)).mem_iff,
      ← List.mem_append] at hlayer
    obtain ⟨target, htarget, hdetected⟩ := hpath.targets layer hlayer rule hrule
    obtain ⟨counterpart, hmem, hcounterpart⟩ := h target htarget
    exact ⟨counterpart, hmem, hcounterpart.tag.symm.trans hdetected⟩

theorem Reordered.valid (h : Reordered r s) (hvalid : Valid r) : Valid s := by
  have hback : CoveredBy s.definitions r.definitions := h.symm.coveredBy
  constructor
  · intro e he
    obtain ⟨d, hd, hed⟩ := hback e he
    rw [hed.tag]
    exact hvalid.definitionTags d hd
  · exact h.tags_perm.nodup_iff.mp hvalid.definitionsDistinct
  · intro e he
    obtain ⟨d, hd, hed⟩ := hback e he
    exact (hed.gates.map _).nodup_iff.mpr (hvalid.thresholdsDistinct d hd)
  · intro e he
    obtain ⟨d, hd, hed⟩ := hback e he
    obtain ⟨path, hpath⟩ := hvalid.described d hd
    exact exists_describes hed.symm h.coveredBy hpath
  · rw [← h.recognizers]
    exact hvalid.recognizerTags
  · rw [← h.recognizers]
    exact hvalid.recognizersDistinct
  · rw [← h.recognizers]
    intro recognizer hrecognizer
    obtain ⟨hpatterns, d, hd, htag⟩ := hvalid.recognizersFit recognizer hrecognizer
    obtain ⟨e, he, hde⟩ := h.coveredBy d hd
    exact ⟨hpatterns, e, he, hde.tag.symm.trans htag⟩

theorem Reordered.exists_build_iff (h : Reordered r s) :
    (∃ registry, r.build = .ok registry) ↔ ∃ twin, s.build = .ok twin := by
  rw [exists_build_eq_ok_iff, exists_build_eq_ok_iff]
  exact ⟨h.valid, h.symm.valid⟩

theorem resolveTag_eq_of_reordered (h : Reordered r s) (hbuild : r.build = .ok registry)
    (htwin : s.build = .ok twin) (tag : String) (identity : Identity) :
    twin.resolveTag tag identity = registry.resolveTag tag identity := by
  have hsame : twin.dialect? tag identity = registry.dialect? tag identity := by
    by_cases hdefined : ∃ d ∈ r.definitions, d.tag = tag
    · obtain ⟨d, hd, rfl⟩ := hdefined
      exact dialect?_eq_of_covered hbuild htwin h.coveredBy hd identity
    · have hundefined : ∀ e ∈ s.definitions, e.tag ≠ tag := by
        intro e he htag
        obtain ⟨d, hd, hed⟩ := h.symm.coveredBy e he
        exact hdefined ⟨d, hd, hed.tag.symm.trans htag⟩
      rw [(dialect?_eq_none_iff htwin).mpr hundefined, eq_comm, dialect?_eq_none_iff hbuild]
      intro d hd htag
      exact hdefined ⟨d, hd, htag⟩
  rw [Registry.resolveTag, Registry.resolveTag, hsame]

/-- However definitions and gates are ordered, the registry is built or not, and once it is built
its recognisers have the same tags and it gives the same answers to all that is asked of it. -/
theorem declaration_order_is_free (h : Reordered r s) :
    ((∃ registry, r.build = .ok registry) ↔ ∃ twin, s.build = .ok twin) ∧
    ∀ registry twin, r.build = .ok registry → s.build = .ok twin →
      twin.tags = registry.tags ∧ ∀ identity,
        (∀ tag, twin.resolveTag tag identity = registry.resolveTag tag identity) ∧
        AnswersAlike registry twin identity := by
  refine ⟨h.exists_build_iff, ?_⟩
  intro registry twin hbuild htwin
  constructor
  · rw [Registry.tags, Registry.tags, recognizers_eq htwin, recognizers_eq hbuild, h.recognizers]
  · intro identity
    constructor
    · intro tag
      exact resolveTag_eq_of_reordered h hbuild htwin tag identity
    · apply answersAlike_of_covered hbuild htwin h.coveredBy
      rw [h.recognizers]

/-- All definitions in the opposite order, and so the gates of each. -/
def backwards (r : Registrations) : Registrations where
  definitions := (r.definitions.map fun d => { d with gates := d.gates.reverse }).reverse
  recognizers := r.recognizers

theorem reordered_backwards (r : Registrations) : Reordered r (backwards r) := by
  refine ⟨⟨r.definitions.map fun d => { d with gates := d.gates.reverse }, ?_, ?_⟩, rfl⟩
  · rw [List.forall₂_map_right_iff, List.forall₂_same]
    intro d _
    exact ⟨rfl, rfl, rfl, (List.reverse_perm _).symm⟩
  · exact (List.reverse_perm _).symm

theorem declaration_order_backwards :
    ∃ registry twin, Builtin.registrations.build = .ok registry ∧
      (backwards Builtin.registrations).build = .ok twin ∧
      twin.resolveTag "postgresql" (.ofProduct "PostgreSQL" "8.1") =
        registry.resolveTag "postgresql" (.ofProduct "PostgreSQL" "8.1") ∧
      AnswersAlike registry twin (.ofProduct "MySQL" "4.0") := by
  obtain ⟨registry, hbuild⟩ := BuiltinRegistry.exists_registry
  obtain ⟨hbuilds, hanswers⟩ :=
    declaration_order_is_free (reordered_backwards Builtin.registrations)
  obtain ⟨twin, htwin⟩ := hbuilds.mp ⟨registry, hbuild⟩
  obtain ⟨-, halike⟩ := hanswers registry twin hbuild htwin
  exact ⟨registry, twin, hbuild, htwin, (halike _).1 _, (halike _).2⟩

end SqlDialects.Proofs.DeclarationOrder
