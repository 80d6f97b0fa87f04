import SqlDialects.Proofs.NearestOverlay
import SqlDialects.Proofs.RegistryBuild
import SqlDialects.Proofs.Spelling

namespace SqlDialects.Proofs.RegistryValidation

open SqlDialects.Composition (ofLayers)
open Definition
open EditionChoice
open GateOrder
open Lineage
open NearestOverlay
open RegistryBuild
open Registrations
open Spelling (trimChars_eq_self_iff)
open Text (isBlank trimChars)

/-- A tag that is not empty, has no white space at its ends and no upper-case letter. -/
structure CanonicalTag (tag : String) : Prop where
  nonempty : tag ≠ ""
  start : ∀ c ∈ tag.toList.head?, isBlank c = false
  finish : ∀ c ∈ tag.toList.getLast?, isBlank c = false
  lower : ∀ c ∈ tag.toList, Text.LetterCase.isUpper c = false

theorem isCanonical_iff (tag : String) : isCanonical tag = true ↔ CanonicalTag tag := by
  have htrim : tag = Text.trim tag ↔ trimChars tag.toList = tag.toList := by
    rw [Text.trim, ← String.toList_inj, String.toList_ofList, eq_comm]
  simp only [isCanonical, Bool.and_eq_true, Bool.not_eq_true', beq_iff_eq, htrim,
    trimChars_eq_self_iff, List.any_eq_false, Bool.not_eq_true]
  constructor
  · rintro ⟨⟨hempty, hstart, hfinish⟩, hlower⟩
    exact ⟨by simpa using hempty, hstart, hfinish, hlower⟩
  · rintro ⟨hempty, hstart, hfinish, hlower⟩
    exact ⟨⟨by simpa using hempty, hstart, hfinish⟩, hlower⟩

/-- A path that describes a definition: it comes back to no tag and leaves no question open, no
implication is broken on it, whether alone or under those of the definition's gates that have the
highest thresholds, however many, and the rules on it and on the gates name what is defined. -/
structure Describes (definitions : List Definition) (d : Definition) (path : List Definition) :
    Prop where
  basePath : BasePath definitions d.tag path
  distinct : (path.map (·.tag)).Nodup
  decides : DecidesEverything (path.map (·.overlay))
  implications : ∀ upper lower, (upper ++ lower).Perm d.gates → Descending (upper ++ lower) →
    KeepsImplications (path.map (·.overlay) ++ upper.map (·.overlay))
  targets : ∀ layer ∈ path.map (·.overlay) ++ d.gates.map (·.overlay),
    ∀ rule ∈ layer.impersonations, ∃ target ∈ definitions, target.tag = rule.detected

/-- Registrations that a registry can hold. -/
structure Valid (r : Registrations) : Prop where
  definitionTags : ∀ d ∈ r.definitions, CanonicalTag d.tag
  definitionsDistinct : (r.definitions.map (·.tag)).Nodup
  thresholdsDistinct : ∀ d ∈ r.definitions, (d.gates.map (·.below)).Nodup
  described : ∀ d ∈ r.definitions, ∃ path, Describes r.definitions d path
  recognizerTags : ∀ e ∈ r.recognizers, CanonicalTag e.tag
  recognizersDistinct : (r.recognizers.map (·.tag)).Nodup
  recognizersFit : ∀ e ∈ r.recognizers,
    e.patterns ≠ [] ∧ ∃ d ∈ r.definitions, d.tag = e.tag

theorem impersonations_eq {layers : List Overlay} {c : Composition}
    (h : ofLayers layers = .ok c) :
    c.impersonations = layers.reverse.flatMap (·.impersonations) :=
  ((ofLayers_eq_ok_iff layers c).mp h).1.impersonations

/-- The upper gates of a descending arrangement are, turned round, an end of the sorted gates. -/
theorem sortGates_eq_of_descending {gates upper lower : List Gate}
    (hgates : (gates.map (·.below)).Nodup) (hperm : (upper ++ lower).Perm gates)
    (hdescending : Descending (upper ++ lower)) :
    sortGates gates = lower.reverse ++ upper.reverse := by
  have hsorted : Descending (sortGates gates).reverse :=
    descending_reverse_iff.mpr (sortGates_ascending hgates)
  have hsame : upper ++ lower = (sortGates gates).reverse :=
    hdescending.eq_of_perm hsorted
      (hperm.trans ((List.reverse_perm _).trans (sortGates_perm gates)).symm)
  rw [← List.reverse_append, hsame, List.reverse_reverse]

theorem describes_of_editionsOf {definitions : List Definition}
    (htags : (definitions.map (·.tag)).Nodup) {d : Definition}
    (hgates : (d.gates.map (·.below)).Nodup) {e : Editions}
    (h : editionsOf (definitions.map arranged) (arranged d) = .ok e) :
    ∃ path, Describes definitions d path := by
  obtain ⟨path', hline, hcompose, htargets⟩ := editionsOf_eq_ok_iff.mp h
  obtain ⟨harranged, hdistinct⟩ := (line_eq_ok_iff (nodup_tag_arranged htags)).mp hline
  obtain ⟨path, hpath, rfl⟩ := basePath_arranged_iff.mp harranged
  rw [map_tag_arranged] at hdistinct
  rw [map_overlay_arranged] at hcompose
  have hcomposed := (exists_compose_eq_ok_iff _ _).mp ⟨e, hcompose⟩
  refine ⟨path, hpath, hdistinct, ?_, ?_, ?_⟩
  · obtain ⟨c, hc⟩ := hcomposed [] (List.nil_suffix)
    rw [Editions.gateLayers, List.map_nil, List.reverse_nil, List.append_nil] at hc
    exact ((exists_ofLayers_eq_ok_iff _).mp ⟨c, hc⟩).1
  · intro upper lower hperm hdescending
    have hsorted := sortGates_eq_of_descending hgates hperm hdescending
    obtain ⟨c, hc⟩ := hcomposed upper.reverse ⟨lower.reverse, hsorted.symm⟩
    have himplied := ((exists_ofLayers_eq_ok_iff _).mp ⟨c, hc⟩).2
    simpa [Editions.gateLayers] using himplied
  · intro layer hlayer rule hrule
    -- The composition with all gates has the rules of every overlay.
    obtain ⟨c, hc⟩ := hcomposed _ (List.suffix_refl _)
    have hmem := (mem_compositions_iff hcompose c).mpr ⟨_, List.suffix_refl _, hc⟩
    have hlayers : layer ∈ path.map (·.overlay) ++ Editions.gateLayers (sortGates d.gates) := by
      rw [Editions.gateLayers, List.mem_append, List.mem_reverse,
        ((sortGates_perm d.gates).map _).mem_iff]
      exact List.mem_append.mp hlayer
    have himpersonation : rule ∈ c.impersonations := by
      rw [impersonations_eq hc, List.mem_flatMap]
      exact ⟨layer, List.mem_reverse.mpr hlayers, hrule⟩
    obtain ⟨target, htarget, htag⟩ := htargets c hmem rule himpersonation
    obtain ⟨source, hsource, rfl⟩ := List.mem_map.mp htarget
    exact ⟨source, hsource, htag⟩

theorem editionsOf_of_describes {definitions : List Definition}
    (htags : (definitions.map (·.tag)).Nodup) {d : Definition}
    (hgates : (d.gates.map (·.below)).Nodup) {path : List Definition}
    (h : Describes definitions d path) :
    ∃ e, editionsOf (definitions.map arranged) (arranged d) = .ok e := by
  have hsuffix : ∀ upper, upper <:+ sortGates d.gates →
      ∃ c, ofLayers (path.map (·.overlay) ++ Editions.gateLayers upper) = .ok c := by
    rintro upper ⟨lower, hsplit⟩
    rw [exists_ofLayers_eq_ok_iff]
    refine ⟨h.decides.append _, ?_⟩
    have hreverse : upper.reverse ++ lower.reverse = (sortGates d.gates).reverse := by
      rw [← List.reverse_append, hsplit]
    have himplied := h.implications upper.reverse lower.reverse
      (by rw [hreverse]; exact (List.reverse_perm _).trans (sortGates_perm d.gates))
      (by rw [hreverse]; exact descending_reverse_iff.mpr (sortGates_ascending hgates))
    simpa [Editions.gateLayers] using himplied
  obtain ⟨e, he⟩ := (exists_compose_eq_ok_iff _ _).mpr hsuffix
  refine ⟨e, editionsOf_eq_ok_iff.mpr ⟨path.map arranged, ?_, ?_, ?_⟩⟩
  · rw [line_eq_ok_iff (nodup_tag_arranged htags), map_tag_arranged]
    exact ⟨basePath_arranged_iff.mpr ⟨path, h.basePath, rfl⟩, h.distinct⟩
  · rw [map_overlay_arranged]
    exact he
  · intro c hc rule hrule
    obtain ⟨upper, hupper, hc⟩ := (mem_compositions_iff he c).mp hc
    rw [impersonations_eq hc, List.mem_flatMap] at hrule
    obtain ⟨layer, hlayer, hrule⟩ := hrule
    have hmem : layer ∈ path.map (·.overlay) ++ d.gates.map (·.overlay) := by
      rw [List.mem_reverse, Editions.gateLayers, List.mem_append, List.mem_reverse] at hlayer
      rw [List.mem_append, ← ((sortGates_perm d.gates).map (·.overlay)).mem_iff]
      exact hlayer.imp_right fun hgate => List.map_subset _ hupper.subset hgate
    obtain ⟨target, htarget, htag⟩ := h.targets layer hmem rule hrule
    exact ⟨arranged target, List.mem_map_of_mem htarget, htag⟩

theorem exists_build_eq_ok_iff (r : Registrations) :
    (∃ registry, r.build = .ok registry) ↔ Valid r := by
  simp only [build_eq_ok_iff, isCanonical_iff]
  constructor
  · rintro ⟨registry, ⟨hcanonical, hthresholds, htags⟩, ⟨hrecognizers, hfit, hdistinct⟩,
      entries, hentries, -⟩
    refine ⟨hcanonical, htags, hthresholds, ?_, hrecognizers, hdistinct, hfit⟩
    intro d hd
    obtain ⟨e, he⟩ := exists_allEditions_iff.mp ⟨entries, allEditions_eq_ok_iff.mpr hentries⟩
      (arranged d) (List.mem_map_of_mem hd)
    exact describes_of_editionsOf htags (hthresholds d hd) he
  · intro h
    have heditions : ∃ entries, allEditions (r.definitions.map arranged)
        (r.definitions.map arranged) = .ok entries := by
      rw [exists_allEditions_iff]
      intro d' hd'
      obtain ⟨d, hd, rfl⟩ := List.mem_map.mp hd'
      obtain ⟨path, hpath⟩ := h.described d hd
      exact editionsOf_of_describes h.definitionsDistinct (h.thresholdsDistinct d hd) hpath
    obtain ⟨entries, hentries⟩ := heditions
    exact ⟨_, ⟨h.definitionTags, h.thresholdsDistinct, h.definitionsDistinct⟩,
      ⟨h.recognizerTags, h.recognizersFit, h.recognizersDistinct⟩,
      entries, allEditions_eq_ok_iff.mp hentries, rfl⟩

/-- Building succeeds exactly on valid registrations, and reports a fault of what is registered on
all others. -/
theorem build_succeeds_iff_valid (r : Registrations) :
    ((∃ registry, r.build = .ok registry) ↔ Valid r) ∧
    ((∃ tag fault, r.build = .error (.definition tag fault)) ↔ ¬ Valid r) := by
  refine ⟨exists_build_eq_ok_iff r, ?_⟩
  rw [← exists_build_eq_ok_iff]
  constructor
  · rintro ⟨tag, fault, herror⟩ ⟨registry, hok⟩
    rw [herror] at hok
    simp at hok
  · intro h
    cases hbuild : r.build with
    | ok registry => exact absurd ⟨registry, hbuild⟩ h
    | error e =>
        obtain ⟨tag, fault, rfl⟩ := build_reportsDefinitions r e hbuild
        exact ⟨tag, fault, rfl⟩

end SqlDialects.Proofs.RegistryValidation
