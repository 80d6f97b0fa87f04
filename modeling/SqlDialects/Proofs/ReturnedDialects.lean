import SqlDialects.Proofs.VersionGates

namespace SqlDialects.Proofs.ReturnedDialects

open SqlDialects.Composition (ofLayers)
open EditionChoice
open GateOrder
open Lineage
open RegistryBuild
open VersionGates

/-- A dialect that a registry returns for some tag or some connection. -/
inductive Returns (registry : Registry) : Dialect → Prop
  | tag {tag : String} {identity : Identity} {d : Dialect} :
      registry.resolveTag tag identity = .ok d → Returns registry d
  | unrefined {identity : Identity} {d : Dialect} :
      registry.resolveUnrefined identity = .ok d → Returns registry d
  | recorded {identity : Identity} {d : Dialect} :
      registry.resolve identity = .ok d → Returns registry d
  | connection {σ : Type} {identity : Identity} {probe : Probe σ} {before after : σ}
      {d : Dialect} :
      registry.resolveConnection identity probe before = (.ok d, after) → Returns registry d

/-- A dialect with a composition from the editions of a tag. -/
def FromEditions (registry : Registry) (d : Dialect) : Prop :=
  ∃ tag e, registry.editions.lookup tag = some e ∧ d.composition ∈ e.compositions

theorem fromEditions_of_dialect? {registry : Registry} {tag : String} {identity : Identity}
    {d : Dialect} (h : registry.dialect? tag identity = some d) : FromEditions registry d := by
  obtain ⟨e, he, rfl⟩ := Option.map_eq_some_iff.mp h
  exact ⟨tag, e, he, select_mem_compositions e _⟩

theorem fromEditions_of_unrefined {registry : Registry} {identity : Identity} {d : Dialect}
    (h : registry.resolveUnrefined identity = .ok d) : FromEditions registry d := by
  unfold Registry.resolveUnrefined at h
  split at h
  · simp at h
  · split at h
    · rename_i found hfound
      obtain rfl := Except.ok.inj h
      exact fromEditions_of_dialect? hfound
    · simp at h

theorem fromEditions_of_refined {registry : Registry} {matched d : Dialect}
    {rule : Option Impersonation} (hmatched : FromEditions registry matched)
    (h : registry.refined matched rule = .ok d) : FromEditions registry d := by
  unfold Registry.refined at h
  split at h
  · obtain rfl := Except.ok.inj h
    exact hmatched
  · split at h
    · rename_i found hfound
      have hfromEditions : FromEditions registry found := fromEditions_of_dialect? hfound
      obtain rfl := Except.ok.inj h
      exact hfromEditions
    · simp at h

theorem Returns.fromEditions {registry : Registry} {d : Dialect} (h : Returns registry d) :
    FromEditions registry d := by
  cases h with
  | tag h =>
      unfold Registry.resolveTag at h
      split at h
      · rename_i found hfound
        obtain rfl := Except.ok.inj h
        exact fromEditions_of_dialect? hfound
      · simp at h
  | unrefined h => exact fromEditions_of_unrefined h
  | recorded h =>
      obtain ⟨matched, hmatched, hrefined⟩ := Outcome.bind_eq_ok_iff.mp h
      exact fromEditions_of_refined (fromEditions_of_unrefined hmatched) hrefined
  | connection h =>
      unfold Registry.resolveConnection at h
      split at h
      · simp at h
      · rename_i matched hmatched
        split at h
        · simp at h
        · exact fromEditions_of_refined (fromEditions_of_unrefined hmatched) (Prod.mk.inj h).1

/-- An overlay of a definition or of one of its gates. -/
def Registered (definitions : List Definition) (layer : Overlay) : Prop :=
  ∃ d ∈ definitions, layer = d.overlay ∨ ∃ g ∈ d.gates, layer = g.overlay

theorem Registered.of_all {definitions : List Definition} {check : Overlay → Bool}
    (hall : (definitions.all fun d => check d.overlay && d.gates.all fun g => check g.overlay) =
      true) {layer : Overlay} (h : Registered definitions layer) : check layer = true := by
  obtain ⟨d, hd, hlayer⟩ := h
  obtain ⟨hoverlay, hgates⟩ := Bool.and_eq_true_iff.mp (List.all_eq_true.mp hall d hd)
  rcases hlayer with rfl | ⟨g, hg, rfl⟩
  · exact hoverlay
  · exact List.all_eq_true.mp hgates g hg

theorem exists_layers_of_lookup {r : Registrations} {registry : Registry}
    (hbuild : r.build = .ok registry) {tag : String} {e : Editions}
    (h : registry.editions.lookup tag = some e) {c : Composition} (hc : c ∈ e.compositions) :
    ∃ layers, (∀ layer ∈ layers, Registered r.definitions layer) ∧ ofLayers layers = .ok c := by
  obtain ⟨⟨-, -, htags⟩, -, entries, hentries, hregistry⟩ := build_eq_ok_iff.mp hbuild
  have htags' := nodup_tag_arranged htags
  have hlookup : entries.lookup tag = some e := by
    rw [hregistry] at h
    exact h
  obtain ⟨_, hmem, rfl, -⟩ := (lookup_eq_some_iff hentries htags').mp hlookup
  obtain ⟨d, hd, rfl⟩ := List.mem_map.mp hmem
  obtain ⟨path, other, hpath, hcompose, hother⟩ := exists_editions_of_build hbuild hd
  obtain rfl : other = e := Option.some.inj (hother.symm.trans h)
  obtain ⟨upper, hupper, hlayers⟩ := (mem_compositions_iff hcompose c).mp hc
  refine ⟨_, ?_, hlayers⟩
  intro layer hlayer
  rcases List.mem_append.mp hlayer with hlayer | hlayer
  · obtain ⟨step, hstep, rfl⟩ := List.mem_map.mp hlayer
    exact ⟨step, hpath.subset hstep, .inl rfl⟩
  · obtain ⟨g, hg, rfl⟩ := List.mem_map.mp (List.mem_reverse.mp hlayer)
    have hgate : g ∈ d.gates := (sortGates_perm d.gates).mem_iff.mp (hupper.subset hg)
    exact ⟨d, hd, .inr ⟨g, hgate, rfl⟩⟩

theorem Returns.exists_layers {r : Registrations} {registry : Registry}
    (hbuild : r.build = .ok registry) {d : Dialect} (h : Returns registry d) :
    ∃ layers, (∀ layer ∈ layers, Registered r.definitions layer) ∧
      ofLayers layers = .ok d.composition := by
  obtain ⟨tag, e, hlookup, hmem⟩ := h.fromEditions
  exact exists_layers_of_lookup hbuild hlookup hmem

end SqlDialects.Proofs.ReturnedDialects
