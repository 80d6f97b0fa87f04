import SqlDialects.Proofs.BuiltinRegistry
import SqlDialects.Proofs.RegistryBuild
import SqlDialects.Resolution

/-!
Which overlays describe a dialect. They are those of the path from its root down to it, and above
them those of its own gates whose threshold is above the reported version, the lowest nearest. A
higher version takes gates away from the top and puts none in.
-/

namespace SqlDialects.Proofs.VersionGates

open SqlDialects.Composition (ofLayers)
open Definition
open EditionChoice
open GateOrder
open Lineage
open RegistryBuild
open VersionOrder

/-- The gates that apply to a version, in the order in which they are put on top. -/
def Applied (gates : List Gate) (version : Option Version) (applied : List Gate) : Prop :=
  applied.Perm (gates.filter (appliesTo version)) ∧ Descending applied

/-- The overlays that describe a definition in a version. -/
def LayersOf (definitions : List Definition) (d : Definition) (version : Option Version)
    (layers : List Overlay) : Prop :=
  ∃ path applied, BasePath definitions d.tag path ∧ Applied d.gates version applied ∧
    layers = path.map (·.overlay) ++ applied.map (·.overlay)

theorem Applied.unique {gates applied other : List Gate} {version : Option Version}
    (h : Applied gates version applied) (hother : Applied gates version other) :
    applied = other :=
  h.2.eq_of_perm hother.2 (h.1.trans hother.1.symm)

theorem applied_sortGates {gates : List Gate} (hgates : (gates.map (·.below)).Nodup)
    (version : Option Version) :
    Applied gates version ((sortGates gates).filter (appliesTo version)).reverse := by
  refine ⟨(List.reverse_perm _).trans ((sortGates_perm gates).filter _), ?_⟩
  rw [descending_reverse_iff]
  exact (sortGates_ascending hgates).filter _

theorem LayersOf.unique {definitions : List Definition}
    (htags : (definitions.map (·.tag)).Nodup) {d : Definition} {version : Option Version}
    {layers other : List Overlay} (h : LayersOf definitions d version layers)
    (hother : LayersOf definitions d version other) : layers = other := by
  obtain ⟨path, applied, hpath, happlied, rfl⟩ := h
  obtain ⟨path', applied', hpath', happlied', rfl⟩ := hother
  rw [hpath.unique htags hpath', happlied.unique happlied']

theorem Descending.filter_prefix {gates : List Gate} (h : Descending gates)
    (version : Option Version) : gates.filter (appliesTo version) <+: gates := by
  induction gates with
  | nil => simp
  | cons g rest ih =>
      obtain ⟨hg, hrest⟩ := List.pairwise_cons.mp h
      by_cases happlies : appliesTo version g = true
      · rw [List.filter_cons_of_pos happlies]
        exact List.prefix_cons_inj g |>.mpr (ih hrest)
      -- The gates behind this one have lower thresholds, so none of them applies.
      · have hnone : rest.filter (appliesTo version) = [] := by
          rw [List.filter_eq_nil_iff]
          intro other hmem hother
          cases version with
          | none => simp [appliesTo] at hother
          | some v =>
              have hv : v < other.below := by simpa [appliesTo] using hother
              have hlt : v < g.below := lt_trans hv (hg other hmem)
              exact happlies (by simpa [appliesTo] using hlt)
        rw [List.filter_cons_of_neg happlies, hnone]
        exact List.nil_prefix

theorem Applied.prefix_of_not_lt {gates applied lower : List Gate} {v w : Version}
    (h : ¬ w < v) (hlower : Applied gates (some v) lower)
    (happlied : Applied gates (some w) applied) : applied <+: lower := by
  have hfilter : gates.filter (appliesTo (some w)) =
      (gates.filter (appliesTo (some v))).filter (appliesTo (some w)) := by
    rw [List.filter_filter]
    refine List.filter_congr fun g _ => ?_
    by_cases hw : w < g.below
    · have hv : v < g.below := lt_of_not_lt_of_lt h hw
      simp [appliesTo, hw, hv]
    · simp [appliesTo, hw]
  have hsame : applied = lower.filter (appliesTo (some w)) := by
    refine happlied.2.eq_of_perm (hlower.2.filter _) ?_
    have hperm := happlied.1
    rw [hfilter] at hperm
    exact hperm.trans (hlower.1.filter _).symm
  rw [hsame]
  exact Descending.filter_prefix hlower.2 (some w)

theorem exists_editions_of_build {r : Registrations} {registry : Registry}
    (hbuild : r.build = .ok registry) {d : Definition} (hd : d ∈ r.definitions) :
    ∃ path e, BasePath r.definitions d.tag path ∧
      Editions.compose (path.map (·.overlay)) (sortGates d.gates) = .ok e ∧
      registry.editions.lookup d.tag = some e := by
  obtain ⟨⟨-, -, htags⟩, -, entries, hentries, rfl⟩ := build_eq_ok_iff.mp hbuild
  have harranged : arranged d ∈ r.definitions.map arranged := List.mem_map_of_mem hd
  have htags' := nodup_tag_arranged htags
  obtain ⟨e, he⟩ := exists_allEditions_iff.mp ⟨entries, allEditions_eq_ok_iff.mpr hentries⟩ _
    harranged
  obtain ⟨path, hpath, hcompose, -⟩ := editionsOf_eq_ok_iff.mp he
  obtain ⟨hpath, -⟩ := (line_eq_ok_iff htags').mp hpath
  obtain ⟨source, hsource, rfl⟩ := basePath_arranged_iff.mp hpath
  rw [map_overlay_arranged] at hcompose
  exact ⟨source, e, hsource, hcompose,
    (lookup_eq_some_iff hentries htags').mpr ⟨_, harranged, rfl, he⟩⟩

/-- A tag is resolved to the composition of the overlays on its path and of its own gates above
the version. Those above a higher version are the first of those above a lower one. -/
theorem resolveTag_composes_path_and_gates {r : Registrations} {registry : Registry}
    (hbuild : r.build = .ok registry) :
    (∀ d ∈ r.definitions, ∀ identity : Identity, ∃ layers composition,
      LayersOf r.definitions d identity.version? layers ∧
      (∀ other, LayersOf r.definitions d identity.version? other → other = layers) ∧
      ofLayers layers = .ok composition ∧
      registry.resolveTag d.tag identity = .ok ⟨d.tag, identity, none, composition⟩) ∧
    ∀ d ∈ r.definitions, ∀ (v w : Version) (lower applied : List Gate), ¬ w < v →
      Applied d.gates (some v) lower → Applied d.gates (some w) applied → applied <+: lower := by
  refine ⟨?_, fun d _ v w lower applied h => Applied.prefix_of_not_lt h⟩
  intro d hd identity
  obtain ⟨⟨-, hthresholds, htags⟩, -⟩ := build_eq_ok_iff.mp hbuild
  obtain ⟨path, e, hpath, hcompose, hlookup⟩ := exists_editions_of_build hbuild hd
  have hlayers : LayersOf r.definitions d identity.version?
      (path.map (·.overlay) ++
        Editions.gateLayers ((sortGates d.gates).filter (appliesTo identity.version?))) :=
    ⟨path, _, hpath, applied_sortGates (hthresholds d hd) _, by simp [Editions.gateLayers]⟩
  refine ⟨_, e.select identity.version?, hlayers, ?_, ?_, ?_⟩
  · intro other hother
    exact hother.unique htags hlayers
  · exact ofLayers_select hcompose (sortGates_ascending (hthresholds d hd)) _
  · simp [Registry.resolveTag, Registry.dialect?, hlookup]

theorem resolveTag_postgresql_9_0 :
    ∃ registry composition, Builtin.registrations.build = .ok registry ∧
      ofLayers [Builtin.standard, Builtin.postgresql, Builtin.postgresqlBefore95] =
        .ok composition ∧
      registry.resolveTag "postgresql" (.ofProduct "PostgreSQL" "9.0.4") =
        .ok ⟨"postgresql", .ofProduct "PostgreSQL" "9.0.4", none, composition⟩ := by
  obtain ⟨registry, hbuild⟩ := BuiltinRegistry.exists_registry
  let d := ((Builtin.onStandard Builtin.postgresql).gate (Builtin.version 8 2)
    Builtin.postgresqlBefore82).gate (Builtin.version 9 5) Builtin.postgresqlBefore95
  have hroot : Definition.root Builtin.standardTag Builtin.standard ∈
      Builtin.registrations.definitions := List.mem_of_getElem? (i := 0) rfl
  have hd : d ∈ Builtin.registrations.definitions := List.mem_of_getElem? (i := 4) rfl
  have hversion : (Identity.ofProduct "PostgreSQL" "9.0.4").version? = some ⟨9, 0, 4⟩ := by
    decide
  have hlayers : LayersOf Builtin.registrations.definitions d (some ⟨9, 0, 4⟩)
      [Builtin.standard, Builtin.postgresql, Builtin.postgresqlBefore95] := by
    refine ⟨_, [⟨Builtin.version 9 5, Builtin.postgresqlBefore95⟩],
      .step (.root hroot rfl) hd rfl, ⟨?_, List.pairwise_singleton _ _⟩, rfl⟩
    exact .of_eq rfl
  obtain ⟨layers, composition, -, hunique, hcomposition, hresolve⟩ :=
    (resolveTag_composes_path_and_gates hbuild).1 d hd (.ofProduct "PostgreSQL" "9.0.4")
  rw [hversion] at hunique
  rw [← hunique _ hlayers] at hcomposition
  exact ⟨registry, composition, hbuild, hcomposition, hresolve⟩

end SqlDialects.Proofs.VersionGates
