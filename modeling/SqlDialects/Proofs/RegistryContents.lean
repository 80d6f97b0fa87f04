import SqlDialects.Proofs.VersionGates

namespace SqlDialects.Proofs.RegistryContents

open SqlDialects.Composition (ofLayers)
open EditionChoice
open GateOrder
open RegistryBuild
open Registry (pendingRules)
open VersionGates

variable {r : Registrations} {registry : Registry} {identity : Identity}

theorem recognizers_eq (hbuild : r.build = .ok registry) :
    registry.recognizers = r.recognizers := by
  obtain ⟨-, -, entries, -, rfl⟩ := build_eq_ok_iff.mp hbuild
  rfl

theorem recognizer_defined (hbuild : r.build = .ok registry) {recognizer : Recognizer}
    (h : recognizer ∈ r.recognizers) : ∃ x ∈ r.definitions, x.tag = recognizer.tag := by
  obtain ⟨-, ⟨-, hfit, -⟩, -⟩ := build_eq_ok_iff.mp hbuild
  exact (hfit recognizer h).2

theorem editions_defined (hbuild : r.build = .ok registry) {tag : String} {e : Editions}
    (h : registry.editions.lookup tag = some e) :
    (∃ x ∈ r.definitions, x.tag = tag) ∧
      ∀ c ∈ e.compositions, ∀ rule ∈ c.impersonations,
        ∃ x ∈ r.definitions, x.tag = rule.detected := by
  obtain ⟨⟨-, -, htags⟩, -, entries, hentries, hregistry⟩ := build_eq_ok_iff.mp hbuild
  have hlookup : entries.lookup tag = some e := by
    rw [hregistry] at h
    exact h
  obtain ⟨_, hmem, htag, hediting⟩ :=
    (lookup_eq_some_iff hentries (nodup_tag_arranged htags)).mp hlookup
  have hsource : ∀ {other : String}, (∃ y ∈ r.definitions.map arranged, y.tag = other) →
      ∃ x ∈ r.definitions, x.tag = other := by
    rintro other ⟨y, hy, rfl⟩
    obtain ⟨x, hx, rfl⟩ := List.mem_map.mp hy
    exact ⟨x, hx, rfl⟩
  obtain ⟨path, -, -, htargets⟩ := editionsOf_eq_ok_iff.mp hediting
  refine ⟨hsource ⟨_, hmem, htag⟩, ?_⟩
  intro c hc rule hrule
  exact hsource (htargets c hc rule hrule)

/-- The dialect of a definition, put together from its path and the gates that apply. -/
theorem exists_dialect (hbuild : r.build = .ok registry) {x : Definition}
    (hx : x ∈ r.definitions) (identity : Identity) :
    ∃ layers composition, LayersOf r.definitions x identity.version? layers ∧
      ofLayers layers = .ok composition ∧
      registry.dialect? x.tag identity = some ⟨x.tag, identity, none, composition⟩ := by
  obtain ⟨⟨-, hthresholds, -⟩, -⟩ := build_eq_ok_iff.mp hbuild
  obtain ⟨path, e, hpath, hcompose, hlookup⟩ := exists_editions_of_build hbuild hx
  refine ⟨_, e.select identity.version?,
    ⟨path, _, hpath, applied_sortGates (hthresholds x hx) _, rfl⟩, ?_, ?_⟩
  · have hselect := ofLayers_select hcompose (sortGates_ascending (hthresholds x hx))
      identity.version?
    simpa [Editions.gateLayers] using hselect
  · rw [Registry.dialect?, hlookup, Option.map_some]

theorem dialect?_eq_none_iff (hbuild : r.build = .ok registry) {tag : String} :
    registry.dialect? tag identity = none ↔ ∀ x ∈ r.definitions, x.tag ≠ tag := by
  constructor
  · rintro h x hx rfl
    obtain ⟨layers, composition, -, -, hdialect⟩ := exists_dialect hbuild hx identity
    rw [hdialect] at h
    simp at h
  · intro h
    rw [Registry.dialect?, Option.map_eq_none_iff, Option.eq_none_iff_forall_not_mem]
    intro e he
    obtain ⟨⟨x, hx, htag⟩, -⟩ := editions_defined hbuild he
    exact h x hx htag

theorem exists_dialect?_eq_some (hbuild : r.build = .ok registry) {tag : String}
    (h : ∃ x ∈ r.definitions, x.tag = tag) (identity : Identity) :
    ∃ d, registry.dialect? tag identity = some d := by
  obtain ⟨x, hx, rfl⟩ := h
  obtain ⟨layers, composition, -, -, hdialect⟩ := exists_dialect hbuild hx identity
  exact ⟨_, hdialect⟩

theorem dialect?_eq_some {tag : String} {d : Dialect}
    (h : registry.dialect? tag identity = some d) :
    d.tag = tag ∧ d.identity = identity ∧ d.impersonatedVia = none := by
  obtain ⟨e, -, rfl⟩ := Option.map_eq_some_iff.mp h
  exact ⟨rfl, rfl, rfl⟩

theorem resolveTag_eq_ok_iff {tag : String} {d : Dialect} :
    registry.resolveTag tag identity = .ok d ↔ registry.dialect? tag identity = some d := by
  unfold Registry.resolveTag
  split
  · rename_i found hfound
    simp [hfound]
  · rename_i hnone
    simp [hnone]

theorem resolveUnrefined_eq_ok_iff {d : Dialect} :
    registry.resolveUnrefined identity = .ok d ↔
      ∃ recognizer, registry.recognizers.find? (·.accepts identity) = some recognizer ∧
        registry.dialect? recognizer.tag identity = some d := by
  unfold Registry.resolveUnrefined
  split
  · rename_i hnone
    simp [hnone]
  · rename_i recognizer hfind
    simp only [hfind, Option.some.injEq, exists_eq_left']
    split
    · rename_i found hfound
      simp [hfound]
    · rename_i hnone
      simp [hnone]

theorem exists_unrefined (hbuild : r.build = .ok registry) {tag : String}
    (h : (r.recognizers.find? (·.accepts identity)).map (·.tag) = some tag) :
    ∃ d, registry.resolveUnrefined identity = .ok d ∧ registry.dialect? tag identity = some d := by
  obtain ⟨recognizer, hfind, rfl⟩ := Option.map_eq_some_iff.mp h
  have hdefined := recognizer_defined hbuild (List.mem_of_find?_eq_some hfind)
  obtain ⟨d, hd⟩ := exists_dialect?_eq_some hbuild hdefined identity
  rw [← recognizers_eq hbuild] at hfind
  exact ⟨d, resolveUnrefined_eq_ok_iff.mpr ⟨recognizer, hfind, hd⟩, hd⟩

theorem resolveUnrefined_eq_error_iff (hbuild : r.build = .ok registry) {e : Error} :
    registry.resolveUnrefined identity = .error e ↔
      e = .unsupported identity.productName identity.productVersion ∧
        ∀ recognizer ∈ r.recognizers, recognizer.accepts identity = false := by
  unfold Registry.resolveUnrefined
  rw [recognizers_eq hbuild]
  split
  · rename_i hnone
    have hrejected : ∀ recognizer ∈ r.recognizers, recognizer.accepts identity = false := by
      simpa [List.find?_eq_none] using hnone
    rw [Except.error.injEq, eq_comm]
    exact (and_iff_left hrejected).symm
  · rename_i recognizer hfind
    have hmem := List.mem_of_find?_eq_some hfind
    have haccepts := List.find?_some hfind
    obtain ⟨d, hd⟩ := exists_dialect?_eq_some hbuild (recognizer_defined hbuild hmem) identity
    rw [hd]
    simp only [reduceCtorEq, false_iff]
    rintro ⟨-, hrejected⟩
    rw [hrejected recognizer hmem] at haccepts
    simp at haccepts

theorem pendingRules_defined (hbuild : r.build = .ok registry) {matched : Dialect}
    (hmatched : registry.resolveUnrefined identity = .ok matched) {rule : Impersonation}
    (hrule : rule ∈ pendingRules matched) :
    (∃ x ∈ r.definitions, x.tag = rule.detected) ∧ rule.detected ≠ matched.tag := by
  obtain ⟨recognizer, -, hdialect⟩ := resolveUnrefined_eq_ok_iff.mp hmatched
  obtain ⟨e, he, rfl⟩ := Option.map_eq_some_iff.mp hdialect
  obtain ⟨hmem, hother⟩ := List.mem_filter.mp hrule
  refine ⟨(editions_defined hbuild he).2 _ (select_mem_compositions e _) rule hmem, ?_⟩
  simpa using hother

/-- The dialect of the engine that a rule, if there is one, shows to stand behind a matched one. -/
def Behind (registry : Registry) (identity : Identity) (matched : Dialect) :
    Option Impersonation → Dialect → Prop
  | none, d => d = matched
  | some rule, d => ∃ detected, registry.resolveTag rule.detected identity = .ok detected ∧
      d = { detected with impersonatedVia := some matched.tag }

theorem exists_refined (hbuild : r.build = .ok registry) {matched : Dialect}
    (hmatched : registry.resolveUnrefined identity = .ok matched) {rule : Option Impersonation}
    (hrule : ∀ chosen ∈ rule, chosen ∈ pendingRules matched) :
    ∃ d, registry.refined matched rule = .ok d ∧ Behind registry identity matched rule d := by
  cases rule with
  | none => exact ⟨matched, rfl, rfl⟩
  | some rule =>
      obtain ⟨hdefined, -⟩ := pendingRules_defined hbuild hmatched (hrule rule rfl)
      obtain ⟨detected, hdetected⟩ := exists_dialect?_eq_some hbuild hdefined identity
      obtain ⟨recognizer, -, hdialect⟩ := resolveUnrefined_eq_ok_iff.mp hmatched
      refine ⟨_, ?_, detected, resolveTag_eq_ok_iff.mpr hdetected, rfl⟩
      rw [Registry.refined, (dialect?_eq_some hdialect).2.1, hdetected]

end SqlDialects.Proofs.RegistryContents
