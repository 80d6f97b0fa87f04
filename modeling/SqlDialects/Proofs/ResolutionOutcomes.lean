import SqlDialects.Proofs.NearestOverlay
import SqlDialects.Proofs.ProbeDiscipline
import SqlDialects.Proofs.RegistryContents
import SqlDialects.Proofs.ReturnedDialects

namespace SqlDialects.Proofs.ResolutionOutcomes

open EditionChoice
open GateOrder
open NearestOverlay
open Outcome
open ProbeDiscipline
open RegistryContents
open Registry (pendingRules)
open ReturnedDialects
open VersionGates

variable {r : Registrations} {registry : Registry} {identity : Identity}

/-- No recogniser accepts a connection, and the error names its product. -/
def Unrecognized (r : Registrations) (identity : Identity) (e : Error) : Prop :=
  e = .unsupported identity.productName identity.productVersion ∧
    ∀ recognizer ∈ r.recognizers, recognizer.accepts identity = false

theorem length_compositions {layers : List Overlay} {gates : List Gate} {e : Editions}
    (h : Editions.compose layers gates = .ok e) : e.compositions.length = gates.length + 1 := by
  induction gates generalizing e with
  | nil =>
      obtain ⟨plain, -, rfl⟩ := compose_nil_eq_ok_iff.mp h
      rfl
  | cons g gates ih =>
      obtain ⟨c, others, -, hothers, rfl⟩ := compose_cons_eq_ok_iff.mp h
      simpa [Editions.compositions] using ih hothers

theorem getElem?_compositions {layers : List Overlay} {gates : List Gate} {e : Editions}
    (h : Editions.compose layers gates = .ok e) (version : Option Version) :
    e.compositions[gates.findIdx (appliesTo version)]? = some (e.select version) := by
  induction gates generalizing e with
  | nil =>
      obtain ⟨plain, -, rfl⟩ := compose_nil_eq_ok_iff.mp h
      cases version with
      | none => rfl
      | some v => rfl
  | cons g gates ih =>
      obtain ⟨c, others, -, hothers, rfl⟩ := compose_cons_eq_ok_iff.mp h
      have hrest := ih hothers
      rw [List.findIdx_cons]
      cases version with
      | none => simpa [appliesTo, Editions.select, Editions.compositions] using hrest
      | some v =>
          by_cases hv : v < g.below
          · simp [appliesTo, Editions.select, Editions.compositions, hv]
          · simpa [appliesTo, Editions.select, Editions.compositions, hv] using hrest

theorem resolveTag_eq_error_iff (hbuild : r.build = .ok registry) {tag : String} {e : Error} :
    registry.resolveTag tag identity = .error e ↔
      e = .unsupported (tag ++ " (forced)") identity.productVersion ∧
        ∀ x ∈ r.definitions, x.tag ≠ tag := by
  have hnone : registry.dialect? tag identity = none ↔ ∀ x ∈ r.definitions, x.tag ≠ tag :=
    dialect?_eq_none_iff hbuild
  rw [← hnone]
  unfold Registry.resolveTag
  split
  · rename_i d hd
    simp [hd]
  · rename_i hd
    simp [hd, eq_comm]

theorem mem_of_detectRecorded {rules : List Impersonation} {rule : Impersonation}
    (h : Impersonation.detectRecorded rules identity = some rule) : rule ∈ rules :=
  List.mem_of_find?_eq_some h

theorem exists_resolve (hbuild : r.build = .ok registry) {matched : Dialect}
    (hmatched : registry.resolveUnrefined identity = .ok matched) :
    ∃ d, registry.resolve identity = .ok d ∧
      Behind registry identity matched
        (Impersonation.detectRecorded (pendingRules matched) identity) d := by
  obtain ⟨d, hd, hbehind⟩ := exists_refined hbuild hmatched fun _ => mem_of_detectRecorded
  refine ⟨d, ?_, hbehind⟩
  rw [Registry.resolve, hmatched]
  exact hd

theorem behind_of_resolve (hbuild : r.build = .ok registry) {d : Dialect}
    (h : registry.resolve identity = .ok d) :
    ∃ matched, registry.resolveUnrefined identity = .ok matched ∧
      Behind registry identity matched
        (Impersonation.detectRecorded (pendingRules matched) identity) d := by
  obtain ⟨matched, hmatched, -⟩ := bind_eq_ok_iff.mp h
  obtain ⟨found, hfound, hbehind⟩ := exists_resolve hbuild hmatched
  obtain rfl : found = d := Except.ok.inj (hfound.symm.trans h)
  exact ⟨matched, hmatched, hbehind⟩

theorem resolve_eq_error_iff (hbuild : r.build = .ok registry) {e : Error} :
    registry.resolve identity = .error e ↔ Unrecognized r identity e := by
  rw [Unrecognized, ← resolveUnrefined_eq_error_iff hbuild]
  cases hmatched : registry.resolveUnrefined identity with
  | error reason =>
      rw [Registry.resolve, hmatched]
      rfl
  | ok matched =>
      obtain ⟨d, hd, -⟩ := exists_resolve hbuild hmatched
      simp [hd]

variable {σ : Type}

theorem exists_resolveConnection (hbuild : r.build = .ok registry) {matched : Dialect}
    (hmatched : registry.resolveUnrefined identity = .ok matched) {probe : Probe σ} {state : σ}
    {rule : Option Impersonation}
    (h : verdict identity (inquiry registry identity probe state) (pendingRules matched) =
      .ok rule) :
    ∃ d, (registry.resolveConnection identity probe state).1 = .ok d ∧
      Behind registry identity matched rule d := by
  have hrule : ∀ chosen ∈ rule, chosen ∈ pendingRules matched := by
    rintro chosen rfl
    exact mem_of_verdict h
  obtain ⟨d, hd, hbehind⟩ := exists_refined hbuild hmatched hrule
  refine ⟨d, ?_, hbehind⟩
  rw [resolveConnection_eq_verdict hmatched, h]
  exact hd

theorem behind_of_resolveConnection (hbuild : r.build = .ok registry) {probe : Probe σ}
    {state : σ} {d : Dialect} (h : (registry.resolveConnection identity probe state).1 = .ok d) :
    ∃ matched rule, registry.resolveUnrefined identity = .ok matched ∧
      verdict identity (inquiry registry identity probe state) (pendingRules matched) = .ok rule ∧
      Behind registry identity matched rule d := by
  cases hmatched : registry.resolveUnrefined identity with
  | error e =>
      rw [resolveConnection_of_error hmatched] at h
      simp at h
  | ok matched =>
      have hrefined := h
      rw [resolveConnection_eq_verdict hmatched] at hrefined
      obtain ⟨rule, hverdict, -⟩ := bind_eq_ok_iff.mp hrefined
      obtain ⟨found, hfound, hbehind⟩ := exists_resolveConnection hbuild hmatched hverdict
      obtain rfl : found = d := Except.ok.inj (hfound.symm.trans h)
      exact ⟨matched, rule, rfl, hverdict, hbehind⟩

theorem resolveConnection_eq_error_iff (hbuild : r.build = .ok registry) {probe : Probe σ}
    {state : σ} {e : Error} :
    (registry.resolveConnection identity probe state).1 = .error e ↔
      Unrecognized r identity e ∨ ∃ q, (q, .error e) ∈ inquiry registry identity probe state := by
  rw [Unrecognized, ← resolveUnrefined_eq_error_iff hbuild]
  cases hmatched : registry.resolveUnrefined identity with
  | error reason =>
      rw [resolveConnection_of_error hmatched, inquiry_of_error hmatched]
      simp
  | ok matched =>
      have hdisciplined := (examined_inquiry hmatched probe state).2.disciplined
      rw [← hdisciplined.verdict_eq_error_iff]
      cases hverdict : verdict identity (inquiry registry identity probe state)
          (pendingRules matched) with
      | error reason =>
          rw [resolveConnection_eq_verdict hmatched, hverdict]
          simp [bind, Except.bind]
      | ok rule =>
          obtain ⟨d, hd, -⟩ := exists_resolveConnection hbuild hmatched hverdict
          simp [hd]

/-- A dialect that a registry should return: it stands under a tag that is defined, it is the
edition at the place that the version has among the thresholds of its gates, no capability is set
without one that it needs, each is decided by an overlay of the chain, and if the connection uses
the driver of another engine, that engine is one that is recognised. -/
structure Sound (r : Registrations) (registry : Registry) (d : Dialect) : Prop where
  edition : ∃ x ∈ r.definitions, x.tag = d.tag ∧
    ∃ e, registry.editions.lookup d.tag = some e ∧ e.compositions.length = x.gates.length + 1 ∧
      e.compositions[(Definition.sortGates x.gates).findIdx (appliesTo d.identity.version?)]? =
        some d.composition
  implications : ∀ pair ∈ Capability.implications, d.has pair.1 = true → d.has pair.2 = true
  origin : ∀ c, (d.composition.flag c).origin ∈ d.chain
  impersonatedVia : ∀ tag, d.impersonatedVia = some tag →
    tag ≠ d.tag ∧ ∃ recognizer ∈ r.recognizers, recognizer.tag = tag

theorem sound_of_dialect? (hbuild : r.build = .ok registry) {tag : String} {d : Dialect}
    (h : registry.dialect? tag identity = some d) : Sound r registry d := by
  obtain ⟨e, he, rfl⟩ := Option.map_eq_some_iff.mp h
  obtain ⟨⟨x, hx, rfl⟩, -⟩ := editions_defined hbuild he
  obtain ⟨path, other, -, hcompose, hother⟩ := exists_editions_of_build hbuild hx
  obtain rfl : other = e := Option.some.inj (hother.symm.trans he)
  obtain ⟨layers, composition, -, hlayers, hdialect⟩ := exists_dialect hbuild hx identity
  have hcomposition : composition = other.select identity.version? := by
    have hsame := Option.some.inj (hdialect.symm.trans h)
    exact congrArg Dialect.composition hsame
  rw [hcomposition] at hlayers
  obtain ⟨hnearest, hkeeps⟩ := (ofLayers_eq_ok_iff _ _).mp hlayers
  refine ⟨⟨x, hx, rfl, other, he, ?_, getElem?_compositions hcompose _⟩, ?_, ?_, by simp⟩
  · rw [length_compositions hcompose, (sortGates_perm x.gates).length_eq]
  · exact (implications_iff hnearest).mpr hkeeps
  · intro c
    obtain ⟨layer, hmem, -, hname⟩ := lastDecides_mem (hnearest.flag c)
    rw [← hname, Dialect.chain, hnearest.chain]
    exact List.mem_map_of_mem hmem

theorem sound_of_unrefined (hbuild : r.build = .ok registry) {d : Dialect}
    (h : registry.resolveUnrefined identity = .ok d) : Sound r registry d := by
  obtain ⟨recognizer, -, hdialect⟩ := resolveUnrefined_eq_ok_iff.mp h
  exact sound_of_dialect? hbuild hdialect

theorem sound_of_behind (hbuild : r.build = .ok registry) {matched d : Dialect}
    (hmatched : registry.resolveUnrefined identity = .ok matched) {rule : Option Impersonation}
    (hrule : ∀ chosen ∈ rule, chosen ∈ pendingRules matched)
    (h : Behind registry identity matched rule d) : Sound r registry d := by
  cases rule with
  | none =>
      obtain rfl : d = matched := h
      exact sound_of_unrefined hbuild hmatched
  | some rule =>
      obtain ⟨detected, hdetected, rfl⟩ := h
      have hdialect := resolveTag_eq_ok_iff.mp hdetected
      have hsound := sound_of_dialect? hbuild hdialect
      refine ⟨hsound.edition, hsound.implications, hsound.origin, ?_⟩
      rintro tag htag
      obtain rfl : matched.tag = tag := Option.some.inj htag
      obtain ⟨-, hother⟩ := pendingRules_defined hbuild hmatched (hrule rule rfl)
      obtain ⟨recognizer, hfind, hmatchedDialect⟩ := resolveUnrefined_eq_ok_iff.mp hmatched
      rw [recognizers_eq hbuild] at hfind
      rw [← (dialect?_eq_some hdialect).1] at hother
      exact ⟨hother.symm, recognizer, List.mem_of_find?_eq_some hfind,
        (dialect?_eq_some hmatchedDialect).1.symm⟩

theorem sound_of_returns (hbuild : r.build = .ok registry) {d : Dialect}
    (h : Returns registry d) : Sound r registry d := by
  cases h with
  | tag h => exact sound_of_dialect? hbuild (resolveTag_eq_ok_iff.mp h)
  | unrefined h => exact sound_of_unrefined hbuild h
  | recorded h =>
      obtain ⟨matched, hmatched, hbehind⟩ := behind_of_resolve hbuild h
      exact sound_of_behind hbuild hmatched (fun _ => mem_of_detectRecorded) hbehind
  | connection h =>
      obtain ⟨matched, rule, hmatched, hverdict, hbehind⟩ :=
        behind_of_resolveConnection hbuild (congrArg Prod.fst h)
      refine sound_of_behind hbuild hmatched ?_ hbehind
      rintro chosen rfl
      exact mem_of_verdict hverdict

/-- What a registry refuses. A fault in a definition is not among it. -/
structure Refusals (r : Registrations) (registry : Registry) : Prop where
  tag : ∀ tag (identity : Identity) e, registry.resolveTag tag identity = .error e ↔
    e = .unsupported (tag ++ " (forced)") identity.productVersion ∧
      ∀ x ∈ r.definitions, x.tag ≠ tag
  unrefined : ∀ identity e,
    registry.resolveUnrefined identity = .error e ↔ Unrecognized r identity e
  recorded : ∀ identity e, registry.resolve identity = .error e ↔ Unrecognized r identity e
  /-- Nothing is asked of a server whose product is not recognised. -/
  unasked : ∀ {σ : Type} identity e (probe : Probe σ) state, Unrecognized r identity e →
    registry.resolveConnection identity probe state = (.error e, state) ∧
      inquiry registry identity probe state = []
  /-- Besides, only what a probe has failed with is passed on. -/
  connection : ∀ {σ : Type} identity e (probe : Probe σ) state,
    (registry.resolveConnection identity probe state).1 = .error e ↔
      Unrecognized r identity e ∨ ∃ q, (q, .error e) ∈ inquiry registry identity probe state
  told : ∀ {σ : Type} identity (probe : Probe σ) state,
    Told probe (inquiry registry identity probe state)

theorem refusals_of_build (hbuild : r.build = .ok registry) : Refusals r registry where
  tag _ _ _ := resolveTag_eq_error_iff hbuild
  unrefined _ _ := resolveUnrefined_eq_error_iff hbuild
  recorded _ _ := resolve_eq_error_iff hbuild
  unasked identity e probe state h := by
    have herror := (resolveUnrefined_eq_error_iff hbuild).mpr h
    exact ⟨resolveConnection_of_error herror probe state, inquiry_of_error herror probe state⟩
  connection _ _ _ _ := resolveConnection_eq_error_iff hbuild
  told identity probe state := told_inquiry registry identity probe state

/-- A registry that has been built refuses what it does not know and passes on failures of a
probe; all that it returns is sound. -/
theorem build_makes_resolution_total_and_sound (hbuild : r.build = .ok registry) :
    Refusals r registry ∧ ∀ d, Returns registry d → Sound r registry d :=
  ⟨refusals_of_build hbuild, fun _ => sound_of_returns hbuild⟩

theorem builtin_resolution_total_and_sound :
    ∃ registry, Builtin.registrations.build = .ok registry ∧
      registry.resolve (.ofProduct "FooDB" "1.0") = .error (.unsupported "FooDB" "1.0") ∧
      ∃ d, registry.resolveTag "mysql" (.ofProduct "MySQL" "8.0") = .ok d ∧
        Sound Builtin.registrations registry d := by
  obtain ⟨registry, hbuild⟩ := BuiltinRegistry.exists_registry
  obtain ⟨hrefusals, hsound⟩ := build_makes_resolution_total_and_sound hbuild
  refine ⟨registry, hbuild, (hrefusals.recorded _ _).mpr ⟨rfl, by decide +kernel⟩, ?_⟩
  cases hresolve : registry.resolveTag "mysql" (.ofProduct "MySQL" "8.0") with
  | error e =>
      obtain ⟨-, hundefined⟩ := (hrefusals.tag _ _ _).mp hresolve
      have hdefined : ∃ x ∈ Builtin.registrations.definitions, x.tag = "mysql" :=
        ⟨_, List.mem_of_getElem? (i := 1) rfl, rfl⟩
      obtain ⟨x, hx, htag⟩ := hdefined
      exact absurd htag (hundefined x hx)
  | ok d => exact ⟨d, rfl, hsound d (.tag hresolve)⟩

end SqlDialects.Proofs.ResolutionOutcomes
