import SqlDialects.Proofs.ResolutionOutcomes

namespace SqlDialects.Proofs.Counterparts

open Lineage
open ProbeDiscipline
open RegistryContents
open Registry (pendingRules)
open ResolutionOutcomes
open VersionGates

/-- Definitions that differ at most in the order in which their gates are declared. -/
structure Counterpart (d e : Definition) : Prop where
  tag : d.tag = e.tag
  base : d.base = e.base
  overlay : d.overlay = e.overlay
  gates : d.gates.Perm e.gates

def CoveredBy (definitions others : List Definition) : Prop :=
  ∀ d ∈ definitions, ∃ e ∈ others, Counterpart d e

/-- Two registries answer alike for an identity, whichever way they are asked. -/
structure AnswersAlike (registry twin : Registry) (identity : Identity) : Prop where
  unrefined : twin.resolveUnrefined identity = registry.resolveUnrefined identity
  recorded : twin.resolve identity = registry.resolve identity
  connection : ∀ {σ : Type} (probe : Probe σ) (state : σ),
    twin.resolveConnection identity probe state = registry.resolveConnection identity probe state

variable {definitions others path other : List Definition} {d e : Definition}

theorem Counterpart.refl (d : Definition) : Counterpart d d :=
  ⟨rfl, rfl, rfl, .refl _⟩

theorem Counterpart.symm (h : Counterpart d e) : Counterpart e d :=
  ⟨h.tag.symm, h.base.symm, h.overlay.symm, h.gates.symm⟩

theorem map_eq_of_counterparts {α : Type} {f : Definition → α}
    (hf : ∀ d e, Counterpart d e → f d = f e) (h : List.Forall₂ Counterpart path other) :
    path.map f = other.map f := by
  induction h with
  | nil => rfl
  | cons hde _ ih => rw [List.map_cons, List.map_cons, hf _ _ hde, ih]

theorem coveredBy_of_counterparts (h : List.Forall₂ Counterpart definitions others) :
    CoveredBy definitions others := by
  induction h with
  | nil => simp [CoveredBy]
  | @cons d e _ _ hde _ ih =>
      intro x hx
      rcases List.mem_cons.mp hx with rfl | hx
      · exact ⟨e, List.mem_cons_self, hde⟩
      · obtain ⟨y, hy, hxy⟩ := ih x hx
        exact ⟨y, List.mem_cons_of_mem _ hy, hxy⟩

theorem CoveredBy.exists_basePath (h : CoveredBy definitions others) {tag : String}
    (hpath : BasePath definitions tag path) :
    ∃ other, BasePath others tag other ∧ List.Forall₂ Counterpart path other := by
  induction hpath with
  | root hd hbase =>
      obtain ⟨e, he, hde⟩ := h _ hd
      rw [hde.tag]
      exact ⟨[e], .root he (hde.base ▸ hbase), .cons hde .nil⟩
  | step _ hd hbase ih =>
      obtain ⟨other, hother, hsame⟩ := ih
      obtain ⟨e, he, hde⟩ := h _ hd
      rw [hde.tag]
      refine ⟨other ++ [e], .step hother he (hde.base ▸ hbase), ?_⟩
      exact List.rel_append hsame (.cons hde .nil)

theorem Counterpart.applied (h : Counterpart d e) {version : Option Version} {gates : List Gate}
    (happlied : Applied d.gates version gates) : Applied e.gates version gates :=
  ⟨happlied.1.trans (h.gates.filter _), happlied.2⟩

/-- A definition and its counterpart are described by the same overlays. -/
theorem Counterpart.layersOf (hde : Counterpart d e) (h : CoveredBy definitions others)
    {version : Option Version} {layers : List Overlay}
    (hlayers : LayersOf definitions d version layers) : LayersOf others e version layers := by
  obtain ⟨path, gates, hpath, happlied, rfl⟩ := hlayers
  obtain ⟨other, hother, hsame⟩ := h.exists_basePath hpath
  rw [hde.tag] at hother
  refine ⟨other, gates, hother, hde.applied happlied, ?_⟩
  rw [map_eq_of_counterparts (fun _ _ hde => hde.overlay) hsame]

variable {r s : Registrations} {registry twin : Registry} {identity : Identity}
  {matched : Dialect}

theorem mem_of_detect (hmatched : registry.resolveUnrefined identity = .ok matched) {σ : Type}
    (probe : Probe σ) (state : σ) {rule : Option Impersonation}
    (h : (Impersonation.detect (pendingRules matched) identity probe state).1 = .ok rule) :
    ∀ chosen ∈ rule, chosen ∈ pendingRules matched := by
  rintro chosen rfl
  have hjudged := (examined_inquiry hmatched probe state).2.judged
  rw [h] at hjudged
  exact mem_of_verdict hjudged.symm

variable (hbuild : r.build = .ok registry) (htwin : s.build = .ok twin)
  (hcovered : CoveredBy r.definitions s.definitions)
include hbuild htwin hcovered

theorem dialect?_eq_of_covered {x : Definition} (hx : x ∈ r.definitions) (identity : Identity) :
    twin.dialect? x.tag identity = registry.dialect? x.tag identity := by
  obtain ⟨⟨-, -, htags⟩, -⟩ := RegistryBuild.build_eq_ok_iff.mp htwin
  obtain ⟨y, hy, hxy⟩ := hcovered x hx
  obtain ⟨layers, composition, hlayers, hcompose, hdialect⟩ := exists_dialect hbuild hx identity
  obtain ⟨layers', composition', hlayers', hcompose', hdialect'⟩ :=
    exists_dialect htwin hy identity
  obtain rfl : layers = layers' := (hxy.layersOf hcovered hlayers).unique htags hlayers'
  obtain rfl : composition = composition' := Except.ok.inj (hcompose.symm.trans hcompose')
  rw [hdialect, hxy.tag, hdialect']

theorem unrefined_eq_of_covered
    (hfind : s.recognizers.find? (·.accepts identity) = r.recognizers.find? (·.accepts identity)) :
    twin.resolveUnrefined identity = registry.resolveUnrefined identity := by
  rw [Registry.resolveUnrefined, Registry.resolveUnrefined, recognizers_eq hbuild,
    recognizers_eq htwin, hfind]
  cases h : r.recognizers.find? (·.accepts identity) with
  | none => rfl
  | some recognizer =>
      obtain ⟨x, hx, htag⟩ := recognizer_defined hbuild (List.mem_of_find?_eq_some h)
      have hsame := dialect?_eq_of_covered hbuild htwin hcovered hx identity
      rw [htag] at hsame
      simp only [hsame]

theorem refined_eq_of_covered (hmatched : registry.resolveUnrefined identity = .ok matched)
    {rule : Option Impersonation} (hrule : ∀ chosen ∈ rule, chosen ∈ pendingRules matched) :
    twin.refined matched rule = registry.refined matched rule := by
  cases rule with
  | none => rfl
  | some rule =>
      obtain ⟨⟨x, hx, htag⟩, -⟩ := pendingRules_defined hbuild hmatched (hrule rule rfl)
      have hsame := dialect?_eq_of_covered hbuild htwin hcovered hx matched.identity
      rw [htag] at hsame
      rw [Registry.refined, Registry.refined, hsame]

theorem answersAlike_of_covered
    (hfind : s.recognizers.find? (·.accepts identity) = r.recognizers.find? (·.accepts identity)) :
    AnswersAlike registry twin identity := by
  have hsame := unrefined_eq_of_covered hbuild htwin hcovered hfind
  cases hmatched : registry.resolveUnrefined identity with
  | error e =>
      rw [hmatched] at hsame
      refine ⟨hsame.trans hmatched.symm, ?_, ?_⟩
      · rw [Registry.resolve, Registry.resolve, hsame, hmatched]
        rfl
      · intro σ probe state
        rw [resolveConnection_of_error hmatched, resolveConnection_of_error hsame]
  | ok matched =>
      rw [hmatched] at hsame
      refine ⟨hsame.trans hmatched.symm, ?_, ?_⟩
      · rw [Registry.resolve, Registry.resolve, hsame, hmatched]
        exact refined_eq_of_covered hbuild htwin hcovered hmatched fun _ => mem_of_detectRecorded
      · intro σ probe state
        rw [resolveConnection_of_ok hmatched, resolveConnection_of_ok hsame]
        cases hfound : (Impersonation.detect (pendingRules matched) identity probe state).1 with
        | error e => rfl
        | ok rule =>
            have hrule := mem_of_detect hmatched probe state hfound
            change (twin.refined matched rule, _) = (registry.refined matched rule, _)
            rw [refined_eq_of_covered hbuild htwin hcovered hmatched hrule]

end SqlDialects.Proofs.Counterparts
