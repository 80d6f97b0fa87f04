import SqlDialects.Proofs.Counterparts
import SqlDialects.Proofs.ResolutionPaths

namespace SqlDialects.Proofs.ConservativeExtension

open Counterparts
open Outcome
open RegistryContents
open ResolutionOutcomes
open ResolutionPaths

variable {r more : Registrations} {registry extended : Registry} {identity : Identity}
  {d matched : Dialect}

/-- A dialect that an identity is resolved to in some way. -/
inductive Resolves (registry : Registry) (identity : Identity) (d : Dialect) : Prop
  | unrefined : registry.resolveUnrefined identity = .ok d → Resolves registry identity d
  | recorded : registry.resolve identity = .ok d → Resolves registry identity d
  | connection {σ : Type} {probe : Probe σ} {state : σ} :
      (registry.resolveConnection identity probe state).1 = .ok d → Resolves registry identity d

/-- The tag whose recogniser has accepted the connection. -/
def claimant (d : Dialect) : String :=
  d.impersonatedVia.getD d.tag

theorem coveredBy_append (definitions added : List Definition) :
    CoveredBy definitions (definitions ++ added) := by
  intro d hd
  exact ⟨d, List.mem_append_left added hd, .refl d⟩

theorem find?_append_of_accepts {recognizers added : List Recognizer} {recognizer : Recognizer}
    (hmem : recognizer ∈ recognizers) (haccepts : recognizer.accepts identity = true) :
    (recognizers ++ added).find? (·.accepts identity) =
      recognizers.find? (·.accepts identity) := by
  have hsome : (recognizers.find? (·.accepts identity)).isSome := by
    rw [List.find?_isSome]
    exact ⟨recognizer, hmem, haccepts⟩
  rw [List.find?_append]
  exact Option.or_of_isSome hsome

theorem claimant_of_unrefined (h : registry.resolveUnrefined identity = .ok d) :
    claimant d = d.tag := by
  obtain ⟨recognizer, -, hdialect⟩ := resolveUnrefined_eq_ok_iff.mp h
  rw [claimant, (dialect?_eq_some hdialect).2.2]
  rfl

theorem claimant_of_behind (hmatched : registry.resolveUnrefined identity = .ok matched)
    {rule : Option Impersonation} (h : Behind registry identity matched rule d) :
    claimant d = matched.tag := by
  cases rule with
  | none =>
      obtain rfl : d = matched := h
      exact claimant_of_unrefined hmatched
  | some rule =>
      obtain ⟨detected, -, rfl⟩ := h
      rfl

/-- However an identity is resolved, the first recogniser that accepts it has claimed it. -/
theorem exists_firstHit_of_resolves (hbuild : r.build = .ok registry)
    (h : Resolves registry identity d) :
    ∃ recognizer, FirstHit (·.accepts identity) r.recognizers recognizer ∧
      claimant d = recognizer.tag := by
  have hfirst : ∀ {matched}, registry.resolveUnrefined identity = .ok matched →
      ∃ recognizer, FirstHit (·.accepts identity) r.recognizers recognizer ∧
        matched.tag = recognizer.tag := by
    intro matched hmatched
    obtain ⟨recognizer, hhit, htag⟩ := (matched_of_unrefined hbuild hmatched).recognizer
    exact ⟨recognizer, hhit, htag.symm⟩
  cases h with
  | unrefined h =>
      rw [claimant_of_unrefined h]
      exact hfirst h
  | recorded h =>
      obtain ⟨matched, hmatched, hbehind⟩ := behind_of_resolve hbuild h
      rw [claimant_of_behind hmatched hbehind]
      exact hfirst hmatched
  | connection h =>
      obtain ⟨matched, rule, hmatched, -, hbehind⟩ := behind_of_resolveConnection hbuild h
      rw [claimant_of_behind hmatched hbehind]
      exact hfirst hmatched

theorem firstHit_of_append {recognizers added : List Recognizer} {recognizer : Recognizer}
    (hrejected : ∀ other ∈ recognizers, other.accepts identity = false)
    (h : FirstHit (·.accepts identity) (recognizers ++ added) recognizer) :
    FirstHit (·.accepts identity) added recognizer := by
  have hnone : recognizers.find? (·.accepts identity) = none := by
    simpa [List.find?_eq_none] using hrejected
  rw [firstHit_iff] at h ⊢
  rwa [List.find?_append, hnone, Option.none_or] at h

/-- What a registry defines and recognises is not touched by what is added to it, and what it
rejects is left to the added recognisers. -/
theorem extension_is_conservative (hbuild : r.build = .ok registry)
    (hextended : (r.append more).build = .ok extended) :
    (∀ x ∈ r.definitions, ∀ identity, ∃ d, registry.resolveTag x.tag identity = .ok d ∧
      extended.resolveTag x.tag identity = .ok d) ∧
    (∀ recognizer ∈ r.recognizers, ∀ identity, recognizer.accepts identity = true →
      AnswersAlike registry extended identity) ∧
    ∀ identity e, registry.resolveUnrefined identity = .error e →
      ∀ d, Resolves extended identity d →
        ∃ recognizer, FirstHit (·.accepts identity) more.recognizers recognizer ∧
          claimant d = recognizer.tag := by
  have hcovered : CoveredBy r.definitions (r.append more).definitions :=
    coveredBy_append r.definitions more.definitions
  refine ⟨?_, ?_, ?_⟩
  · intro x hx identity
    obtain ⟨layers, composition, -, -, hdialect⟩ := exists_dialect hbuild hx identity
    have hsame := dialect?_eq_of_covered hbuild hextended hcovered hx identity
    rw [hdialect] at hsame
    exact ⟨_, resolveTag_eq_ok_iff.mpr hdialect, resolveTag_eq_ok_iff.mpr hsame⟩
  · intro recognizer hmem identity haccepts
    exact answersAlike_of_covered hbuild hextended hcovered (find?_append_of_accepts hmem haccepts)
  · intro identity e herror d hd
    obtain ⟨-, hrejected⟩ := (resolveUnrefined_eq_error_iff hbuild).mp herror
    obtain ⟨recognizer, hhit, hclaimant⟩ := exists_firstHit_of_resolves hextended hd
    exact ⟨recognizer, firstHit_of_append hrejected hhit, hclaimant⟩

/-- An engine of one's own that speaks the language of PostgreSQL. -/
def inHouse : Registrations where
  definitions := [.on "postgresql" "in-house" { name := "in-house" }]
  recognizers := [.ofPatterns "in-house" [(.contains, "in-house")]]

theorem extension_inHouse :
    ∃ registry extended, Builtin.registrations.build = .ok registry ∧
      (Builtin.registrations.append inHouse).build = .ok extended ∧
      AnswersAlike registry extended (.ofProduct "In-House PostgreSQL" "16.2") ∧
      (∃ e, registry.resolveUnrefined (.ofProduct "In-House" "1.0") = .error e) ∧
      ∃ d, extended.resolveUnrefined (.ofProduct "In-House" "1.0") = .ok d ∧
        claimant d = "in-house" := by
  obtain ⟨registry, hbuild⟩ := BuiltinRegistry.exists_registry
  have hok : (Builtin.registrations.append inHouse).build.isOk = true := by decide +kernel
  obtain ⟨extended, hextended⟩ := exists_of_isOk hok
  obtain ⟨-, halike, hclaimed⟩ := extension_is_conservative hbuild hextended
  have haccepted : Builtin.registrations.recognizers.any
      (·.accepts (.ofProduct "In-House PostgreSQL" "16.2")) = true := by
    decide +kernel
  obtain ⟨recognizer, hmem, haccepts⟩ := List.any_eq_true.mp haccepted
  have hunknown : registry.resolveUnrefined (.ofProduct "In-House" "1.0") =
      .error (.unsupported "In-House" "1.0") :=
    (resolveUnrefined_eq_error_iff hbuild).mpr ⟨rfl, by decide +kernel⟩
  have hfind : ((Builtin.registrations.append inHouse).recognizers.find?
      (·.accepts (.ofProduct "In-House" "1.0"))).map (·.tag) = some "in-house" := by
    decide +kernel
  obtain ⟨d, hd, -⟩ := exists_unrefined hextended hfind
  obtain ⟨added, hhit, hclaimant⟩ := hclaimed _ _ hunknown d (.unrefined hd)
  obtain rfl := List.mem_singleton.mp (List.mem_of_find?_eq_some (firstHit_iff.mp hhit))
  exact ⟨registry, extended, hbuild, hextended, halike recognizer hmem _ haccepts,
    ⟨_, hunknown⟩, d, hd, hclaimant⟩

end SqlDialects.Proofs.ConservativeExtension
