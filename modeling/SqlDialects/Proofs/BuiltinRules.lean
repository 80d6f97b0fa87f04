import Mathlib.Data.List.Find
import SqlDialects.Proofs.RegistryContents
import SqlDialects.Proofs.RegistryValidation
import SqlDialects.Proofs.ReturnedDialects

namespace SqlDialects.Proofs.BuiltinRules

open Lineage
open Registry (pendingRules)
open RegistryBuild
open RegistryContents
open RegistryValidation
open ReturnedDialects

variable {r : Registrations} {registry : Registry} {identity : Identity}

theorem impersonations_of_basePath (hbuild : r.build = .ok registry) {x : Definition}
    (hx : x ∈ r.definitions) {path : List Definition} (hpath : BasePath r.definitions x.tag path)
    (hgates : ∀ g ∈ x.gates, g.overlay.impersonations = []) {d : Dialect}
    (h : registry.dialect? x.tag identity = some d) :
    d.composition.impersonations = path.reverse.flatMap (·.overlay.impersonations) := by
  obtain ⟨⟨-, -, htags⟩, -⟩ := build_eq_ok_iff.mp hbuild
  obtain ⟨layers, composition, hlayers, hcompose, hdialect⟩ := exists_dialect hbuild hx identity
  obtain rfl : _ = d := Option.some.inj (hdialect.symm.trans h)
  obtain ⟨other, applied, hother, happlied, rfl⟩ := hlayers
  obtain rfl : other = path := hother.unique htags hpath
  have hnone : (applied.map (·.overlay)).reverse.flatMap (·.impersonations) = [] := by
    rw [List.flatMap_eq_nil_iff]
    intro layer hlayer
    obtain ⟨g, hg, rfl⟩ := List.mem_map.mp (List.mem_reverse.mp hlayer)
    exact hgates g (List.mem_of_mem_filter (happlied.1.subset hg))
  have hrules := impersonations_eq hcompose
  rw [List.reverse_append, List.flatMap_append, hnone, List.nil_append, ← List.map_reverse,
    List.flatMap_map] at hrules
  exact hrules

/-- MySQL and the engines behind its driver. -/
def driverTags : List String :=
  ["mysql", "mariadb", "infobright"]

theorem exists_driverPath {tag : String} (h : tag ∈ driverTags) :
    ∃ x ∈ Builtin.registrations.definitions, x.tag = tag ∧
      (∀ g ∈ x.gates, g.overlay.impersonations = []) ∧
      ∃ path, BasePath Builtin.registrations.definitions tag path ∧
        path.reverse.flatMap (·.overlay.impersonations) = Builtin.mysql.impersonations := by
  have hroot : Definition.root Builtin.standardTag Builtin.standard ∈
      Builtin.registrations.definitions := List.mem_of_getElem? (i := 0) rfl
  have hmysql : (Builtin.onStandard Builtin.mysql).gate (Builtin.version 4 1)
      Builtin.mysqlBefore41 ∈ Builtin.registrations.definitions :=
    List.mem_of_getElem? (i := 1) rfl
  have hmariadb : Definition.on "mysql" "mariadb" Builtin.mariadb ∈
      Builtin.registrations.definitions := List.mem_of_getElem? (i := 2) rfl
  have hinfobright : Definition.on "mysql" "infobright" Builtin.infobright ∈
      Builtin.registrations.definitions := List.mem_of_getElem? (i := 3) rfl
  have hpath : BasePath Builtin.registrations.definitions "mysql" _ :=
    .step (.root hroot rfl) hmysql rfl
  simp only [driverTags, List.mem_cons, List.not_mem_nil, or_false] at h
  rcases h with rfl | rfl | rfl
  · exact ⟨_, hmysql, rfl, by simp [Definition.gate, Builtin.onStandard, Definition.on,
      Builtin.mysqlBefore41], _, hpath, rfl⟩
  · exact ⟨_, hmariadb, rfl, by simp [Definition.on], _, .step hpath hmariadb rfl, rfl⟩
  · exact ⟨_, hinfobright, rfl, by simp [Definition.on], _, .step hpath hinfobright rfl, rfl⟩

/-- All that the rules of the built-in dialects ask for. -/
def ruleQueries : List Query :=
  [.versionBanner, .serverVariable "version", .serverVariable "version_comment"]

def asksRuleQueries (layer : Overlay) : Bool :=
  layer.impersonations.all fun rule => ruleQueries.contains rule.query

theorem builtin_asksRuleQueries :
    (Builtin.registrations.definitions.all fun d =>
      asksRuleQueries d.overlay && d.gates.all fun g => asksRuleQueries g.overlay) = true := by
  decide +kernel

/-- The recogniser that is tried first, and the only one with a further test. -/
def guardedRecognizer : Recognizer :=
  (Recognizer.ofPatterns "infobright" [(.contains, "mysql")]).guarded Builtin.saysInfobright

def plainRecognizers : List Recognizer :=
  Builtin.registrations.recognizers.tail

theorem builtin_recognizers :
    Builtin.registrations.recognizers = guardedRecognizer :: plainRecognizers :=
  rfl

theorem guard_of_plain {recognizer : Recognizer} (h : recognizer ∈ plainRecognizers) :
    recognizer.guard = none := by
  have hall : (plainRecognizers.all fun recognizer => recognizer.guard.isNone) = true := by
    decide +kernel
  exact Option.isNone_iff_eq_none.mp (List.all_eq_true.mp hall recognizer h)

theorem find?_plainRecognizers {other : Identity}
    (h : other.productName = identity.productName) :
    plainRecognizers.find? (·.accepts other) = plainRecognizers.find? (·.accepts identity) := by
  refine List.find?_congr fun recognizer hmem => ?_
  simp [Recognizer.accepts, guard_of_plain hmem, h]

variable (hbuild : Builtin.registrations.build = .ok registry)
include hbuild

theorem impersonations_of_driver {tag : String} (htag : tag ∈ driverTags) {d : Dialect}
    (h : registry.dialect? tag identity = some d) :
    d.composition.impersonations = Builtin.mysql.impersonations := by
  obtain ⟨x, hx, rfl, hgates, path, hpath, hrules⟩ := exists_driverPath htag
  rw [impersonations_of_basePath hbuild hx hpath hgates h, hrules]

theorem pendingRules_of_driver {tag : String} (htag : tag ∈ driverTags) {d : Dialect}
    (h : registry.dialect? tag identity = some d) :
    pendingRules d = Builtin.mysql.impersonations.filter fun rule => rule.detected != tag := by
  rw [pendingRules, impersonations_of_driver hbuild htag h, (dialect?_eq_some h).1]

theorem exists_mysql
    (h : (Builtin.registrations.recognizers.find? (·.accepts identity)).map (·.tag) =
      some "mysql") :
    ∃ d, registry.resolveUnrefined identity = .ok d ∧
      registry.resolveTag "mysql" identity = .ok d ∧ d.tag = "mysql" ∧
      pendingRules d = Builtin.mysql.impersonations := by
  obtain ⟨d, hd, hdialect⟩ := exists_unrefined hbuild h
  exact ⟨d, hd, resolveTag_eq_ok_iff.mpr hdialect, (dialect?_eq_some hdialect).1,
    pendingRules_of_driver hbuild (by decide) hdialect⟩

theorem query_mem_ruleQueries {d : Dialect} (h : Returns registry d) {rule : Impersonation}
    (hrule : rule ∈ d.composition.impersonations) : rule.query ∈ ruleQueries := by
  obtain ⟨layers, hregistered, hlayers⟩ := h.exists_layers hbuild
  rw [impersonations_eq hlayers, List.mem_flatMap] at hrule
  obtain ⟨layer, hlayer, hrule⟩ := hrule
  have hasks := (hregistered layer (List.mem_reverse.mp hlayer)).of_all builtin_asksRuleQueries
  exact List.contains_iff_mem.mp (List.all_eq_true.mp hasks rule hrule)

end SqlDialects.Proofs.BuiltinRules
