import SqlDialects.Proofs.EditionChoice
import SqlDialects.Proofs.Lineage

namespace SqlDialects.Proofs.RegistryBuild

open Definition
open EditionChoice
open GateOrder
open Lineage
open Outcome
open Registrations

/-- A definition with its gates in the order of their thresholds. -/
def arranged (d : Definition) : Definition :=
  { d with gates := sortGates d.gates }

theorem map_tag_arranged (definitions : List Definition) :
    (definitions.map arranged).map (·.tag) = definitions.map (·.tag) := by
  simp [arranged, Function.comp_def]

theorem nodup_tag_arranged {definitions : List Definition}
    (h : (definitions.map (·.tag)).Nodup) : ((definitions.map arranged).map (·.tag)).Nodup := by
  rw [map_tag_arranged]
  exact h

theorem map_overlay_arranged (definitions : List Definition) :
    (definitions.map arranged).map (·.overlay) = definitions.map (·.overlay) := by
  simp [arranged, Function.comp_def]

theorem basePath_arranged_iff {definitions : List Definition} {tag : String}
    {path : List Definition} :
    BasePath (definitions.map arranged) tag path ↔
      ∃ source, BasePath definitions tag source ∧ path = source.map arranged := by
  constructor
  · intro h
    induction h with
    | root hd hbase =>
        obtain ⟨d, hmem, rfl⟩ := List.mem_map.mp hd
        exact ⟨[d], .root hmem hbase, rfl⟩
    | step _ hd hbase ih =>
        obtain ⟨source, hsource, rfl⟩ := ih
        obtain ⟨d, hmem, rfl⟩ := List.mem_map.mp hd
        exact ⟨source ++ [d], .step hsource hmem hbase, by simp⟩
  · rintro ⟨source, hsource, rfl⟩
    induction hsource with
    | @root d hd hbase =>
        exact BasePath.root (d := arranged d) (List.mem_map_of_mem hd) hbase
    | @step d base source _ hd hbase ih =>
        rw [List.map_append]
        exact BasePath.step (d := arranged d) ih (List.mem_map_of_mem hd) hbase

theorem fresh_cons_iff {α : Type} (tagOf : α → String) (seen : List String) (a : α)
    (rest : List α) :
    (∀ e ∈ a :: rest, tagOf e ∉ seen) ∧ ((a :: rest).map tagOf).Nodup ↔
      tagOf a ∉ seen ∧ (∀ e ∈ rest, tagOf e ∉ tagOf a :: seen) ∧ (rest.map tagOf).Nodup := by
  rw [List.forall_mem_cons, List.map_cons, List.nodup_cons]
  constructor
  · rintro ⟨⟨hfresh, hunseen⟩, hdistinct, hnodup⟩
    refine ⟨hfresh, ?_, hnodup⟩
    intro e he hmem
    rcases List.mem_cons.mp hmem with htag | hmem
    · exact hdistinct (List.mem_map.mpr ⟨e, he, htag⟩)
    · exact hunseen e he hmem
  · rintro ⟨hfresh, hunseen, hnodup⟩
    refine ⟨⟨hfresh, ?_⟩, ?_, hnodup⟩
    · intro e he hmem
      exact hunseen e he (List.mem_cons_of_mem _ hmem)
    · intro hmem
      obtain ⟨e, he, htag⟩ := List.mem_map.mp hmem
      exact hunseen e he (by simp [htag])

theorem checkDefinitions_eq_ok_iff {seen : List String} {definitions checked : List Definition} :
    checkDefinitions seen definitions = .ok checked ↔
      checked = definitions.map arranged ∧ (∀ d ∈ definitions, isCanonical d.tag = true) ∧
        (∀ d ∈ definitions, (d.gates.map (·.below)).Nodup) ∧
        (∀ d ∈ definitions, d.tag ∉ seen) ∧ (definitions.map (·.tag)).Nodup := by
  induction definitions generalizing seen checked with
  | nil =>
      simp only [checkDefinitions, Except.ok.injEq, List.map_nil, List.not_mem_nil]
      constructor
      · rintro rfl
        simp
      · rintro ⟨rfl, -⟩
        rfl
  | cons d rest ih =>
      rw [fresh_cons_iff, List.forall_mem_cons, List.forall_mem_cons, List.map_cons]
      simp only [checkDefinitions, bind_eq_ok_iff, pure_eq_ok_iff, registrationsRequire_eq_ok_iff,
        Bool.not_eq_true', List.contains_eq_mem, decide_eq_false_iff_not,
        sharesThreshold_sortGates_iff, ih]
      constructor
      · rintro ⟨-, hcanonical, -, hfresh, -, hgates, -, ⟨rfl, hcanonicals, hothers, hrest⟩, rfl⟩
        exact ⟨rfl, ⟨hcanonical, hcanonicals⟩, ⟨hgates, hothers⟩, hfresh, hrest⟩
      · rintro ⟨rfl, ⟨hcanonical, hcanonicals⟩, ⟨hgates, hothers⟩, hfresh, hrest⟩
        exact ⟨(), hcanonical, (), hfresh, (), hgates, _, ⟨rfl, hcanonicals, hothers, hrest⟩, rfl⟩

theorem any_tag_iff {definitions : List Definition} {tag : String} :
    definitions.any (·.tag == tag) = true ↔ ∃ d ∈ definitions, d.tag = tag := by
  simp

theorem checkRecognizers_eq_ok_iff {definitions : List Definition} {seen : List String}
    {recognizers : List Recognizer} {u : Unit} :
    checkRecognizers definitions seen recognizers = .ok u ↔
      (∀ r ∈ recognizers, isCanonical r.tag = true) ∧
        (∀ r ∈ recognizers, r.patterns ≠ [] ∧ ∃ d ∈ definitions, d.tag = r.tag) ∧
        (∀ r ∈ recognizers, r.tag ∉ seen) ∧ (recognizers.map (·.tag)).Nodup := by
  induction recognizers generalizing seen with
  | nil => simp [checkRecognizers]
  | cons r rest ih =>
      rw [fresh_cons_iff, List.forall_mem_cons, List.forall_mem_cons]
      simp only [checkRecognizers, bind_eq_ok_iff, registrationsRequire_eq_ok_iff,
        Bool.not_eq_true', List.contains_eq_mem, decide_eq_false_iff_not, any_tag_iff, ih,
        List.isEmpty_eq_false_iff]
      constructor
      · rintro ⟨-, hcanonical, -, hfresh, -, hpatterns, -, hdefined, hcanonicals, hfit, hrest⟩
        exact ⟨⟨hcanonical, hcanonicals⟩, ⟨⟨hpatterns, hdefined⟩, hfit⟩, hfresh, hrest⟩
      · rintro ⟨⟨hcanonical, hcanonicals⟩, ⟨⟨hpatterns, hdefined⟩, hfit⟩, hfresh, hrest⟩
        exact ⟨(), hcanonical, (), hfresh, (), hpatterns, (), hdefined, hcanonicals, hfit, hrest⟩

theorem registrationsLine_eq_ok_iff {definitions : List Definition} {tag : String}
    {path : List Definition} :
    Registrations.line definitions tag = .ok path ↔ Definition.line definitions tag = .ok path := by
  unfold Registrations.line
  split <;> simp_all

theorem strayTarget?_eq_none_iff {definitions : List Definition}
    {compositions : List Composition} :
    strayTarget? definitions compositions = none ↔
      ∀ c ∈ compositions, ∀ rule ∈ c.impersonations,
        ∃ d ∈ definitions, d.tag = rule.detected := by
  rw [strayTarget?, List.find?_eq_none]
  simp only [List.mem_map, List.mem_flatMap, Bool.not_eq_eq_eq_not, Bool.not_true,
    Bool.not_eq_false, any_tag_iff]
  constructor
  · intro h c hc rule hrule
    exact h rule.detected ⟨rule, ⟨c, hc, hrule⟩, rfl⟩
  · rintro h _ ⟨rule, ⟨c, hc, hrule⟩, rfl⟩
    exact h c hc rule hrule

theorem editionsOf_eq_ok_iff {definitions : List Definition} {d : Definition} {e : Editions} :
    editionsOf definitions d = .ok e ↔
      ∃ path, Definition.line definitions d.tag = .ok path ∧
        Editions.compose (path.map (·.overlay)) d.gates = .ok e ∧
        ∀ c ∈ e.compositions, ∀ rule ∈ c.impersonations,
          ∃ target ∈ definitions, target.tag = rule.detected := by
  simp only [editionsOf, bind_eq_ok_iff, mapError_eq_ok_iff, registrationsLine_eq_ok_iff]
  constructor
  · rintro ⟨path, hpath, editions, hcompose, hstray⟩
    split at hstray
    · simp at hstray
    · rename_i hnone
      obtain rfl := pure_eq_ok_iff.mp hstray
      exact ⟨path, hpath, hcompose, strayTarget?_eq_none_iff.mp hnone⟩
  · rintro ⟨path, hpath, hcompose, htargets⟩
    refine ⟨path, hpath, e, hcompose, ?_⟩
    rw [strayTarget?_eq_none_iff.mpr htargets]
    rfl

/-- The editions of a definition under its tag. -/
def EditionsOf (definitions : List Definition) (d : Definition) (entry : String × Editions) :
    Prop :=
  entry.1 = d.tag ∧ editionsOf definitions d = .ok entry.2

theorem allEditions_eq_ok_iff {definitions part : List Definition}
    {entries : List (String × Editions)} :
    allEditions definitions part = .ok entries ↔
      List.Forall₂ (EditionsOf definitions) part entries := by
  induction part generalizing entries with
  | nil => simp [allEditions, eq_comm]
  | cons d rest ih =>
      simp only [allEditions, bind_eq_ok_iff, pure_eq_ok_iff, ih, List.forall₂_cons_left_iff]
      constructor
      · rintro ⟨e, he, others, hothers, rfl⟩
        exact ⟨(d.tag, e), others, ⟨rfl, he⟩, hothers, rfl⟩
      · rintro ⟨⟨tag, e⟩, others, ⟨htag, he⟩, hothers, rfl⟩
        exact ⟨e, he, others, hothers, by rw [← htag]⟩

theorem exists_allEditions_iff {definitions part : List Definition} :
    (∃ entries, allEditions definitions part = .ok entries) ↔
      ∀ d ∈ part, ∃ e, editionsOf definitions d = .ok e := by
  simp only [allEditions_eq_ok_iff]
  induction part with
  | nil => simp
  | cons d rest ih =>
      simp only [List.forall₂_cons_left_iff, List.forall_mem_cons, ← ih]
      constructor
      · rintro ⟨_, entry, others, hentry, hothers, rfl⟩
        exact ⟨⟨entry.2, hentry.2⟩, others, hothers⟩
      · rintro ⟨⟨e, he⟩, others, hothers⟩
        exact ⟨_, (d.tag, e), others, ⟨rfl, he⟩, hothers, rfl⟩

theorem lookup_eq_some_iff {definitions part : List Definition}
    {entries : List (String × Editions)}
    (h : List.Forall₂ (EditionsOf definitions) part entries) (htags : (part.map (·.tag)).Nodup)
    {tag : String} {e : Editions} :
    entries.lookup tag = some e ↔
      ∃ d ∈ part, d.tag = tag ∧ editionsOf definitions d = .ok e := by
  induction h with
  | nil => simp
  | @cons d entry rest others hentry hothers ih =>
      obtain ⟨entryTag, editions⟩ := entry
      obtain ⟨rfl, hentry⟩ := hentry
      obtain ⟨hdistinct, hrest⟩ := List.nodup_cons.mp htags
      rw [List.lookup_cons]
      by_cases htag : tag = d.tag
      · subst htag
        simp only [beq_self_eq_true, Option.some.injEq]
        constructor
        · rintro rfl
          exact ⟨d, List.mem_cons_self, rfl, hentry⟩
        · rintro ⟨other, hmem, hother, he⟩
          rcases List.mem_cons.mp hmem with rfl | hmem
          · exact Except.ok.inj (hentry.symm.trans he)
          · exact absurd (List.mem_map.mpr ⟨other, hmem, hother⟩) hdistinct
      · have hne : (tag == d.tag) = false := by simpa using htag
        rw [hne, ih hrest]
        constructor
        · rintro ⟨other, hmem, hother⟩
          exact ⟨other, List.mem_cons_of_mem _ hmem, hother⟩
        · rintro ⟨other, hmem, hother, he⟩
          rcases List.mem_cons.mp hmem with rfl | hmem
          · exact absurd hother.symm htag
          · exact ⟨other, hmem, hother, he⟩

theorem build_eq_ok_iff {r : Registrations} {registry : Registry} :
    build r = .ok registry ↔
      ((∀ d ∈ r.definitions, isCanonical d.tag = true) ∧
        (∀ d ∈ r.definitions, (d.gates.map (·.below)).Nodup) ∧
        (r.definitions.map (·.tag)).Nodup) ∧
      ((∀ e ∈ r.recognizers, isCanonical e.tag = true) ∧
        (∀ e ∈ r.recognizers, e.patterns ≠ [] ∧ ∃ d ∈ r.definitions, d.tag = e.tag) ∧
        (r.recognizers.map (·.tag)).Nodup) ∧
      ∃ entries, List.Forall₂ (EditionsOf (r.definitions.map arranged))
          (r.definitions.map arranged) entries ∧
        registry = ⟨r.definitions.map arranged, entries, r.recognizers⟩ := by
  have hdefined : ∀ tag, (∃ d ∈ r.definitions.map arranged, d.tag = tag) ↔
      ∃ d ∈ r.definitions, d.tag = tag := by
    intro tag
    simp [arranged]
  simp only [build, bind_eq_ok_iff, pure_eq_ok_iff, checkDefinitions_eq_ok_iff,
    checkRecognizers_eq_ok_iff, allEditions_eq_ok_iff, List.not_mem_nil, not_false_eq_true,
    implies_true, true_and]
  constructor
  · rintro ⟨_, ⟨rfl, hdefinitions⟩, entries, hentries, -, hrecognizers, rfl⟩
    simp only [hdefined] at hrecognizers
    exact ⟨hdefinitions, hrecognizers, entries, hentries, rfl⟩
  · rintro ⟨hdefinitions, hrecognizers, entries, hentries, rfl⟩
    simp only [← hdefined] at hrecognizers
    exact ⟨_, ⟨rfl, hdefinitions⟩, entries, hentries, (), hrecognizers, rfl⟩

/-- A check that reports nothing but faults of what is registered. -/
def ReportsDefinitions {α : Type} (outcome : Except Error α) : Prop :=
  ∀ e, outcome = .error e → ∃ tag fault, e = .definition tag fault

theorem ReportsDefinitions.ok {α : Type} (a : α) : ReportsDefinitions (.ok a) := by
  intro e h
  simp at h

theorem ReportsDefinitions.error {α : Type} (tag : String) (fault : DefinitionFault) :
    ReportsDefinitions (.error (.definition tag fault) : Except Error α) := by
  intro e h
  exact ⟨tag, fault, (Except.error.inj h).symm⟩

theorem ReportsDefinitions.bind {α β : Type} {first : Except Error α}
    {next : α → Except Error β} (hfirst : ReportsDefinitions first)
    (hnext : ∀ a, ReportsDefinitions (next a)) : ReportsDefinitions (first >>= next) := by
  cases first with
  | error e =>
      intro e' h
      obtain rfl := Except.error.inj h
      exact hfirst e rfl
  | ok a => exact hnext a

theorem require_reportsDefinitions (tag : String) (fault : DefinitionFault) (holds : Bool) :
    ReportsDefinitions (Registrations.require tag fault holds) := by
  cases holds with
  | false => exact .error tag fault
  | true => exact .ok ()

theorem checkDefinitions_reportsDefinitions (seen : List String) (definitions : List Definition) :
    ReportsDefinitions (checkDefinitions seen definitions) := by
  induction definitions generalizing seen with
  | nil => exact .ok _
  | cons d rest ih =>
      refine (require_reportsDefinitions _ _ _).bind fun _ => ?_
      refine (require_reportsDefinitions _ _ _).bind fun _ => ?_
      refine (require_reportsDefinitions _ _ _).bind fun _ => ?_
      exact (ih _).bind fun _ => .ok _

theorem editionsOf_reportsDefinitions (definitions : List Definition) (d : Definition) :
    ReportsDefinitions (editionsOf definitions d) := by
  have hline : ReportsDefinitions (Registrations.line definitions d.tag) := by
    unfold Registrations.line
    split
    · exact .ok _
    · exact .error _ _
    · exact .error _ _
  refine hline.bind fun path => ?_
  refine ReportsDefinitions.bind ?_ fun editions => ?_
  · cases Editions.compose (path.map (·.overlay)) d.gates with
    | error fault => exact .error _ _
    | ok e => exact .ok _
  · split
    · exact .error _ _
    · exact .ok _

theorem allEditions_reportsDefinitions (definitions part : List Definition) :
    ReportsDefinitions (allEditions definitions part) := by
  induction part with
  | nil => exact .ok _
  | cons d rest ih =>
      refine (editionsOf_reportsDefinitions definitions d).bind fun _ => ?_
      exact ih.bind fun _ => .ok _

theorem checkRecognizers_reportsDefinitions (definitions : List Definition) (seen : List String)
    (recognizers : List Recognizer) :
    ReportsDefinitions (checkRecognizers definitions seen recognizers) := by
  induction recognizers generalizing seen with
  | nil => exact .ok _
  | cons r rest ih =>
      refine (require_reportsDefinitions _ _ _).bind fun _ => ?_
      refine (require_reportsDefinitions _ _ _).bind fun _ => ?_
      refine (require_reportsDefinitions _ _ _).bind fun _ => ?_
      exact (require_reportsDefinitions _ _ _).bind fun _ => ih _

theorem build_reportsDefinitions (r : Registrations) : ReportsDefinitions (build r) := by
  refine (checkDefinitions_reportsDefinitions _ _).bind fun _ => ?_
  refine (allEditions_reportsDefinitions _ _).bind fun _ => ?_
  exact (checkRecognizers_reportsDefinitions _ _ _).bind fun _ => .ok _

end SqlDialects.Proofs.RegistryBuild
