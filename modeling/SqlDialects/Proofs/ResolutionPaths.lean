import SqlDialects.Proofs.BuiltinRules
import SqlDialects.Proofs.ResolutionOutcomes

namespace SqlDialects.Proofs.ResolutionPaths

open ProbeDiscipline
open Registry (pendingRules)
open RegistryContents
open ResolutionOutcomes
open VersionGates

variable {r : Registrations} {registry : Registry} {identity : Identity}

/-- An element that satisfies `p`, while none before it does. -/
def FirstHit {α : Type} (p : α → Bool) (l : List α) (a : α) : Prop :=
  ∃ before after, l = before ++ a :: after ∧ (∀ x ∈ before, p x = false) ∧ p a = true

theorem firstHit_iff {α : Type} {p : α → Bool} {l : List α} {a : α} :
    FirstHit p l a ↔ l.find? p = some a := by
  rw [List.find?_eq_some_iff_append]
  constructor
  · rintro ⟨before, after, hl, hbefore, ha⟩
    exact ⟨ha, before, after, hl, by simpa using hbefore⟩
  · rintro ⟨ha, before, after, hl, hbefore⟩
    exact ⟨before, after, hl, by simpa using hbefore, ha⟩

/-- A dialect is reached from a matched one in at most one step, taken where a rule hits. -/
inductive Reached (registry : Registry) (identity : Identity) (matched : Dialect)
    (hit : Impersonation → Bool) : Dialect → Prop
  | stay : (∀ rule ∈ pendingRules matched, hit rule = false) →
      Reached registry identity matched hit matched
  | step {rule : Impersonation} {detected : Dialect} :
      FirstHit hit (pendingRules matched) rule →
      registry.resolveTag rule.detected identity = .ok detected →
      Reached registry identity matched hit { detected with impersonatedVia := some matched.tag }

theorem reached_of_behind {matched d : Dialect} {hit : Impersonation → Bool}
    (h : Behind registry identity matched ((pendingRules matched).find? hit) d) :
    Reached registry identity matched hit d := by
  cases hfind : (pendingRules matched).find? hit with
  | none =>
      rw [hfind] at h
      obtain rfl : d = matched := h
      exact .stay (by simpa [List.find?_eq_none] using hfind)
  | some rule =>
      rw [hfind] at h
      obtain ⟨detected, hdetected, rfl⟩ := h
      exact .step (firstHit_iff.mpr hfind) hdetected

theorem Reached.eq_of_no_hit {matched d : Dialect} {hit : Impersonation → Bool}
    (h : Reached registry identity matched hit d)
    (hnone : ∀ rule ∈ pendingRules matched, hit rule = false) : d = matched := by
  cases h with
  | stay => rfl
  | step hfirst _ =>
      obtain ⟨before, after, hl, -, hhit⟩ := hfirst
      have hmiss := hnone _ (hl ▸ List.mem_append_right before List.mem_cons_self)
      rw [hhit] at hmiss
      simp at hmiss

theorem find?_hitsIn_of_verdict {log : Log} {rules : List Impersonation}
    {rule : Option Impersonation} (h : verdict identity log rules = .ok rule) :
    rules.find? (hitsIn identity log) = rule := by
  unfold verdict at h
  split at h
  · rename_i hnone
    obtain rfl := Except.ok.inj h
    have hmiss : ∀ x ∈ rules, decides identity log x = false := by
      simpa [List.find?_eq_none] using hnone
    rw [List.find?_eq_none]
    intro x hx
    have hmissed := (Bool.or_eq_false_iff.mp (hmiss x hx)).1
    simp [hmissed]
  · rename_i found hfind
    obtain ⟨before, after, hl, hbefore, hdecides⟩ := firstHit_iff.mpr hfind
    split at h
    · simp at h
    · rename_i houtcome
      obtain rfl := Except.ok.inj h
      refine firstHit_iff.mp ⟨before, after, hl, ?_, ?_⟩
      · intro x hx
        exact (Bool.or_eq_false_iff.mp (hbefore x hx)).1
      · have hfails : failsIn identity log found = false := by
          unfold failsIn
          split
          · rename_i e he
            exact absurd he (houtcome e)
          · rfl
        simpa [decides, hfails] using hdecides

/-- The dialect that a connection has before it is refined. -/
structure Matched (r : Registrations) (registry : Registry) (identity : Identity) (d : Dialect) :
    Prop where
  forced : registry.resolveTag d.tag identity = .ok d
  recognizer : ∃ recognizer, FirstHit (·.accepts identity) r.recognizers recognizer ∧
    recognizer.tag = d.tag
  /-- The rules of the nearest overlay come first, and those that name the engine itself go. -/
  rules : ∃ x ∈ r.definitions, ∃ layers, x.tag = d.tag ∧
    LayersOf r.definitions x identity.version? layers ∧
    pendingRules d =
      (layers.reverse.flatMap (·.impersonations)).filter fun rule => rule.detected != d.tag

theorem matched_of_unrefined (hbuild : r.build = .ok registry) {d : Dialect}
    (h : registry.resolveUnrefined identity = .ok d) : Matched r registry identity d := by
  obtain ⟨x, hx, layers, hxtag, hlayers, hrules⟩ := exists_layers_of_unrefined hbuild h
  obtain ⟨recognizer, hfind, hdialect⟩ := resolveUnrefined_eq_ok_iff.mp h
  rw [recognizers_eq hbuild] at hfind
  have htag : d.tag = recognizer.tag := (dialect?_eq_some hdialect).1
  rw [← htag] at hdialect
  refine ⟨resolveTag_eq_ok_iff.mpr hdialect, ⟨recognizer, firstHit_iff.mpr hfind, htag.symm⟩,
    x, hx, layers, hxtag, hlayers, ?_⟩
  rw [pendingRules, hrules]

/-- Whether a rule hits on what is recorded. -/
def hitsRecorded (identity : Identity) (rule : Impersonation) : Bool :=
  (identity.answer? rule.query).any rule.hits

theorem hitsRecorded_eq_true_iff {rule : Impersonation} :
    hitsRecorded identity rule = true ↔ ∃ answer,
      identity.answer? rule.query = some answer ∧ Mentions answer rule.needle := by
  unfold hitsRecorded
  cases identity.answer? rule.query with
  | none => simp
  | some answer => simp [hits_eq_true_iff]

theorem hitsIn_of_hitsRecorded {rule : Impersonation} (h : hitsRecorded identity rule = true)
    (log : Log) : hitsIn identity log rule = true := by
  cases hanswer : identity.answer? rule.query with
  | none => simp [hitsRecorded, hanswer] at h
  | some answer =>
      rw [hitsRecorded, hanswer] at h
      simpa [hitsIn, outcome?, hanswer] using h

theorem reached_of_resolve (hbuild : r.build = .ok registry) {d : Dialect}
    (h : registry.resolve identity = .ok d) :
    ∃ matched, registry.resolveUnrefined identity = .ok matched ∧
      Reached registry identity matched (hitsRecorded identity) d := by
  obtain ⟨matched, hmatched, hbehind⟩ := behind_of_resolve hbuild h
  exact ⟨matched, hmatched, reached_of_behind hbehind⟩

variable {σ : Type}

theorem reached_of_resolveConnection (hbuild : r.build = .ok registry) {probe : Probe σ}
    {state : σ} {d : Dialect} (h : (registry.resolveConnection identity probe state).1 = .ok d) :
    ∃ matched, registry.resolveUnrefined identity = .ok matched ∧
      Reached registry identity matched (hitsIn identity (inquiry registry identity probe state))
        d := by
  obtain ⟨matched, rule, hmatched, hverdict, hbehind⟩ := behind_of_resolveConnection hbuild h
  rw [← find?_hitsIn_of_verdict hverdict] at hbehind
  exact ⟨matched, hmatched, reached_of_behind hbehind⟩

/-- Where no rule hits and nothing fails, asking makes no difference. -/
theorem eq_matched_of_no_hit (hbuild : r.build = .ok registry) {probe : Probe σ} {state : σ}
    {matched : Dialect} (hmatched : registry.resolveUnrefined identity = .ok matched)
    (hnone : ∀ rule ∈ pendingRules matched,
      hitsIn identity (inquiry registry identity probe state) rule = false)
    (hanswers : ∀ q e, (q, .error e) ∉ inquiry registry identity probe state) :
    registry.resolve identity = .ok matched ∧
      (registry.resolveConnection identity probe state).1 = .ok matched := by
  constructor
  · obtain ⟨d, hd, hbehind⟩ := exists_resolve hbuild hmatched
    have hunrecorded : ∀ rule ∈ pendingRules matched, hitsRecorded identity rule = false := by
      intro rule hrule
      by_contra hhit
      have hhit := hitsIn_of_hitsRecorded (Bool.not_eq_false _ ▸ hhit)
        (inquiry registry identity probe state)
      rw [hnone rule hrule] at hhit
      simp at hhit
    rw [hd, (reached_of_behind hbehind).eq_of_no_hit hunrecorded]
  · cases hd : (registry.resolveConnection identity probe state).1 with
    | error e =>
        exfalso
        rcases (resolveConnection_eq_error_iff hbuild).mp hd with hunrecognized | ⟨q, hq⟩
        · rw [(resolveUnrefined_eq_error_iff hbuild).mpr hunrecognized] at hmatched
          simp at hmatched
        · exact hanswers q e hq
    | ok d =>
        obtain ⟨found, hfound, hreached⟩ := reached_of_resolveConnection hbuild hd
        obtain rfl : found = matched := Except.ok.inj (hfound.symm.trans hmatched)
        rw [hreached.eq_of_no_hit hnone]

/-- All ways to a dialect agree on what a tag means, and none goes further than one step. -/
theorem resolution_paths_agree (hbuild : r.build = .ok registry) (identity : Identity) :
    (∀ matched, registry.resolveUnrefined identity = .ok matched →
      Matched r registry identity matched) ∧
    (∀ d, registry.resolve identity = .ok d →
      ∃ matched, registry.resolveUnrefined identity = .ok matched ∧
        Reached registry identity matched (hitsRecorded identity) d) ∧
    (∀ rule, hitsRecorded identity rule = true ↔ ∃ answer,
      identity.answer? rule.query = some answer ∧ Mentions answer rule.needle) ∧
    ∀ {σ : Type} (probe : Probe σ) (state : σ),
      (∀ rule, hitsIn identity (inquiry registry identity probe state) rule = true ↔ ∃ answer,
        outcome? identity (inquiry registry identity probe state) rule.query =
          some (.ok (some answer)) ∧ Mentions answer rule.needle) ∧
      (∀ d, (registry.resolveConnection identity probe state).1 = .ok d →
        ∃ matched, registry.resolveUnrefined identity = .ok matched ∧
          Reached registry identity matched
            (hitsIn identity (inquiry registry identity probe state)) d) ∧
      (∀ matched, registry.resolveUnrefined identity = .ok matched →
        ∀ entry ∈ inquiry registry identity probe state,
          ∃ rule ∈ pendingRules matched, rule.query = entry.1) ∧
      ∀ matched, registry.resolveUnrefined identity = .ok matched →
        (∀ rule ∈ pendingRules matched,
          hitsIn identity (inquiry registry identity probe state) rule = false) →
        (∀ q e, (q, .error e) ∉ inquiry registry identity probe state) →
        registry.resolve identity = .ok matched ∧
          (registry.resolveConnection identity probe state).1 = .ok matched := by
  refine ⟨fun _ => matched_of_unrefined hbuild, fun _ => reached_of_resolve hbuild,
    fun _ => hitsRecorded_eq_true_iff, ?_⟩
  intro σ probe state
  refine ⟨fun _ => hitsIn_eq_true_iff, fun _ => reached_of_resolveConnection hbuild, ?_, ?_⟩
  · intro matched hmatched entry hentry
    exact (examined_inquiry hmatched probe state).2.disciplined.exists_rule hentry
  · intro matched hmatched hnone hanswers
    exact eq_matched_of_no_hit hbuild hmatched hnone hanswers

/-- A server that passes for MySQL and whose recorded version gives MariaDB away. -/
def hiddenMariadb : Identity :=
  (Identity.ofProduct "MySQL" "5.5.5").withVariable "version" "10.6.12-MariaDB-log"

/-- A MySQL whose recorded variables come close to naming another engine. -/
def nearlyHidden : Identity :=
  ((Identity.ofProduct "MySQL" "8.0").withVariable "version" "8.0.36-Maria-DB").withVariable
    "version_comment" "Info-bright"

theorem resolution_paths_hiddenMariadb :
    ∃ registry, Builtin.registrations.build = .ok registry ∧
      (∃ detected, registry.resolveTag "mariadb" hiddenMariadb = .ok detected ∧
        registry.resolve hiddenMariadb = .ok { detected with impersonatedVia := some "mysql" }) ∧
      ∃ plain, registry.resolveTag "mysql" nearlyHidden = .ok plain ∧
        registry.resolve nearlyHidden = .ok plain := by
  obtain ⟨registry, hbuild⟩ := BuiltinRegistry.exists_registry
  have hfind : ∀ identity ∈ [hiddenMariadb, nearlyHidden],
      (Builtin.registrations.recognizers.find? (·.accepts identity)).map (·.tag) =
        some "mysql" := by
    decide +kernel
  refine ⟨registry, hbuild, ?_, ?_⟩
  · obtain ⟨matched, hmatched, -, htag, hrules⟩ :=
      BuiltinRules.exists_mysql hbuild (hfind hiddenMariadb (by simp))
    have hhit : (pendingRules matched).find? (hitsRecorded hiddenMariadb) =
        some ⟨.serverVariable "version", "MariaDB", "mariadb"⟩ := by
      rw [hrules]
      decide +kernel
    obtain ⟨d, hd, -⟩ := exists_resolve hbuild hmatched
    obtain ⟨other, hother, hreached⟩ := (resolution_paths_agree hbuild hiddenMariadb).2.1 d hd
    obtain rfl : other = matched := Except.ok.inj (hother.symm.trans hmatched)
    cases hreached with
    | stay hnone =>
        rw [List.find?_eq_none.mpr (by simpa using hnone)] at hhit
        simp at hhit
    | @step rule detected hfirst hdetected =>
        obtain rfl := Option.some.inj ((firstHit_iff.mp hfirst).symm.trans hhit)
        rw [htag] at hd
        exact ⟨detected, hdetected, hd⟩
  · obtain ⟨matched, hmatched, hforced, -, hrules⟩ :=
      BuiltinRules.exists_mysql hbuild (hfind nearlyHidden (by simp))
    have hmiss : ∀ rule ∈ pendingRules matched, hitsRecorded nearlyHidden rule = false := by
      rw [hrules]
      decide +kernel
    obtain ⟨d, hd, -⟩ := exists_resolve hbuild hmatched
    obtain ⟨other, hother, hreached⟩ := (resolution_paths_agree hbuild nearlyHidden).2.1 d hd
    obtain rfl : other = matched := Except.ok.inj (hother.symm.trans hmatched)
    rw [hreached.eq_of_no_hit hmiss] at hd
    exact ⟨other, hforced, hd⟩

end SqlDialects.Proofs.ResolutionPaths
