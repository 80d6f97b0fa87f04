import SqlDialects.Proofs.CompletedSnapshot
import SqlDialects.Proofs.ResolutionOutcomes

/-!
Whether the answers of a server are asked for or recorded beforehand makes a difference in one case
only. A recorded comment on the version lets the recogniser of Infobright accept, which is tried
first and whose rules name MariaDB; if it has to be asked for, a product that also calls itself
MariaDB is taken for MariaDB, whose rules name Infobright.
-/

namespace SqlDialects.Proofs.MetadataSource

open BuiltinRules
open CompletedSnapshot
open Impersonation
open ProbeDiscipline
open Registry (pendingRules)
open RegistryContents
open ResolutionOutcomes

variable {σ : Type} {r : Registrations} {registry : Registry} {identity other : Identity}
  {probe : Probe σ} {answer : Query → Option String} {queries : List Query}

def tagFound (outcome : Except Error Dialect) : Option String :=
  outcome.toOption.map (·.tag)

/-- The tag that a matched dialect is refined to by the answers of a server. -/
def settled (matched : Dialect) (identity : Identity) (answer : Query → Option String) : String :=
  (((pendingRules matched).find? (givesAway identity answer)).map (·.detected)).getD matched.tag

theorem tag_of_behind {matched d : Dialect} {rule : Option Impersonation}
    (h : Behind registry identity matched rule d) :
    d.tag = (rule.map (·.detected)).getD matched.tag := by
  cases rule with
  | none =>
      obtain rfl : d = matched := h
      rfl
  | some rule =>
      obtain ⟨detected, hdetected, rfl⟩ := h
      exact (dialect?_eq_some (resolveTag_eq_ok_iff.mp hdetected)).1

theorem tagFound_connection (hbuild : r.build = .ok registry) (hsteady : Steady probe answer)
    {matched : Dialect} (hmatched : registry.resolveUnrefined identity = .ok matched) (state : σ) :
    tagFound (registry.resolveConnection identity probe state).1 =
      some (settled matched identity answer) := by
  have hrule : ∀ rule ∈ (pendingRules matched).find? (givesAway identity answer),
      rule ∈ pendingRules matched := fun _ => List.mem_of_find?_eq_some
  obtain ⟨d, hd, hbehind⟩ := exists_refined hbuild hmatched hrule
  have hresult : (registry.resolveConnection identity probe state).1 = .ok d := by
    rw [resolveConnection_of_ok hmatched, detect_steady hsteady]
    exact hd
  rw [hresult]
  exact congrArg some (tag_of_behind hbehind)

theorem tagFound_recorded (hbuild : r.build = .ok registry) {matched : Dialect}
    (hmatched : registry.resolveUnrefined (completed answer queries identity) = .ok matched)
    (hcovered : ∀ rule ∈ pendingRules matched, rule.query ∈ queries) :
    tagFound (registry.resolve (completed answer queries identity)) =
      some (settled matched identity answer) := by
  obtain ⟨d, hd, hbehind⟩ := exists_resolve hbuild hmatched
  rw [detectRecorded_completed hcovered] at hbehind
  rw [hd]
  exact congrArg some (tag_of_behind hbehind)

theorem settled_congr {tag : String} {d e : Dialect} (hversion : other.version? = identity.version?)
    (hd : registry.dialect? tag identity = some d) (he : registry.dialect? tag other = some e) :
    settled e identity answer = settled d identity answer := by
  obtain ⟨editions, heditions, rfl⟩ := Option.map_eq_some_iff.mp hd
  obtain ⟨editions', heditions', rfl⟩ := Option.map_eq_some_iff.mp he
  obtain rfl := Option.some.inj (heditions.symm.trans heditions')
  simp only [settled, pendingRules, hversion]

/-- Whether a product calls itself by a word, perhaps among others. -/
def mentions (word : String) (identity : Identity) : Bool :=
  (Pattern.mk .contains word).accepts identity.productName

def versionRule : Impersonation :=
  ⟨.serverVariable "version", "MariaDB", "mariadb"⟩

def commentRule : Impersonation :=
  ⟨.serverVariable "version_comment", "Infobright", "infobright"⟩

/-- A product of MySQL whose comment on the version names Infobright and is not recorded. -/
structure Revealed (identity : Identity) (answer : Query → Option String) : Prop where
  mysql : mentions "mysql" identity = true
  unrecorded : identity.answer? (.serverVariable "version_comment") = none
  comment : givesAway identity answer commentRule = true

/-- In addition both the product and its version name MariaDB. -/
structure Contested (identity : Identity) (answer : Query → Option String) : Prop extends
    Revealed identity answer where
  mariadb : mentions "mariadb" identity = true
  version : givesAway identity answer versionRule = true

theorem accepts_guardedRecognizer :
    guardedRecognizer.accepts identity =
      (mentions "mysql" identity && Builtin.saysInfobright identity) := by
  simp [guardedRecognizer, Recognizer.accepts, Recognizer.guarded, Recognizer.ofPatterns, mentions]

theorem find?_recognizers :
    Builtin.registrations.recognizers.find? (·.accepts identity) =
      if guardedRecognizer.accepts identity then some guardedRecognizer
      else plainRecognizers.find? (·.accepts identity) := by
  rw [builtin_recognizers, List.find?_cons]
  cases guardedRecognizer.accepts identity <;> rfl

/-- Of the other recognisers that of MariaDB is tried before that of MySQL. -/
theorem tag_of_mentions_mysql (h : mentions "mysql" identity = true) :
    (plainRecognizers.find? (·.accepts identity)).map (·.tag) =
      some (if mentions "mariadb" identity then "mariadb" else "mysql") := by
  have hplain : plainRecognizers = .ofPatterns "mariadb" [(.contains, "mariadb")] ::
      .ofPatterns "mysql" [(.contains, "mysql")] :: plainRecognizers.tail.tail := rfl
  have haccepts : ∀ tag word, (Recognizer.ofPatterns tag [(.contains, word)]).accepts identity =
      mentions word identity := by
    simp [Recognizer.accepts, Recognizer.ofPatterns, mentions]
  rw [hplain, List.find?_cons, List.find?_cons, haccepts, haccepts, h]
  cases mentions "mariadb" identity <;> rfl

theorem saysInfobright_eq :
    Builtin.saysInfobright identity =
      (identity.answer? (.serverVariable "version_comment")).any commentRule.hits := by
  have hneedle : Text.LetterCase.lower commentRule.needle = "infobright" := by decide +kernel
  have hhits : commentRule.hits =
      fun comment => Text.Search.contains (Text.LetterCase.lower comment) "infobright" := by
    funext comment
    rw [hits, hneedle]
  rw [hhits]
  rfl

theorem saysInfobright_completed :
    Builtin.saysInfobright (completed answer ruleQueries identity) =
      givesAway identity answer commentRule := by
  have hcovered : lowered (.serverVariable "version_comment") ∈ ruleQueries.map lowered :=
    List.mem_map_of_mem (by decide)
  rw [saysInfobright_eq, answer?_completed, if_pos hcovered]
  rfl

theorem Revealed.saysInfobright (h : Revealed identity answer) :
    Builtin.saysInfobright identity = false := by
  rw [saysInfobright_eq, h.unrecorded]
  rfl

theorem saysInfobright_of_recorded {text : String}
    (h : identity.answer? (.serverVariable "version_comment") = some text) :
    Builtin.saysInfobright identity = givesAway identity answer commentRule := by
  rw [saysInfobright_eq, givesAway, answered, commentRule, h]
  rfl

theorem mentions_completed (word : String) :
    mentions word (completed answer queries identity) = mentions word identity := by
  rw [mentions, (product_completed answer queries identity).1, mentions]

theorem accepts_completed_of_not_revealed (h : ¬ Revealed identity answer) :
    guardedRecognizer.accepts (completed answer ruleQueries identity) =
      guardedRecognizer.accepts identity := by
  rw [accepts_guardedRecognizer, accepts_guardedRecognizer, mentions_completed,
    saysInfobright_completed]
  cases hmysql : mentions "mysql" identity with
  | false => rfl
  | true =>
      cases hrecorded : identity.answer? (.serverVariable "version_comment") with
      | some text => rw [saysInfobright_of_recorded hrecorded]
      | none =>
          have hcomment : givesAway identity answer commentRule = false := by
            by_contra hcomment
            exact h ⟨hmysql, hrecorded, by simpa using hcomment⟩
          rw [saysInfobright_eq, hrecorded, hcomment]
          rfl

section Builtin

variable (hbuild : Builtin.registrations.build = .ok registry)
include hbuild

theorem settled_of_driver {tag : String} (htag : tag ∈ driverTags) {d : Dialect}
    (hd : registry.dialect? tag other = some d) :
    settled d identity answer =
      ((([versionRule, commentRule].filter fun rule => rule.detected != tag).find?
        (givesAway identity answer)).map (·.detected)).getD tag := by
  rw [settled, pendingRules_of_driver hbuild htag hd, (dialect?_eq_some hd).1]
  rfl

theorem covered_of_unrefined {matched : Dialect}
    (h : registry.resolveUnrefined identity = .ok matched) :
    ∀ rule ∈ pendingRules matched, rule.query ∈ ruleQueries := by
  intro rule hrule
  exact query_mem_ruleQueries hbuild (.unrefined h) (List.mem_filter.mp hrule).1

theorem tagFound_eq_of_same_recognizer (hsteady : Steady probe answer) (state : σ)
    (hguard : guardedRecognizer.accepts (completed answer ruleQueries identity) =
      guardedRecognizer.accepts identity) :
    tagFound (registry.resolveConnection identity probe state).1 =
      tagFound (registry.resolve (completed answer ruleQueries identity)) := by
  obtain ⟨hname, hversion⟩ := product_completed answer ruleQueries identity
  have hfind : Builtin.registrations.recognizers.find?
      (·.accepts (completed answer ruleQueries identity)) =
        Builtin.registrations.recognizers.find? (·.accepts identity) := by
    rw [find?_recognizers, find?_recognizers, hguard, find?_plainRecognizers hname]
  cases hfirst : Builtin.registrations.recognizers.find? (·.accepts identity) with
  | none =>
      rw [hfirst] at hfind
      have hrejected := (resolveUnrefined_eq_error_iff hbuild).mpr
        ⟨rfl, by simpa [List.find?_eq_none] using hfirst⟩
      have hrejected' := (resolve_eq_error_iff hbuild).mpr
        ⟨rfl, by simpa [List.find?_eq_none] using hfind⟩
      rw [resolveConnection_of_error hrejected, hrejected']
      rfl
  | some recognizer =>
      rw [hfirst] at hfind
      obtain ⟨matched, hmatched, hdialect⟩ := exists_unrefined hbuild (congrArg _ hfirst)
      obtain ⟨matched', hmatched', hdialect'⟩ := exists_unrefined hbuild (congrArg _ hfind)
      have hversion' : (completed answer ruleQueries identity).version? = identity.version? :=
        congrArg Version.read? hversion
      rw [tagFound_connection hbuild hsteady hmatched,
        tagFound_recorded hbuild hmatched' (covered_of_unrefined hbuild hmatched'),
        settled_congr hversion' hdialect hdialect']

theorem tagFound_asked_of_revealed (hsteady : Steady probe answer) (state : σ)
    (h : Revealed identity answer) :
    tagFound (registry.resolveConnection identity probe state).1 =
      some (if !mentions "mariadb" identity && givesAway identity answer versionRule
        then "mariadb" else "infobright") := by
  have hfind : (Builtin.registrations.recognizers.find? (·.accepts identity)).map (·.tag) =
      some (if mentions "mariadb" identity then "mariadb" else "mysql") := by
    rw [find?_recognizers, accepts_guardedRecognizer, h.saysInfobright, Bool.and_false]
    exact tag_of_mentions_mysql h.mysql
  obtain ⟨matched, hmatched, hdialect⟩ := exists_unrefined hbuild hfind
  rw [tagFound_connection hbuild hsteady hmatched]
  -- The rule that names the matched engine itself is left out.
  cases hmariadb : mentions "mariadb" identity with
  | true =>
      rw [hmariadb, if_pos rfl] at hdialect
      have hrules : [versionRule, commentRule].filter (·.detected != "mariadb") =
          [commentRule] := by decide
      rw [settled_of_driver hbuild (by decide) hdialect, hrules, List.find?_cons, h.comment]
      rfl
  | false =>
      rw [hmariadb, if_neg Bool.false_ne_true] at hdialect
      have hrules : [versionRule, commentRule].filter (·.detected != "mysql") =
          [versionRule, commentRule] := by decide
      rw [settled_of_driver hbuild (by decide) hdialect, hrules, List.find?_cons,
        List.find?_cons, h.comment]
      cases givesAway identity answer versionRule <;> rfl

theorem tagFound_recorded_of_revealed (h : Revealed identity answer) :
    tagFound (registry.resolve (completed answer ruleQueries identity)) =
      some (if givesAway identity answer versionRule then "mariadb" else "infobright") := by
  have hfind : (Builtin.registrations.recognizers.find?
      (·.accepts (completed answer ruleQueries identity))).map (·.tag) = some "infobright" := by
    rw [find?_recognizers, accepts_guardedRecognizer, mentions_completed, h.mysql,
      saysInfobright_completed, h.comment]
    rfl
  obtain ⟨matched, hmatched, hdialect⟩ := exists_unrefined hbuild hfind
  have hrules : [versionRule, commentRule].filter (·.detected != "infobright") =
      [versionRule] := by decide
  rw [tagFound_recorded hbuild hmatched (covered_of_unrefined hbuild hmatched),
    settled_of_driver hbuild (by decide) hdialect, hrules, List.find?_cons]
  cases givesAway identity answer versionRule <;> rfl

end Builtin

/-- Whether answers are asked for or recorded beforehand, the same engine is found, unless the
connection is contested: then asking finds Infobright, and the recorded answers show MariaDB. -/
theorem metadata_source_matters_iff_contested
    (hbuild : Builtin.registrations.build = .ok registry) (hsteady : Steady probe answer)
    (identity : Identity) (state : σ) :
    (¬ Contested identity answer →
      tagFound (registry.resolveConnection identity probe state).1 =
        tagFound (registry.resolve (completed answer ruleQueries identity))) ∧
    (Contested identity answer →
      tagFound (registry.resolveConnection identity probe state).1 = some "infobright" ∧
        tagFound (registry.resolve (completed answer ruleQueries identity)) = some "mariadb") := by
  constructor
  · intro hcontested
    by_cases h : Revealed identity answer
    · rw [tagFound_asked_of_revealed hbuild hsteady state h, tagFound_recorded_of_revealed hbuild h]
      cases hmariadb : mentions "mariadb" identity with
      | false => rfl
      | true =>
          have hversion : givesAway identity answer versionRule = false := by
            by_contra hversion
            exact hcontested ⟨h, hmariadb, by simpa using hversion⟩
          rw [hversion]
          rfl
    · exact tagFound_eq_of_same_recognizer hbuild hsteady state
        (accepts_completed_of_not_revealed h)
  · intro h
    rw [tagFound_asked_of_revealed hbuild hsteady state h.toRevealed,
      tagFound_recorded_of_revealed hbuild h.toRevealed, h.mariadb, h.version]
    exact ⟨rfl, rfl⟩

def steadyProbe (answer : Query → Option String) : Probe Unit :=
  fun q _ => (.ok (answer (lowered q)), ())

theorem steady_steadyProbe (answer : Query → Option String) : Steady (steadyProbe answer) answer :=
  fun _ _ => rfl

/-- A server whose version and whose comment on it name different engines. -/
def twoFaced (q : Query) : Option String :=
  [(.serverVariable "version", "10.6.12-MariaDB-log"),
    (.serverVariable "version_comment", "Infobright Community Edition")].lookup q

theorem metadata_source_mysql :
    ∃ registry, Builtin.registrations.build = .ok registry ∧
      tagFound (registry.resolveConnection (.ofProduct "MySQL" "8.0") (steadyProbe twoFaced) ()).1 =
        tagFound (registry.resolve (completed twoFaced ruleQueries (.ofProduct "MySQL" "8.0"))) := by
  obtain ⟨registry, hbuild⟩ := BuiltinRegistry.exists_registry
  have hcontested : ¬ Contested (.ofProduct "MySQL" "8.0") twoFaced := by
    intro h
    have hmariadb : mentions "mariadb" (.ofProduct "MySQL" "8.0") = false := by decide +kernel
    exact Bool.false_ne_true (hmariadb.symm.trans h.mariadb)
  exact ⟨registry, hbuild,
    (metadata_source_matters_iff_contested hbuild (steady_steadyProbe twoFaced)
      (.ofProduct "MySQL" "8.0") ()).1 hcontested⟩

theorem metadata_source_mysql_mariadb :
    ∃ registry, Builtin.registrations.build = .ok registry ∧
      Steady (steadyProbe twoFaced) twoFaced ∧
      tagFound (registry.resolveConnection (.ofProduct "MySQL MariaDB" "10.6")
        (steadyProbe twoFaced) ()).1 = some "infobright" ∧
      tagFound (registry.resolve (completed twoFaced ruleQueries
        (.ofProduct "MySQL MariaDB" "10.6"))) = some "mariadb" := by
  obtain ⟨registry, hbuild⟩ := BuiltinRegistry.exists_registry
  have hsteady := steady_steadyProbe twoFaced
  have hrevealed : Revealed (.ofProduct "MySQL MariaDB" "10.6") twoFaced :=
    ⟨by decide +kernel, rfl, by decide +kernel⟩
  have hmariadb : mentions "mariadb" (.ofProduct "MySQL MariaDB" "10.6") = true := by
    decide +kernel
  have hversion : givesAway (.ofProduct "MySQL MariaDB" "10.6") twoFaced versionRule = true := by
    decide +kernel
  refine ⟨registry, hbuild, hsteady, ?_, ?_⟩
  · rw [tagFound_asked_of_revealed hbuild hsteady () hrevealed, hmariadb]
    rfl
  · rw [tagFound_recorded_of_revealed hbuild hrevealed, hversion]
    rfl

end SqlDialects.Proofs.MetadataSource
