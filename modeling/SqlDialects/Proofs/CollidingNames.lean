import SqlDialects.Proofs.ConfigOutcomes
import SqlDialects.Proofs.RecordedVariables

namespace SqlDialects.Proofs.CollidingNames

open ConfigOutcomes (exists_recording)
open GreatestKeys
open Outcome (bind_eq_ok_iff)
open RecordedVariables
open Text.LetterCase (lower)

theorem snapshot_eq_none_iff (c : ConnectionConfig) :
    c.identity.snapshot = none ↔ c.banner = none ∧ c.serverVariables.entries = [] := by
  have hcondition : (c.banner.isNone && c.serverVariables.isEmpty) = true ↔
      c.banner = none ∧ c.serverVariables.entries = [] := by
    simp [Dictionary.isEmpty]
  rw [← hcondition, ConnectionConfig.identity]
  split
  · rename_i htold
    simp [Identity.ofProduct, htold]
  · rename_i htold
    simp [Identity.withSnapshot, htold]

theorem answer?_identity (c : ConnectionConfig) (name : String) :
    c.identity.answer? (.serverVariable name) =
      last? (fun key => lower key = lower name) c.serverVariables.entries := by
  rw [answer?_serverVariable, (Built.connection c).stored_eq, get?_insertAll,
    Dictionary.get?_empty, Option.or_none]

theorem lookup_respondAll {entries : List (String × String)} {start recording : Recording}
    (h : ProbeConfig.respondAll entries start = .ok recording) (q : Query) :
    recording.responses.lookup q =
      (last? (fun key => Query.read key = .ok q) entries).or (start.responses.lookup q) := by
  induction entries generalizing start with
  | nil =>
      obtain rfl := Except.ok.inj h
      rfl
  | cons entry rest ih =>
      obtain ⟨named, hnamed, hrest⟩ := bind_eq_ok_iff.mp h
      rw [ih hrest, last?, hnamed, Option.or_assoc, Recording.respond, List.lookup_cons]
      by_cases hq : q = named
      · simp [hq]
      · have hne : (q == named) = false := by simpa using hq
        simp [hne, Ne.symm hq]

theorem probe_recording {p : ProbeConfig} {recording : Recording}
    (h : p.recording = .ok recording) (hfailure : recording.failure = none) (q : Query)
    (calls : Nat) :
    (recording.probe q calls).1 =
      .ok (last? (fun key => Query.read key = .ok q) p.responses.entries) := by
  rw [Recording.probe, Recording.answer, hfailure, lookup_respondAll h]
  simp

/-- A configuration tells of variables just if it has a banner or a variable. It answers for a
variable with the value of the greatest name that is the same in lower case, as if its variables
were recorded in the order of their names. To a query the recording answers with the text under the
greatest name that is read as this query. -/
theorem colliding_names_resolved {c : Config} (hvalid : c.validate = .ok ()) :
    (c.connection.identity.snapshot = none ↔
        c.connection.banner = none ∧ c.connection.serverVariables.entries = []) ∧
      (∀ name, AnsweredByGreatest c.connection.serverVariables (fun key => lower key = lower name)
        (c.connection.identity.answer? (.serverVariable name))) ∧
      c.connection.identity =
        recordAll (withoutVariables c.connection) c.connection.serverVariables.entries ∧
      (c.probe.failure = none → ∃ recording, c.probe.recording = .ok recording ∧
        ∀ q calls, ∃ answer, (recording.probe q calls).1 = .ok answer ∧
          AnsweredByGreatest c.probe.responses (fun key => Query.read key = .ok q) answer) := by
  refine ⟨snapshot_eq_none_iff _, fun name => ?_, identity_eq_recordAll _, fun hfailure => ?_⟩
  · rw [answer?_identity]
    exact answeredByGreatest_last? _
  · obtain ⟨recording, hrecording, hsame⟩ := exists_recording hvalid
    refine ⟨recording, hrecording, fun q calls => ⟨_, ?_, answeredByGreatest_last? _⟩⟩
    exact probe_recording hrecording (hsame.trans hfailure) q calls

/-- Three spellings of one variable, three keys of one query, and two of another. -/
def manySpellings : Config :=
  { Config.default with
    connection := ⟨"MySQL", "8.0", none,
      .ofList [("version", "third"), ("Version", "second"), ("VERSION", "first")]⟩
    probe := ⟨.ofList [(" variable:version", "first"), ("variable:VERSION", "second"),
      ("variable:Version\t", "third"), ("version_banner", "one"), ("version_banner ", "two")],
      none⟩ }

theorem colliding_names_manySpellings :
    manySpellings.validate = .ok () ∧ manySpellings.probe.failure = none ∧
      manySpellings.connection.identity.answer? (.serverVariable "VERSION") = some "third" ∧
      ∃ recording, manySpellings.probe.recording = .ok recording ∧
        (recording.probe (.serverVariable "version") 0).1 = .ok (some "third") ∧
        (recording.probe .versionBanner 1).1 = .ok (some "two") := by
  have hvalid : manySpellings.validate = .ok () := by decide +kernel
  obtain ⟨-, hvariables, -, hresponses⟩ := colliding_names_resolved hvalid
  obtain ⟨recording, hrecording, hplayed⟩ := hresponses rfl
  refine ⟨hvalid, rfl, ?_, recording, hrecording, ?_, ?_⟩
  · have hversion : Prevails manySpellings.connection.serverVariables
        (fun key => lower key = lower "VERSION") "version" "third" :=
      ⟨by decide +kernel, by decide +kernel, by decide +kernel⟩
    exact (hvariables "VERSION").eq_some hversion
  · have hversion : Prevails manySpellings.probe.responses
        (fun key => Query.read key = .ok (.serverVariable "version")) "variable:Version\t" "third" :=
      ⟨by decide +kernel, by decide +kernel, by decide +kernel⟩
    obtain ⟨answer, hanswer, hgreatest⟩ := hplayed (.serverVariable "version") 0
    rw [hanswer, hgreatest.eq_some hversion]
  · have hbanner : Prevails manySpellings.probe.responses
        (fun key => Query.read key = .ok .versionBanner) "version_banner " "two" :=
      ⟨by decide +kernel, by decide +kernel, by decide +kernel⟩
    obtain ⟨answer, hanswer, hgreatest⟩ := hplayed .versionBanner 1
    rw [hanswer, hgreatest.eq_some hbanner]

end SqlDialects.Proofs.CollidingNames
