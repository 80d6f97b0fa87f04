import SqlDialects.Proofs.CollidingNames
import SqlDialects.Proofs.QueryNames

namespace SqlDialects.Proofs.RecordedAnswers

open ByteOrder (octets_le_iff)
open CollidingNames
open CompletedSnapshot (lowered)
open GreatestKeys
open LowerCase (lower_lower)
open QueryNames
open Text.LetterCase (lower)

variable {q written : Query} {key text : String}

/-- Whether a text is the canned answer to a query under a key that names it, in whatever case. -/
structure AnsweredUnder (responses : Dictionary) (key : String) (written : Query) (text : String) :
    Prop where
  names : Names key written
  prevails : Prevails responses
    (fun other => ∃ named, Names other named ∧ lowered named = lowered written) key text

/-- Whether a connection reports a text under a name that is written just so. -/
def Reports (c : ConnectionConfig) : Query → (text : String) → Prop
  | .versionBanner, text => c.banner = some text
  | .serverVariable name, text =>
      Prevails c.serverVariables (fun other => lower other = lower name) name text

theorem lowered_lowered (q : Query) : lowered (lowered q) = lowered q := by
  cases q with
  | versionBanner => rfl
  | serverVariable name => simp [lowered]

theorem answer?_versionBanner (c : ConnectionConfig) :
    c.identity.answer? .versionBanner = c.banner := by
  unfold ConnectionConfig.identity
  split
  · rename_i hnone
    have hbanner : c.banner = none := by simp_all
    rw [hbanner]
    rfl
  · rfl

theorem Reports.answer?_eq {c : ConnectionConfig} (h : Reports c written text)
    (hq : lowered q = lowered written) : c.identity.answer? q = some text := by
  cases q with
  | versionBanner =>
      cases written with
      | versionBanner => rw [answer?_versionBanner, h]
      | serverVariable name => simp [lowered] at hq
  | serverVariable asked =>
      cases written with
      | versionBanner => simp [lowered] at hq
      | serverVariable name =>
          have hlower : lower asked = lower name := Query.serverVariable.inj hq
          rw [answer?_identity, hlower]
          exact (answeredByGreatest_last? _).eq_some h

theorem AnsweredUnder.probe_eq {p : ProbeConfig} {recording : Recording}
    (h : AnsweredUnder p.responses key written text) (hrecording : p.recording = .ok recording)
    (hfailure : recording.failure = none) (hq : lowered q = lowered written) (calls : Nat) :
    (recording.probe q calls).1 = .ok (if lowered q = q then some text else none) := by
  rw [probe_recording hrecording hfailure]
  split
  · rename_i hlowered
    have hprevails : Prevails p.responses (fun other => Query.read other = .ok q) key text := by
      have hnamed := h.prevails
      simp only [← hq, hlowered, ← read_eq_ok_iff] at hnamed
      exact hnamed
    rw [(answeredByGreatest_last? _).eq_some hprevails]
  · rename_i hcase
    have hnone : ∀ entry ∈ p.responses.entries, ¬ Query.read entry.1 = .ok q := by
      intro entry _ hread
      obtain ⟨named, -, rfl⟩ := read_eq_ok_iff.mp hread
      exact hcase (lowered_lowered named)
    rw [last?_eq_none_iff.mpr hnone]

/-- A text that is the canned answer to a query is also found where the connection reports it under
the same name instead. The connection finds it in every case of the name, the recording just if the
name is asked for in lower case. -/
theorem recorded_answer_found_iff_lowered {c : Config} (hvalid : c.validate = .ok ())
    (hfailure : c.probe.failure = none) :
    ∃ recording, c.probe.recording = .ok recording ∧
      ∀ key written text, AnsweredUnder c.probe.responses key written text →
        ∀ connection, Reports connection written text →
          ∀ q calls, lowered q = lowered written →
            connection.identity.answer? q = some text ∧
              (recording.probe q calls).1 =
                .ok (if lowered q = q then connection.identity.answer? q else none) := by
  obtain ⟨recording, hrecording, hsame⟩ := ConfigOutcomes.exists_recording hvalid
  refine ⟨recording, hrecording, ?_⟩
  intro key written text hanswered connection hreports q calls hq
  have hfound := hreports.answer?_eq hq
  refine ⟨hfound, ?_⟩
  rw [hfound]
  exact hanswered.probe_eq hrecording (hsame.trans hfailure) hq calls

/-- A version under a name in capitals, both as an answer of the server and as reported by the
connection. -/
def capitals : Config :=
  { Config.default with
    connection := ⟨"MySQL", "", none, .ofList [("VERSION", "10.6.12-MariaDB")]⟩
    probe := ⟨.ofList [("variable:VERSION", "10.6.12-MariaDB")], none⟩ }

theorem recorded_answer_found_capitals :
    capitals.validate = .ok () ∧
      capitals.connection.identity.answer? (.serverVariable "VERSION") = some "10.6.12-MariaDB" ∧
      ∃ recording, capitals.probe.recording = .ok recording ∧
        (recording.probe (.serverVariable "version") 0).1 = .ok (some "10.6.12-MariaDB") ∧
        (recording.probe (.serverVariable "VERSION") 1).1 = .ok none := by
  have hvalid : capitals.validate = .ok () := by decide +kernel
  obtain ⟨recording, hrecording, hfound⟩ := recorded_answer_found_iff_lowered hvalid rfl
  have hnames : Names "variable:VERSION" (.serverVariable "VERSION") :=
    .serverVariable (by decide +kernel) (by decide)
  have hgreatest : ∀ entry ∈ capitals.probe.responses.entries, entry.1 ≤ "variable:VERSION" := by
    decide +kernel
  have hanswered : AnsweredUnder capitals.probe.responses "variable:VERSION"
      (.serverVariable "VERSION") "10.6.12-MariaDB" :=
    ⟨hnames, by decide +kernel, ⟨_, hnames, rfl⟩,
      fun entry hentry _ => octets_le_iff.mpr (hgreatest entry hentry)⟩
  have hreports : Reports capitals.connection (.serverVariable "VERSION") "10.6.12-MariaDB" :=
    ⟨by decide +kernel, rfl, by decide +kernel⟩
  have hplayed := hfound _ _ _ hanswered _ hreports
  obtain ⟨hreported, hasked⟩ := hplayed (.serverVariable "VERSION") 1 rfl
  have hlower : lowered (.serverVariable "VERSION") = .serverVariable "version" := by
    decide +kernel
  obtain ⟨hreported', hasked'⟩ := hplayed (.serverVariable "version") 0 (by decide +kernel)
  refine ⟨hvalid, hreported, recording, hrecording, ?_, ?_⟩
  · rw [hasked', hreported', if_pos (by decide +kernel)]
  · rw [hasked, hlower, if_neg (by decide)]

end SqlDialects.Proofs.RecordedAnswers
