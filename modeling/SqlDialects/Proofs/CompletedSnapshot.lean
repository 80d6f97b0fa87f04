import Mathlib.Data.List.Find
import SqlDialects.Impersonation

namespace SqlDialects.Proofs.CompletedSnapshot

open Impersonation
open Text.LetterCase (lower)

variable {σ : Type}

/-- A query with the name of its variable in lower case. -/
def lowered : Query → Query
  | .versionBanner => .versionBanner
  | .serverVariable name => .serverVariable (lower name)

/-- A probe that never fails and whose answers depend on nothing but the query in lower case. -/
def Steady (probe : Probe σ) (answer : Query → Option String) : Prop :=
  ∀ q s, (probe q s).1 = .ok (answer (lowered q))

def record (identity : Identity) (q : Query) (text : String) : Identity :=
  match q with
  | .versionBanner => identity.withBanner text
  | .serverVariable name => identity.withVariable name text

/-- Records what a server says to a query that the snapshot leaves open. -/
def fill (answer : Query → Option String) (identity : Identity) (q : Query) : Identity :=
  match identity.answer? q, answer (lowered q) with
  | none, some text => record identity q text
  | _, _ => identity

def completed (answer : Query → Option String) (queries : List Query) (identity : Identity) :
    Identity :=
  queries.foldl (fill answer) identity

/-- The answer to a query: from the snapshot, or else from the server. -/
def answered (identity : Identity) (answer : Query → Option String) (q : Query) : Option String :=
  (identity.answer? q).or (answer (lowered q))

def givesAway (identity : Identity) (answer : Query → Option String) (rule : Impersonation) :
    Bool :=
  (answered identity answer rule.query).any rule.hits

theorem answer?_record (identity : Identity) (q : Query) (text : String) (other : Query) :
    (record identity q text).answer? other =
      if lowered other = lowered q then some text else identity.answer? other := by
  cases hsnapshot : identity.snapshot with
  | none =>
      cases q <;> cases other <;>
        simp [record, lowered, Identity.answer?, Snapshot.answer?, Identity.withBanner,
          Identity.withVariable, Snapshot.empty, Dictionary.get?_insert, hsnapshot]
  | some snapshot =>
      cases q <;> cases other <;>
        simp [record, lowered, Identity.answer?, Snapshot.answer?, Identity.withBanner,
          Identity.withVariable, Dictionary.get?_insert, hsnapshot]

theorem answer?_congr (identity : Identity) {q other : Query} (h : lowered other = lowered q) :
    identity.answer? other = identity.answer? q := by
  cases q <;> cases other <;>
    simp_all [lowered, Identity.answer?, Snapshot.answer?]

theorem answer?_fill (answer : Query → Option String) (identity : Identity) (q other : Query) :
    (fill answer identity q).answer? other =
      if lowered other = lowered q then answered identity answer other
      else identity.answer? other := by
  unfold fill
  split
  · rename_i text hopen hanswer
    rw [answer?_record]
    split
    · rename_i hsame
      rw [answered, hsame, answer?_congr identity hsame, hopen, hanswer]
      rfl
    · rfl
  · rename_i hkept
    split
    · rename_i hsame
      rw [answered, hsame, answer?_congr identity hsame]
      cases hopen : identity.answer? q with
      | some text => rfl
      | none =>
          cases hanswer : answer (lowered q) with
          | none => rfl
          | some text => exact absurd hanswer (hkept text hopen)
    · rfl

theorem answer?_completed (answer : Query → Option String) (queries : List Query)
    (identity : Identity) (q : Query) :
    (completed answer queries identity).answer? q =
      if lowered q ∈ queries.map lowered then answered identity answer q
      else identity.answer? q := by
  induction queries generalizing identity with
  | nil => simp [completed]
  | cons first queries ih =>
      have hrest := ih (fill answer identity first)
      rw [answered, answer?_fill, answered] at hrest
      rw [completed, List.foldl_cons, ← completed, hrest]
      by_cases hfirst : lowered q = lowered first
      · simp [hfirst, answered, Option.or_assoc]
      · simp [hfirst, answered]

theorem product_fill (answer : Query → Option String) (identity : Identity) (q : Query) :
    (fill answer identity q).productName = identity.productName ∧
      (fill answer identity q).productVersion = identity.productVersion := by
  unfold fill
  split
  · cases q <;> exact ⟨rfl, rfl⟩
  · exact ⟨rfl, rfl⟩

theorem product_completed (answer : Query → Option String) (queries : List Query)
    (identity : Identity) :
    (completed answer queries identity).productName = identity.productName ∧
      (completed answer queries identity).productVersion = identity.productVersion := by
  induction queries generalizing identity with
  | nil => exact ⟨rfl, rfl⟩
  | cons first queries ih =>
      obtain ⟨hname, hversion⟩ := product_fill answer identity first
      rw [← hname, ← hversion]
      exact ih (fill answer identity first)

theorem detectRecorded_completed {answer : Query → Option String} {queries : List Query}
    {rules : List Impersonation} (hrules : ∀ rule ∈ rules, rule.query ∈ queries)
    (identity : Identity) :
    detectRecorded rules (completed answer queries identity) =
      rules.find? (givesAway identity answer) := by
  refine List.find?_congr fun rule hrule => ?_
  have hcovered : lowered rule.query ∈ queries.map lowered :=
    List.mem_map_of_mem (hrules rule hrule)
  rw [answer?_completed, if_pos hcovered, givesAway]

/-- Answers that a steady server has given. -/
def Given (answer : Query → Option String) (known : List (Query × Option String)) : Prop :=
  ∀ q text, known.lookup q = some text → text = answer (lowered q)

theorem ask_steady {probe : Probe σ} {answer : Query → Option String} (h : Steady probe answer)
    (identity : Identity) {known : List (Query × Option String)} (hknown : Given answer known)
    (q : Query) (state : σ) :
    ∃ more, (ask identity probe known q state).1 = .ok (answered identity answer q, more) ∧
      Given answer more := by
  unfold ask answered
  cases hsnapshot : identity.answer? q with
  | some text => exact ⟨known, rfl, hknown⟩
  | none =>
      cases hlookup : known.lookup q with
      | some text =>
          obtain rfl := hknown q text hlookup
          exact ⟨known, rfl, hknown⟩
      | none =>
          have hanswer := h q state
          cases hprobe : probe q state with
          | mk outcome after =>
              rw [hprobe] at hanswer
              obtain rfl : outcome = .ok (answer (lowered q)) := hanswer
              refine ⟨_, rfl, ?_⟩
              intro other text hother
              rw [List.lookup_cons] at hother
              split at hother
              · rename_i hsame
                rw [beq_iff_eq.mp hsame, ← Option.some.inj hother]
              · exact hknown other text hother

/-- Asking a steady server finds the first rule that its answers and the snapshot give away. -/
theorem detectFrom_steady {probe : Probe σ} {answer : Query → Option String}
    (h : Steady probe answer) (identity : Identity) (rules : List Impersonation)
    {known : List (Query × Option String)} (hknown : Given answer known) (state : σ) :
    (detectFrom identity probe known rules state).1 =
      .ok (rules.find? (givesAway identity answer)) := by
  induction rules generalizing known state with
  | nil => rfl
  | cons rule rules ih =>
      obtain ⟨more, hask, hmore⟩ := ask_steady h identity hknown rule.query state
      cases hasked : ask identity probe known rule.query state with
      | mk outcome after =>
          rw [hasked] at hask
          obtain rfl : outcome = .ok (answered identity answer rule.query, more) := hask
          rw [List.find?_cons]
          cases hhit : givesAway identity answer rule with
          | true =>
              rw [givesAway] at hhit
              simp [detectFrom, hasked, hhit]
          | false =>
              rw [givesAway] at hhit
              simpa [detectFrom, hasked, hhit] using ih hmore after

theorem detect_steady {probe : Probe σ} {answer : Query → Option String}
    (h : Steady probe answer) (identity : Identity) (rules : List Impersonation) (state : σ) :
    (detect rules identity probe state).1 = .ok (rules.find? (givesAway identity answer)) := by
  have hknown : Given answer [] := by simp [Given]
  exact detectFrom_steady h identity rules hknown state

/-- Asking a steady server picks the same rule as looking into a snapshot in which the server's
answers to the queries of the rules have been recorded wherever it left one open. -/
theorem asking_picks_rule_of_completed_snapshot {probe : Probe σ}
    {answer : Query → Option String} (hsteady : Steady probe answer) (rules : List Impersonation)
    (identity : Identity) (state : σ) :
    let told := completed answer (rules.map (·.query)) identity
    (detect rules identity probe state).1 = .ok (detectRecorded rules told) ∧
      (told.productName = identity.productName ∧ told.productVersion = identity.productVersion) ∧
      ∀ q, told.answer? q =
        if lowered q ∈ rules.map (fun rule => lowered rule.query) then answered identity answer q
        else identity.answer? q := by
  intro told
  have hcovered : ∀ rule ∈ rules, rule.query ∈ rules.map (·.query) :=
    fun _ => List.mem_map_of_mem
  refine ⟨?_, product_completed answer _ identity, ?_⟩
  · rw [detect_steady hsteady, detectRecorded_completed hcovered]
  · intro q
    rw [answer?_completed, List.map_map]
    rfl

/-- A server that counts the questions and lets the count make no difference. -/
def counting (answer : Query → Option String) : Probe Nat :=
  fun q count => (.ok (answer (lowered q)), count + 1)

/-- A server that knows of nothing but the comment on its version. -/
def curt (q : Query) : Option String :=
  if q = .serverVariable "version_comment" then some "Infobright Community Edition" else none

def mixedRules : List Impersonation :=
  [⟨.serverVariable "VERSION", "MariaDB", "mariadb"⟩, ⟨.versionBanner, "Redshift", "redshift"⟩,
    ⟨.serverVariable "Version_Comment", "Percona", "percona"⟩,
    ⟨.serverVariable "version_comment", "INFOBRIGHT", "infobright"⟩]

theorem asking_picks_rule_mixedRules :
    Steady (counting curt) curt ∧
      (detect mixedRules ((Identity.ofProduct "MySQL" "8.0").withVariable "version" "8.0.36")
        (counting curt) 0).1 =
        .ok (some ⟨.serverVariable "version_comment", "INFOBRIGHT", "infobright"⟩) := by
  have hsteady : Steady (counting curt) curt := fun _ _ => rfl
  refine ⟨hsteady, ?_⟩
  rw [(asking_picks_rule_of_completed_snapshot hsteady mixedRules _ 0).1]
  decide +kernel

end SqlDialects.Proofs.CompletedSnapshot
