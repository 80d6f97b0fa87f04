import SqlDialects.Config
import SqlDialects.Identity.Json
import SqlDialects.Proofs.CompletedSnapshot
import SqlDialects.Proofs.GreatestKeys
import SqlDialects.Proofs.LowerCase
import SqlDialects.Proofs.Spelling

/-!
The variables that an identity has on record. What is recorded one by one, also by a configuration,
is stored in lower case and found again however its name is written, the latest value first. A
snapshot that is taken over whole keeps its names, and those of them that are not in lower case
stay out of reach.
-/

namespace SqlDialects.Proofs.RecordedVariables

open GreatestKeys
open LowerCase
open Spelling (lowerChars_map_toLower)
open Text.LetterCase (lower lowerChars)

variable {identity : Identity}

/-- The variables on record. -/
def stored (identity : Identity) : Dictionary :=
  (identity.snapshot.getD .empty).serverVariables

/-- Records variables, one after the other. -/
def recordAll (identity : Identity) (entries : List (String × String)) : Identity :=
  entries.foldl (fun i entry => i.withVariable entry.1 entry.2) identity

def insertAll (d : Dictionary) (entries : List (String × String)) : Dictionary :=
  entries.foldl (fun d entry => d.insert (lower entry.1) entry.2) d

/-- What a connection reports, without its variables. -/
def withoutVariables (c : ConnectionConfig) : Identity :=
  match c.banner with
  | none => Identity.ofProduct c.productName c.productVersion
  | some banner => (Identity.ofProduct c.productName c.productVersion).withBanner banner

/-- Where the variables of an identity come from: those that were taken over as they stood, and
those recorded since, in that order. -/
structure History where
  adopted : Dictionary
  recorded : List (String × String)

/-- The ways to come by an identity. -/
inductive Built : History → Identity → Prop
  | unknown : Built ⟨.empty, []⟩ .unknown
  | product (name version : String) : Built ⟨.empty, []⟩ (.ofProduct name version)
  | decoded {j : Json} {identity : Identity} (h : Identity.ofJson? j = some identity) :
      Built ⟨stored identity, []⟩ identity
  | connection (c : ConnectionConfig) : Built ⟨.empty, c.serverVariables.entries⟩ c.identity
  | banner {history : History} {identity : Identity} (h : Built history identity)
      (text : String) : Built history (identity.withBanner text)
  | serverVariable {history : History} {identity : Identity} (h : Built history identity)
      (name value : String) :
      Built ⟨history.adopted, history.recorded ++ [(name, value)]⟩
        (identity.withVariable name value)
  | snapshot {history : History} {identity : Identity} (h : Built history identity)
      (s : Snapshot) : Built ⟨s.serverVariables, []⟩ (identity.withSnapshot s)

/-- Every key is in lower case. -/
def Lowered (d : Dictionary) : Prop :=
  ∀ entry ∈ d.entries, lower entry.1 = entry.1

theorem answer?_serverVariable (identity : Identity) (name : String) :
    identity.answer? (.serverVariable name) = (stored identity).get? (lower name) := by
  rw [Identity.answer?, stored]
  cases identity.snapshot with
  | none => rfl
  | some s => rfl

theorem get?_insertAll (d : Dictionary) (entries : List (String × String)) (key : String) :
    (insertAll d entries).get? key =
      (last? (fun name => lower name = key) entries).or (d.get? key) := by
  induction entries generalizing d with
  | nil => rfl
  | cons entry rest ih =>
      rw [insertAll, List.foldl_cons, ← insertAll, ih, Dictionary.get?_insert, last?,
        Option.or_assoc]
      by_cases hkey : lower entry.1 = key
      · simp [hkey]
      · simp [hkey, Ne.symm hkey]

theorem insertAll_append (d : Dictionary) (before after : List (String × String)) :
    insertAll d (before ++ after) = insertAll (insertAll d before) after :=
  List.foldl_append

theorem lowered_iff {d : Dictionary} :
    Lowered d ↔ ∀ key, d.get? key ≠ none → lower key = key := by
  constructor
  · intro h key hkey
    obtain ⟨value, hvalue⟩ := Option.ne_none_iff_exists'.mp hkey
    exact h (key, value) (mem_entries_iff.mpr hvalue)
  · intro h entry hentry
    refine h entry.1 ?_
    rw [mem_entries_iff.mp hentry]
    exact Option.some_ne_none _

theorem lowered_insertAll_iff {d : Dictionary} {entries : List (String × String)} :
    Lowered (insertAll d entries) ↔ Lowered d := by
  rw [lowered_iff, lowered_iff]
  refine forall_congr' fun key => ?_
  rw [get?_insertAll]
  cases hlast : last? (fun name => lower name = key) entries with
  | none => rfl
  | some value =>
      have hsome : last? (fun name => lower name = key) entries ≠ none := by
        rw [hlast]
        exact Option.some_ne_none value
      obtain ⟨entry, -, hentry⟩ : ∃ entry ∈ entries, lower entry.1 = key := by
        simpa [last?_eq_none_iff] using hsome
      have hlower : lower key = key := by rw [← hentry, lower_lower]
      simp [hlower]

theorem recordAll_withSnapshot (banner : Option String) (d : Dictionary)
    (entries : List (String × String)) :
    recordAll (identity.withSnapshot ⟨banner, d⟩) entries =
      identity.withSnapshot ⟨banner, insertAll d entries⟩ := by
  induction entries generalizing d with
  | nil => rfl
  | cons entry rest ih => exact ih (d.insert (lower entry.1) entry.2)

theorem ofList_eq_insertAll (entries : List (String × String)) :
    Dictionary.ofList (entries.map fun (name, value) => (lower name, value)) =
      insertAll .empty entries := by
  rw [Dictionary.ofList, List.foldl_map]
  rfl

theorem identity_eq_recordAll (c : ConnectionConfig) :
    c.identity = recordAll (withoutVariables c) c.serverVariables.entries := by
  obtain ⟨name, version, banner, entries, hsorted⟩ := c
  have hnamed := ofList_eq_insertAll entries
  simp only [ConnectionConfig.identity, withoutVariables, Dictionary.isEmpty, hnamed]
  cases banner with
  | some banner => exact (recordAll_withSnapshot (some banner) .empty entries).symm
  | none =>
      cases entries with
      | nil => rfl
      | cons entry rest =>
          exact (recordAll_withSnapshot none (Dictionary.empty.insert (lower entry.1) entry.2)
            rest).symm

theorem stored_recordAll (identity : Identity) (entries : List (String × String)) :
    stored (recordAll identity entries) = insertAll (stored identity) entries := by
  induction entries generalizing identity with
  | nil => rfl
  | cons entry rest ih => exact ih (identity.withVariable entry.1 entry.2)

theorem stored_withoutVariables (c : ConnectionConfig) : stored (withoutVariables c) = .empty := by
  unfold withoutVariables
  split
  · rfl
  · rfl

/-- The variables on record are those of the history. -/
theorem Built.stored_eq {history : History} (h : Built history identity) :
    stored identity = insertAll history.adopted history.recorded := by
  induction h with
  | unknown => rfl
  | product name version => rfl
  | decoded h => rfl
  | connection c => rw [identity_eq_recordAll, stored_recordAll, stored_withoutVariables]
  | banner h text ih => exact ih
  | serverVariable h name value ih =>
      rw [insertAll_append, ← ih]
      rfl
  | snapshot h s ih => rfl

/-- Names that differ at most in the case of ASCII letters. -/
def SameLetters (a b : String) : Prop :=
  a.toList.map Char.toLower = b.toList.map Char.toLower

theorem SameLetters.lower_eq {a b : String} (h : SameLetters a b) : lower a = lower b := by
  rw [lower, lower, ← lowerChars_map_toLower, h, lowerChars_map_toLower]

/-- Whether a variable is found under a name in every case, with a given value. -/
def Found (identity : Identity) (name value : String) : Prop :=
  ∀ other, SameLetters other name → identity.answer? (.serverVariable other) = some value

theorem found_iff {name value : String} :
    Found identity name value ↔ (lower name, value) ∈ (stored identity).entries := by
  rw [mem_entries_iff]
  constructor
  · intro h
    rw [← answer?_serverVariable]
    exact h name rfl
  · intro h other hother
    rw [answer?_serverVariable, hother.lower_eq, h]

/-- However an identity is come by, the latest value recorded under a name is found in every case of
it, and otherwise what was taken over under the name in lower case. All variables are stored in
lower case just if those that were taken over are. One that is stored otherwise is found only where
its name in lower case has the same value. -/
theorem stored_variables_found_iff_lowered {history : History} (h : Built history identity) :
    (∀ name, identity.answer? (.serverVariable name) =
        (last? (fun recorded => lower recorded = lower name) history.recorded).or
          (history.adopted.get? (lower name))) ∧
      (Lowered (stored identity) ↔ Lowered history.adopted) ∧
      ∀ entry ∈ (stored identity).entries, Found identity entry.1 entry.2 ↔
        lower entry.1 = entry.1 ∨ (lower entry.1, entry.2) ∈ (stored identity).entries := by
  refine ⟨fun name => ?_, ?_, fun entry hentry => ?_⟩
  · rw [answer?_serverVariable, h.stored_eq, get?_insertAll]
  · rw [h.stored_eq, lowered_insertAll_iff]
  · rw [found_iff]
    refine ⟨.inr, ?_⟩
    rintro (hlower | htwin)
    · rwa [hlower]
    · exact htwin

/-- An identity as it is written where the name of a variable has kept its capitals. -/
def capitals : Json :=
  .object [("product_name", .string "MySQL"), ("product_version", .string "8.0.36"),
    ("snapshot", .object [("variables", .object [("VERSION", .string "8.0.36")])])]

def capitalsIdentity : Identity :=
  ⟨"MySQL", "8.0.36", some ⟨none, Dictionary.empty.insert "VERSION" "8.0.36"⟩⟩

theorem stored_variables_found_capitals :
    let identity := capitalsIdentity.withVariable "Version_Comment" "GPL"
    Identity.ofJson? capitals = some capitalsIdentity ∧
      ("VERSION", "8.0.36") ∈ (stored identity).entries ∧
      ¬ Found identity "VERSION" "8.0.36" ∧
      Found identity "version_comment" "GPL" ∧
      identity.answer? (.serverVariable "VERSION_COMMENT") = some "GPL" := by
  intro identity
  have hread : Identity.ofJson? capitals = some capitalsIdentity := by decide +kernel
  have hbuilt := (Built.decoded hread).serverVariable "Version_Comment" "GPL"
  obtain ⟨hanswer, -, hfound⟩ := stored_variables_found_iff_lowered hbuilt
  have hversion : ("VERSION", "8.0.36") ∈ (stored identity).entries := by decide +kernel
  refine ⟨hread, hversion, ?_, ?_, ?_⟩
  · rw [hfound _ hversion]
    decide +kernel
  · refine (hfound ("version_comment", "GPL") (by decide +kernel)).mpr (.inl ?_)
    decide +kernel
  · rw [hanswer]
    decide +kernel

end SqlDialects.Proofs.RecordedVariables
