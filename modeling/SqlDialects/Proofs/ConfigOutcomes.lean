import SqlDialects.Config.Resolution
import SqlDialects.Proofs.ResolutionOutcomes

namespace SqlDialects.Proofs.ConfigOutcomes

open Outcome
open ProbeDiscipline
open ResolutionOutcomes

/-- Only errors of some kind come out. -/
def FailsOnly {α : Type} (kind : Error → Prop) (outcome : Except Error α) : Prop :=
  ∀ e, outcome = .error e → kind e

section FailsOnly

variable {α β : Type} {kind : Error → Prop}

theorem FailsOnly.ok (a : α) : FailsOnly kind (.ok a) := by
  intro e h
  simp at h

theorem FailsOnly.error {e : Error} (h : kind e) : FailsOnly kind (.error e : Except Error α) := by
  intro other hother
  obtain rfl := Except.error.inj hother
  exact h

theorem FailsOnly.bind {first : Except Error α} {next : α → Except Error β}
    (hfirst : FailsOnly kind first) (hnext : ∀ a, FailsOnly kind (next a)) :
    FailsOnly kind (first >>= next) := by
  cases first with
  | error e => exact .error (hfirst e rfl)
  | ok a => exact hnext a

theorem FailsOnly.map {outcome : Except Error α} (h : FailsOnly kind outcome) (f : α → β) :
    FailsOnly kind (outcome.map f) := by
  cases outcome with
  | error e => exact .error (h e rfl)
  | ok a => exact .ok (f a)

theorem FailsOnly.mono {outcome : Except Error α} {wider : Error → Prop}
    (h : FailsOnly kind outcome) (hkinds : ∀ e, kind e → wider e) : FailsOnly wider outcome := by
  intro e he
  exact hkinds e (h e he)

end FailsOnly

def IsConfigError (e : Error) : Prop :=
  ∃ fault, e = .config fault

theorem checkTarget_failsOnly (c : Config) : FailsOnly IsConfigError c.checkTarget := by
  unfold Config.checkTarget
  split
  · split
    · exact .error ⟨_, rfl⟩
    · split
      · exact .error ⟨_, rfl⟩
      · exact .ok ()
  · split
    · exact .error ⟨_, rfl⟩
    · exact .ok ()

theorem checkNames_failsOnly (entries : List (String × String)) :
    FailsOnly IsConfigError (Config.checkNames entries) := by
  induction entries with
  | nil => exact .ok ()
  | cons entry rest ih =>
      rw [Config.checkNames]
      split
      · exact ih
      · exact .error ⟨_, rfl⟩

theorem validate_failsOnly (c : Config) : FailsOnly IsConfigError c.validate := by
  refine (checkTarget_failsOnly c).bind fun _ => ?_
  refine (checkNames_failsOnly _).bind fun _ => ?_
  split
  · exact .error ⟨_, rfl⟩
  · exact .ok ()

theorem checkNames_eq_ok_iff {entries : List (String × String)} {u : Unit} :
    Config.checkNames entries = .ok u ↔ ∀ entry ∈ entries, ∃ q, Query.read entry.1 = .ok q := by
  induction entries with
  | nil => simp [Config.checkNames]
  | cons entry rest ih =>
      rw [Config.checkNames, List.forall_mem_cons]
      split
      · rename_i q hq
        rw [ih]
        exact (and_iff_right ⟨q, hq⟩).symm
      · rename_i e he
        simp [he]

theorem exists_respondAll {entries : List (String × String)}
    (h : ∀ entry ∈ entries, ∃ q, Query.read entry.1 = .ok q) (start : Recording) :
    ∃ recording, ProbeConfig.respondAll entries start = .ok recording ∧
      recording.failure = start.failure := by
  induction entries generalizing start with
  | nil => exact ⟨start, rfl, rfl⟩
  | cons entry rest ih =>
      obtain ⟨⟨q, hq⟩, hrest⟩ := List.forall_mem_cons.mp h
      obtain ⟨recording, hrecording, hfailure⟩ := ih hrest (start.respond q entry.2)
      refine ⟨recording, ?_, hfailure⟩
      rw [ProbeConfig.respondAll, hq]
      exact hrecording

theorem exists_recording {c : Config} (h : c.validate = .ok ()) :
    ∃ recording, c.probe.recording = .ok recording ∧ recording.failure = c.probe.failure := by
  obtain ⟨_, -, hrest⟩ := bind_eq_ok_iff.mp h
  obtain ⟨_, hnames, -⟩ := bind_eq_ok_iff.mp hrest
  exact exists_respondAll (checkNames_eq_ok_iff.mp hnames) ⟨[], c.probe.failure⟩

def IsUnsupported (e : Error) : Prop :=
  ∃ product version, e = .unsupported product version

/-- The errors of a recording that fails. -/
def IsBreakdown (failure : Option String) (e : Error) : Prop :=
  failure.isSome = true ∧ ∃ text, e = .connection text

theorem isBreakdown_of_answer {recording : Recording} {q : Query} {e : Error}
    (h : recording.answer q = .error e) : IsBreakdown recording.failure e := by
  unfold Recording.answer at h
  split at h
  · rename_i reason hreason
    obtain rfl := Except.error.inj h
    exact ⟨Option.isSome_of_eq_some hreason, _, rfl⟩
  · simp at h

variable {r : Registrations} {registry : Registry}

theorem resolveTag_failsOnly (hbuild : r.build = .ok registry) (tag : String)
    (identity : Identity) : FailsOnly IsUnsupported (registry.resolveTag tag identity) := by
  intro e he
  exact ⟨_, _, ((resolveTag_eq_error_iff hbuild).mp he).1⟩

theorem resolveUnrefined_failsOnly (hbuild : r.build = .ok registry) (identity : Identity) :
    FailsOnly IsUnsupported (registry.resolveUnrefined identity) := by
  intro e he
  exact ⟨_, _, ((RegistryContents.resolveUnrefined_eq_error_iff hbuild).mp he).1⟩

theorem resolveConnection_failsOnly (hbuild : r.build = .ok registry) (identity : Identity)
    (recording : Recording) (calls : Nat) :
    FailsOnly (fun e => IsUnsupported e ∨ IsBreakdown recording.failure e)
      (registry.resolveConnection identity recording.probe calls).1 := by
  intro e he
  rcases (resolveConnection_eq_error_iff hbuild).mp he with hunrecognized | ⟨q, hasked⟩
  · exact .inl ⟨_, _, hunrecognized.1⟩
  · -- What the log says of a failure is what the recording answers.
    obtain ⟨calls', htold⟩ := told_inquiry registry identity recording.probe calls _ hasked
    exact .inr (isBreakdown_of_answer htold)

/-- The errors with which a configuration that has been checked is refused. -/
inductive Refused (c : Config) : Error → Prop
  | unsupported (product version : String) : Refused c (.unsupported product version)
  | connection (text : String) (hforced : c.resolver.forcedDialect = none)
      (hrefines : c.resolver.refines = true) (hfailure : c.probe.failure.isSome = true) :
      Refused c (.connection text)

theorem refused_of_isUnsupported {c : Config} {e : Error} (h : IsUnsupported e) : Refused c e := by
  obtain ⟨product, version, rfl⟩ := h
  exact .unsupported product version

theorem dialect_failsOnly (hbuild : r.build = .ok registry) {c : Config}
    (hvalid : c.validate = .ok ()) : FailsOnly (Refused c) (c.dialect registry) := by
  unfold Config.dialect
  cases hforced : c.resolver.forcedDialect with
  | some tag =>
      show FailsOnly (Refused c) (registry.resolveTag tag c.connection.identity)
      exact (resolveTag_failsOnly hbuild tag _).mono fun _ => refused_of_isUnsupported
  | none =>
      cases hrefines : c.resolver.refines with
      | false =>
          show FailsOnly (Refused c) (registry.resolveUnrefined c.connection.identity)
          exact (resolveUnrefined_failsOnly hbuild _).mono fun _ => refused_of_isUnsupported
      | true =>
          obtain ⟨recording, hrecording, hfailure⟩ := exists_recording hvalid
          simp only [hrecording, if_true]
          show FailsOnly (Refused c)
            (registry.resolveConnection c.connection.identity recording.probe 0).1
          refine (resolveConnection_failsOnly hbuild _ recording 0).mono ?_
          rintro e (hunsupported | ⟨hbroken, text, rfl⟩)
          · exact refused_of_isUnsupported hunsupported
          · rw [hfailure] at hbroken
            exact .connection text hforced hrefines hbroken

end SqlDialects.Proofs.ConfigOutcomes
