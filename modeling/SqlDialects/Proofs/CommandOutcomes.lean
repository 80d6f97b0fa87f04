import SqlDialects.CommandLine.Answer
import SqlDialects.Proofs.BuiltinRegistry
import SqlDialects.Proofs.ConfigOutcomes
import SqlDialects.Proofs.TableAcceptance

namespace SqlDialects.Proofs.CommandOutcomes

open CommandLine
open ConfigOutcomes
open Outcome
open TableAcceptance

/-- An error of what the program is given, as opposed to a fault of the dialects that it has. -/
def IsForeseen : Error → Prop
  | .definition .. => False
  | _ => True

theorem exitCode_mem_of_isForeseen {e : Error} (h : IsForeseen e) :
    e.exitCode ∈ [1, 2, 3, 4, 7] := by
  cases e with
  | definition => exact absurd h id
  | _ => simp [Error.exitCode]

theorem isForeseen_of_requirement {t : InlineTable} {r : Requirement} (h : r ∈ requirements t) :
    IsForeseen r.error := by
  simp only [requirements, shapeRequirements, orderRequirements, valueRequirements,
    List.mem_append, List.mem_cons, List.mem_map] at h
  rcases h with (rfl | rfl | ⟨⟨row, i⟩, -, rfl⟩) | ⟨name, -, rfl⟩ | ⟨⟨value, type⟩, -, rfl⟩
  · trivial
  · trivial
  · trivial
  · trivial
  · trivial

theorem inlineSql_failsOnly (d : Dialect) (t : InlineTable) :
    FailsOnly IsForeseen (d.inlineSql t) := by
  intro e he
  obtain ⟨r, hr, rfl⟩ := ((judged_inlineSql d t).eq_error_iff.mp he).exists_mem
  exact isForeseen_of_requirement hr

theorem readLogicalType_failsOnly (word : String) : FailsOnly IsForeseen (LogicalType.read word) := by
  unfold LogicalType.read
  dsimp only
  split
  · exact .ok _
  · exact .error trivial

theorem readTypes_failsOnly (words : List String) : FailsOnly IsForeseen (readTypes words) := by
  induction words with
  | nil => exact .ok []
  | cons word rest ih =>
      refine (readLogicalType_failsOnly word).bind fun type => ?_
      exact ih.bind fun types => .ok _

theorem readTypeCode_failsOnly (word : String) : FailsOnly IsForeseen (TypeCode.read word) := by
  unfold TypeCode.read
  dsimp only
  split
  · exact .ok _
  · split
    · exact .ok _
    · exact .error trivial

theorem classify_failsOnly (d : Dialect) (columns : List Column) (index : Nat) :
    FailsOnly IsForeseen (d.classify columns index) := by
  unfold Dialect.classify Column.classify
  split
  · exact .ok _
  · exact .error trivial

theorem isForeseen_of_isConfigError {e : Error} (h : IsConfigError e) : IsForeseen e := by
  obtain ⟨fault, rfl⟩ := h
  trivial

theorem isForeseen_of_refused {c : Config} {e : Error} (h : Refused c e) : IsForeseen e := by
  cases h with
  | unsupported => trivial
  | connection => trivial

theorem readConfig_failsOnly (text : String) : FailsOnly IsForeseen (Config.read text) := by
  unfold Config.read
  split
  · exact .error trivial
  · exact ((validate_failsOnly _).mono fun _ => isForeseen_of_isConfigError).map _

theorem validate_of_read {text : String} {c : Config} (h : Config.read text = .ok c) :
    c.validate = .ok () := by
  unfold Config.read at h
  split at h
  · simp at h
  · rename_i config _
    cases hvalidate : config.validate with
    | error e =>
        rw [hvalidate] at h
        simp [Except.map] at h
    | ok u =>
        rw [hvalidate] at h
        obtain rfl := Except.ok.inj h
        exact hvalidate

variable {r : Registrations} {registry : Registry}

theorem configured_failsOnly (hbuild : r.build = .ok registry)
    (contents : Except ReadFailure String) :
    FailsOnly IsForeseen (configured registry contents) := by
  unfold configured
  cases contents with
  | error failure => exact .error trivial
  | ok text =>
      show FailsOnly IsForeseen (Config.read text >>= fun c => c.dialect registry)
      cases hread : Config.read text with
      | error e => exact .error (readConfig_failsOnly text e hread)
      | ok c =>
          exact (dialect_failsOnly hbuild (validate_of_read hread)).mono
            fun _ => isForeseen_of_refused

theorem resolveTag_isForeseen (hbuild : r.build = .ok registry) (tag : String)
    (identity : Identity) : FailsOnly IsForeseen (registry.resolveTag tag identity) := by
  refine (resolveTag_failsOnly hbuild tag identity).mono ?_
  rintro e ⟨product, version, rfl⟩
  trivial

theorem dialectFor_failsOnly (hbuild : r.build = .ok registry)
    (contents : Except ReadFailure String) (tag : Option String) :
    FailsOnly IsForeseen (dialectFor registry contents tag) := by
  cases tag with
  | none => exact configured_failsOnly hbuild contents
  | some tag => exact resolveTag_isForeseen hbuild tag .unknown

/-- Steps that print and do not fail. -/
def Completes (steps : Printing Unit) : Prop :=
  ∀ before, ∃ after, steps.run.run before = (.ok (), after)

theorem completes_printLine (line : String) : Completes (printLine line) := by
  intro before
  exact ⟨_, rfl⟩

theorem Completes.seq {first next : Printing Unit} (hfirst : Completes first)
    (hnext : Completes next) : Completes (first >>= fun _ => next) := by
  intro before
  obtain ⟨between, hbetween⟩ := hfirst before
  obtain ⟨after, hafter⟩ := hnext between
  refine ⟨after, ?_⟩
  rw [ExceptT.run_bind, StateT.run_bind, hbetween]
  exact hafter

theorem completes_printLines (items : List String) : Completes (printLines items) := by
  induction items with
  | nil =>
      intro before
      exact ⟨before, rfl⟩
  | cons item rest ih => exact (completes_printLine item).seq ih

/-- Steps that fail, if they do, before anything is printed. -/
def FailsFirst (steps : Printing Unit) : Prop :=
  ∀ before e after, steps.run.run before = (.error e, after) → after = before ∧ IsForeseen e

theorem Completes.failsFirst {steps : Printing Unit} (h : Completes steps) :
    FailsFirst steps := by
  intro before e after hfails
  obtain ⟨printed, hprinted⟩ := h before
  rw [hprinted] at hfails
  cases (Prod.mk.inj hfails).1

theorem FailsFirst.check {α : Type} {outcome : Except Error α} {next : α → Printing Unit}
    (houtcome : FailsOnly IsForeseen outcome)
    (hnext : ∀ a, outcome = .ok a → FailsFirst (next a)) :
    FailsFirst (do let a ← outcome; next a) := by
  intro before e after hfails
  -- A check prints nothing, so what is printed is up to the steps after it.
  cases outcome with
  | error reason =>
      obtain ⟨hreason, rfl⟩ := Prod.mk.inj hfails
      obtain rfl := Except.error.inj hreason
      exact ⟨rfl, houtcome _ rfl⟩
  | ok a => exact hnext a rfl before e after hfails

theorem failsFirst_printed {asJson : Bool} {j : Json} {steps : Printing Unit}
    (h : Completes steps) : FailsFirst (if asJson then printJson j else steps) := by
  cases asJson with
  | false => exact h.failsFirst
  | true => exact (completes_printLine j.pretty).failsFirst

theorem inlineAnswer_failsFirst (asJson : Bool) (d : Dialect) (columns types rows : List String)
    (orderBy : Option String) : FailsFirst (inlineAnswer asJson d columns types rows orderBy) := by
  apply FailsFirst.check (readTypes_failsOnly types)
  intro types _
  apply FailsFirst.check (inlineSql_failsOnly d _)
  intro sql _
  exact failsFirst_printed (completes_printLine sql)

theorem mapTypeAnswer_failsFirst (asJson : Bool) (d : Dialect) (code : String)
    (precision scale : Int) : FailsFirst (mapTypeAnswer asJson d code precision scale) := by
  apply FailsFirst.check (readTypeCode_failsOnly code)
  intro code _
  apply FailsFirst.check (classify_failsOnly d _ 0)
  intro type _
  exact failsFirst_printed (completes_printLine type.name)

theorem answer_failsFirst (hbuild : r.build = .ok registry) (request : Request) (asJson : Bool)
    (contents : Except ReadFailure String) :
    FailsFirst (request.answer asJson registry contents) := by
  cases request with
  | resolve =>
      apply FailsFirst.check (configured_failsOnly hbuild contents)
      intro d _
      exact failsFirst_printed (completes_printLines _)
  | list => exact failsFirst_printed (completes_printLines _)
  | capabilities tag version =>
      apply FailsFirst.check (resolveTag_isForeseen hbuild tag _)
      intro d _
      apply failsFirst_printed
      exact (completes_printLines _).seq ((completes_printLine "").seq (completes_printLines _))
  | inlineTable columns types rows orderBy dialect =>
      apply FailsFirst.check (dialectFor_failsOnly hbuild contents dialect)
      intro d _
      exact inlineAnswer_failsFirst asJson d columns types rows orderBy
  | mapType code precision scale dialect =>
      apply FailsFirst.check (dialectFor_failsOnly hbuild contents dialect)
      intro d _
      exact mapTypeAnswer_failsFirst asJson d code precision scale

/-- The end of a run that has done all that it was asked to, or nothing. -/
structure AllOrNothing (o : CommandLine.Outcome) : Prop where
  silent : o.exitCode ≠ 0 → o.output = ""
  code : o.exitCode ∈ [0, 1, 2, 3, 4, 7]

theorem FailsFirst.allOrNothing {steps : Printing Unit} (h : FailsFirst steps) :
    AllOrNothing (.ofSteps steps) := by
  unfold Outcome.ofSteps
  split
  · exact ⟨fun hcode => absurd rfl hcode, List.mem_cons_self⟩
  · rename_i e output hfails
    obtain ⟨hsilent, hforeseen⟩ := h "" e output hfails
    exact ⟨fun _ => hsilent, List.mem_cons_of_mem _ (exitCode_mem_of_isForeseen hforeseen)⟩

theorem stop_allOrNothing (stop : Stop) : AllOrNothing stop.outcome := by
  cases stop with
  | usage => exact ⟨fun _ => rfl, by decide⟩
  | help => exact ⟨fun hcode => absurd rfl hcode, List.mem_cons_self⟩
  | version => exact ⟨fun hcode => absurd rfl hcode, List.mem_cons_self⟩

theorem steps_failsFirst (hbuild : Builtin.registry = .ok registry) (i : Invocation)
    (contents : Except ReadFailure String) :
    FailsFirst (do
      let registry ← Builtin.registry
      i.request.answer i.asJson registry contents) := by
  apply FailsFirst.check
  · rw [hbuild]
    exact .ok registry
  · intro found hfound
    exact answer_failsFirst hfound i.request i.asJson contents

theorem exists_ended {m : Type → Type} [Monad m] [LawfulMonad m] {α : Type}
    {ending : α → CommandLine.Outcome} (h : ∀ a, AllOrNothing (ending a)) (x : m α) :
    ∃ ended : m {o // AllOrNothing o}, (x >>= fun a => pure (ending a)) = Subtype.val <$> ended := by
  refine ⟨(fun a => ⟨ending a, h a⟩) <$> x, ?_⟩
  rw [Functor.map_map]
  exact bind_pure_comp ending x

/-- However files are read, every end of a run is one that has done all or nothing. -/
theorem exists_run_eq (hbuild : Builtin.registry = .ok registry) {m : Type → Type} [Monad m]
    [LawfulMonad m] (contents : String → m (Except ReadFailure String)) (words : List String) :
    ∃ ended : m {o // AllOrNothing o}, run contents words = Subtype.val <$> ended := by
  unfold run
  cases Invocation.read words with
  | error stop =>
      refine ⟨pure ⟨stop.outcome, stop_allOrNothing stop⟩, ?_⟩
      rw [map_pure]
  | ok i =>
      have hanswer := fun text => (steps_failsFirst hbuild i text).allOrNothing
      dsimp only
      split
      · exact exists_ended hanswer (contents i.configPath)
      · exact exists_ended hanswer (pure (.ok ""))

/-- Every run of the program does all that it is asked to or prints nothing, and none reports a
fault of the built-in dialects. A configuration that has been checked is refused only for want of a
dialect, or because its canned answers are to fail when they are asked for. -/
theorem command_line_is_all_or_nothing :
    (∀ (m : Type → Type) [Monad m] [LawfulMonad m]
      (contents : String → m (Except ReadFailure String)) (words : List String),
      ∃ ended : m {o // AllOrNothing o}, run contents words = Subtype.val <$> ended) ∧
    ∃ registry, Builtin.registry = .ok registry ∧
      ∀ c : Config, c.validate = .ok () →
        (∃ recording, c.probe.recording = .ok recording) ∧
        ∀ e, c.dialect registry = .error e →
          (e.exitCode = 2 ∧ ∃ product version, e = .unsupported product version) ∨
          (e.exitCode = 3 ∧ (∃ text, e = .connection text) ∧ c.probe.failure.isSome = true ∧
            c.resolver.refines = true ∧ c.resolver.forcedDialect = none) := by
  obtain ⟨registry, hbuild⟩ := BuiltinRegistry.exists_registry
  refine ⟨fun m _ _ => exists_run_eq hbuild, registry, hbuild, ?_⟩
  intro c hvalid
  obtain ⟨recording, hrecording, -⟩ := exists_recording hvalid
  refine ⟨⟨recording, hrecording⟩, ?_⟩
  intro e he
  cases dialect_failsOnly hbuild hvalid e he with
  | unsupported product version => exact .inl ⟨rfl, product, version, rfl⟩
  | connection text hforced hrefines hfailure =>
      exact .inr ⟨rfl, ⟨text, rfl⟩, hfailure, hrefines, hforced⟩

def silentServer : Config :=
  ⟨⟨"MySQL", "8.0", none, .empty⟩, ⟨.empty, some "no route"⟩, .default⟩

def silentServerText : String :=
  "connection: \x7bproduct_name: MySQL, product_version: '8.0'\x7d\nprobe: \x7bfail_with: no route\x7d\n"

/-- A row whose one numeral has the greatest exponent that 64 bits hold. -/
def wrappingWords : List String :=
  ["inline", "--dialect", "ansi", "--columns", "v", "--types", "NUMERIC", "--row",
    "1e9223372036854775807"]

theorem command_line_silentServer :
    silentServer.validate = .ok () ∧
    (∃ registry, Builtin.registry = .ok registry ∧
      (∃ recording, silentServer.probe.recording = .ok recording) ∧
      ∀ e, silentServer.dialect registry = .error e → e.exitCode = 2 ∨ e.exitCode = 3) ∧
    (run (m := Id) (fun _ => .ok silentServerText) ["resolve"]).run =
      ⟨3, "", some "Error: Connection error: probe 'variable:version' failed: no route\n"⟩ ∧
    AllOrNothing (run (m := Id) (fun _ => .ok silentServerText) ["resolve"]).run ∧
    (run (m := Id) (fun _ => .ok "") wrappingWords).run =
      ⟨0, "SELECT CAST(1e9223372036854775807 AS DECIMAL(1, 0)) AS \"v\"\n", none⟩ ∧
    AllOrNothing (run (m := Id) (fun _ => .ok "") wrappingWords).run := by
  obtain ⟨hruns, registry, hbuild, hconfigs⟩ := command_line_is_all_or_nothing
  have hvalid : silentServer.validate = .ok () := by rfl
  obtain ⟨hrecording, herrors⟩ := hconfigs silentServer hvalid
  refine ⟨hvalid, ⟨registry, hbuild, hrecording, ?_⟩, by decide +kernel, ?_, by decide +kernel, ?_⟩
  · intro e he
    exact (herrors e he).imp (·.1) (·.1)
  · obtain ⟨ended, hended⟩ := hruns Id (fun _ => .ok silentServerText) ["resolve"]
    rw [hended]
    exact ended.property
  · obtain ⟨ended, hended⟩ := hruns Id (fun _ => .ok "") wrappingWords
    rw [hended]
    exact ended.property

end SqlDialects.Proofs.CommandOutcomes
