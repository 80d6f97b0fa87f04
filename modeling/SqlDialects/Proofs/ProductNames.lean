import SqlDialects.Proofs.BuiltinRegistry
import SqlDialects.Proofs.BuiltinRules
import SqlDialects.Proofs.ResolutionOutcomes
import SqlDialects.Proofs.Spelling

namespace SqlDialects.Proofs.ProductNames

open BuiltinRules
open Impersonation
open Outcome
open ProbeDiscipline
open RegistryContents
open Registry (pendingRules)
open ResolutionOutcomes
open Spelling

def renamed (identity : Identity) (name : String) : Identity :=
  { identity with productName := name }

def IgnoresName (guard : Identity → Bool) : Prop :=
  ∀ identity name, guard (renamed identity name) = guard identity

/-- What is answered for one identity and for another: dialects that differ in nothing but the
identity that they hold, or failures of one kind. -/
inductive SameAnswer (identity other : Identity) (failed : Error → Prop) :
    Except Error Dialect → Except Error Dialect → Prop
  | dialect {d : Dialect} : d.identity = identity →
      SameAnswer identity other failed (.ok d) (.ok { d with identity := other })
  | unsupported : SameAnswer identity other failed
      (.error (.unsupported identity.productName identity.productVersion))
      (.error (.unsupported other.productName other.productVersion))
  | failed {e : Error} : failed e → SameAnswer identity other failed (.error e) (.error e)

variable {r : Registrations} {registry : Registry} {identity : Identity} {name : String}
  {matched d : Dialect}

theorem pattern_accepts_of_respelled {a b : String} (h : Respelled a b) (p : Pattern) :
    p.accepts b = p.accepts a := by
  rw [Pattern.accepts, Pattern.accepts, h.lowerChars_eq]

theorem accepts_renamed (hname : Respelled identity.productName name) {recognizer : Recognizer}
    (hguard : ∀ guard ∈ recognizer.guard, IgnoresName guard) :
    recognizer.accepts (renamed identity name) = recognizer.accepts identity := by
  have hpatterns : recognizer.patterns.any (·.accepts (renamed identity name).productName) =
      recognizer.patterns.any (·.accepts identity.productName) := by
    congr 1
    funext p
    exact pattern_accepts_of_respelled hname p
  rw [Recognizer.accepts, Recognizer.accepts, hpatterns]
  cases h : recognizer.guard with
  | none => rfl
  | some guard =>
      rw [Option.all_some, Option.all_some, hguard guard h identity name]

theorem dialect?_renamed (registry : Registry) (tag : String) (identity : Identity)
    (name : String) :
    registry.dialect? tag (renamed identity name) =
      (registry.dialect? tag identity).map fun d =>
        { d with identity := renamed identity name } := by
  rw [Registry.dialect?, Registry.dialect?, Option.map_map]
  rfl

theorem detectRecorded_renamed (rules : List Impersonation) (identity : Identity)
    (name : String) :
    detectRecorded rules (renamed identity name) = detectRecorded rules identity :=
  rfl

theorem ask_renamed {σ : Type} (probe : Probe σ) (known : List (Query × Option String))
    (q : Query) (state : σ) :
    ask (renamed identity name) probe known q state = ask identity probe known q state :=
  rfl

/-- Nothing that is asked depends on the name of the product. -/
theorem detectFrom_renamed {σ : Type} (probe : Probe σ) (rules : List Impersonation)
    (known : List (Query × Option String)) (state : σ) :
    detectFrom (renamed identity name) probe known rules state =
      detectFrom identity probe known rules state := by
  induction rules generalizing known state with
  | nil => rfl
  | cons rule rules ih =>
      rw [detectFrom, detectFrom, ask_renamed]
      simp only [ih]

theorem refined_renamed {rule : Option Impersonation} (hmatched : matched.identity = identity)
    (h : registry.refined matched rule = .ok d) :
    d.identity = identity ∧
      registry.refined { matched with identity := renamed identity name } rule =
        .ok { d with identity := renamed identity name } := by
  cases rule with
  | none =>
      obtain rfl : matched = d := Except.ok.inj h
      exact ⟨hmatched, rfl⟩
  | some rule =>
      rw [Registry.refined, hmatched] at h
      cases hdialect : registry.dialect? rule.detected identity with
      | none =>
          rw [hdialect] at h
          simp at h
      | some detected =>
          rw [hdialect] at h
          obtain rfl := Except.ok.inj h
          refine ⟨(dialect?_eq_some hdialect).2.1, ?_⟩
          rw [Registry.refined, dialect?_renamed, hdialect]
          rfl

section

variable (hguards : ∀ recognizer ∈ r.recognizers, ∀ guard ∈ recognizer.guard, IgnoresName guard)
  (hname : Respelled identity.productName name)
include hguards hname

theorem unrecognized_renamed {e : Error} (h : Unrecognized r identity e) :
    Unrecognized r (renamed identity name) (.unsupported name identity.productVersion) := by
  refine ⟨rfl, ?_⟩
  intro recognizer hmem
  rw [accepts_renamed hname (hguards recognizer hmem)]
  exact h.2 recognizer hmem

theorem sameAnswer_of_errors {failed : Error → Prop} {answer other : Except Error Dialect}
    (hanswer : ∀ e, answer = .error e ↔ Unrecognized r identity e ∨ failed e)
    (hother : ∀ e, other = .error e ↔ Unrecognized r (renamed identity name) e ∨ failed e)
    (hok : ∀ d, answer = .ok d →
      d.identity = identity ∧ other = .ok { d with identity := renamed identity name }) :
    SameAnswer identity (renamed identity name) failed answer other := by
  cases h : answer with
  | ok d =>
      obtain ⟨hidentity, hsame⟩ := hok d h
      rw [hsame]
      exact .dialect hidentity
  | error e =>
      rcases (hanswer e).mp h with hrejected | hfailed
      · have hsame := unrecognized_renamed hguards hname hrejected
        rw [hrejected.1, (hother _).mpr (.inl hsame)]
        exact .unsupported
      · rw [(hother e).mpr (.inr hfailed)]
        exact .failed hfailed

variable (hbuild : r.build = .ok registry)
include hbuild

theorem find?_renamed :
    registry.recognizers.find? (·.accepts (renamed identity name)) =
      registry.recognizers.find? (·.accepts identity) := by
  rw [recognizers_eq hbuild]
  apply List.find?_congr
  intro recognizer hmem
  exact accepts_renamed hname (hguards recognizer hmem)

theorem unrefined_renamed (h : registry.resolveUnrefined identity = .ok d) :
    d.identity = identity ∧ registry.resolveUnrefined (renamed identity name) =
      .ok { d with identity := renamed identity name } := by
  obtain ⟨recognizer, hfind, hdialect⟩ := resolveUnrefined_eq_ok_iff.mp h
  refine ⟨(dialect?_eq_some hdialect).2.1, resolveUnrefined_eq_ok_iff.mpr ⟨recognizer, ?_, ?_⟩⟩
  · rw [find?_renamed hguards hname hbuild, hfind]
  · rw [dialect?_renamed, hdialect]
    rfl

theorem resolve_renamed (h : registry.resolve identity = .ok d) :
    d.identity = identity ∧
      registry.resolve (renamed identity name) =
        .ok { d with identity := renamed identity name } := by
  obtain ⟨matched, hmatched, hrefined⟩ := bind_eq_ok_iff.mp h
  obtain ⟨hidentity, hother⟩ := unrefined_renamed hguards hname hbuild hmatched
  obtain ⟨hfound, hresult⟩ := refined_renamed hidentity hrefined
  refine ⟨hfound, ?_⟩
  rw [Registry.resolve, hother]
  show registry.refined { matched with identity := renamed identity name }
    (detectRecorded (pendingRules matched) (renamed identity name)) = _
  rw [detectRecorded_renamed]
  exact hresult

theorem resolveConnection_of_renamed (hmatched : registry.resolveUnrefined identity = .ok matched)
    {σ : Type} (probe : Probe σ) (state : σ) :
    registry.resolveConnection (renamed identity name) probe state =
      ((detect (pendingRules matched) identity probe state).1 >>=
          registry.refined { matched with identity := renamed identity name },
        (detect (pendingRules matched) identity probe state).2) := by
  obtain ⟨-, hother⟩ := unrefined_renamed hguards hname hbuild hmatched
  have hdetect : detect (pendingRules matched) (renamed identity name) probe state =
      detect (pendingRules matched) identity probe state :=
    detectFrom_renamed probe (pendingRules matched) [] state
  rw [resolveConnection_of_ok hother, ← hdetect]
  rfl

theorem state_renamed {σ : Type} (probe : Probe σ) (state : σ) :
    (registry.resolveConnection (renamed identity name) probe state).2 =
      (registry.resolveConnection identity probe state).2 := by
  cases hmatched : registry.resolveUnrefined identity with
  | ok matched =>
      rw [resolveConnection_of_renamed hguards hname hbuild hmatched,
        resolveConnection_of_ok hmatched]
  | error e =>
      have hrejected := (resolveUnrefined_eq_error_iff hbuild).mp hmatched
      have hother := (resolveUnrefined_eq_error_iff hbuild).mpr
        (unrecognized_renamed hguards hname hrejected)
      rw [resolveConnection_of_error hother, resolveConnection_of_error hmatched]

theorem resolveConnection_renamed {σ : Type} {probe : Probe σ} {state : σ}
    (h : (registry.resolveConnection identity probe state).1 = .ok d) :
    d.identity = identity ∧
      (registry.resolveConnection (renamed identity name) probe state).1 =
        .ok { d with identity := renamed identity name } := by
  obtain ⟨matched, -, hmatched, -, -⟩ := behind_of_resolveConnection hbuild h
  rw [resolveConnection_of_ok hmatched] at h
  obtain ⟨rule, hrule, hrefined⟩ := bind_eq_ok_iff.mp h
  obtain ⟨hidentity, -⟩ := unrefined_renamed hguards hname hbuild hmatched
  obtain ⟨hfound, hresult⟩ := refined_renamed hidentity hrefined
  refine ⟨hfound, ?_⟩
  rw [resolveConnection_of_renamed hguards hname hbuild hmatched, hrule]
  exact hresult

/-- Where no guard looks at it, the spelling of a product name makes no difference to what is
answered, nor to what is asked of the server. -/
theorem resolution_ignores_spelling :
    SameAnswer identity (renamed identity name) (fun _ => False)
      (registry.resolveUnrefined identity) (registry.resolveUnrefined (renamed identity name)) ∧
    SameAnswer identity (renamed identity name) (fun _ => False)
      (registry.resolve identity) (registry.resolve (renamed identity name)) ∧
    ∀ {σ : Type} (probe : Probe σ) (state : σ),
      SameAnswer identity (renamed identity name)
        (fun e => ∃ q, (q, .error e) ∈ inquiry registry identity probe state)
        (registry.resolveConnection identity probe state).1
        (registry.resolveConnection (renamed identity name) probe state).1 ∧
      (registry.resolveConnection (renamed identity name) probe state).2 =
        (registry.resolveConnection identity probe state).2 := by
  refine ⟨?_, ?_, ?_⟩
  · apply sameAnswer_of_errors hguards hname
    · intro e
      rw [resolveUnrefined_eq_error_iff hbuild, Unrecognized, or_false]
    · intro e
      rw [resolveUnrefined_eq_error_iff hbuild, Unrecognized, or_false]
    · intro d hd
      exact unrefined_renamed hguards hname hbuild hd
  · apply sameAnswer_of_errors hguards hname
    · intro e
      rw [resolve_eq_error_iff hbuild, or_false]
    · intro e
      rw [resolve_eq_error_iff hbuild, or_false]
    · intro d hd
      exact resolve_renamed hguards hname hbuild hd
  · intro σ probe state
    have hasked : inquiry registry (renamed identity name) probe state =
        inquiry registry identity probe state := by
      rw [inquiry, state_renamed hguards hname hbuild, inquiry]
    refine ⟨?_, state_renamed hguards hname hbuild probe state⟩
    apply sameAnswer_of_errors hguards hname
    · intro e
      exact resolveConnection_eq_error_iff hbuild
    · intro e
      rw [resolveConnection_eq_error_iff hbuild, hasked]
    · intro d hd
      exact resolveConnection_renamed hguards hname hbuild hd

end

theorem builtin_guards_ignoreName : ∀ recognizer ∈ Builtin.registrations.recognizers,
    ∀ guard ∈ recognizer.guard, IgnoresName guard := by
  intro recognizer hmem guard hguard
  rw [builtin_recognizers, List.mem_cons] at hmem
  rcases hmem with rfl | hplain
  · obtain rfl : Builtin.saysInfobright = guard := Option.some.inj hguard
    intro identity name
    rfl
  · rw [guard_of_plain hplain] at hguard
    exact absurd hguard (by simp)

theorem resolution_shoutedName :
    ∃ registry d, Builtin.registrations.build = .ok registry ∧
      registry.resolveUnrefined (.ofProduct "MySQL" "5.7") = .ok d ∧ d.tag = "mysql" ∧
      SameAnswer (.ofProduct "MySQL" "5.7") (.ofProduct "  MYSQL\t" "5.7") (fun _ => False)
        (registry.resolveUnrefined (.ofProduct "MySQL" "5.7"))
        (registry.resolveUnrefined (.ofProduct "  MYSQL\t" "5.7")) := by
  obtain ⟨registry, hbuild⟩ := BuiltinRegistry.exists_registry
  have hname : Respelled (Identity.ofProduct "MySQL" "5.7").productName "  MYSQL\t" :=
    ⟨"MySQL".toList, "MYSQL".toList, ⟨[], [], by simp, by simp, rfl⟩,
      ⟨[' ', ' '], ['\t'], List.all_eq_true.mp rfl, List.all_eq_true.mp rfl, rfl⟩, rfl⟩
  have hfind : (Builtin.registrations.recognizers.find?
      (·.accepts (.ofProduct "MySQL" "5.7"))).map (·.tag) = some "mysql" := by
    decide +kernel
  obtain ⟨d, hd, hdialect⟩ := exists_unrefined hbuild hfind
  obtain ⟨hsame, -, -⟩ := resolution_ignores_spelling builtin_guards_ignoreName hname hbuild
  exact ⟨registry, d, hbuild, hd, (dialect?_eq_some hdialect).1, hsame⟩

end SqlDialects.Proofs.ProductNames
