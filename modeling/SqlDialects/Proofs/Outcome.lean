import SqlDialects.Composition
import SqlDialects.Registry

namespace SqlDialects.Proofs.Outcome

theorem bind_eq_ok_iff {ε α β : Type} {first : Except ε α} {next : α → Except ε β} {b : β} :
    (first >>= next) = .ok b ↔ ∃ a, first = .ok a ∧ next a = .ok b := by
  cases first with
  | error e => simp [bind, Except.bind]
  | ok a => simp [bind, Except.bind]

theorem exists_of_isOk {ε α : Type} {outcome : Except ε α} (h : outcome.isOk = true) :
    ∃ a, outcome = .ok a := by
  cases outcome with
  | error e => simp [Except.isOk, Except.toBool] at h
  | ok a => exact ⟨a, rfl⟩

theorem pure_eq_ok_iff {ε α : Type} {a b : α} :
    (pure a : Except ε α) = .ok b ↔ a = b := by
  simp [pure, Except.pure]

theorem mapError_eq_ok_iff {ε ε' α : Type} {f : ε → ε'} {outcome : Except ε α} {a : α} :
    outcome.mapError f = .ok a ↔ outcome = .ok a := by
  cases outcome with
  | error e =>
      change (Except.error (f e) : Except ε' α) = .ok a ↔ _
      simp
  | ok b =>
      change (Except.ok b : Except ε' α) = .ok a ↔ _
      simp

theorem complete_eq_ok_iff {κ α : Type} {keys : List κ} {hkeys : ∀ k, k ∈ keys}
    {f : κ → Option α} {g : κ → α} :
    complete keys hkeys f = .ok g ↔ ∀ k, f k = some (g k) := by
  unfold complete
  split
  · rename_i k hk
    have hnone : f k = none := by simpa using List.find?_some hk
    simp only [reduceCtorEq, false_iff]
    intro h
    rw [h k] at hnone
    simp at hnone
  · simp only [Except.ok.injEq]
    constructor
    · rintro rfl k
      simp
    · intro h
      funext k
      simp [h k]

theorem require_eq_ok_iff {α : Type} {behavior : Behavior} {standing : Option α} {a : α} :
    Composition.require behavior standing = .ok a ↔ standing = some a := by
  cases standing with
  | none => simp [Composition.require]
  | some b => simp [Composition.require]

theorem checkImplications_eq_ok_iff {flag : Capability → Bool} {u : Unit} :
    Composition.checkImplications flag = .ok u ↔
      ∀ pair ∈ Capability.implications, flag pair.1 = true → flag pair.2 = true := by
  unfold Composition.checkImplications
  split
  · rename_i set unset hpair
    have hmem := List.mem_of_find?_eq_some hpair
    have hbroken := List.find?_some hpair
    simp only [Bool.and_eq_true, Bool.not_eq_true'] at hbroken
    simp only [reduceCtorEq, false_iff]
    intro h
    rw [h _ hmem hbroken.1] at hbroken
    simp at hbroken
  · rename_i hnone
    simp only [true_iff]
    intro pair hmem hset
    simpa [hset] using List.find?_eq_none.mp hnone pair hmem

theorem registrationsRequire_eq_ok_iff {tag : String} {fault : DefinitionFault} {holds : Bool}
    {u : Unit} : Registrations.require tag fault holds = .ok u ↔ holds = true := by
  cases holds with
  | false => simp [Registrations.require]
  | true => simp [Registrations.require]

end SqlDialects.Proofs.Outcome
