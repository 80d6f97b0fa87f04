import SqlDialects.Builtin
import SqlDialects.Proofs.Outcome
import SqlDialects.Resolution

namespace SqlDialects.Proofs.BuiltinRegistry

open Outcome

theorem registry_isOk : Builtin.registry.isOk = true := by
  decide +kernel

theorem exists_registry : ∃ registry, Builtin.registrations.build = .ok registry :=
  exists_of_isOk registry_isOk

/-- A property of a built-in dialect, from a run that builds the registry and takes the dialect. -/
theorem exists_dialect_of_run {α : Type} (tag : String) (identity : Identity) (f : Dialect → α)
    {a : α}
    (h : (do
      let registry ← Builtin.registrations.build
      let d ← registry.resolveTag tag identity
      pure (f d)) = .ok a) :
    ∃ registry d, Builtin.registrations.build = .ok registry ∧
      registry.resolveTag tag identity = .ok d ∧ f d = a := by
  obtain ⟨registry, hbuild, hrest⟩ := bind_eq_ok_iff.mp h
  obtain ⟨d, hd, hf⟩ := bind_eq_ok_iff.mp hrest
  exact ⟨registry, d, hbuild, hd, pure_eq_ok_iff.mp hf⟩

end SqlDialects.Proofs.BuiltinRegistry
