import Mathlib.Data.Prod.Lex
import SqlDialects.Proofs.RegistryContents
import SqlDialects.Proofs.VersionReading

/-!
What becomes of a version as the numbers in its text rise. The versions of lower texts stay below,
and gates are only lost, as long as 32 bits hold the second and the third number. A number that is
larger than that counts as zero, and then a lower text has a higher version.
-/

namespace SqlDialects.Proofs.RisingVersions

open BuiltinRegistry (exists_dialect_of_run)
open SqlDialects.Composition (ofLayers)
open Lineage
open RegistryBuild
open RegistryContents
open Version (component? read?)
open VersionGates
open VersionOrder
open VersionReading

/-- The three numbers in the order in which texts are compared. -/
def key (d : Dotted) : Nat ×ₗ Nat ×ₗ Nat :=
  toLex (d.major.value, toLex (d.minor.value, d.patch.value))

variable {lower upper : Dotted} {v w : Version}

theorem key_le_iff : key lower ≤ key upper ↔
    lower.major.value < upper.major.value ∨ (lower.major.value = upper.major.value ∧
      (lower.minor.value < upper.minor.value ∨ (lower.minor.value = upper.minor.value ∧
        lower.patch.value ≤ upper.patch.value))) := by
  simp [key, Prod.Lex.toLex_le_toLex]

/-- What counts of a number behind the first one. -/
def kept (n : Nat) : Nat :=
  if n < UInt32.size then n else 0

theorem kept_of_lt {n : Nat} (h : n < UInt32.size) : kept n = n :=
  if_pos h

theorem kept_one : kept 1 = 1 :=
  kept_of_lt (by decide)

theorem kept_of_not_lt {n : Nat} (h : ¬ n < UInt32.size) : kept n = 0 :=
  if_neg h

theorem component?_eq (r : DigitRun) :
    component? r.digits = if r.value < UInt32.size then some (.ofNat r.value) else none :=
  rfl

theorem component?_eq_some_iff {r : DigitRun} {n : UInt32} :
    component? r.digits = some n ↔ r.value < UInt32.size ∧ n.toNat = r.value := by
  rw [component?_eq, Option.ite_none_right_eq_some, Option.some.injEq, ← UInt32.toNat_inj]
  refine and_congr_right fun hfits => ?_
  rw [UInt32.toNat_ofNat_of_lt' hfits]
  exact eq_comm

theorem toNat_component? (r : DigitRun) :
    ((component? r.digits).getD 0).toNat = kept r.value := by
  rw [component?_eq]
  by_cases hfits : r.value < UInt32.size
  · rw [if_pos hfits, kept_of_lt hfits, Option.getD_some, UInt32.toNat_ofNat_of_lt' hfits]
  · rw [if_neg hfits, kept_of_not_lt hfits]
    rfl

theorem read?_text_eq_some_iff : read? upper.text = some v ↔
    upper.major.value < UInt32.size ∧ v.major.toNat = upper.major.value ∧
      v.minor.toNat = kept upper.minor.value ∧ v.patch.toNat = kept upper.patch.value := by
  have hread : read? ("" ++ upper.text ++ "") = _ := read?_around upper (by simp) (by simp)
  rw [String.empty_append, String.append_empty] at hread
  rw [hread, Option.map_eq_some_iff, ← toNat_component?, ← toNat_component?]
  constructor
  · rintro ⟨major, hmajor, rfl⟩
    obtain ⟨hfits, hvalue⟩ := component?_eq_some_iff.mp hmajor
    exact ⟨hfits, hvalue, rfl, rfl⟩
  · rintro ⟨hfits, hmajor, hminor, hpatch⟩
    refine ⟨v.major, component?_eq_some_iff.mpr ⟨hfits, hmajor⟩, ?_⟩
    rw [← UInt32.toNat_inj.mp hminor, ← UInt32.toNat_inj.mp hpatch]

theorem exists_version {major : DigitRun} (hmajor : major.value < UInt32.size)
    (minor patch : DigitRun) :
    ∃ v, read? (Dotted.text ⟨major, minor, patch⟩) = some v ∧ v.major.toNat = major.value ∧
      v.minor.toNat = kept minor.value ∧ v.patch.toNat = kept patch.value := by
  let v : Version := ⟨.ofNat major.value, (component? minor.digits).getD 0,
    (component? patch.digits).getD 0⟩
  have hv : v.major.toNat = major.value := UInt32.toNat_ofNat_of_lt' hmajor
  have hminor : v.minor.toNat = kept minor.value := toNat_component? minor
  have hpatch : v.patch.toNat = kept patch.value := toNat_component? patch
  exact ⟨v, read?_text_eq_some_iff.mpr ⟨hmajor, hv, hminor, hpatch⟩, hv, hminor, hpatch⟩

/-- Whether 32 bits hold the numbers behind the first one. -/
def Fits (d : Dotted) : Prop :=
  d.minor.value < UInt32.size ∧ d.patch.value < UInt32.size

/-- The version of a text does not fall below those of lower texts. -/
def KeepsOrder (upper : Dotted) (v : Version) : Prop :=
  ∀ lower w, key lower ≤ key upper → read? lower.text = some w → ¬ v < w

theorem keepsOrder_of_fits (hread : read? upper.text = some v) (hfits : Fits upper) :
    KeepsOrder upper v := by
  intro lower w hle hlower
  obtain ⟨hminor, hpatch⟩ := hfits
  obtain ⟨-, hvmajor, hvminor, hvpatch⟩ := read?_text_eq_some_iff.mp hread
  obtain ⟨-, hwmajor, hwminor, hwpatch⟩ := read?_text_eq_some_iff.mp hlower
  rw [kept_of_lt hminor] at hvminor
  rw [kept_of_lt hpatch] at hvpatch
  rw [key_le_iff] at hle
  rw [lt_iff]
  unfold kept at hwminor hwpatch
  split at hwminor
  · split at hwpatch
    · omega
    · omega
  · split at hwpatch
    · omega
    · omega

/-- Where a number does not fit it counts as zero, and a one in its place counts for more. -/
theorem fits_of_keepsOrder (hread : read? upper.text = some v) (h : KeepsOrder upper v) :
    Fits upper := by
  obtain ⟨hmajor, hvmajor, hvminor, hvpatch⟩ := read?_text_eq_some_iff.mp hread
  have hminor : upper.minor.value < UInt32.size := by
    by_contra hminor
    obtain ⟨w, hw, hwmajor, hwminor, -⟩ := exists_version hmajor (.ofNat 1) (.ofNat 0)
    rw [kept_of_not_lt hminor] at hvminor
    rw [DigitRun.value_ofNat, kept_one] at hwminor
    have hle : key ⟨upper.major, .ofNat 1, .ofNat 0⟩ ≤ key upper := by
      rw [key_le_iff, DigitRun.value_ofNat]
      exact .inr ⟨rfl, .inl (lt_of_lt_of_le (by decide) (Nat.le_of_not_lt hminor))⟩
    refine h _ w hle hw (lt_iff.mpr ?_)
    omega
  refine ⟨hminor, ?_⟩
  by_contra hpatch
  obtain ⟨w, hw, hwmajor, hwminor, hwpatch⟩ := exists_version hmajor upper.minor (.ofNat 1)
  rw [kept_of_not_lt hpatch] at hvpatch
  rw [DigitRun.value_ofNat, kept_one] at hwpatch
  have hle : key ⟨upper.major, upper.minor, .ofNat 1⟩ ≤ key upper := by
    rw [key_le_iff, DigitRun.value_ofNat]
    exact .inr ⟨rfl, .inr ⟨rfl, le_trans (by decide) (Nat.le_of_not_lt hpatch)⟩⟩
  refine h _ w hle hw (lt_iff.mpr ?_)
  omega

variable {r : Registrations} {registry : Registry}

/-- The dialect of a definition is put together from its path and the gates that apply. -/
def BuiltFrom (r : Registrations) (registry : Registry) (d : Definition) (identity : Identity)
    (path : List Definition) (applied : List Gate) : Prop :=
  BasePath r.definitions d.tag path ∧ Applied d.gates identity.version? applied ∧
    ∃ composition, ofLayers (path.map (·.overlay) ++ applied.map (·.overlay)) = .ok composition ∧
      registry.resolveTag d.tag identity = .ok ⟨d.tag, identity, none, composition⟩

/-- From one identity to another a definition loses gates from the top, and gets none. -/
def LosesGates (r : Registrations) (registry : Registry) (d : Definition)
    (i j : Identity) : Prop :=
  ∃ path before after, BuiltFrom r registry d i path before ∧ BuiltFrom r registry d j path after ∧
    after <+: before

theorem exists_builtFrom (hbuild : r.build = .ok registry) {d : Definition}
    (hd : d ∈ r.definitions) (identity : Identity) :
    ∃ path applied, BuiltFrom r registry d identity path applied := by
  obtain ⟨layers, composition, ⟨path, applied, hpath, happlied, rfl⟩, hcomposition, hdialect⟩ :=
    exists_dialect hbuild hd identity
  refine ⟨path, applied, hpath, happlied, composition, hcomposition, ?_⟩
  rw [Registry.resolveTag, hdialect]

theorem losesGates_of_prefix (hbuild : r.build = .ok registry) {d : Definition}
    (hd : d ∈ r.definitions) {i j : Identity}
    (hbegins : ∀ before after, Applied d.gates i.version? before →
      Applied d.gates j.version? after → after <+: before) :
    LosesGates r registry d i j := by
  obtain ⟨⟨-, -, htags⟩, -⟩ := build_eq_ok_iff.mp hbuild
  obtain ⟨path, before, hbefore⟩ := exists_builtFrom hbuild hd i
  obtain ⟨other, after, hafter⟩ := exists_builtFrom hbuild hd j
  obtain rfl : path = other := hbefore.1.unique htags hafter.1
  exact ⟨path, before, after, hbefore, hafter, hbegins _ _ hbefore.2.1 hafter.2.1⟩

theorem eq_nil_of_applied {gates applied : List Gate} (h : Applied gates none applied) :
    applied = [] := by
  have hnone : gates.filter (EditionChoice.appliesTo none) = [] :=
    List.filter_eq_nil_iff.mpr fun g _ => by simp [EditionChoice.appliesTo]
  have hperm := h.1
  rw [hnone] at hperm
  exact hperm.eq_nil

theorem losesGates_of_key_le (hbuild : r.build = .ok registry) {d : Definition}
    (hd : d ∈ r.definitions) {i j : Identity} (hi : i.productVersion = lower.text)
    (hj : j.productVersion = upper.text) (hle : key lower ≤ key upper)
    (hfits : Fits upper ∨ read? upper.text = none) : LosesGates r registry d i j := by
  refine losesGates_of_prefix hbuild hd ?_
  intro before after hbefore hafter
  rw [Identity.version?, hi] at hbefore
  rw [Identity.version?, hj] at hafter
  cases hupper : read? upper.text with
  | none =>
      rw [hupper] at hafter
      rw [eq_nil_of_applied hafter]
      exact List.nil_prefix
  | some v =>
      have hfits : Fits upper := hfits.resolve_right (by simp [hupper])
      -- The first number of the lower text is not larger, so that text has a version as well.
      have hmajor : lower.major.value < UInt32.size := by
        obtain ⟨hmajor, -⟩ := read?_text_eq_some_iff.mp hupper
        rw [key_le_iff] at hle
        omega
      obtain ⟨w, hlower, -⟩ := exists_version hmajor lower.minor lower.patch
      rw [hlower] at hbefore
      rw [hupper] at hafter
      exact hbefore.prefix_of_not_lt (keepsOrder_of_fits hupper hfits lower w hle hlower) hafter

/-- The version of a text is never below those of lower texts just if 32 bits hold its second and
third number. If they do, or if the text has no version, every engine loses gates on the way from a
lower text to it, and gets none. -/
theorem version_keeps_order_iff_fits (hbuild : r.build = .ok registry) :
    ∀ upper : Dotted,
      (∀ v, read? upper.text = some v → (KeepsOrder upper v ↔ Fits upper)) ∧
      (Fits upper ∨ read? upper.text = none →
        ∀ lower : Dotted, key lower ≤ key upper → ∀ d ∈ r.definitions, ∀ i j : Identity,
          i.productVersion = lower.text → j.productVersion = upper.text →
            LosesGates r registry d i j) := by
  intro upper
  constructor
  · intro v hread
    exact ⟨fits_of_keepsOrder hread, keepsOrder_of_fits hread⟩
  · intro hfits lower hle d hd i j hi hj
    exact losesGates_of_key_le hbuild hd hi hj hle hfits

/-- The least second number that is too large, behind the version of MySQL that brought
sub-queries. -/
def overflowing : Dotted :=
  ⟨.ofNat 4, .ofNat 4294967296, .ofNat 0⟩

theorem version_falls_overflowing :
    ∃ registry below above, Builtin.registrations.build = .ok registry ∧
      registry.resolveTag "mysql" (.ofProduct "MySQL" "4.1.0") = .ok below ∧
      below.chain = ["ansi", "mysql"] ∧
      registry.resolveTag "mysql" (.ofProduct "MySQL" overflowing.text) = .ok above ∧
      above.chain = ["ansi", "mysql", "mysql<4.1"] ∧
      ¬ KeepsOrder overflowing ⟨4, 0, 0⟩ := by
  obtain ⟨registry, below, hbuild, hbelow, hchain⟩ :=
    exists_dialect_of_run "mysql" (.ofProduct "MySQL" "4.1.0") (·.chain)
      (a := ["ansi", "mysql"]) (by decide +kernel)
  obtain ⟨other, above, hother, habove, hgated⟩ :=
    exists_dialect_of_run "mysql" (.ofProduct "MySQL" overflowing.text) (·.chain)
      (a := ["ansi", "mysql", "mysql<4.1"]) (by decide +kernel)
  obtain rfl := Except.ok.inj (hbuild.symm.trans hother)
  have hread : read? overflowing.text = some ⟨4, 0, 0⟩ := by decide +kernel
  have hlarge : ¬ Fits overflowing := by
    rintro ⟨hminor, -⟩
    rw [overflowing, DigitRun.value_ofNat] at hminor
    exact absurd hminor (by decide)
  refine ⟨registry, below, above, hbuild, hbelow, hchain, habove, hgated, ?_⟩
  rwa [(version_keeps_order_iff_fits hbuild overflowing).1 _ hread]

end SqlDialects.Proofs.RisingVersions
