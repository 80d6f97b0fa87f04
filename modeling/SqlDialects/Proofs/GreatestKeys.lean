import SqlDialects.Proofs.ByteOrder

namespace SqlDialects.Proofs.GreatestKeys

open ByteOrder

variable {p : String → Prop} {d : Dictionary} {key value : String}

/-- The value of the last entry whose key satisfies a condition. -/
def last? (p : String → Prop) [DecidablePred p] : List (String × String) → Option String
  | [] => none
  | (key, value) :: rest => (last? p rest).or (if p key then some value else none)

/-- An entry whose key is the greatest of those that satisfy a condition. -/
structure Prevails (d : Dictionary) (p : String → Prop) (key value : String) : Prop where
  mem : (key, value) ∈ d.entries
  holds : p key
  greatest : ∀ entry ∈ d.entries, p entry.1 → octets entry.1 ≤ octets key

/-- An answer that is the value of the greatest key that satisfies a condition, or none if there is
no such key. -/
def AnsweredByGreatest (d : Dictionary) (p : String → Prop) : Option String → Prop
  | some value => ∃ key, Prevails d p key value
  | none => ∀ entry ∈ d.entries, ¬ p entry.1

theorem last?_eq_none_iff [DecidablePred p] {entries : List (String × String)} :
    last? p entries = none ↔ ∀ entry ∈ entries, ¬ p entry.1 := by
  induction entries with
  | nil => simp [last?]
  | cons entry rest ih => simp [last?, ih, and_comm]

theorem exists_of_last? [DecidablePred p] {entries : List (String × String)}
    (hsorted : entries.Pairwise (·.1 < ·.1)) (h : last? p entries = some value) :
    ∃ key, (key, value) ∈ entries ∧ p key ∧ ∀ entry ∈ entries, p entry.1 → entry.1 ≤ key := by
  -- The keys rise, so what comes behind an entry prevails over it.
  induction entries with
  | nil => simp [last?] at h
  | cons entry rest ih =>
      obtain ⟨hfirst, hrest⟩ := List.pairwise_cons.mp hsorted
      rw [last?, Option.or_eq_some_iff] at h
      rcases h with hlast | ⟨hnone, hentry⟩
      · obtain ⟨key, hmem, hkey, hgreatest⟩ := ih hrest hlast
        refine ⟨key, List.mem_cons_of_mem _ hmem, hkey, ?_⟩
        refine List.forall_mem_cons.mpr ⟨fun _ => ?_, hgreatest⟩
        exact Std.le_of_lt (hfirst _ hmem)
      · obtain ⟨hkey, hvalue⟩ := Option.ite_none_right_eq_some.mp hentry
        refine ⟨entry.1, ?_, hkey, ?_⟩
        · rw [← Option.some.inj hvalue]
          exact List.mem_cons_self
        · refine List.forall_mem_cons.mpr ⟨fun _ => String.le_refl _, fun other hother hp => ?_⟩
          exact absurd hp (last?_eq_none_iff.mp hnone other hother)

theorem answeredByGreatest_last? [DecidablePred p] (d : Dictionary) :
    AnsweredByGreatest d p (last? p d.entries) := by
  cases hlast : last? p d.entries with
  | none => exact last?_eq_none_iff.mp hlast
  | some value =>
      obtain ⟨key, hmem, hkey, hgreatest⟩ := exists_of_last? d.sorted hlast
      exact ⟨key, hmem, hkey, fun entry hentry hp => octets_le_iff.mpr (hgreatest entry hentry hp)⟩

theorem mem_entries_iff : (key, value) ∈ d.entries ↔ d.get? key = some value := by
  obtain ⟨entries, hsorted⟩ := d
  rw [Dictionary.get?]
  induction entries with
  | nil => simp
  | cons entry rest ih =>
      obtain ⟨hfirst, hrest⟩ := List.pairwise_cons.mp hsorted
      obtain ⟨k, v⟩ := entry
      rw [List.mem_cons, ih hrest, lookup_cons_eq, Prod.mk.injEq]
      by_cases hkey : key = k
      · subst hkey
        have hnone : rest.lookup key ≠ some value := by
          rw [ne_eq, ← ih hrest]
          intro hmem
          exact String.lt_irrefl _ (hfirst (key, value) hmem)
        simp [hnone, eq_comm]
      · simp [hkey]

theorem Prevails.value_unique {other otherValue : String} (h : Prevails d p key value)
    (h' : Prevails d p other otherValue) : value = otherValue := by
  have hle := octets_le_iff.mp (h'.greatest _ h.mem h.holds)
  have hge := octets_le_iff.mp (h.greatest _ h'.mem h'.holds)
  obtain rfl := String.le_antisymm hle hge
  have hget := mem_entries_iff.mp h.mem
  rw [mem_entries_iff.mp h'.mem] at hget
  exact (Option.some.inj hget).symm

theorem AnsweredByGreatest.unique {a b : Option String} (ha : AnsweredByGreatest d p a)
    (hb : AnsweredByGreatest d p b) : a = b := by
  cases a with
  | none =>
      cases b with
      | none => rfl
      | some _ =>
          obtain ⟨key, hkey⟩ := hb
          exact absurd hkey.holds (ha _ hkey.mem)
  | some _ =>
      obtain ⟨key, hkey⟩ := ha
      cases b with
      | none => exact absurd hkey.holds (hb _ hkey.mem)
      | some _ =>
          obtain ⟨other, hother⟩ := hb
          rw [hkey.value_unique hother]

theorem AnsweredByGreatest.eq_some {a : Option String} (h : AnsweredByGreatest d p a)
    (hkey : Prevails d p key value) : a = some value :=
  h.unique ⟨key, hkey⟩

end SqlDialects.Proofs.GreatestKeys
