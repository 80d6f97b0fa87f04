import SqlDialects.Proofs.Lineage

namespace SqlDialects.Proofs.Ancestors

open Definition
open Lineage

variable {definitions : List Definition} {tag : String}

/-- The tag on which the definition of a tag is built. -/
def base? (definitions : List Definition) (tag : String) : Option String :=
  (find? definitions tag).bind (·.base)

/-- The tag that stands so many bases above a tag. -/
def ancestor? (definitions : List Definition) : Nat → String → Option String
  | 0, tag => some tag
  | n + 1, tag => (ancestor? definitions n tag).bind (base? definitions)

def Undefined (definitions : List Definition) (tag : String) : Prop :=
  ∀ d ∈ definitions, d.tag ≠ tag

/-- The way up from a tag comes to one tag twice. -/
def Revisits (definitions : List Definition) (tag : String) : Prop :=
  ∃ m n t, m < n ∧ ancestor? definitions m tag = some t ∧ ancestor? definitions n tag = some t

/-- The way up from a tag comes to a tag that is not defined. -/
def Dangles (definitions : List Definition) (tag missing : String) : Prop :=
  (∃ n, ancestor? definitions n tag = some missing) ∧ Undefined definitions missing

/-- The way up from a tag comes to a root. -/
def Rooted (definitions : List Definition) (tag : String) : Prop :=
  ∃ d ∈ definitions, d.base = none ∧ ∃ n, ancestor? definitions n tag = some d.tag

theorem find?_eq_none_iff : find? definitions tag = none ↔ Undefined definitions tag := by
  rw [find?, List.find?_eq_none]
  simp [Undefined]

theorem base?_of_mem (htags : (definitions.map (·.tag)).Nodup) {d : Definition}
    (hd : d ∈ definitions) : base? definitions d.tag = d.base := by
  rw [base?, find?_tag htags hd]
  rfl

theorem base?_of_undefined (h : Undefined definitions tag) : base? definitions tag = none := by
  rw [base?, find?_eq_none_iff.mpr h]
  rfl

theorem ancestor?_add (m n : Nat) (tag : String) :
    ancestor? definitions (m + n) tag =
      (ancestor? definitions m tag).bind (ancestor? definitions n) := by
  induction n with
  | zero =>
      show ancestor? definitions m tag = (ancestor? definitions m tag).bind some
      rw [Option.bind_fun_some]
  | succ n ih =>
      show (ancestor? definitions (m + n) tag).bind (base? definitions) = _
      rw [ih, Option.bind_assoc]
      rfl

theorem ancestor?_of_base (htags : (definitions.map (·.tag)).Nodup) {d : Definition}
    (hd : d ∈ definitions) {base : String} (hbase : d.base = some base) (n : Nat) :
    ancestor? definitions (n + 1) d.tag = ancestor? definitions n base := by
  have hfirst : ancestor? definitions 1 d.tag = some base := by
    show base? definitions d.tag = some base
    rw [base?_of_mem htags hd, hbase]
  rw [Nat.add_comm, ancestor?_add, hfirst, Option.bind_some]

/-- Where the way up has come to a tag twice, it goes on as it went on the first time, so it does
not end. -/
theorem Revisits.exists_ancestor (h : Revisits definitions tag) (k : Nat) :
    ∃ t, ancestor? definitions k tag = some t := by
  obtain ⟨m, n, again, hlt, hm, hn⟩ := h
  induction k using Nat.strongRecOn with
  | ind k ih =>
      by_cases hk : k ≤ n
      · have hsplit : ancestor? definitions (k + (n - k)) tag = _ := ancestor?_add k (n - k) tag
        rw [Nat.add_sub_cancel' hk, hn] at hsplit
        cases hstep : ancestor? definitions k tag with
        | none => simp [hstep] at hsplit
        | some t => exact ⟨t, rfl⟩
      · have hback : ancestor? definitions k tag = ancestor? definitions (m + (k - n)) tag := by
          conv_lhs => rw [show k = n + (k - n) by omega]
          rw [ancestor?_add, ancestor?_add, hm, hn]
        rw [hback]
        apply ih
        omega

theorem not_revisits_of_end {n : Nat} {last : String}
    (hlast : ancestor? definitions n tag = some last) (hend : base? definitions last = none) :
    ¬ Revisits definitions tag := by
  intro hrevisits
  obtain ⟨t, ht⟩ := hrevisits.exists_ancestor (n + 1)
  rw [ancestor?, hlast, Option.bind_some, hend] at ht
  simp at ht

theorem Dangles.not_revisits {missing : String} (h : Dangles definitions tag missing) :
    ¬ Revisits definitions tag := by
  obtain ⟨⟨n, hn⟩, hundefined⟩ := h
  exact not_revisits_of_end hn (base?_of_undefined hundefined)

theorem Rooted.not_revisits (htags : (definitions.map (·.tag)).Nodup)
    (h : Rooted definitions tag) : ¬ Revisits definitions tag := by
  obtain ⟨d, hd, hbase, n, hn⟩ := h
  apply not_revisits_of_end hn
  rw [base?_of_mem htags hd, hbase]

theorem end_unique {m n : Nat} {first last : String}
    (hfirst : ancestor? definitions m tag = some first) (hend : base? definitions first = none)
    (hlast : ancestor? definitions n tag = some last) (hend' : base? definitions last = none) :
    first = last := by
  wlog h : m ≤ n generalizing m n first last
  · exact (this hlast hend' hfirst hend (by omega)).symm
  obtain ⟨k, rfl⟩ := Nat.exists_eq_add_of_le h
  rw [ancestor?_add, hfirst, Option.bind_some] at hlast
  cases k with
  | zero => exact Option.some.inj hlast
  | succ k =>
      -- No step leads on from an end.
      have hstuck : ancestor? definitions (k + 1) first = none := by
        rw [Nat.add_comm, ancestor?_add]
        show (base? definitions first).bind (ancestor? definitions k) = none
        rw [hend]
        rfl
      rw [hstuck] at hlast
      simp at hlast

theorem Dangles.unique {missing other : String} (h : Dangles definitions tag missing)
    (h' : Dangles definitions tag other) : missing = other := by
  obtain ⟨⟨m, hm⟩, hundefined⟩ := h
  obtain ⟨⟨n, hn⟩, hundefined'⟩ := h'
  exact end_unique hm (base?_of_undefined hundefined) hn (base?_of_undefined hundefined')

theorem Dangles.not_rooted (htags : (definitions.map (·.tag)).Nodup) {missing : String}
    (h : Dangles definitions tag missing) : ¬ Rooted definitions tag := by
  obtain ⟨⟨m, hm⟩, hundefined⟩ := h
  rintro ⟨d, hd, hbase, n, hn⟩
  have hroot : base? definitions d.tag = none := by rw [base?_of_mem htags hd, hbase]
  exact hundefined d hd (end_unique hn hroot hm (base?_of_undefined hundefined))

theorem exists_end_iff_of_base (htags : (definitions.map (·.tag)).Nodup) {d : Definition}
    (hd : d ∈ definitions) {base last : String} (hbase : d.base = some base)
    (hend : base? definitions last = none) :
    (∃ n, ancestor? definitions n d.tag = some last) ↔
      ∃ n, ancestor? definitions n base = some last := by
  constructor
  · rintro ⟨n, hn⟩
    cases n with
    | zero =>
        obtain rfl : d.tag = last := Option.some.inj hn
        rw [base?_of_mem htags hd, hbase] at hend
        simp at hend
    | succ n => exact ⟨n, ancestor?_of_base htags hd hbase n ▸ hn⟩
  · rintro ⟨n, hn⟩
    exact ⟨n + 1, (ancestor?_of_base htags hd hbase n).trans hn⟩

theorem rooted_iff_of_base (htags : (definitions.map (·.tag)).Nodup) {d : Definition}
    (hd : d ∈ definitions) {base : String} (hbase : d.base = some base) :
    Rooted definitions d.tag ↔ Rooted definitions base := by
  refine exists_congr fun root => and_congr_right fun hroot => and_congr_right fun hnone => ?_
  apply exists_end_iff_of_base htags hd hbase
  rw [base?_of_mem htags hroot, hnone]

theorem dangles_iff_of_base (htags : (definitions.map (·.tag)).Nodup) {d : Definition}
    (hd : d ∈ definitions) {base : String} (hbase : d.base = some base) (missing : String) :
    Dangles definitions d.tag missing ↔ Dangles definitions base missing := by
  refine and_congr_left fun hundefined => ?_
  exact exists_end_iff_of_base htags hd hbase (base?_of_undefined hundefined)

end SqlDialects.Proofs.Ancestors
