import SqlDialects.Text.Blank
import SqlDialects.Text.LetterCase

namespace SqlDialects.Proofs.LowerCase

open Text (isBlank)
open Text.LetterCase

variable {c d : Char} {r s : Run} {code : Nat}

theorem covers_iff : r.covers code = true ↔
    r.first ≤ code ∧ code ≤ r.last ∧ (code - r.first) % r.step = 0 := by
  simp [Run.covers, and_assoc]

/-- The code points to which a run maps those that it covers. -/
def image (r : Run) : Run :=
  ⟨(r.first + r.offset).toNat, (r.last + r.offset).toNat, r.step, 0⟩

theorem covers_image (hfirst : 0 ≤ r.first + r.offset) (h : r.covers code = true) :
    (image r).covers (code + r.offset).toNat = true := by
  obtain ⟨hlower, hupper, hstep⟩ := covers_iff.mp h
  have hdistance : (code + r.offset).toNat - (image r).first = code - r.first := by
    simp only [image]
    omega
  refine covers_iff.mpr ⟨?_, ?_, hdistance ▸ hstep⟩
  · simp only [image]
    omega
  · simp only [image]
    omega

/-- Whether two runs can be seen to have no code point in common: one ends before the other begins,
or they take the even and the odd places. -/
def isApart (r s : Run) : Bool :=
  Nat.blt r.last s.first || Nat.blt s.last r.first ||
    ((r.step == 2 || r.first == r.last) && s.step == 2 && r.first % 2 != s.first % 2)

theorem not_covers_of_isApart (h : isApart r s = true) (hr : r.covers code = true) :
    s.covers code = false := by
  obtain ⟨hlower, hupper, hstep⟩ := covers_iff.mp hr
  rw [Bool.eq_false_iff]
  intro hs
  obtain ⟨hlower', hupper', hstep'⟩ := covers_iff.mp hs
  simp only [isApart, Bool.or_eq_true, Bool.and_eq_true, Nat.blt_eq, beq_iff_eq, bne_iff_ne] at h
  rcases h with (hbefore | hbehind) | ⟨⟨heven | hsingle, heven'⟩, hplace⟩
  · omega
  · omega
  · rw [heven] at hstep
    rw [heven'] at hstep'
    omega
  · rw [heven'] at hstep'
    omega

def blankRuns : List Run :=
  [⟨9, 13, 1, 0⟩, ⟨32, 32, 1, 0⟩, ⟨0x85, 0x85, 1, 0⟩, ⟨0xa0, 0xa0, 1, 0⟩, ⟨0x1680, 0x1680, 1, 0⟩,
    ⟨0x2000, 0x200a, 1, 0⟩, ⟨0x2028, 0x2029, 1, 0⟩, ⟨0x202f, 0x202f, 1, 0⟩,
    ⟨0x205f, 0x205f, 1, 0⟩, ⟨0x3000, 0x3000, 1, 0⟩]

theorem isBlank_eq (c : Char) : isBlank c = blankRuns.any (·.covers c.toNat) := by
  rw [Bool.eq_iff_iff]
  simp only [isBlank, blankRuns, List.any_cons, List.any_nil, Bool.or_eq_true, Bool.and_eq_true,
    decide_eq_true_eq, beq_iff_eq, covers_iff, Nat.mod_one, and_true, Bool.false_eq_true, or_false]
  omega

/-- What no letter is mapped to: white space, a letter that is mapped itself, and the one letter
that has two letters for its lower-case form. -/
def foreignRuns : List Run :=
  ⟨0x130, 0x130, 1, 0⟩ :: (blankRuns ++ lowerRuns)

theorem lowerRuns_isApart :
    (lowerRuns.all fun r =>
      decide (0 ≤ r.first + r.offset) && foreignRuns.all (isApart (image r))) = true := by
  decide +kernel

theorem not_covers_of_mapped (h : mapped? lowerRuns c.toNat = some code) (hs : s ∈ foreignRuns) :
    s.covers code = false := by
  obtain ⟨r, hr, rfl⟩ := Option.map_eq_some_iff.mp h
  have htable := List.all_eq_true.mp lowerRuns_isApart r (List.mem_of_find?_eq_some hr)
  obtain ⟨hfirst, hapart⟩ := Bool.and_eq_true_iff.mp htable
  have hcovered := List.find?_some hr
  have hcovers := covers_image (of_decide_eq_true hfirst) hcovered
  exact not_covers_of_isApart (List.all_eq_true.mp hapart s hs) hcovers

theorem mapped?_eq_none_iff : mapped? lowerRuns code = none ↔
    ∀ s ∈ lowerRuns, s.covers code = false := by
  simp [mapped?, List.find?_eq_none]

theorem lowerChar_of_unmapped (h : mapped? lowerRuns c.toNat = none) (hdotted : c.toNat ≠ 0x130) :
    lowerChar c = [c] := by
  unfold lowerChar
  split
  · have hletter := mapped?_eq_none_iff.mp h ⟨0x41, 0x5a, 1, 32⟩ List.mem_cons_self
    rw [if_neg]
    rintro ⟨hA, hZ⟩
    have hcovers : (⟨0x41, 0x5a, 1, 32⟩ : Run).covers c.toNat = true :=
      covers_iff.mpr ⟨hA, hZ, Nat.mod_one _⟩
    rw [hletter] at hcovers
    exact absurd hcovers Bool.false_ne_true
  · rw [if_neg (by simpa using hdotted), h]

/-- A character that lower-casing keeps, wherever it stands. -/
def IsSettled (c : Char) : Prop :=
  lowerChar c = [c] ∧ c ≠ 'Σ'

instance : DecidablePred IsSettled :=
  fun _ => inferInstanceAs (Decidable (_ ∧ _))

/-- A character that may stand for another one in lower case. -/
structure StandsFor (d c : Char) : Prop where
  settled : IsSettled d
  blank : isBlank d = true → isBlank c = true

theorem StandsFor.of_not_blank (h : IsSettled d) (hblank : isBlank d = false) : StandsFor d c := by
  refine ⟨h, fun hisBlank => ?_⟩
  rw [hblank] at hisBlank
  exact absurd hisBlank Bool.false_ne_true

theorem isSettled_of_unmapped (h : mapped? lowerRuns c.toNat = none) (hdotted : c.toNat ≠ 0x130) :
    IsSettled c := by
  refine ⟨lowerChar_of_unmapped h hdotted, ?_⟩
  rintro rfl
  exact absurd h (by decide)

theorem toNat_ofNat_cases (code : Nat) :
    (Char.ofNat code).toNat = code ∨ Char.ofNat code = '\x00' := by
  by_cases hvalid : code.isValidChar
  · have hcode : Char.ofNat code = Char.ofNatAux code hvalid := dif_pos hvalid
    exact .inl (congrArg Char.toNat hcode)
  · exact .inr (dif_neg hvalid)

theorem standsFor_of_mapped (h : mapped? lowerRuns c.toNat = some code) :
    StandsFor (Char.ofNat code) c := by
  have hforeign := fun {s : Run} (hs : s ∈ foreignRuns) => not_covers_of_mapped h hs
  rcases toNat_ofNat_cases code with hcode | hcode
  · have hunmapped : mapped? lowerRuns (Char.ofNat code).toNat = none := by
      rw [hcode, mapped?_eq_none_iff]
      intro s hs
      exact hforeign (List.mem_cons_of_mem _ (List.mem_append_right _ hs))
    have hdotted : (Char.ofNat code).toNat ≠ 0x130 := by
      rw [hcode]
      rintro rfl
      exact absurd (hforeign List.mem_cons_self) (by decide)
    refine .of_not_blank (isSettled_of_unmapped hunmapped hdotted) ?_
    rw [isBlank_eq, hcode, List.any_eq_false]
    intro s hs
    rw [hforeign (List.mem_cons_of_mem _ (List.mem_append_left _ hs))]
    exact Bool.false_ne_true
  -- A number that is not the code point of a character would be read as NUL.
  · rw [hcode]
    exact .of_not_blank (by decide) (by decide)

theorem lowerChar_ascii : ∀ n < 128, (lowerChar (Char.ofNat n)).all (fun d =>
    decide (IsSettled d) && (!isBlank d || isBlank (Char.ofNat n))) = true := by
  decide +kernel

theorem standsFor_of_mem_lowerChar (h : d ∈ lowerChar c) : StandsFor d c := by
  by_cases hascii : c.toNat < 128
  · have hform := List.all_eq_true.mp (lowerChar_ascii c.toNat hascii)
    rw [Char.ofNat_toNat] at hform
    obtain ⟨hsettled, hblank⟩ := Bool.and_eq_true_iff.mp (hform d h)
    exact ⟨of_decide_eq_true hsettled, by simpa [Decidable.imp_iff_not_or] using hblank⟩
  · unfold lowerChar at h
    rw [if_neg hascii] at h
    split at h
    · rcases List.mem_cons.mp h with rfl | h
      · exact .of_not_blank (by decide +kernel) (by decide)
      · obtain rfl := List.mem_singleton.mp h
        exact .of_not_blank (by decide +kernel) (by decide)
    · rename_i hdotted
      cases hmapped : mapped? lowerRuns c.toNat with
      | none =>
          rw [hmapped] at h
          obtain rfl := List.mem_singleton.mp h
          exact ⟨isSettled_of_unmapped hmapped (by simpa using hdotted), id⟩
      | some code =>
          rw [hmapped] at h
          obtain rfl := List.mem_singleton.mp h
          exact standsFor_of_mapped hmapped

theorem lowerChar_ne_nil (c : Char) : lowerChar c ≠ [] := by
  unfold lowerChar
  split
  · simp
  · split
    · simp
    · split <;> simp

/-- What stands for the first character of a text in lower case. -/
theorem exists_form (before : List Char) (c : Char) (rest : List Char) :
    ∃ form, lowerAfter before (c :: rest) = form ++ lowerAfter (c :: before) rest ∧ form ≠ [] ∧
      ∀ d ∈ form, StandsFor d c := by
  refine ⟨_, rfl, ?_, ?_⟩
  · split
    · simp
    · exact lowerChar_ne_nil c
  · intro d hd
    split at hd
    · obtain rfl := List.mem_singleton.mp hd
      split
      · exact .of_not_blank (by decide +kernel) (by decide)
      · exact .of_not_blank (by decide +kernel) (by decide)
    · exact standsFor_of_mem_lowerChar hd

theorem isSettled_of_mem_lowerAfter {before cs : List Char} (h : d ∈ lowerAfter before cs) :
    IsSettled d := by
  induction cs generalizing before with
  | nil => simp [lowerAfter] at h
  | cons c rest ih =>
      obtain ⟨form, hform, -, hstands⟩ := exists_form before c rest
      rw [hform] at h
      rcases List.mem_append.mp h with hd | hd
      · exact (hstands d hd).settled
      · exact ih hd

theorem lowerAfter_of_settled {cs : List Char} (h : ∀ c ∈ cs, IsSettled c) (before : List Char) :
    lowerAfter before cs = cs := by
  induction cs generalizing before with
  | nil => rfl
  | cons c rest ih =>
      obtain ⟨⟨hlower, hsigma⟩, hrest⟩ := List.forall_mem_cons.mp h
      simp only [lowerAfter, if_neg hsigma, hlower, ih hrest, List.singleton_append]

@[simp] theorem lowerChars_lowerChars (cs : List Char) :
    lowerChars (lowerChars cs) = lowerChars cs :=
  lowerAfter_of_settled (fun _ => isSettled_of_mem_lowerAfter) []

@[simp] theorem lower_lower (s : String) : lower (lower s) = lower s := by
  simp [lower]

theorem lowerAfter_ne_nil {cs : List Char} (h : cs ≠ []) (before : List Char) :
    lowerAfter before cs ≠ [] := by
  obtain ⟨c, rest, rfl⟩ := List.exists_cons_of_ne_nil h
  obtain ⟨form, hform, hne, -⟩ := exists_form before c rest
  rw [hform]
  exact List.append_ne_nil_of_left_ne_nil hne _

theorem isBlank_getLast_lowerAfter {cs : List Char} (h : ∀ c ∈ cs.getLast?, isBlank c = false)
    (before : List Char) : ∀ c ∈ (lowerAfter before cs).getLast?, isBlank c = false := by
  induction cs generalizing before with
  | nil => simp [lowerAfter]
  | cons c rest ih =>
      obtain ⟨form, hform, hne, hstands⟩ := exists_form before c rest
      rw [hform]
      intro d hd
      by_cases hrest : rest = []
      · subst hrest
        have hc : isBlank c = false := by simpa using h
        have hmem : d ∈ form := by
          refine List.mem_of_getLast? ?_
          simpa [lowerAfter] using hd
        rw [← Bool.not_eq_true]
        intro hdblank
        rw [(hstands d hmem).blank hdblank] at hc
        exact absurd hc (by decide)
      · have hlast : ∀ e ∈ rest.getLast?, isBlank e = false := by
          rwa [List.getLast?_cons_of_ne_nil hrest] at h
        refine ih hlast (c :: before) d ?_
        have hsome := List.getLast?_isSome.mpr (lowerAfter_ne_nil hrest (c :: before))
        rwa [List.getLast?_append, Option.or_of_isSome hsome] at hd

end SqlDialects.Proofs.LowerCase
