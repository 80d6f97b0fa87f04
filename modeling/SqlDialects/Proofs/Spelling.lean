import Mathlib.Data.List.TakeWhile
import SqlDialects.Text.Blank
import SqlDialects.Text.LetterCase

namespace SqlDialects.Proofs.Spelling

open Text (isBlank skipBlanks trimChars)
open Text.LetterCase (isCased isCaseIgnorable lowerAfter lowerChar lowerChars startsCased)

variable {core before after : List Char}

theorem apply_toLower {α : Type} (f : Char → α)
    (h : ∀ n < 128, f (Char.ofNat n).toLower = f (Char.ofNat n)) (c : Char) :
    f c.toLower = f c := by
  by_cases hascii : c.toNat < 128
  · have hc := h c.toNat hascii
    rwa [Char.ofNat_toNat] at hc
  · have hupper : ¬ (c ≥ 'A' ∧ c ≤ 'Z') := by
      rintro ⟨-, hZ⟩
      have hcode : c.toNat ≤ 90 := hZ
      omega
    have hself : c.toLower = c := dif_neg hupper
    rw [hself]

theorem isBlank_toLower (c : Char) : isBlank c.toLower = isBlank c :=
  apply_toLower isBlank (by decide +kernel) c

theorem isCased_toLower (c : Char) : isCased c.toLower = isCased c :=
  apply_toLower isCased (by decide +kernel) c

theorem isCaseIgnorable_toLower (c : Char) : isCaseIgnorable c.toLower = isCaseIgnorable c :=
  apply_toLower isCaseIgnorable (by decide +kernel) c

theorem lowerChar_toLower (c : Char) : lowerChar c.toLower = lowerChar c :=
  apply_toLower lowerChar (by decide +kernel) c

theorem toLower_eq_sigma_iff (c : Char) : c.toLower = 'Σ' ↔ c = 'Σ' := by
  have h : decide (c.toLower = 'Σ') = decide (c = 'Σ') :=
    apply_toLower (fun c => decide (c = 'Σ')) (by decide +kernel) c
  exact decide_eq_decide.mp h

theorem startsCased_map_toLower (cs : List Char) :
    startsCased (cs.map Char.toLower) = startsCased cs := by
  have hpred : isCaseIgnorable ∘ Char.toLower = isCaseIgnorable :=
    funext isCaseIgnorable_toLower
  rw [startsCased, startsCased, List.dropWhile_map, hpred]
  cases cs.dropWhile isCaseIgnorable with
  | nil => rfl
  | cons c rest => exact isCased_toLower c

theorem lowerAfter_map_toLower (before cs : List Char) :
    lowerAfter (before.map Char.toLower) (cs.map Char.toLower) = lowerAfter before cs := by
  induction cs generalizing before with
  | nil => rfl
  | cons c rest ih =>
      -- A sigma looks back at the text before it, so that text is lower-cased along with it.
      have hrest := ih (c :: before)
      rw [List.map_cons] at hrest
      simp only [List.map_cons, lowerAfter, toLower_eq_sigma_iff, lowerChar_toLower,
        startsCased_map_toLower, hrest]

theorem lowerChars_map_toLower (cs : List Char) :
    lowerChars (cs.map Char.toLower) = lowerChars cs :=
  lowerAfter_map_toLower [] cs

theorem skipBlanks_map_toLower (cs : List Char) :
    skipBlanks (cs.map Char.toLower) = (skipBlanks cs).map Char.toLower := by
  have hpred : isBlank ∘ Char.toLower = isBlank :=
    funext isBlank_toLower
  rw [skipBlanks, skipBlanks, List.dropWhile_map, hpred]

theorem trimChars_map_toLower (cs : List Char) :
    trimChars (cs.map Char.toLower) = (trimChars cs).map Char.toLower := by
  simp only [trimChars, skipBlanks_map_toLower, ← List.map_reverse]

theorem skipBlanks_append (h : ∀ c ∈ before, isBlank c = true) (cs : List Char) :
    skipBlanks (before ++ cs) = skipBlanks cs :=
  List.dropWhile_append_of_pos h

theorem trimChars_append_blanks (h : ∀ c ∈ after, isBlank c = true) (cs : List Char) :
    trimChars (cs ++ after) = trimChars cs := by
  have hafter : skipBlanks after = [] := by
    have hskip := skipBlanks_append h []
    rwa [List.append_nil] at hskip
  have hreverse : ∀ c ∈ after.reverse, isBlank c = true := by
    intro c hc
    exact h c (List.mem_reverse.mp hc)
  have hskip : skipBlanks (cs ++ after) =
      if (skipBlanks cs).isEmpty then skipBlanks after else skipBlanks cs ++ after :=
    List.dropWhile_append
  rw [trimChars, trimChars, hskip]
  split
  · rename_i hempty
    rw [hafter, List.isEmpty_iff.mp hempty]
  · rw [List.reverse_append, skipBlanks_append hreverse]

theorem skipBlanks_eq_self_iff {cs : List Char} :
    skipBlanks cs = cs ↔ ∀ c ∈ cs.head?, isBlank c = false := by
  cases cs with
  | nil => simp [skipBlanks]
  | cons c rest =>
      cases hblank : isBlank c with
      | false => simp [skipBlanks, hblank]
      | true =>
          have hlength : (skipBlanks (c :: rest)).length ≤ rest.length := by
            simpa [skipBlanks, hblank] using (List.dropWhile_sublist isBlank (l := rest)).length_le
          simp only [List.head?_cons, Option.mem_some_iff, forall_eq', hblank, reduceCtorEq,
            iff_false]
          intro hsame
          rw [hsame, List.length_cons] at hlength
          omega

theorem isBlank_head_skipBlanks (cs : List Char) :
    ∀ c ∈ (skipBlanks cs).head?, isBlank c = false := by
  intro c hc
  have hhead := List.head?_dropWhile_not isBlank cs
  rw [← skipBlanks, Option.mem_def.mp hc] at hhead
  exact hhead

theorem skipBlanks_skipBlanks (cs : List Char) : skipBlanks (skipBlanks cs) = skipBlanks cs :=
  skipBlanks_eq_self_iff.mpr (isBlank_head_skipBlanks cs)

theorem trimChars_eq_self_iff {cs : List Char} :
    trimChars cs = cs ↔
      (∀ c ∈ cs.head?, isBlank c = false) ∧ ∀ c ∈ cs.getLast?, isBlank c = false := by
  rw [← skipBlanks_eq_self_iff, ← List.head?_reverse, ← skipBlanks_eq_self_iff]
  constructor
  · intro h
    have houter := (List.dropWhile_sublist isBlank (l := (skipBlanks cs).reverse)).length_le
    have hinner : (skipBlanks cs).Sublist cs := List.dropWhile_sublist isBlank
    have hlength := congrArg List.length h
    simp only [trimChars, List.length_reverse] at hlength
    simp only [List.length_reverse] at houter
    -- Nothing was cut at the start, or the text would have become shorter.
    have hstart : skipBlanks cs = cs := by
      refine hinner.eq_of_length_le ?_
      rw [← hlength]
      exact houter
    refine ⟨hstart, ?_⟩
    rw [trimChars, hstart] at h
    rw [← List.reverse_inj, h, List.reverse_reverse]
  · rintro ⟨hstart, hfinish⟩
    rw [trimChars, hstart, hfinish, List.reverse_reverse]

/-- A text with white space before and after it. -/
def Padded (core text : List Char) : Prop :=
  ∃ before after, (∀ c ∈ before, isBlank c = true) ∧ (∀ c ∈ after, isBlank c = true) ∧
    text = before ++ core ++ after

theorem padded_skipBlanks (cs : List Char) :
    ∃ before, (∀ c ∈ before, isBlank c = true) ∧ cs = before ++ skipBlanks cs :=
  ⟨cs.takeWhile isBlank, fun _ hc => List.mem_takeWhile_imp hc,
    List.takeWhile_append_dropWhile.symm⟩

theorem padded_trimChars (cs : List Char) : Padded (trimChars cs) cs := by
  obtain ⟨before, hbefore, hcs⟩ := padded_skipBlanks cs
  obtain ⟨after, hafter, hreverse⟩ := padded_skipBlanks (skipBlanks cs).reverse
  refine ⟨before, after.reverse, hbefore, ?_, ?_⟩
  · intro c hc
    exact hafter c (List.mem_reverse.mp hc)
  · rw [trimChars, List.append_assoc, ← List.reverse_append, ← hreverse, List.reverse_reverse]
    exact hcs

theorem length_trimChars_le (cs : List Char) : (trimChars cs).length ≤ cs.length := by
  obtain ⟨before, after, -, -, hcs⟩ := padded_trimChars cs
  have hlength := congrArg List.length hcs
  simp only [List.length_append] at hlength
  omega

/-- Strings that differ in the case of ASCII letters and in the white space at their ends. -/
def Respelled (a b : String) : Prop :=
  ∃ core other, Padded core a.toList ∧ Padded other b.toList ∧
    core.map Char.toLower = other.map Char.toLower

theorem Padded.trimChars_eq {text : List Char} (h : Padded core text) :
    trimChars text = trimChars core := by
  obtain ⟨before, after, hbefore, hafter, rfl⟩ := h
  rw [trimChars_append_blanks hafter, trimChars, skipBlanks_append hbefore, trimChars]

theorem Respelled.lowerChars_eq {a b : String} (h : Respelled a b) :
    lowerChars (trimChars a.toList) = lowerChars (trimChars b.toList) := by
  obtain ⟨core, other, hcore, hother, hsame⟩ := h
  rw [hcore.trimChars_eq, hother.trimChars_eq, ← lowerChars_map_toLower, ← trimChars_map_toLower,
    hsame, trimChars_map_toLower, lowerChars_map_toLower]

end SqlDialects.Proofs.Spelling
