import SqlDialects.InlineSql
import SqlDialects.Proofs.LiteralCharacters
import SqlDialects.Proofs.Trees

namespace SqlDialects.Proofs.CastTargets

open LiteralCharacters
open Text.Search
open Tokens
open Trees

theorem surplus_append {a b : List Char} {n : Nat} (h : surplus '(' ')' a = some n) :
    surplus '(' ')' (a ++ b) = (surplus '(' ')' b).map (n + ·) := by
  induction a generalizing n with
  | nil =>
      obtain rfl := Option.some.inj h
      simp
  | cons c a ih =>
      rw [surplus] at h
      rw [List.cons_append, surplus]
      by_cases hclosing : c = ')'
      · rw [if_pos hclosing] at h ⊢
        obtain ⟨k, hk, rfl⟩ := Option.map_eq_some_iff.mp h
        rw [ih hk, Option.map_map]
        congr 1
        funext m
        simp only [Function.comp_apply]
        omega
      rw [if_neg hclosing] at h ⊢
      by_cases hopening : c = '('
      · rw [if_pos hopening] at h ⊢
        obtain ⟨k, hk, hpred⟩ := Option.bind_eq_some_iff.mp h
        obtain rfl : n.succ = k := by simpa using Nat.ppred_eq_some.mp hpred
        rw [ih hk]
        cases surplus '(' ')' b with
        | none => rfl
        | some m =>
            have hsum : n.succ + m = (n + m).succ := by omega
            simp [hsum, Nat.ppred]
      · rw [if_neg hopening] at h ⊢
        exact ih h

def isParenthesis (c : Char) : Bool :=
  c = '(' || c = ')'

theorem surplus_of_no_parenthesis {cs : List Char} (h : cs.any isParenthesis = false) :
    surplus '(' ')' cs = some 0 := by
  induction cs with
  | nil => rfl
  | cons c cs ih =>
      simp only [List.any_cons, isParenthesis, Bool.or_eq_false_iff, decide_eq_false_iff_not] at h
      obtain ⟨⟨hopening, hclosing⟩, hcs⟩ := h
      rw [surplus, if_neg hclosing, if_neg hopening, ih hcs]

/-- Replacing takes no parenthesis away and puts none in without its partner. -/
theorem surplus_replaceFrom {old new : List Char} (hne : old ≠ [])
    (hold : old.any isParenthesis = false) (hnew : surplus '(' ')' new = some 0) (skip : Nat)
    (cs : List Char) :
    surplus '(' ')' (replaceFrom old new skip cs) = surplus '(' ')' (cs.drop skip) := by
  induction cs generalizing skip with
  | nil => simp [replaceFrom]
  | cons c cs ih =>
      cases skip with
      | succ skip =>
          rw [replaceFrom, ih, List.drop_succ_cons]
      | zero =>
          rw [replaceFrom, List.drop_zero]
          by_cases hprefix : old.isPrefixOf (c :: cs) = true
          · rw [if_pos hprefix, surplus_append hnew, ih]
            -- What is replaced has no parenthesis, so the text without it has the same surplus.
            obtain ⟨rest, hrest⟩ := List.isPrefixOf_iff_prefix.mp hprefix
            obtain ⟨d, old, rfl⟩ := List.exists_cons_of_ne_nil hne
            obtain ⟨rfl, hcs⟩ := List.cons.inj hrest
            rw [← hrest, surplus_append (surplus_of_no_parenthesis hold), ← hcs]
            simp
          · rw [if_neg hprefix, surplus, surplus, ih, List.drop_zero]

theorem mem_replaceFrom {old new : List Char} {skip : Nat} {cs : List Char} {c : Char}
    (h : c ∈ replaceFrom old new skip cs) : c ∈ new ∨ c ∈ cs := by
  induction cs generalizing skip with
  | nil => simp [replaceFrom] at h
  | cons d cs ih =>
      cases skip with
      | succ skip =>
          rw [replaceFrom] at h
          exact (ih h).imp_right (List.mem_cons_of_mem d)
      | zero =>
          rw [replaceFrom] at h
          split at h
          · rcases List.mem_append.mp h with h | h
            · exact .inl h
            · exact (ih h).imp_right (List.mem_cons_of_mem d)
          · rcases List.mem_cons.mp h with rfl | h
            · exact .inr List.mem_cons_self
            · exact (ih h).imp_right (List.mem_cons_of_mem d)

theorem plain_replace {s new : String} (old : String) (hs : Plain s.toList)
    (hnew : Plain new.toList) (hne : old.toList ≠ [])
    (hold : old.toList.any isParenthesis = false) :
    Plain (replace s old new).toList := by
  rw [Text.Search.replace, String.toList_ofList]
  constructor
  · intro c hc
    rcases mem_replaceFrom hc with hc | hc
    · exact hnew.unquoted c hc
    · exact hs.unquoted c hc
  · rw [surplus_replaceFrom hne hold hnew.balanced, List.drop_zero]
    exact hs.balanced

theorem plain_of_letters {cs : List Char} (h : ∀ c ∈ cs, isLetter c = true) : Plain cs := by
  constructor
  · intro c hc
    exact (not_quote_of_isLetter (h c hc)).1
  · refine surplus_of_no_parenthesis (List.any_eq_false.mpr ?_)
    intro c hc
    have hmark := (not_quote_of_isLetter (h c hc)).2
    simp only [isMark, Bool.or_eq_false_iff] at hmark
    simp [isParenthesis, hmark]

theorem plain_natRepr (n : Nat) : Plain n.repr.toList :=
  plain_of_letters fun _ hc => isLetter_of_isDigit (isDigit_of_mem_natRepr hc)

theorem plain_fill (size : ColumnSize) {template : String} (h : Plain template.toList) :
    Plain (size.fill template).toList := by
  unfold ColumnSize.fill
  have hlength := plain_replace "\x7blen\x7d" h (plain_natRepr size.length) (by decide) (by decide)
  have hprecision := plain_replace "\x7bprecision\x7d" hlength (plain_natRepr size.precision)
    (by decide) (by decide)
  exact plain_replace _ hprecision (plain_natRepr size.fractionDigits) (by decide) (by decide)

theorem plain_castTarget {d : Dialect} (h : ∀ type, Plain (d.castTemplate type).toList)
    {t : InlineTable} {target : String} (htarget : target ∈ d.castTargets t) :
    Plain target.toList := by
  obtain ⟨i, hi, rfl⟩ := List.mem_mapIdx.mp htarget
  exact plain_fill _ (h _)

/-- A target in the place that a wrapper has for it, or by itself where there is no wrapper. -/
def wrapped (wrapper : Option String) (target : String) : String :=
  match wrapper with
  | none => target
  | some wrapper => replace wrapper "\x7btype\x7d" target

theorem nullCastTarget_eq (d : Dialect) (target : String) :
    d.nullCastTarget target = wrapped d.composition.nullCast.value target := by
  unfold Dialect.nullCastTarget wrapped
  cases d.composition.nullCast.value with
  | none => rfl
  | some wrapper => rfl

theorem plain_wrapped {wrapper : Option String} (h : ∀ text ∈ wrapper, Plain text.toList)
    {target : String} (htarget : Plain target.toList) : Plain (wrapped wrapper target).toList := by
  cases wrapper with
  | none => exact htarget
  | some text => exact plain_replace _ (h text rfl) htarget (by decide) (by decide)

end SqlDialects.Proofs.CastTargets
