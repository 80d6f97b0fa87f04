import SqlDialects.InlineSql
import SqlDialects.Proofs.InlineReading

namespace SqlDialects.Proofs.Vocabulary

open InlineReading
open Tokens
open Trees

/-- Whether a token is a word in any letter case. -/
def spells (w : String) : Token → Bool
  | .word cs => cs.map Char.toUpper == w.toList
  | _ => false

/-- None of some words is among the tokens of a text. -/
def Lacks (q : Quotes) (words : List String) (cs : List Char) : Prop :=
  ∃ ts, tokens q cs = some ts ∧ ∀ t ∈ ts, ∀ w ∈ words, spells w t = false

variable {q : Quotes} {words : List String}

theorem Lacks.nil : Lacks q words [] :=
  ⟨[], rfl, by simp⟩

theorem Lacks.of_eq {a b : List Char} (h : Lacks q words b) (heq : a = b) : Lacks q words a := by
  rw [heq]
  exact h

theorem Lacks.mono {more : List String} {cs : List Char} (h : Lacks q more cs)
    (hsub : words ⊆ more) : Lacks q words cs := by
  obtain ⟨ts, htokens, hlacks⟩ := h
  exact ⟨ts, htokens, fun t ht w hw => hlacks t ht w (hsub hw)⟩

theorem Lacks.separated {m : Char} (hm : isMark m = true) {a b : List Char}
    (ha : Lacks q words a) (hb : Lacks q words b) : Lacks q words (a ++ m :: b) := by
  obtain ⟨before, hbefore, has⟩ := ha
  obtain ⟨after, hafter, hbs⟩ := hb
  refine ⟨_, tokens_append hm hbefore hafter, ?_⟩
  rw [List.forall_mem_append, List.forall_mem_cons]
  exact ⟨has, fun w _ => rfl, hbs⟩

theorem Lacks.blank {a b : List Char} (ha : Lacks q words a) (hb : Lacks q words b) :
    Lacks q words (a ++ ' ' :: b) :=
  ha.separated rfl hb

theorem Lacks.group {a inner b : List Char} (ha : Lacks q words a) (hinner : Lacks q words inner)
    (hb : Lacks q words b) : Lacks q words (a ++ '(' :: (inner ++ ')' :: b)) :=
  ha.separated rfl (hinner.separated rfl hb)

theorem Lacks.word {cs : List Char} (h : isWordText cs = true)
    (hother : ∀ w ∈ words, (cs.map Char.toUpper == w.toList) = false) : Lacks q words cs := by
  refine ⟨_, tokens_word h, ?_⟩
  rw [List.forall_mem_singleton]
  exact hother

theorem Lacks.identifier (name : String) : Lacks q words (q.style.quote name).toList := by
  rw [QuoteStyle.quote, String.toList_ofList]
  refine ⟨_, tokens_identifier name.toList, ?_⟩
  rw [List.forall_mem_singleton]
  intro w _
  rfl

/-- Whether a text has no quotes and none of some words. -/
def lacksAll (words : List String) (s : String) : Bool :=
  s.toList.all (fun c => !isQuote c) &&
    (plainTokens s.toList).all fun t => words.all fun w => !spells w t

theorem lacks_of_lacksAll {s : String} (h : lacksAll words s = true) :
    Lacks q words s.toList := by
  simp only [lacksAll, Bool.and_eq_true, List.all_eq_true, Bool.not_eq_true'] at h
  exact ⟨_, tokens_of_plain h.1, h.2⟩

theorem lacks_listed {items : List String} (h : ∀ item ∈ items, Lacks q words item.toList) :
    Lacks q words (Dialect.listed items).toList := by
  induction items with
  | nil => exact .nil
  | cons item items ih =>
      obtain ⟨hitem, hitems⟩ := List.forall_mem_cons.mp h
      rcases items with _ | ⟨next, items⟩
      · apply hitem.of_eq
        simp [Dialect.listed]
      · have hlist := hitem.separated (m := ',') rfl (Lacks.nil.blank (ih hitems))
        apply hlist.of_eq
        simp [Dialect.listed, String.intercalate_cons_cons]

theorem leaf_of_attach {u t : Token} {frames nested : List (List Tree)}
    (h : attach u frames = some nested) {trees : List Tree} (htrees : trees ∈ nested)
    (ht : .leaf t ∈ trees) : t = u ∨ ∃ before ∈ frames, .leaf t ∈ before := by
  unfold attach at h
  split at h
  · obtain rfl := Option.some.inj h
    rcases List.mem_cons.mp htrees with rfl | htrees
    · simp at ht
    · exact .inr ⟨trees, htrees, ht⟩
  split at h
  · split at h
    · rename_i inner outer more
      obtain rfl := Option.some.inj h
      rcases List.mem_cons.mp htrees with rfl | htrees
      · have houter : .leaf t ∈ outer := by simpa using ht
        exact .inr ⟨outer, by simp, houter⟩
      · exact .inr ⟨trees, by simp [htrees], ht⟩
    · simp at h
  · split at h
    · rename_i top more
      obtain rfl := Option.some.inj h
      rcases List.mem_cons.mp htrees with rfl | htrees
      · rcases List.mem_cons.mp ht with hleaf | htop
        · obtain rfl := Tree.leaf.inj hleaf
          exact .inl rfl
        · exact .inr ⟨top, List.mem_cons_self, htop⟩
      · exact .inr ⟨trees, List.mem_cons_of_mem _ htrees, ht⟩
    · simp at h

theorem mem_of_nestOnto {ts : List Token} {frames nested : List (List Tree)}
    (h : nestOnto ts frames = some nested) {trees : List Tree} (htrees : trees ∈ nested)
    {t : Token} (ht : .leaf t ∈ trees) : t ∈ ts ∨ ∃ before ∈ frames, .leaf t ∈ before := by
  induction ts generalizing nested trees with
  | nil =>
      obtain rfl := Option.some.inj h
      exact .inr ⟨trees, htrees, ht⟩
  | cons u ts ih =>
      rw [nestOnto_cons] at h
      obtain ⟨middle, hmiddle, hattach⟩ := Option.bind_eq_some_iff.mp h
      rcases leaf_of_attach hattach htrees ht with rfl | ⟨before, hbefore, hleaf⟩
      · exact .inl List.mem_cons_self
      · exact (ih hmiddle hbefore hleaf).imp_left (List.mem_cons_of_mem u)

theorem mem_of_nests {ts : List Token} {trees : List Tree} (h : Nests ts trees) {t : Token}
    (ht : .leaf t ∈ trees) : t ∈ ts := by
  have hnested : nestOnto ts [[]] = some [trees] := by
    rw [h [] [], List.append_nil]
  rcases mem_of_nestOnto hnested List.mem_cons_self ht with hmem | ⟨before, hbefore, hleaf⟩
  · exact hmem
  · obtain rfl := List.mem_singleton.mp hbefore
    simp at hleaf

theorem spells_of_isWord {w : String} (hw : w.toList.map Char.toUpper = w.toList) {tree : Tree}
    (h : Tree.isWord w tree = true) : ∃ t, tree = .leaf t ∧ spells w t = true := by
  unfold Tree.isWord at h
  split at h
  · rename_i cs
    obtain rfl : cs = w.toList := by simpa using h
    exact ⟨_, rfl, by simp [spells, hw]⟩
  · simp at h

theorem Lacks.isWord_eq_false {cs : List Char} (h : Lacks q words cs) {trees : List Tree}
    (hreads : ReadsAs q cs trees) {w : String} (hw : w ∈ words)
    (hupper : w.toList.map Char.toUpper = w.toList) :
    ∀ tree ∈ trees, Tree.isWord w tree = false := by
  obtain ⟨ts, htokens, hlacks⟩ := h
  obtain ⟨all, ⟨others, hothers, hnests⟩, rfl⟩ := hreads
  obtain rfl : others = ts := Option.some.inj (hothers.symm.trans htokens)
  intro tree hmem
  by_contra hword
  obtain ⟨t, rfl, hspells⟩ := spells_of_isWord hupper (Bool.not_eq_false _ ▸ hword)
  have ht := mem_of_nests hnests (List.mem_of_mem_filter hmem)
  rw [hlacks t ht w hw] at hspells
  simp at hspells

end SqlDialects.Proofs.Vocabulary
