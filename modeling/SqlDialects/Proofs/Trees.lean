import Mathlib.Data.Nat.PSub
import SqlDialects.Proofs.Tokens

/-!
What stands in parentheses. The tokens of a statement are nested from the last to the first, with
one list of trees for every parenthesis that has been closed and not yet opened.
-/

namespace SqlDialects.Proofs.Trees

open Tokens

inductive Tree where
  | leaf (t : Token)
  /-- What stands between an opening parenthesis and the one that closes it. -/
  | group (inner : List Tree)

def Tree.isWord (w : String) : Tree → Bool
  | .leaf (.word cs) => cs = w.toList
  | _ => false

def Tree.isMark (c : Char) : Tree → Bool
  | .leaf (.mark d) => d = c
  | _ => false

mutual

def Tree.text (q : Quotes) : Tree → List Char
  | .leaf t => t.text q
  | .group inner => '(' :: text q inner ++ [')']

/-- The form in which trees are written one after another. -/
def text (q : Quotes) : List Tree → List Char
  | [] => []
  | tree :: trees => tree.text q ++ text q trees

end

/-- Puts a token in front of what has been nested. -/
def attach (t : Token) (frames : List (List Tree)) : Option (List (List Tree)) :=
  if t = .mark ')' then some ([] :: frames)
  else if t = .mark '(' then
    match frames with
    | inner :: outer :: more => some ((.group inner :: outer) :: more)
    | _ => none
  else
    match frames with
    | top :: more => some ((.leaf t :: top) :: more)
    | [] => none

/-- Nests tokens in front of what has been nested. -/
def nestOnto (ts : List Token) (frames : List (List Tree)) : Option (List (List Tree)) :=
  ts.foldr (fun t nested => nested.bind (attach t)) (some frames)

/-- The trees of a text; there are none if a parenthesis has no partner. -/
def trees? (q : Quotes) (cs : List Char) : Option (List Tree) :=
  (tokens q cs).bind fun ts =>
    match nestOnto ts [[]] with
    | some [trees] => some trees
    | _ => none

/-- Tokens that nest to some trees whatever follows them. -/
def Nests (ts : List Token) (trees : List Tree) : Prop :=
  ∀ top more, nestOnto ts (top :: more) = some ((trees ++ top) :: more)

theorem nestOnto_cons (t : Token) (ts : List Token) (frames : List (List Tree)) :
    nestOnto (t :: ts) frames = (nestOnto ts frames).bind (attach t) := rfl

theorem nestOnto_append {a b : List Token} {frames middle : List (List Tree)}
    (hb : nestOnto b frames = some middle) : nestOnto (a ++ b) frames = nestOnto a middle := by
  rw [nestOnto, List.foldr_append]
  change List.foldr _ (nestOnto b frames) a = _
  rw [hb]
  rfl

theorem Nests.nil : Nests [] [] := fun _ _ => rfl

theorem Nests.append {a b : List Token} {as bs : List Tree} (ha : Nests a as) (hb : Nests b bs) :
    Nests (a ++ b) (as ++ bs) := by
  intro top more
  rw [nestOnto_append (hb top more), ha, List.append_assoc]

theorem Nests.leaf {t : Token} (hopening : t ≠ .mark '(') (hclosing : t ≠ .mark ')') :
    Nests [t] [.leaf t] := by
  intro top more
  simp [nestOnto, attach, hopening, hclosing]

theorem Nests.group {a : List Token} {as : List Tree} (ha : Nests a as) :
    Nests (.mark '(' :: a ++ [.mark ')']) [.group as] := by
  intro top more
  have hclosing : nestOnto [.mark ')'] (top :: more) = some ([] :: top :: more) := rfl
  rw [List.cons_append, nestOnto_cons, nestOnto_append hclosing, ha]
  simp [attach]

/-- A text whose trees do not depend on what follows it. -/
def Reads (q : Quotes) (cs : List Char) (trees : List Tree) : Prop :=
  ∃ ts, tokens q cs = some ts ∧ Nests ts trees

variable {q : Quotes}

theorem Reads.trees? {cs : List Char} {trees : List Tree} (h : Reads q cs trees) :
    trees? q cs = some trees := by
  obtain ⟨ts, htokens, hnests⟩ := h
  rw [Trees.trees?, htokens, Option.bind_some, hnests [] []]
  simp

theorem Reads.of_eq {a b : List Char} {trees : List Tree} (h : Reads q b trees) (heq : a = b) :
    Reads q a trees := by
  rw [heq]
  exact h

theorem Reads.nil : Reads q [] [] :=
  ⟨[], rfl, .nil⟩

theorem Reads.of_token {cs : List Char} {t : Token} (h : tokens q cs = some [t])
    (hmark : ∀ c, t ≠ .mark c) : Reads q cs [.leaf t] :=
  ⟨[t], h, .leaf (hmark '(') (hmark ')')⟩

theorem Reads.word {w : List Char} (h : isWordText w = true) : Reads q w [.leaf (.word w)] :=
  .of_token (tokens_word h) (by simp)

theorem Reads.identifier (name : List Char) :
    Reads q (q.style.quoteChars name) [.leaf (.identifier name)] :=
  .of_token (tokens_identifier name) (by simp)

theorem Reads.separated {m : Char} (hm : m = ' ' ∨ m = ',') {a b : List Char}
    {as bs : List Tree} (ha : Reads q a as) (hb : Reads q b bs) :
    Reads q (a ++ m :: b) (as ++ .leaf (.mark m) :: bs) := by
  obtain ⟨before, hbefore, has⟩ := ha
  obtain ⟨after, hafter, hbs⟩ := hb
  have hmark : isMark m = true := by
    rcases hm with rfl | rfl <;> rfl
  have hleaf : Nests [.mark m] [.leaf (.mark m)] := by
    rcases hm with rfl | rfl
    · exact .leaf (by decide) (by decide)
    · exact .leaf (by decide) (by decide)
  exact ⟨_, tokens_append hmark hbefore hafter, has.append (hleaf.append hbs)⟩

theorem Reads.blank {a b : List Char} {as bs : List Tree} (ha : Reads q a as)
    (hb : Reads q b bs) : Reads q (a ++ ' ' :: b) (as ++ .leaf (.mark ' ') :: bs) :=
  ha.separated (.inl rfl) hb

theorem Reads.comma {a b : List Char} {as bs : List Tree} (ha : Reads q a as)
    (hb : Reads q b bs) : Reads q (a ++ ',' :: b) (as ++ .leaf (.mark ',') :: bs) :=
  ha.separated (.inr rfl) hb

theorem Reads.group {a inner b : List Char} {as is bs : List Tree} (ha : Reads q a as)
    (hinner : Reads q inner is) (hb : Reads q b bs) :
    Reads q (a ++ '(' :: (inner ++ ')' :: b)) (as ++ .group is :: bs) := by
  obtain ⟨before, hbefore, has⟩ := ha
  obtain ⟨within, hwithin, his⟩ := hinner
  obtain ⟨after, hafter, hbs⟩ := hb
  refine ⟨_, tokens_append rfl hbefore (tokens_append rfl hwithin hafter), ?_⟩
  have h := has.append (his.group.append hbs)
  simpa using h

theorem text_append (as bs : List Tree) : text q (as ++ bs) = text q as ++ text q bs := by
  induction as with
  | nil => rfl
  | cons tree as ih => rw [List.cons_append, text, text, ih, List.append_assoc]

/-- The form in which lists of trees are written that stand between closing parentheses. -/
def framesText (q : Quotes) : List (List Tree) → List Char
  | [] => []
  | [trees] => text q trees
  | trees :: more => text q trees ++ ')' :: framesText q more

theorem framesText_cons {trees : List Tree} {more : List (List Tree)} (hmore : more ≠ []) :
    framesText q (trees :: more) = text q trees ++ ')' :: framesText q more := by
  rcases more with _ | ⟨next, more⟩
  · exact absurd rfl hmore
  · rfl

theorem framesText_cons_append (front back : List Tree) (more : List (List Tree)) :
    framesText q ((front ++ back) :: more) = text q front ++ framesText q (back :: more) := by
  rcases more with _ | ⟨next, more⟩
  · exact text_append front back
  · have hne : next :: more ≠ [] := by simp
    rw [framesText_cons hne, framesText_cons hne, text_append, List.append_assoc]

theorem framesText_attach {t : Token} {frames nested : List (List Tree)} (hne : frames ≠ [])
    (h : attach t frames = some nested) :
    nested ≠ [] ∧ framesText q nested = t.text q ++ framesText q frames := by
  unfold attach at h
  split at h
  · rename_i hclosing
    obtain rfl := Option.some.inj h
    rw [hclosing, framesText_cons hne]
    exact ⟨by simp, rfl⟩
  split at h
  · rename_i hopening
    split at h
    · obtain rfl := Option.some.inj h
      rename_i inner outer more
      refine ⟨by simp, ?_⟩
      rw [hopening, framesText_cons (by simp : outer :: more ≠ [])]
      have hgroup := framesText_cons_append (q := q) [.group inner] outer more
      simpa [text, Tree.text, Token.text] using hgroup
    · simp at h
  · split at h
    · obtain rfl := Option.some.inj h
      rename_i top more
      refine ⟨by simp, ?_⟩
      have hleaf := framesText_cons_append (q := q) [.leaf t] top more
      simpa [text, Tree.text] using hleaf
    · simp at h

theorem framesText_nestOnto {ts : List Token} {frames nested : List (List Tree)}
    (hne : frames ≠ []) (h : nestOnto ts frames = some nested) :
    nested ≠ [] ∧ framesText q nested = ts.flatMap (·.text q) ++ framesText q frames := by
  induction ts generalizing nested with
  | nil =>
      obtain rfl := Option.some.inj h
      exact ⟨hne, rfl⟩
  | cons t ts ih =>
      rw [nestOnto_cons] at h
      obtain ⟨middle, hmiddle, hattach⟩ := Option.bind_eq_some_iff.mp h
      obtain ⟨hmiddleNe, hmiddleText⟩ := ih hmiddle
      obtain ⟨hnested, htext⟩ := framesText_attach (q := q) hmiddleNe hattach
      refine ⟨hnested, ?_⟩
      rw [htext, hmiddleText, List.flatMap_cons, List.append_assoc]

/-- Nesting loses nothing of what is written. -/
theorem Nests.text_eq {ts : List Token} {trees : List Tree} (h : Nests ts trees) :
    text q trees = ts.flatMap (·.text q) := by
  obtain ⟨-, htext⟩ := framesText_nestOnto (q := q) (by simp) (h [] [])
  simpa [framesText, text] using htext

/-- How many closing parentheses of a text have no partner. There is no answer if an opening one has
none. -/
def surplus {α : Type} [DecidableEq α] (opening closing : α) : List α → Option Nat
  | [] => some 0
  | a :: rest =>
      if a = closing then (surplus opening closing rest).map (· + 1)
      else if a = opening then (surplus opening closing rest).bind Nat.ppred
      else surplus opening closing rest

/-- Tokens that nest to some trees before their closing parentheses without a partner, and to `last`
after them. -/
def NestsInto (ts : List Token) (front : List (List Tree)) (last : List Tree) : Prop :=
  ∀ top more, nestOnto ts (top :: more) = some (front ++ (last ++ top) :: more)

theorem NestsInto.closing {ts : List Token} {front : List (List Tree)} {last : List Tree}
    (h : NestsInto ts front last) : NestsInto (.mark ')' :: ts) ([] :: front) last := by
  intro top more
  simp [nestOnto_cons, h top more, attach]

theorem NestsInto.opening {ts : List Token} {inner : List Tree} {front : List (List Tree)}
    {last : List Tree} (h : NestsInto ts (inner :: front) last) :
    ∃ front' last', front'.length = front.length ∧ NestsInto (.mark '(' :: ts) front' last' := by
  rcases front with _ | ⟨outer, front⟩
  · refine ⟨[], .group inner :: last, rfl, ?_⟩
    intro top more
    simp [nestOnto_cons, h top more, attach]
  · refine ⟨(.group inner :: outer) :: front, last, rfl, ?_⟩
    intro top more
    simp [nestOnto_cons, h top more, attach]

theorem NestsInto.leaf {t : Token} (hopening : t ≠ .mark '(') (hclosing : t ≠ .mark ')')
    {ts : List Token} {front : List (List Tree)} {last : List Tree} (h : NestsInto ts front last) :
    ∃ front' last', front'.length = front.length ∧ NestsInto (t :: ts) front' last' := by
  rcases front with _ | ⟨inner, front⟩
  · refine ⟨[], .leaf t :: last, rfl, ?_⟩
    intro top more
    simp [nestOnto_cons, h top more, attach, hopening, hclosing]
  · refine ⟨(.leaf t :: inner) :: front, last, rfl, ?_⟩
    intro top more
    simp [nestOnto_cons, h top more, attach, hopening, hclosing]

theorem exists_nestsInto {ts : List Token} {n : Nat}
    (h : surplus (.mark '(') (.mark ')') ts = some n) :
    ∃ front last, front.length = n ∧ NestsInto ts front last := by
  induction ts generalizing n with
  | nil =>
      obtain rfl := Option.some.inj h
      exact ⟨[], [], rfl, fun _ _ => rfl⟩
  | cons t ts ih =>
      rw [surplus] at h
      -- Seen from the end, a closing parenthesis begins a group and an opening one completes it.
      by_cases hclosing : t = .mark ')'
      · rw [if_pos hclosing] at h
        obtain ⟨k, hk, rfl⟩ := Option.map_eq_some_iff.mp h
        obtain ⟨front, last, hlength, hnests⟩ := ih hk
        subst hclosing
        exact ⟨[] :: front, last, by simp [hlength], hnests.closing⟩
      rw [if_neg hclosing] at h
      by_cases hopening : t = .mark '('
      · rw [if_pos hopening] at h
        obtain ⟨k, hk, hpred⟩ := Option.bind_eq_some_iff.mp h
        obtain rfl : n.succ = k := by simpa using Nat.ppred_eq_some.mp hpred
        obtain ⟨front, last, hlength, hnests⟩ := ih hk
        obtain ⟨inner, front, rfl⟩ := List.exists_cons_of_length_eq_add_one hlength
        subst hopening
        obtain ⟨front', last', hlength', hnests'⟩ := hnests.opening
        exact ⟨front', last', by simpa [hlength'] using hlength, hnests'⟩
      · rw [if_neg hopening] at h
        obtain ⟨front, last, hlength, hnests⟩ := ih h
        obtain ⟨front', last', hlength', hnests'⟩ := hnests.leaf hopening hclosing
        exact ⟨front', last', by rw [hlength', hlength], hnests'⟩

theorem surplus_extend {c : Char} {ts : List Token} :
    surplus (.mark '(') (.mark ')') (extend c ts) = surplus (.mark '(') (.mark ')') ts := by
  rcases ts with _ | ⟨t, ts⟩
  · rfl
  · cases t with
    | word cs => rfl
    | mark c => rfl
    | literal written => rfl
    | identifier name => rfl

theorem surplus_plainTokens (cs : List Char) :
    surplus (.mark '(') (.mark ')') (plainTokens cs) = surplus '(' ')' cs := by
  induction cs with
  | nil => rfl
  | cons c cs ih =>
      rw [plainTokens]
      by_cases hmark : isMark c = true
      · rw [if_pos hmark, surplus, surplus, ih]
        simp
      · rw [if_neg hmark, surplus_extend, ih, surplus]
        have hclosing : c ≠ ')' := by
          rintro rfl
          exact hmark rfl
        have hopening : c ≠ '(' := by
          rintro rfl
          exact hmark rfl
        rw [if_neg hclosing, if_neg hopening]

/-- A text without quotes in which every parenthesis has a partner. -/
structure Plain (cs : List Char) : Prop where
  unquoted : ∀ c ∈ cs, isQuote c = false
  balanced : surplus '(' ')' cs = some 0

theorem Plain.reads {cs : List Char} (h : Plain cs) :
    ∃ trees, nestOnto (plainTokens cs) [[]] = some [trees] ∧ Reads q cs trees ∧
      text q trees = cs := by
  obtain ⟨front, trees, hlength, hnests⟩ :=
    exists_nestsInto ((surplus_plainTokens cs).trans h.balanced)
  obtain rfl := List.eq_nil_of_length_eq_zero hlength
  have hnests : Nests (plainTokens cs) trees := hnests
  refine ⟨trees, ?_, ⟨_, tokens_of_plain h.unquoted, hnests⟩, ?_⟩
  · simpa using hnests [] []
  · rw [hnests.text_eq, flatMap_text_plainTokens]

end SqlDialects.Proofs.Trees
