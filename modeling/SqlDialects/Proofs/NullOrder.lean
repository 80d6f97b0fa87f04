import Mathlib.Data.List.Induction
import Mathlib.Data.List.Perm.Basic
import SqlDialects.Dialect

/-!
The order that an item of ORDER BY asks for. An engine without words for the place of NULLs gets a
key in front that tells NULL from the values, and sorts by both as the standard words say, whatever
place it has for NULLs by itself. An item is read in one way only, whatever its expression.
-/

namespace SqlDialects.Proofs.NullOrder

/-- What a key sorts by: an expression, or a number that is 1 where it is NULL and 0 elsewhere. -/
inductive Operand where
  | value
  /-- `ISNULL(e)`. -/
  | isNull
  /-- `CASE WHEN e IS NULL THEN 1 ELSE 0 END`. -/
  | caseNull
deriving DecidableEq

/-- Where NULLs stand among the values. -/
inductive Place where
  | first
  | last
deriving DecidableEq

def Place.ofLast (nullsLast : Bool) : Place :=
  if nullsLast then last else first

/-- A key of ORDER BY. Where it names no place for NULLs, the engine decides. -/
structure Key where
  operand : Operand
  ascending : Bool
  nulls : Option Place
deriving DecidableEq

def Operand.front : Operand → String
  | value => ""
  | isNull => "ISNULL("
  | caseNull => "CASE WHEN "

def Operand.back : Operand → String
  | value => ""
  | isNull => ")"
  | caseNull => " IS NULL THEN 1 ELSE 0 END"

/-- The words behind an operand. -/
def orderWords (ascending : Bool) (nulls : Option Place) : String :=
  (if ascending then " ASC" else " DESC") ++
    match nulls with
    | none => ""
    | some .first => " NULLS FIRST"
    | some .last => " NULLS LAST"

def Key.text (expr : String) (k : Key) : String :=
  k.operand.front ++ expr ++ k.operand.back ++ orderWords k.ascending k.nulls

/-- Keys with commas between them. -/
def itemText (expr : String) (keys : List Key) : String :=
  ", ".intercalate (keys.map (·.text expr))

/-- An operand with the characters of its expression. -/
def Operand.chars (expr : String) (o : Operand) : List Char :=
  o.front.toList ++ (expr.toList ++ o.back.toList)

theorem toList_text (expr : String) (k : Key) :
    (k.text expr).toList =
      k.operand.chars expr ++ (orderWords k.ascending k.nulls).toList := by
  simp [Key.text, Operand.chars]

theorem mem_places (nulls : Option Place) : nulls ∈ [none, some .first, some .last] := by
  rcases nulls with _ | _ | _
  · decide
  · decide
  · decide

theorem eq_of_orderWords_suffix {ascending other : Bool} {nulls places : Option Place}
    (h : (orderWords ascending nulls).toList <:+ (orderWords other places).toList) :
    ascending = other ∧ nulls = places := by
  have hall : ∀ ascending other, ∀ nulls ∈ [none, some Place.first, some .last],
      ∀ places ∈ [none, some Place.first, some .last],
        (orderWords ascending nulls).toList <:+ (orderWords other places).toList →
          ascending = other ∧ nulls = places := by
    decide +kernel
  exact hall ascending other nulls (mem_places nulls) places (mem_places places) h

variable {expr : String} {before other : List Char}

/-- What stands before a key: nothing, or keys with a comma behind them. -/
def Leads (before : List Char) : Prop :=
  before = [] ∨ [',', ' '] <:+ before

theorem framed_of_ne_value {o : Operand} (h : o ≠ .value) :
    o.front.toList ≠ [] ∧ o.back.toList ≠ [] ∧ ',' ∉ o.front.toList ++ o.back.toList := by
  cases o with
  | value => exact absurd rfl h
  | isNull => decide
  | caseNull => decide

theorem eq_of_back_suffix {o p : Operand} (ho : o ≠ .value) (hp : p ≠ .value)
    (h : o.back.toList <:+ p.back.toList) : o = p := by
  revert ho hp h
  cases o <;> cases p <;> decide

/-- An expression by itself cannot stand where one stands in a frame: the frame would have to hold
the end of what is before the expression, and there is a comma. -/
theorem append_ne_framed {o : Operand} (hbefore : Leads before) (ho : o ≠ .value) :
    before ++ Operand.chars expr .value ≠ other ++ o.chars expr := by
  obtain ⟨hfront, hback, hcomma⟩ := framed_of_ne_value ho
  have hfront := List.length_pos_iff.mpr hfront
  have hback := List.length_pos_iff.mpr hback
  intro h
  have hvalue : Operand.chars expr .value = expr.toList := by
    simp [Operand.chars, Operand.front, Operand.back]
  rw [hvalue, Operand.chars] at h
  have hlengths := congrArg List.length h
  simp only [List.length_append] at hlengths
  have hbefore : [',', ' '] <:+ before := by
    refine hbefore.resolve_left ?_
    rintro rfl
    rw [List.length_nil] at hlengths
    omega
  -- What is before the expression reaches into the frame, up to as many characters as are behind.
  obtain ⟨reach, hreach, hsame⟩ : ∃ reach, before = other ++ o.front.toList ++ reach ∧
      reach ++ expr.toList = expr.toList ++ o.back.toList := by
    rw [← List.append_assoc] at h
    rcases List.append_eq_append_iff.mp h with ⟨reach, -, hshort⟩ | ⟨reach, hreach, hsame⟩
    · have hshort := congrArg List.length hshort
      simp only [List.length_append] at hshort
      omega
    · exact ⟨reach, hreach, hsame.symm⟩
  have hperm : reach.Perm o.back.toList := by
    refine (List.perm_append_right_iff expr.toList).mp ?_
    rw [hsame]
    exact List.perm_append_comm
  have hsuffix : [',', ' '] <:+ o.front.toList ++ reach := by
    refine List.suffix_of_suffix_length_le hbefore ⟨other, ?_⟩ ?_
    · rw [hreach, List.append_assoc]
    · rw [List.length_append, hperm.length_eq]
      exact Nat.add_le_add hfront hback
  have hmem : ',' ∈ o.front.toList ++ reach := hsuffix.subset List.mem_cons_self
  exact hcomma ((hperm.append_left o.front.toList).mem_iff.mp hmem)

theorem suffix_or_suffix {a b front back : List Char} (h : front ++ a = back ++ b) :
    a <:+ b ∨ b <:+ a :=
  List.suffix_or_suffix_of_suffix (List.suffix_append front a) (h ▸ List.suffix_append back b)

theorem operand_inj {o p : Operand} (hbefore : Leads before) (hother : Leads other)
    (h : before ++ o.chars expr = other ++ p.chars expr) : before = other ∧ o = p := by
  have hsame : o = p := by
    by_cases ho : o = .value
    · subst ho
      by_contra hp
      exact append_ne_framed hbefore (Ne.symm hp) h
    · by_cases hp : p = .value
      · subst hp
        exact absurd h.symm (append_ne_framed hother ho)
      · simp only [Operand.chars, ← List.append_assoc] at h
        rcases suffix_or_suffix h with hback | hback
        · exact eq_of_back_suffix ho hp hback
        · exact (eq_of_back_suffix hp ho hback).symm
  subst hsame
  exact ⟨List.append_cancel_right h, rfl⟩

theorem text_inj {k l : Key} (hbefore : Leads before) (hother : Leads other)
    (h : before ++ (k.text expr).toList = other ++ (l.text expr).toList) :
    before = other ∧ k = l := by
  rw [toList_text, toList_text, ← List.append_assoc, ← List.append_assoc] at h
  have hwords : k.ascending = l.ascending ∧ k.nulls = l.nulls := by
    rcases suffix_or_suffix h with hwords | hwords
    · exact eq_of_orderWords_suffix hwords
    · obtain ⟨hascending, hnulls⟩ := eq_of_orderWords_suffix hwords
      exact ⟨hascending.symm, hnulls.symm⟩
  obtain ⟨operand, ascending, nulls⟩ := k
  obtain ⟨operand', _, _⟩ := l
  obtain ⟨rfl, rfl⟩ := hwords
  obtain ⟨rfl, rfl⟩ := operand_inj hbefore hother (List.append_cancel_right h)
  exact ⟨rfl, rfl⟩

/-- Keys with a comma behind each. -/
def leading (expr : String) (keys : List Key) : List Char :=
  keys.flatMap fun k => (k.text expr).toList ++ [',', ' ']

theorem leads_leading (keys : List Key) : Leads (leading expr keys) := by
  cases keys using List.reverseRecOn with
  | nil => exact .inl rfl
  | append_singleton keys k =>
      refine .inr ⟨leading expr keys ++ (k.text expr).toList, ?_⟩
      simp [leading]

theorem leading_append (keys : List Key) (k : Key) :
    leading expr (keys ++ [k]) = leading expr keys ++ (k.text expr).toList ++ [',', ' '] := by
  simp [leading]

/-- Keys are read off their text, last key first. -/
theorem leading_inj {keys others : List Key} (h : leading expr keys = leading expr others) :
    keys = others := by
  induction keys using List.reverseRecOn generalizing others with
  | nil =>
      cases others with
      | nil => rfl
      | cons k others => simp [leading] at h
  | append_singleton keys k ih =>
      cases others using List.reverseRecOn with
      | nil => simp [leading] at h
      | append_singleton others l =>
          rw [leading_append, leading_append] at h
          obtain ⟨hkeys, rfl⟩ :=
            text_inj (leads_leading keys) (leads_leading others) (List.append_cancel_right h)
          rw [ih hkeys]

theorem toList_itemText (k : Key) (keys : List Key) :
    (itemText expr (k :: keys)).toList ++ [',', ' '] = leading expr (k :: keys) := by
  induction keys generalizing k with
  | nil => simp [itemText, leading]
  | cons l keys ih =>
      have htext : (itemText expr (k :: l :: keys)).toList =
          (k.text expr).toList ++ ([',', ' '] ++ (itemText expr (l :: keys)).toList) := by
        simp [itemText, String.intercalate_cons_cons]
      rw [htext, List.append_assoc, List.append_assoc, ih, ← List.append_assoc]
      rfl

theorem orderWords_ne_nil (ascending : Bool) (nulls : Option Place) :
    (orderWords ascending nulls).toList ≠ [] := by
  cases ascending with
  | false => simp [orderWords]
  | true => simp [orderWords]

theorem itemText_cons_ne_empty (k : Key) (keys : List Key) : itemText expr (k :: keys) ≠ "" := by
  intro h
  have hwords := List.length_pos_iff.mpr (orderWords_ne_nil k.ascending k.nulls)
  have htext : (itemText expr (k :: keys)).toList ++ [',', ' '] = _ := toList_itemText k keys
  have hlength := congrArg List.length htext
  rw [h, leading, List.flatMap_cons, toList_text] at hlength
  simp only [String.toList_empty, List.nil_append, List.length_append, List.length_cons] at hlength
  omega

theorem itemText_inj {keys others : List Key} :
    itemText expr keys = itemText expr others ↔ keys = others := by
  constructor
  · intro h
    cases keys with
    | nil =>
        cases others with
        | nil => rfl
        | cons l others => exact absurd h.symm (itemText_cons_ne_empty l others)
    | cons k keys =>
        cases others with
        | nil => exact absurd h (itemText_cons_ne_empty k keys)
        | cons l others =>
            have hleading : leading expr (k :: keys) = leading expr (l :: others) := by
              rw [← toList_itemText, ← toList_itemText, h]
            exact leading_inj hleading
  · rintro rfl
    rfl

/-- The order of a key whose values stand in the given order. -/
def directed (ascending : Bool) (o : Ordering) : Ordering :=
  if ascending then o else o.swap

def Place.side : Place → Ordering
  | first => .lt
  | last => .gt

universe u

variable {α : Type u} [Ord α]

/-- NULLs stand in their place whatever the direction is. -/
def compareNulls (place : Place) (ascending : Bool) : Option α → Option α → Ordering
  | none, none => .eq
  | none, some _ => place.side
  | some _, none => place.side.swap
  | some a, some b => directed ascending (compare a b)

/-- What `ISNULL(e)` is in a row, and the other test as well. -/
def nullNumber : Option α → Nat
  | none => 1
  | some _ => 0

variable (places : Key → Place)

/-- What a key makes of two rows. An engine has places for NULLs where a key names none. -/
def Key.order (k : Key) (a b : Option α) : Ordering :=
  let place := k.nulls.getD (places k)
  match k.operand with
  | .value => compareNulls place k.ascending a b
  | .isNull | .caseNull =>
      compareNulls place k.ascending (some (nullNumber a)) (some (nullNumber b))

/-- Rows in the order of the first key that tells them apart. -/
def rowOrder : List Key → Option α → Option α → Ordering
  | [], _, _ => .eq
  | k :: keys, a, b => (k.order places a b).then (rowOrder keys a b)

def plainKey (ascending : Bool) : Key :=
  ⟨.value, ascending, none⟩

/-- The keys of a style. The key in front has a direction of its own. -/
def keysOf (style : NullsOrdering) (ascending nullsLast : Bool) : List Key :=
  match style with
  | .standard => [⟨.value, ascending, some (.ofLast nullsLast)⟩]
  | .isNullFunction => [⟨.isNull, nullsLast, none⟩, plainKey ascending]
  | .caseExpression => [⟨.caseNull, nullsLast, none⟩, plainKey ascending]

theorem orderWords_none (ascending : Bool) :
    orderWords ascending none = " " ++ Dialect.direction ascending := by
  cases ascending with
  | false => rfl
  | true => rfl

theorem orderWords_ofLast (ascending nullsLast : Bool) :
    orderWords ascending (some (.ofLast nullsLast)) =
      " " ++ Dialect.direction ascending ++ " NULLS " ++
        (if nullsLast then "LAST" else "FIRST") := by
  cases ascending with
  | false => cases nullsLast <;> rfl
  | true => cases nullsLast <;> rfl

theorem text_none (expr : String) (o : Operand) (ascending : Bool) :
    Key.text expr ⟨o, ascending, none⟩ =
      o.front ++ expr ++ o.back ++ (" " ++ Dialect.direction ascending) := by
  rw [Key.text, orderWords_none]

theorem text_ofLast (expr : String) (ascending nullsLast : Bool) :
    Key.text expr ⟨.value, ascending, some (.ofLast nullsLast)⟩ =
      expr ++ " " ++ Dialect.direction ascending ++ " NULLS " ++
        (if nullsLast then "LAST" else "FIRST") := by
  simp [Key.text, orderWords_ofLast, Operand.front, Operand.back, String.append_assoc]

theorem itemText_pair (expr : String) (k l : Key) :
    itemText expr [k, l] = k.text expr ++ ", " ++ l.text expr := by
  simp [itemText, String.intercalate_cons_cons]

theorem orderItem_plain (d : Dialect) (expr : String) (ascending nullsLast : Bool) :
    d.orderItem expr false ascending nullsLast = itemText expr [plainKey ascending] := by
  simp [Dialect.orderItem, itemText, plainKey, text_none, Operand.front, Operand.back,
    String.append_assoc]

theorem orderItem_nullable (d : Dialect) (expr : String) (ascending nullsLast : Bool) :
    d.orderItem expr true ascending nullsLast =
      itemText expr (keysOf d.composition.nullsOrdering.value ascending nullsLast) := by
  cases hstyle : d.composition.nullsOrdering.value with
  | standard => simp [Dialect.orderItem, hstyle, itemText, keysOf, text_ofLast]
  | isNullFunction =>
      rw [← String.toList_inj]
      simp [Dialect.orderItem, hstyle, keysOf, plainKey, itemText_pair, text_none, Operand.front,
        Operand.back]
  | caseExpression =>
      rw [← String.toList_inj]
      simp [Dialect.orderItem, hstyle, keysOf, plainKey, itemText_pair, text_none, Operand.front,
        Operand.back]

theorem rowOrder_standard (ascending nullsLast : Bool) (a b : Option α) :
    rowOrder places (keysOf .standard ascending nullsLast) a b =
      compareNulls (.ofLast nullsLast) ascending a b := by
  simp [rowOrder, keysOf, Key.order]

theorem nullNumber_then_compareNulls (place : Place) (ascending nullsLast : Bool)
    (a b : Option α) :
    (directed nullsLast (compare (nullNumber a) (nullNumber b))).then
        (compareNulls place ascending a b) =
      compareNulls (.ofLast nullsLast) ascending a b := by
  cases a with
  | none =>
      cases b with
      | none => cases nullsLast <;> rfl
      | some b => cases nullsLast <;> rfl
  | some a =>
      cases b with
      | none => cases nullsLast <;> rfl
      | some b => cases nullsLast <;> rfl

theorem rowOrder_nullTest {o : Operand} (ho : o ≠ .value) (ascending nullsLast : Bool)
    (a b : Option α) :
    rowOrder places [⟨o, nullsLast, none⟩, plainKey ascending] a b =
      compareNulls (.ofLast nullsLast) ascending a b := by
  rw [← nullNumber_then_compareNulls (places (plainKey ascending))]
  cases o with
  | value => exact absurd rfl ho
  | isNull => simp [rowOrder, Key.order, plainKey, compareNulls]
  | caseNull => simp [rowOrder, Key.order, plainKey, compareNulls]

theorem rowOrder_keysOf (style : NullsOrdering) (ascending nullsLast : Bool) (a b : Option α) :
    rowOrder places (keysOf style ascending nullsLast) a b =
      compareNulls (.ofLast nullsLast) ascending a b := by
  cases style with
  | standard => exact rowOrder_standard places ascending nullsLast a b
  | isNullFunction => exact rowOrder_nullTest places (by decide) ascending nullsLast a b
  | caseExpression => exact rowOrder_nullTest places (by decide) ascending nullsLast a b

/-- The item of a nullable expression is read as the keys of its style and in no other way, that of
any other expression as the expression itself. By the keys of every style the rows stand as by the
standard words, and where there are no NULLs as by the expression itself, whatever order the values
have and wherever engines put NULLs by themselves. -/
theorem null_order_same_in_every_style (d : Dialect) (expr : String)
    (ascending nullsLast : Bool) :
    (∀ keys, itemText expr keys = d.orderItem expr true ascending nullsLast ↔
      keys = keysOf d.composition.nullsOrdering.value ascending nullsLast) ∧
    (∀ keys, itemText expr keys = d.orderItem expr false ascending nullsLast ↔
      keys = [plainKey ascending]) ∧
    ∀ (α : Type u) [Ord α] (places other : Key → Place),
      (∀ a b : Option α,
        rowOrder places (keysOf d.composition.nullsOrdering.value ascending nullsLast) a b =
          rowOrder other (keysOf .standard ascending nullsLast) a b) ∧
      ∀ a b : α,
        rowOrder places (keysOf d.composition.nullsOrdering.value ascending nullsLast)
            (some a) (some b) =
          rowOrder other [plainKey ascending] (some a) (some b) := by
  refine ⟨?_, ?_, ?_⟩
  · intro keys
    rw [orderItem_nullable]
    exact itemText_inj
  · intro keys
    rw [orderItem_plain]
    exact itemText_inj
  · intro α _ places other
    constructor
    · intro a b
      rw [rowOrder_keysOf, rowOrder_keysOf]
    · intro a b
      rw [rowOrder_keysOf]
      simp [rowOrder, Key.order, plainKey, compareNulls]

example : itemText "a" (keysOf .isNullFunction false true) = "ISNULL(a) ASC, a DESC" := by decide

end SqlDialects.Proofs.NullOrder
