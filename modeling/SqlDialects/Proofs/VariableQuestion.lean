import Mathlib.Data.List.Basic
import SqlDialects.Builtin
import SqlDialects.Proofs.Tokens
import SqlDialects.Query

namespace SqlDialects.Proofs.VariableQuestion

open Text.Search (replace replaceFrom)
open Tokens

variable {q : Quotes}

/-- The words before the name, with a blank behind each. -/
def clause : List Token :=
  [.word "SHOW".toList, .mark ' ', .word "VARIABLES".toList, .mark ' ', .word "LIKE".toList,
    .mark ' ']

/-- Whether a text consists of the words `SHOW VARIABLES LIKE` and one string literal that means a
name. -/
def AsksFor (q : Quotes) (name : String) (cs : List Char) : Prop :=
  ∃ body, tokens q cs = some (clause ++ [.literal ('\'' :: body)]) ∧
    readQuoted '\'' q.escapesBackslash body = some ⟨name.toList, body⟩

theorem tokens_plain_append {m : Char} (hm : isMark m = true) {front : List Char}
    (hfront : ∀ c ∈ front, isQuote c = false) (rest : List Char) :
    tokens q (front ++ m :: rest) =
      (tokens q rest).map (plainTokens front ++ .mark m :: ·) := by
  unfold tokens
  induction front with
  | nil => exact tokensFrom_mark hm rest
  | cons c front ih =>
      obtain ⟨hc, hfront⟩ := List.forall_mem_cons.mp hfront
      obtain ⟨hstring, hopening⟩ := ne_of_not_isQuote hc q.style
      rw [List.cons_append, tokensFrom, if_neg hstring, if_neg hopening, ih hfront, plainTokens,
        Option.map_map, Option.map_map]
      split
      · rfl
      · congr 1
        funext ts
        exact extend_append c m _ _

theorem tokens_clause (rest : List Char) :
    tokens q ("SHOW VARIABLES LIKE".toList ++ ' ' :: rest) =
      (tokens q rest).map (clause ++ ·) :=
  tokens_plain_append rfl (by simp [isQuote]) rest

theorem written_prefix {closing : Char} {escapes : Bool} {cs : List Char} {quoted : Quoted}
    (h : readQuoted closing escapes cs = some quoted) : quoted.written <+: cs := by
  fun_induction readQuoted closing escapes cs generalizing quoted with
  | case1 => simp at h
  | case2 =>
      obtain rfl := Option.some.inj h
      exact List.prefix_rfl
  | case3 => simp at h
  | case4 cs ih =>
      obtain ⟨inner, hinner, rfl⟩ := Option.map_eq_some_iff.mp h
      simpa [Quoted.push] using ih hinner
  | case5 d cs hd =>
      obtain rfl := Option.some.inj h
      simp
  | case6 c d cs hc hbackslash ih =>
      obtain ⟨inner, hinner, rfl⟩ := Option.map_eq_some_iff.mp h
      simpa [Quoted.push] using ih hinner
  | case7 c d cs hc hbackslash ih =>
      obtain ⟨inner, hinner, rfl⟩ := Option.map_eq_some_iff.mp h
      simpa [Quoted.push] using ih hinner

theorem extend_ne_nil (c : Char) (ts : List Token) : extend c ts ≠ [] := by
  rcases ts with _ | ⟨t, ts⟩
  · simp [extend]
  · cases t with
    | word cs => simp [extend]
    | mark c => simp [extend]
    | literal written => simp [extend]
    | identifier name => simp [extend]

theorem eq_nil_of_tokens {cs : List Char} (h : tokens q cs = some []) : cs = [] := by
  cases cs with
  | nil => rfl
  | cons c cs =>
      rw [tokens, tokensFrom] at h
      split at h
      · obtain ⟨quoted, -, hquoted⟩ := Option.bind_eq_some_iff.mp h
        simp at hquoted
      · split at h
        · obtain ⟨quoted, -, hquoted⟩ := Option.bind_eq_some_iff.mp h
          simp at hquoted
        · split at h
          · simp at h
          · obtain ⟨ts, -, hts⟩ := Option.map_eq_some_iff.mp h
            exact absurd hts (extend_ne_nil c ts)

theorem tokens_quote (body : List Char) :
    tokens q ('\'' :: body) =
      (readQuoted '\'' q.escapesBackslash body).bind fun quoted =>
        (tokensFrom q quoted.written.length body).map (.literal ('\'' :: quoted.written) :: ·) := by
  rw [tokens, tokensFrom, if_pos rfl]

theorem asksFor_iff {name : String} {body : List Char} :
    AsksFor q name ("SHOW VARIABLES LIKE".toList ++ ' ' :: '\'' :: body) ↔
      readQuoted '\'' q.escapesBackslash body = some ⟨name.toList, body⟩ := by
  rw [AsksFor, tokens_clause, tokens_quote]
  constructor
  · rintro ⟨written, htokens, hread⟩
    obtain ⟨ts, hts, hclause⟩ := Option.map_eq_some_iff.mp htokens
    obtain rfl := List.append_cancel_left hclause
    obtain ⟨quoted, hquoted, hrest⟩ := Option.bind_eq_some_iff.mp hts
    obtain ⟨behind, hbehind, hliteral⟩ := Option.map_eq_some_iff.mp hrest
    obtain ⟨hwritten, rfl⟩ := List.cons.inj hliteral
    obtain rfl : quoted.written = written := by simpa using hwritten
    obtain ⟨tail, rfl⟩ := written_prefix hquoted
    rw [tokensFrom_length_append] at hbehind
    obtain rfl := eq_nil_of_tokens hbehind
    rwa [List.append_nil]
  · intro hread
    refine ⟨body, ?_, hread⟩
    rw [hread, Option.bind_some, tokensFrom_length]
    rfl

/-- What a text between quotes costs: a place for each character of the value, another for each
quote that is written twice, and more where a backslash escapes. -/
theorem weight_of_readQuoted {cs : List Char} {quoted : Quoted}
    (h : readQuoted '\'' true cs = some quoted) :
    2 * quoted.value.length + quoted.written.count '\'' < 2 * quoted.written.length ∧
      ('\\' ∈ quoted.written →
        2 * quoted.value.length + quoted.written.count '\'' + 1 < 2 * quoted.written.length) := by
  fun_induction readQuoted '\'' true cs generalizing quoted with
  | case1 => simp at h
  | case2 =>
      obtain rfl := Option.some.inj h
      simp
  | case3 => simp at h
  | case4 cs ih =>
      obtain ⟨inner, hinner, rfl⟩ := Option.map_eq_some_iff.mp h
      obtain ⟨hweight, hescaped⟩ := ih hinner
      simp only [Quoted.push, List.cons_append, List.nil_append, List.length_cons,
        List.count_cons_self]
      refine ⟨by omega, fun hmem => ?_⟩
      have hescaped := hescaped (by simpa using hmem)
      omega
  | case5 d cs hd =>
      obtain rfl := Option.some.inj h
      simp
  | case6 c d cs hc hbackslash ih =>
      obtain ⟨inner, hinner, rfl⟩ := Option.map_eq_some_iff.mp h
      obtain ⟨hweight, -⟩ := ih hinner
      have hcount : (d :: inner.written).count '\'' ≤ inner.written.count '\'' + 1 := by
        rw [List.count_cons]
        split
        · exact Nat.le_refl _
        · exact Nat.le_succ _
      simp only [Quoted.push, List.cons_append, List.nil_append, List.length_cons,
        List.count_cons_of_ne hc]
      exact ⟨by omega, fun _ => by omega⟩
  | case7 c d cs hc hbackslash ih =>
      obtain ⟨inner, hinner, rfl⟩ := Option.map_eq_some_iff.mp h
      have hne : '\\' ≠ c := by simpa [eq_comm] using hbackslash
      obtain ⟨hweight, hescaped⟩ := ih hinner
      simp only [Quoted.push, List.cons_append, List.nil_append, List.length_cons,
        List.count_cons_of_ne hc]
      refine ⟨by omega, fun hmem => ?_⟩
      have hescaped := hescaped ((List.mem_cons.mp hmem).resolve_left hne)
      omega

theorem weight_doubled (name : List Char) :
    2 * (name.flatMap (doubled '\'' false)).length =
      2 * name.length + (name.flatMap (doubled '\'' false)).count '\'' := by
  induction name with
  | nil => rfl
  | cons c name ih =>
      by_cases hc : c = '\''
      · subst hc
        simp [doubled] at ih ⊢
        omega
      · simp [doubled, hc] at ih ⊢
        omega

theorem mem_doubled {c : Char} {name : List Char} (h : c ∈ name) :
    c ∈ name.flatMap (doubled '\'' false) := by
  refine List.mem_flatMap.mpr ⟨c, h, ?_⟩
  unfold doubled
  split
  · exact List.mem_cons_self
  · exact List.mem_cons_self

theorem readQuoted_doubled_iff {escapes : Bool} (name : List Char) :
    readQuoted '\'' escapes (name.flatMap (doubled '\'' false) ++ ['\'']) =
        some ⟨name, name.flatMap (doubled '\'' false) ++ ['\'']⟩ ↔
      (escapes = true → '\\' ∉ name) := by
  constructor
  · rintro hread rfl hmem
    have hbackslash : '\\' ∈ name.flatMap (doubled '\'' false) ++ ['\''] :=
      List.mem_append_left _ (mem_doubled hmem)
    have hweight := (weight_of_readQuoted hread).2 hbackslash
    have hdoubled := weight_doubled name
    simp only [List.length_append, List.count_append, List.length_singleton,
      List.count_singleton_self] at hweight
    omega
  · intro h
    have hsame : name.flatMap (doubled '\'' false) = name.flatMap (doubled '\'' escapes) := by
      refine List.flatMap_congr fun c hc => ?_
      have hne : ¬ (c = '\\' ∧ escapes = true) := by
        rintro ⟨rfl, hescapes⟩
        exact h hescapes hc
      simp [doubled, hne]
    rw [hsame]
    exact readQuoted_doubled (by simp) name

theorem replaceFrom_singleton (m : Char) (new cs : List Char) :
    replaceFrom [m] new 0 cs = cs.flatMap fun c => if c = m then new else [c] := by
  induction cs with
  | nil => rfl
  | cons c cs ih =>
      by_cases hc : c = m
      · simp [replaceFrom, ih, hc]
      · simp [replaceFrom, ih, hc, Ne.symm hc]

theorem toList_sql (name : String) :
    (Query.serverVariable name).sql.toList =
      "SHOW VARIABLES LIKE".toList ++ ' ' :: '\'' ::
        (name.toList.flatMap (doubled '\'' false) ++ ['\'']) := by
  have hquotes : (fun c => if c = '\'' then ['\'', '\''] else [c]) = doubled '\'' false := by
    funext c
    by_cases hc : c = '\''
    · simp [doubled, hc]
    · simp [doubled, hc]
  have hreplace : (replace name "'" "''").toList = name.toList.flatMap (doubled '\'' false) := by
    have hold : "'".toList = ['\''] := rfl
    have hnew : "''".toList = ['\'', '\''] := rfl
    rw [replace, String.toList_ofList, hold, hnew, replaceFrom_singleton, hquotes]
  have hclause : "SHOW VARIABLES LIKE '".toList =
      "SHOW VARIABLES LIKE".toList ++ [' ', '\''] := by decide
  show ("SHOW VARIABLES LIKE '" ++ replace name "'" "''" ++ "'").toList = _
  rw [String.toList_append, String.toList_append, hreplace, hclause, List.append_assoc,
    List.append_assoc]
  rfl

theorem asksFor_quote (name : String) :
    AsksFor ⟨.backtick, true⟩ name
      ("SHOW VARIABLES LIKE " ++ StringStyle.quote ⟨"", true⟩ name).toList := by
  have hclause : "SHOW VARIABLES LIKE ".toList = "SHOW VARIABLES LIKE".toList ++ [' '] := by
    decide
  have htext : ("SHOW VARIABLES LIKE " ++ StringStyle.quote ⟨"", true⟩ name).toList =
      "SHOW VARIABLES LIKE".toList ++ ' ' :: '\'' ::
        (name.toList.flatMap (doubled '\'' true) ++ ['\'']) := by
    rw [String.toList_append, hclause, List.append_assoc]
    simp [StringStyle.quote, StringStyle.quoteChars, stringStyle_escape_eq]
  rw [htext, asksFor_iff]
  exact readQuoted_doubled (by simp) name.toList

/-- The question for a variable is the words `SHOW VARIABLES LIKE` and one string literal of MySQL
that means the name, just if the name has no backslash. With the name as a string literal of MySQL
it is that for every name. -/
theorem variable_question_iff_no_backslash (name : String) :
    ∃ quotes style, Builtin.mysql.quoteStyle = some quotes ∧
      Builtin.mysql.stringStyle = some style ∧
      (AsksFor ⟨quotes, style.escapesBackslash⟩ name (Query.serverVariable name).sql.toList ↔
        '\\' ∉ name.toList) ∧
      AsksFor ⟨quotes, style.escapesBackslash⟩ name
        ("SHOW VARIABLES LIKE " ++ style.quote name).toList := by
  refine ⟨.backtick, ⟨"", true⟩, rfl, rfl, ?_, asksFor_quote name⟩
  rw [toList_sql, asksFor_iff, readQuoted_doubled_iff]
  simp

/-- The quotes of this question are still open at its end. -/
example : tokens ⟨.backtick, true⟩ (Query.serverVariable "\\").sql.toList = none := by
  decide +kernel

end SqlDialects.Proofs.VariableQuestion
