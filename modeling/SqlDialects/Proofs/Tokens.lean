import SqlDialects.Quoting

/-!
The tokens of a piece of SQL. They are told apart by the quotes of a dialect alone: strings stand
between single quotes, identifiers between the quotes of the dialect, and everything else is blanks,
commas, parentheses and the words between them.
-/

namespace SqlDialects.Proofs.Tokens

structure Quotes where
  style : QuoteStyle
  escapesBackslash : Bool

inductive Token where
  | word (cs : List Char)
  /-- A blank, a comma or a parenthesis. -/
  | mark (c : Char)
  /-- A string as it is written, with its quotes. -/
  | literal (written : List Char)
  /-- An identifier by its name. -/
  | identifier (name : List Char)
deriving DecidableEq

def Token.text (q : Quotes) : Token → List Char
  | word cs => cs
  | mark c => [c]
  | literal written => written
  | identifier name => q.style.quoteChars name

/-- What stands after an opening quote: what it means, and how it is written up to the closing
quote. -/
structure Quoted where
  value : List Char
  written : List Char

/-- The same with one more character in front. -/
def Quoted.push (c : Char) (written : List Char) (quoted : Quoted) : Quoted :=
  ⟨c :: quoted.value, written ++ quoted.written⟩

/-- Reads up to a closing quote. A closing quote that stands twice is meant once, and where a
backslash escapes it is taken together with the next character. -/
def readQuoted (closing : Char) (escapes : Bool) : List Char → Option Quoted
  | [] => none
  | [c] => if c = closing then some ⟨[], [c]⟩ else none
  | c :: d :: rest =>
      if c = closing then
        if d = closing then (readQuoted closing escapes rest).map (.push d [c, d])
        else some ⟨[], [c]⟩
      else if c = '\\' && escapes then (readQuoted closing escapes rest).map (.push d [c, d])
      else (readQuoted closing escapes (d :: rest)).map (.push c [c])

def isMark (c : Char) : Bool :=
  c = ' ' || c = ',' || c = '(' || c = ')'

/-- Puts a character in front of a word, or makes it a word. -/
def extend (c : Char) : List Token → List Token
  | .word cs :: tokens => .word (c :: cs) :: tokens
  | tokens => .word [c] :: tokens

/-- The tokens of a text after its first `skip` characters; there are none if a quote is left
open. -/
def tokensFrom (q : Quotes) : (skip : Nat) → List Char → Option (List Token)
  | _, [] => some []
  | skip + 1, _ :: rest => tokensFrom q skip rest
  | 0, c :: rest =>
      if c = '\'' then
        (readQuoted '\'' q.escapesBackslash rest).bind fun quoted =>
          (tokensFrom q quoted.written.length rest).map (.literal (c :: quoted.written) :: ·)
      else if c = q.style.opening then
        (readQuoted q.style.closing false rest).bind fun quoted =>
          (tokensFrom q quoted.written.length rest).map (.identifier quoted.value :: ·)
      else if isMark c then (tokensFrom q 0 rest).map (.mark c :: ·)
      else (tokensFrom q 0 rest).map (extend c)

def tokens (q : Quotes) (cs : List Char) : Option (List Token) :=
  tokensFrom q 0 cs

/-- How a character is written between quotes. -/
def doubled (closing : Char) (escapes : Bool) (c : Char) : List Char :=
  if c = closing || (c = '\\' && escapes) then [c, c] else [c]

theorem readQuoted_closing {closing : Char} {escapes : Bool} {rest : List Char}
    (hrest : rest.head? ≠ some closing) :
    readQuoted closing escapes (closing :: rest) = some ⟨[], [closing]⟩ := by
  cases rest with
  | nil => simp [readQuoted]
  | cons d rest =>
      have hd : d ≠ closing := by simpa using hrest
      simp [readQuoted, hd]

theorem readQuoted_of_plain {closing c : Char} {escapes : Bool} {rest : List Char}
    (hclosing : c ≠ closing) (hbackslash : ¬ (c = '\\' && escapes) = true) (hrest : rest ≠ []) :
    readQuoted closing escapes (c :: rest) =
      (readQuoted closing escapes rest).map (.push c [c]) := by
  obtain ⟨d, rest, rfl⟩ := List.exists_cons_of_ne_nil hrest
  rw [readQuoted, if_neg hclosing, if_neg hbackslash]

/-- What is written between quotes is read back, whatever follows except one more quote. -/
theorem readQuoted_doubled {closing : Char} {escapes : Bool} {rest : List Char}
    (hrest : rest.head? ≠ some closing) (value : List Char) :
    readQuoted closing escapes (value.flatMap (doubled closing escapes) ++ closing :: rest) =
      some ⟨value, value.flatMap (doubled closing escapes) ++ [closing]⟩ := by
  induction value with
  | nil => simpa using readQuoted_closing hrest
  | cons c value ih =>
      rw [List.flatMap_cons, List.append_assoc]
      by_cases hclosing : c = closing
      · subst hclosing
        simp [doubled, readQuoted, ih, Quoted.push]
      · by_cases hbackslash : (c = '\\' && escapes) = true
        · simp [doubled, readQuoted, ih, Quoted.push, hclosing, hbackslash]
        · have hform : doubled closing escapes c = [c] := by simp [doubled, hclosing, hbackslash]
          rw [hform, List.singleton_append, readQuoted_of_plain hclosing hbackslash (by simp), ih]
          simp [Quoted.push]

theorem readQuoted_append {closing m : Char} {escapes : Bool} {cs : List Char} {quoted : Quoted}
    (h : readQuoted closing escapes cs = some quoted) (hm : m ≠ closing) (rest : List Char) :
    readQuoted closing escapes (cs ++ m :: rest) = some quoted ∧
      quoted.written.length ≤ cs.length := by
  fun_induction readQuoted closing escapes cs generalizing quoted with
  | case1 => simp at h
  | case2 =>
      obtain rfl := Option.some.inj h
      simp [readQuoted, hm]
  | case3 => simp at h
  | case4 cs ih =>
      obtain ⟨inner, hinner, rfl⟩ := Option.map_eq_some_iff.mp h
      obtain ⟨hread, hlength⟩ := ih hinner
      simp [readQuoted, hread, Quoted.push, hlength]
  | case5 d cs hd =>
      obtain rfl := Option.some.inj h
      simp [readQuoted, hd]
  | case6 c d cs hc hbackslash ih =>
      obtain ⟨inner, hinner, rfl⟩ := Option.map_eq_some_iff.mp h
      obtain ⟨hread, hlength⟩ := ih hinner
      simp [readQuoted, hread, Quoted.push, hlength, hc, hbackslash]
  | case7 c d cs hc hbackslash ih =>
      obtain ⟨inner, hinner, rfl⟩ := Option.map_eq_some_iff.mp h
      obtain ⟨hread, hlength⟩ := ih hinner
      rw [List.cons_append, readQuoted_of_plain hc hbackslash (by simp), hread]
      simpa [Quoted.push] using hlength

theorem extend_append (c m : Char) (before after : List Token) :
    extend c (before ++ .mark m :: after) = extend c before ++ .mark m :: after := by
  rcases before with _ | ⟨t, before⟩
  · rfl
  · cases t with
    | word cs => rfl
    | mark c => rfl
    | literal written => rfl
    | identifier name => rfl

variable {q : Quotes}

theorem not_quote_of_isMark {m : Char} (hm : isMark m = true) (style : QuoteStyle) :
    m ≠ '\'' ∧ m ≠ style.opening ∧ m ≠ style.closing := by
  simp only [isMark, Bool.or_eq_true, decide_eq_true_eq] at hm
  rcases hm with ((rfl | rfl) | rfl) | rfl
  · cases style <;> decide
  · cases style <;> decide
  · cases style <;> decide
  · cases style <;> decide

theorem tokensFrom_mark {m : Char} (hm : isMark m = true) (rest : List Char) :
    tokensFrom q 0 (m :: rest) = (tokensFrom q 0 rest).map (.mark m :: ·) := by
  obtain ⟨hstring, hopening, -⟩ := not_quote_of_isMark hm q.style
  rw [tokensFrom, if_neg hstring, if_neg hopening, if_pos hm]

/-- A mark outside of all quotes takes a text apart. -/
theorem tokensFrom_append {m : Char} (hm : isMark m = true) {skip : Nat} {a b : List Char}
    {before after : List Token} (ha : tokensFrom q skip a = some before) (hskip : skip ≤ a.length)
    (hb : tokensFrom q 0 b = some after) :
    tokensFrom q skip (a ++ m :: b) = some (before ++ .mark m :: after) := by
  obtain ⟨hstring, -, hclosing⟩ := not_quote_of_isMark hm q.style
  -- A quote is read as a whole and its characters are skipped afterwards, so the induction has to
  -- hold for any number that is still to be skipped.
  induction a generalizing skip before with
  | nil =>
      obtain rfl : skip = 0 := by simpa using hskip
      obtain rfl : before = [] := by simpa [tokensFrom, eq_comm] using ha
      simp [tokensFrom_mark hm, hb]
  | cons c a ih =>
      cases skip with
      | succ skip =>
          rw [tokensFrom] at ha
          rw [List.cons_append, tokensFrom]
          exact ih ha (by simpa using hskip)
      | zero =>
          rw [tokensFrom] at ha
          rw [List.cons_append, tokensFrom]
          by_cases hc : c = '\''
          · rw [if_pos hc] at ha ⊢
            obtain ⟨quoted, hquoted, ha⟩ := Option.bind_eq_some_iff.mp ha
            obtain ⟨inner, hinner, rfl⟩ := Option.map_eq_some_iff.mp ha
            obtain ⟨hread, hlength⟩ := readQuoted_append hquoted hstring b
            rw [hread, Option.bind_some, ih hinner hlength]
            rfl
          rw [if_neg hc] at ha ⊢
          by_cases hc : c = q.style.opening
          · rw [if_pos hc] at ha ⊢
            obtain ⟨quoted, hquoted, ha⟩ := Option.bind_eq_some_iff.mp ha
            obtain ⟨inner, hinner, rfl⟩ := Option.map_eq_some_iff.mp ha
            obtain ⟨hread, hlength⟩ := readQuoted_append hquoted hclosing b
            rw [hread, Option.bind_some, ih hinner hlength]
            rfl
          rw [if_neg hc] at ha ⊢
          by_cases hc : isMark c = true
          · rw [if_pos hc] at ha ⊢
            obtain ⟨inner, hinner, rfl⟩ := Option.map_eq_some_iff.mp ha
            rw [ih hinner (Nat.zero_le _)]
            rfl
          · rw [if_neg hc] at ha ⊢
            obtain ⟨inner, hinner, rfl⟩ := Option.map_eq_some_iff.mp ha
            rw [ih hinner (Nat.zero_le _), Option.map_some, extend_append]

theorem tokens_append {m : Char} (hm : isMark m = true) {a b : List Char}
    {before after : List Token} (ha : tokens q a = some before) (hb : tokens q b = some after) :
    tokens q (a ++ m :: b) = some (before ++ .mark m :: after) :=
  tokensFrom_append hm ha (Nat.zero_le _) hb

theorem tokensFrom_length_append (front rest : List Char) :
    tokensFrom q front.length (front ++ rest) = tokens q rest := by
  induction front with
  | nil => rfl
  | cons c front ih => rw [List.length_cons, List.cons_append, tokensFrom, ih]

theorem tokensFrom_length (cs : List Char) : tokensFrom q cs.length cs = some [] := by
  rw [← List.append_nil cs, List.length_append, List.length_nil, Nat.add_zero,
    tokensFrom_length_append]
  rfl

/-- Whether a character opens or closes a quote of some dialect. -/
def isQuote (c : Char) : Bool :=
  c = '\'' || c = '"' || c = '\x60' || c = '['

theorem ne_of_not_isQuote {c : Char} (hc : isQuote c = false) (style : QuoteStyle) :
    c ≠ '\'' ∧ c ≠ style.opening := by
  simp only [isQuote, Bool.or_eq_false_iff, decide_eq_false_iff_not] at hc
  obtain ⟨⟨⟨hstring, hdouble⟩, hbacktick⟩, hbracket⟩ := hc
  refine ⟨hstring, ?_⟩
  cases style with
  | doubleQuote => exact hdouble
  | backtick => exact hbacktick
  | bracket => exact hbracket

/-- The tokens of a text without quotes, which are the same in all dialects. -/
def plainTokens : List Char → List Token
  | [] => []
  | c :: rest => if isMark c then .mark c :: plainTokens rest else extend c (plainTokens rest)

theorem tokens_of_plain {cs : List Char} (hcs : ∀ c ∈ cs, isQuote c = false) :
    tokens q cs = some (plainTokens cs) := by
  unfold tokens
  induction cs with
  | nil => rfl
  | cons c cs ih =>
      obtain ⟨hc, hcs⟩ := List.forall_mem_cons.mp hcs
      obtain ⟨hstring, hopening⟩ := ne_of_not_isQuote hc q.style
      rw [tokensFrom, if_neg hstring, if_neg hopening, plainTokens, ih hcs]
      split
      · rfl
      · rfl

theorem flatMap_text_extend (c : Char) (ts : List Token) :
    (extend c ts).flatMap (·.text q) = c :: ts.flatMap (·.text q) := by
  rcases ts with _ | ⟨t, ts⟩
  · rfl
  · cases t with
    | word cs => rfl
    | mark c => rfl
    | literal written => rfl
    | identifier name => rfl

theorem flatMap_text_plainTokens (cs : List Char) :
    (plainTokens cs).flatMap (·.text q) = cs := by
  induction cs with
  | nil => rfl
  | cons c cs ih =>
      rw [plainTokens]
      split
      · rw [List.flatMap_cons, ih]
        rfl
      · rw [flatMap_text_extend, ih]

/-- Whether a character is one of a word in all dialects. -/
def isLetter (c : Char) : Bool :=
  !isQuote c && !isMark c

theorem isLetter_of_isDigit {c : Char} (h : c.isDigit = true) : isLetter c = true := by
  have hne : ∀ d : Char, d.isDigit = false → c ≠ d := by
    rintro d hd rfl
    rw [h] at hd
    simp at hd
  simp [isLetter, isQuote, isMark, hne '\'' rfl, hne '"' rfl, hne '\x60' rfl, hne '[' rfl,
    hne ' ' rfl, hne ',' rfl, hne '(' rfl, hne ')' rfl]

theorem not_quote_of_isLetter {c : Char} (h : isLetter c = true) :
    isQuote c = false ∧ isMark c = false := by
  simpa [isLetter] using h

/-- Whether a text is a word in all dialects. -/
def isWordText (cs : List Char) : Bool :=
  !cs.isEmpty && cs.all isLetter

theorem isWordText_iff {cs : List Char} :
    isWordText cs = true ↔ cs ≠ [] ∧ ∀ c ∈ cs, isLetter c = true := by
  simp [isWordText]

theorem plainTokens_of_letters {w : List Char} (hne : w ≠ []) (hw : ∀ c ∈ w, isLetter c = true) :
    plainTokens w = [.word w] := by
  induction w with
  | nil => exact absurd rfl hne
  | cons c w ih =>
      obtain ⟨hc, hw⟩ := List.forall_mem_cons.mp hw
      rw [plainTokens, (not_quote_of_isLetter hc).2]
      rcases w with _ | ⟨d, w⟩
      · rfl
      · rw [ih (by simp) hw]
        rfl

theorem tokens_word {w : List Char} (h : isWordText w = true) : tokens q w = some [.word w] := by
  obtain ⟨hne, hw⟩ := isWordText_iff.mp h
  rw [tokens_of_plain fun c hc => (not_quote_of_isLetter (hw c hc)).1,
    plainTokens_of_letters hne hw]

theorem quoteStyle_escape_eq (style : QuoteStyle) :
    style.escape = doubled style.closing false := by
  funext c
  simp [QuoteStyle.escape, doubled]

theorem stringStyle_escape_eq (style : StringStyle) :
    style.escape = doubled '\'' style.escapesBackslash := by
  funext c
  simp [StringStyle.escape, doubled]

theorem tokens_identifier (name : List Char) :
    tokens q (q.style.quoteChars name) = some [.identifier name] := by
  have hopening : q.style.opening ≠ '\'' := by
    cases q.style <;> decide
  rw [QuoteStyle.quoteChars, quoteStyle_escape_eq, List.cons_append, tokens, tokensFrom,
    if_neg hopening, if_pos rfl, readQuoted_doubled (by simp), Option.bind_some, tokensFrom_length]
  rfl

theorem tokens_literal {style : StringStyle}
    (hstyle : style.escapesBackslash = q.escapesBackslash) (value : List Char) :
    tokens q (style.quoteChars value) = some [.literal (style.quoteChars value)] := by
  rw [StringStyle.quoteChars, stringStyle_escape_eq, hstyle, List.cons_append, tokens, tokensFrom,
    if_pos rfl, readQuoted_doubled (by simp), Option.bind_some, tokensFrom_length]
  rfl

theorem tokens_string {style : StringStyle} (hstyle : style.escapesBackslash = q.escapesBackslash)
    {lead : List Char} (hlead : ∀ c ∈ lead, isLetter c = true) (value : List Char) :
    tokens q (lead ++ style.quoteChars value) =
      some ((if lead = [] then [] else [.word lead]) ++ [.literal (style.quoteChars value)]) := by
  have hliteral := tokens_literal hstyle value
  unfold tokens at hliteral ⊢
  induction lead with
  | nil => simpa using hliteral
  | cons c lead ih =>
      obtain ⟨hc, hlead⟩ := List.forall_mem_cons.mp hlead
      obtain ⟨hquote, hmark⟩ := not_quote_of_isLetter hc
      obtain ⟨hstring, hopening⟩ := ne_of_not_isQuote hquote q.style
      rw [List.cons_append, tokensFrom, if_neg hstring, if_neg hopening, hmark, ih hlead]
      rcases lead with _ | ⟨d, lead⟩
      · rfl
      · rfl

end SqlDialects.Proofs.Tokens
