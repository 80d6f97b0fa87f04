import SqlDialects.Dialect
import SqlDialects.Proofs.InlineReading
import SqlDialects.Proofs.LiteralCharacters

namespace SqlDialects.Proofs.LiteralReading

open InlineReading
open Literal
open LiteralCharacters
open Tokens
open Trees

/-- The quotes of a composition. -/
def quotesOf (c : Composition) : Quotes :=
  ⟨c.quoteStyle.value, c.stringStyle.value.escapesBackslash⟩

/-- A text that may stand before a string: a word other than AS, or nothing. -/
def FitsLead (lead : String) : Prop :=
  lead ≠ "AS" ∧ ∀ c ∈ lead.toList, isLetter c = true

variable {q : Quotes}

theorem isWord_of_ne {w : String} {cs : List Char} (h : cs ≠ w.toList) :
    Tree.isWord w (.leaf (.word cs)) = false := by
  simpa [Tree.isWord] using h

theorem nests_leaves {ts : List Token} (h : ∀ t ∈ ts, ∀ c, t ≠ .mark c) :
    Nests ts (ts.map .leaf) := by
  induction ts with
  | nil => exact .nil
  | cons t ts ih =>
      obtain ⟨ht, hts⟩ := List.forall_mem_cons.mp h
      exact (Nests.leaf (ht '(') (ht ')')).append (ih hts)

theorem text_leaves (ts : List Token) : text q (ts.map .leaf) = ts.flatMap (·.text q) := by
  induction ts with
  | nil => rfl
  | cons t ts ih => rw [List.map_cons, text, Tree.text, ih, List.flatMap_cons]

theorem readsExpression_of_tokens {s : String} {ts : List Token}
    (htokens : tokens q s.toList = some ts) (htext : ts.flatMap (·.text q) = s.toList)
    (hmarks : ∀ t ∈ ts, ∀ c, t ≠ .mark c) (has : ∀ t ∈ ts, t ≠ .word "AS".toList) :
    ReadsExpression q s := by
  refine ⟨ts.map .leaf, ⟨⟨ts, htokens, nests_leaves hmarks⟩, ?_⟩, ?_⟩
  · rw [text_leaves, htext]
  · intro tree hmem
    obtain ⟨t, ht, rfl⟩ := List.mem_map.mp hmem
    cases t with
    | word cs => exact isWord_of_ne fun heq => has _ ht (by rw [heq])
    | mark c => rfl
    | literal written => rfl
    | identifier name => rfl

theorem readsExpression_word {s : String} (h : isWordText s.toList = true) (has : s ≠ "AS") :
    ReadsExpression q s := by
  refine readsExpression_of_tokens (tokens_word h) ?_ (by simp) ?_
  · simp [Token.text]
  · intro t ht heq
    rw [List.mem_singleton.mp ht] at heq
    exact has (String.toList_inj.mp (Token.word.inj heq))

theorem isLetter_of_isNumeralChar {c : Char} (h : isNumeralChar c = true) : isLetter c = true := by
  simp only [isNumeralChar, Numeral.isExponentMark, Bool.or_eq_true, decide_eq_true_eq,
    beq_iff_eq] at h
  rcases h with (((h | rfl) | rfl) | rfl) | rfl | rfl
  · exact isLetter_of_isDigit h
  · rfl
  · rfl
  · rfl
  · rfl
  · rfl

theorem readsExpression_numeral {s : String} (hne : s.toList ≠ [])
    (hchars : ∀ c ∈ s.toList, isNumeralChar c = true) : ReadsExpression q s := by
  have hword : isWordText s.toList = true := by
    rw [isWordText_iff]
    exact ⟨hne, fun c hc => isLetter_of_isNumeralChar (hchars c hc)⟩
  refine readsExpression_word hword ?_
  rintro rfl
  exact absurd (hchars 'A' (by simp)) (by decide)

theorem readsExpression_int (n : Int) : ReadsExpression q n.repr := by
  have hchars : ∀ k : Nat, ∀ c ∈ k.repr.toList, isNumeralChar c = true :=
    fun k c hc => isNumeralChar_of_isDigit (isDigit_of_mem_natRepr hc)
  cases n with
  | ofNat k => exact readsExpression_numeral (natRepr_ne_nil k) (hchars k)
  | negSucc k =>
      refine readsExpression_numeral (s := "-" ++ (k + 1).repr) (by simp) ?_
      rw [String.toList_append, List.forall_mem_append]
      exact ⟨List.all_eq_true.mp (by decide), hchars (k + 1)⟩

theorem readsExpression_decimal (needsExponent : Bool) {cs : List Char}
    (h : Numeral.isDecimal cs = true) : ReadsExpression q (ofDecimal needsExponent cs) := by
  obtain ⟨hne, hchars⟩ := isNumeralChar_of_isDecimal h
  unfold ofDecimal
  split
  · refine readsExpression_numeral (by simp) ?_
    rw [String.toList_ofList, List.forall_mem_append]
    exact ⟨hchars, List.all_eq_true.mp (by decide)⟩
  · refine readsExpression_numeral (by simpa using hne) ?_
    rw [String.toList_ofList]
    exact hchars

theorem readsExpression_bool (style : BooleanStyle) (b : Bool) :
    ReadsExpression q (ofBool style b) := by
  cases style <;> cases b <;>
    exact readsExpression_word (by decide) (by decide)

theorem readsExpression_string {style : StringStyle}
    (hstyle : style.escapesBackslash = q.escapesBackslash) (hlead : FitsLead style.lead)
    (value : String) : ReadsExpression q (style.quote value) := by
  have hchars : (style.quote value).toList =
      style.lead.toList ++ style.quoteChars value.toList := by
    simp [StringStyle.quote]
  have htokens := tokens_string hstyle hlead.2 value.toList
  rw [← hchars] at htokens
  refine readsExpression_of_tokens htokens ?_ ?_ ?_
  · split
    · rename_i hnone
      simp [Token.text, hchars, hnone]
    · simp [Token.text, hchars]
  · split
    · simp
    · simp
  · have hword : Token.word style.lead.toList ≠ .word "AS".toList := fun heq =>
      hlead.1 (String.toList_inj.mp (Token.word.inj heq))
    split
    · simp
    · simpa using hword

theorem not_escaped_of_isCalendarChar {c : Char} (h : isCalendarChar c = true) :
    c ≠ '\'' ∧ c ≠ '\\' := by
  constructor
  · rintro rfl
    exact absurd h (by decide)
  · rintro rfl
    exact absurd h (by decide)

theorem quoteChars_of_calendar (style : StringStyle) {body : List Char}
    (hbody : ∀ c ∈ body, isCalendarChar c = true) :
    style.quoteChars body = '\'' :: body ++ ['\''] := by
  have hflat : body.flatMap style.escape = body := by
    induction body with
    | nil => rfl
    | cons c body ih =>
        obtain ⟨hc, hbody⟩ := List.forall_mem_cons.mp hbody
        obtain ⟨hquote, hbackslash⟩ := not_escaped_of_isCalendarChar hc
        rw [List.flatMap_cons, ih hbody]
        simp [StringStyle.escape, hquote, hbackslash]
  rw [StringStyle.quoteChars, hflat]

theorem readsExpression_temporal (style : TemporalStyle) {keyword : String}
    (hkeyword : isWordText keyword.toList = true) (has : keyword ≠ "AS") {body : List Char}
    (hbody : ∀ c ∈ body, isCalendarChar c = true) :
    ReadsExpression q (ofTemporal style keyword body) := by
  have htoken : tokens q ('\'' :: body ++ ['\'']) =
      some [.literal ('\'' :: body ++ ['\''])] := by
    rw [← quoteChars_of_calendar ⟨"", q.escapesBackslash⟩ hbody]
    exact tokens_literal rfl body
  cases style with
  | quoted =>
      have htokens : tokens q (ofTemporal .quoted keyword body).toList =
          some [.literal ('\'' :: body ++ ['\''])] := by
        rw [ofTemporal, String.toList_ofList]
        exact htoken
      refine readsExpression_of_tokens htokens ?_ (by simp) (by simp)
      simp [ofTemporal, Token.text]
  | typed =>
      have hword : Reads q keyword.toList [.leaf (.word keyword.toList)] := .word hkeyword
      have hliteral := hword.blank (Reads.of_token htoken (by simp))
      refine ⟨_, ⟨hliteral.of_eq ?_, ?_⟩, ?_⟩
      · simp [ofTemporal]
      · simp [ofTemporal, text, Tree.text, Token.text]
      · have hne : Tree.isWord "AS" (.leaf (.word keyword.toList)) = false :=
          isWord_of_ne fun heq => has (String.toList_inj.mp heq)
        rw [List.singleton_append, List.forall_mem_cons]
        refine ⟨hne, ?_⟩
        simp [Tree.isWord]

theorem mem_spaceForT {cs : List Char} {c : Char} (h : c ∈ spaceForT cs) : c = ' ' ∨ c ∈ cs := by
  induction cs with
  | nil => simp [spaceForT] at h
  | cons d cs ih =>
      rw [spaceForT] at h
      split at h
      · rcases List.mem_cons.mp h with rfl | h
        · exact .inl rfl
        · exact .inr (List.mem_cons_of_mem d h)
      · rcases List.mem_cons.mp h with rfl | h
        · exact .inr List.mem_cons_self
        · exact (ih h).imp_right (List.mem_cons_of_mem d)

theorem write?_of_write {c : Composition} {value literal : String} {type : LogicalType}
    (h : write c value type = .ok literal) : write? c value type = some literal := by
  unfold write at h
  split at h
  · rename_i found hfound
    rw [hfound, Except.ok.inj h]
  · simp at h

/-- Every literal of a composition is read as one expression by its own quotes. -/
theorem readsExpression_write {c : Composition} (hlead : FitsLead c.stringStyle.value.lead)
    {value literal : String} {type : LogicalType} (h : write c value type = .ok literal) :
    ReadsExpression (quotesOf c) literal := by
  have hwrite := write?_of_write h
  unfold write? at hwrite
  cases type with
  | string | object =>
      obtain rfl := Option.some.inj hwrite
      exact readsExpression_string rfl hlead value
  | integer | long =>
      obtain ⟨n, -, rfl⟩ := Option.map_eq_some_iff.mp hwrite
      exact readsExpression_int n
  | numeric | double =>
      obtain ⟨hdecimal, hliteral⟩ := Option.ite_none_right_eq_some.mp hwrite
      obtain rfl := Option.some.inj hliteral
      exact readsExpression_decimal _ hdecimal
  | boolean =>
      obtain ⟨b, -, rfl⟩ := Option.map_eq_some_iff.mp hwrite
      exact readsExpression_bool _ b
  | date =>
      obtain ⟨d, hd, rfl⟩ := Option.map_eq_some_iff.mp hwrite
      exact readsExpression_temporal _ (by decide) (by decide)
        (isCalendarChar_of_date? hd)
  | time =>
      obtain ⟨t, ht, rfl⟩ := Option.map_eq_some_iff.mp hwrite
      exact readsExpression_temporal _ (by decide) (by decide)
        (isCalendarChar_of_time? ht)
  | timestamp =>
      obtain ⟨pair, hpair, rfl⟩ := Option.map_eq_some_iff.mp hwrite
      refine readsExpression_temporal _ (by decide) (by decide) ?_
      intro ch hch
      rcases mem_spaceForT hch with rfl | hch
      · rfl
      · exact isCalendarChar_of_timestamp? hpair ch hch

end SqlDialects.Proofs.LiteralReading
