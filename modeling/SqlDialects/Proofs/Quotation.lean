import SqlDialects.Dialect
import SqlDialects.Proofs.BuiltinRegistry
import SqlDialects.Proofs.DecimalSpelling
import SqlDialects.Proofs.Tokens
import SqlDialects.Resolution

namespace SqlDialects.Proofs.Quotation

open BuiltinRegistry (exists_dialect_of_run)
open DecimalSpelling
open Text.Search (cut?)
open Tokens

/-- The meaning of what stands behind an opening quote, and the text behind the closing quote. -/
def unquote? (closing : Char) (escapes : Bool) (body : List Char) :
    Option (String × List Char) :=
  (readQuoted closing escapes body).map fun quoted =>
    (.ofList quoted.value, body.drop quoted.written.length)

theorem unquote?_doubled {closing : Char} {escapes : Bool} {rest : List Char}
    (hrest : rest.head? ≠ some closing) (value : String) :
    unquote? closing escapes
        (value.toList.flatMap (doubled closing escapes) ++ closing :: rest) =
      some (value, rest) := by
  have hbody : value.toList.flatMap (doubled closing escapes) ++ closing :: rest =
      value.toList.flatMap (doubled closing escapes) ++ [closing] ++ rest := by
    simp
  rw [unquote?, readQuoted_doubled hrest, Option.map_some, String.ofList_toList, hbody,
    List.drop_left]

theorem eq_of_readQuoted {closing : Char} {cs : List Char} {quoted : Quoted}
    (h : readQuoted closing false cs = some quoted) :
    ∃ rest, rest.head? ≠ some closing ∧
      quoted.written = quoted.value.flatMap (doubled closing false) ++ [closing] ∧
      cs = quoted.written ++ rest := by
  fun_induction readQuoted closing false cs generalizing quoted with
  | case1 => simp at h
  | case2 =>
      obtain rfl := Option.some.inj h
      exact ⟨[], by simp, rfl, rfl⟩
  | case3 => simp at h
  | case4 cs ih =>
      obtain ⟨inner, hinner, rfl⟩ := Option.map_eq_some_iff.mp h
      obtain ⟨rest, hrest, hwritten, rfl⟩ := ih hinner
      refine ⟨rest, hrest, ?_, by simp [Quoted.push]⟩
      simp [Quoted.push, hwritten, doubled]
  | case5 d cs hd =>
      obtain rfl := Option.some.inj h
      exact ⟨d :: cs, by simpa using hd, rfl, rfl⟩
  | case6 c d cs hc hbackslash => simp at hbackslash
  | case7 c d cs hc hbackslash ih =>
      obtain ⟨inner, hinner, rfl⟩ := Option.map_eq_some_iff.mp h
      obtain ⟨rest, hrest, hwritten, hcs⟩ := ih hinner
      refine ⟨rest, hrest, ?_, by simp [Quoted.push, hcs]⟩
      simp [Quoted.push, hwritten, doubled, hc]

theorem eq_of_unquote? {closing : Char} {body rest : List Char} {value : String}
    (h : unquote? closing false body = some (value, rest)) :
    rest.head? ≠ some closing ∧
      body = value.toList.flatMap (doubled closing false) ++ closing :: rest := by
  obtain ⟨quoted, hquoted, hpair⟩ := Option.map_eq_some_iff.mp h
  obtain ⟨rfl, hdrop⟩ := Prod.mk.inj hpair
  obtain ⟨tail, htail, hwritten, rfl⟩ := eq_of_readQuoted hquoted
  obtain rfl : tail = rest := by simpa using hdrop
  refine ⟨htail, ?_⟩
  rw [hwritten]
  simp

/-- Reads the string literal at the head of a text: what it means, and the text behind it. What
stands before the opening quote is passed over. -/
def readString (escapes : Bool) (cs : List Char) : Option (String × List Char) :=
  (cut? (· == '\'') cs).bind fun (_, body) => unquote? '\'' escapes body

theorem readString_quote {style : StringStyle} (hlead : '\'' ∉ style.lead.toList)
    {rest : List Char} (hrest : rest.head? ≠ some '\'') (value : String) :
    readString style.escapesBackslash ((style.quote value).toList ++ rest) =
      some (value, rest) := by
  have htext : (style.quote value).toList ++ rest =
      style.lead.toList ++ '\'' ::
        (value.toList.flatMap (doubled '\'' style.escapesBackslash) ++ '\'' :: rest) := by
    simp [StringStyle.quote, StringStyle.quoteChars, stringStyle_escape_eq]
  have hcut : ∀ c ∈ style.lead.toList, (c == '\'') = false := by
    intro c hc
    exact beq_false_of_ne (ne_of_mem_of_not_mem hc hlead)
  rw [htext, readString, cut?_append _ hcut rfl, Option.bind_some]
  exact unquote?_doubled hrest value

/-- A string literal delimits itself: whatever the value, and whatever follows except one more
quote, reading stops right behind the literal and gives the value. -/
theorem string_literal_delimits_itself (d : Dialect) (type : LogicalType)
    (hlead : '\'' ∉ d.composition.stringStyle.value.lead.toList)
    (htype : type = .string ∨ type = .object) :
    (∀ value, ∃ literal, d.literal value type = .ok literal ∧
      ∀ rest : List Char, rest.head? ≠ some '\'' →
        readString d.composition.stringStyle.value.escapesBackslash (literal.toList ++ rest) =
          some (value, rest)) ∧
      ∀ value other, d.literal value type = d.literal other type → value = other := by
  have hliteral : ∀ value,
      d.literal value type = .ok (d.composition.stringStyle.value.quote value) := by
    intro value
    rcases htype with rfl | rfl
    · rfl
    · rfl
  constructor
  · intro value
    refine ⟨_, hliteral value, ?_⟩
    intro rest hrest
    exact readString_quote hlead hrest value
  · intro value other hsame
    have hquote : d.composition.stringStyle.value.quote value =
        d.composition.stringStyle.value.quote other := by
      rw [hliteral value, hliteral other] at hsame
      exact Except.ok.inj hsame
    have hnil : ([] : List Char).head? ≠ some '\'' := by simp
    have hvalue := readString_quote hlead hnil value
    rw [hquote, readString_quote hlead hnil other] at hvalue
    exact (Prod.mk.inj (Option.some.inj hvalue)).1.symm

def runawayValue : String :=
  "'\\'', x\\\\' OR '1'='1\\"

theorem string_literal_runawayValue :
    ∃ registry d literal, Builtin.registrations.build = .ok registry ∧
      registry.resolveTag "mysql" (.ofProduct "MySQL" "5.7") = .ok d ∧
      d.composition.stringStyle.value = ⟨"", true⟩ ∧
      d.literal runawayValue .string = .ok literal ∧
      readString true (literal.toList ++ ", 'x'".toList) = some (runawayValue, ", 'x'".toList) := by
  obtain ⟨registry, d, hbuild, hd, hstyle⟩ :
      ∃ registry d, Builtin.registrations.build = .ok registry ∧
        registry.resolveTag "mysql" (.ofProduct "MySQL" "5.7") = .ok d ∧
        d.composition.stringStyle.value = ⟨"", true⟩ :=
    exists_dialect_of_run _ _ (fun d => d.composition.stringStyle.value) (by decide +kernel)
  obtain ⟨literal, hliteral, hread⟩ :=
    (string_literal_delimits_itself d .string (by simp [hstyle]) (.inl rfl)).1 runawayValue
  rw [hstyle] at hread
  exact ⟨registry, d, literal, hbuild, hd, hstyle, hliteral, hread _ (by decide)⟩

/-- Reads the quoted identifier at the head of a text: its name, and the text behind it. -/
def readName? (style : QuoteStyle) : List Char → Option (String × List Char)
  | [] => none
  | c :: body => if c = style.opening then unquote? style.closing false body else none

variable {style : QuoteStyle}

theorem readName?_eq_some_iff {cs rest : List Char} {name : String} :
    readName? style cs = some (name, rest) ↔
      rest.head? ≠ some style.closing ∧ cs = (style.quote name).toList ++ rest := by
  have htext : (style.quote name).toList ++ rest = style.opening ::
      (name.toList.flatMap (doubled style.closing false) ++ style.closing :: rest) := by
    simp [QuoteStyle.quote, QuoteStyle.quoteChars, quoteStyle_escape_eq]
  rw [htext]
  constructor
  · intro h
    cases cs with
    | nil => simp [readName?] at h
    | cons c body =>
        obtain ⟨rfl, hbody⟩ := Option.ite_none_right_eq_some.mp h
        obtain ⟨hrest, rfl⟩ := eq_of_unquote? hbody
        exact ⟨hrest, rfl⟩
  · rintro ⟨hrest, rfl⟩
    rw [readName?, if_pos rfl]
    exact unquote?_doubled hrest name

theorem quote_ne_empty (style : QuoteStyle) (name : String) : style.quote name ≠ "" := by
  simp [QuoteStyle.quote, QuoteStyle.quoteChars]

theorem length_of_readName? {cs rest : List Char} {name : String}
    (h : readName? style cs = some (name, rest)) : rest.length < cs.length := by
  obtain ⟨-, rfl⟩ := readName?_eq_some_iff.mp h
  have hpositive : 0 < (style.quote name).toList.length := by
    simpa [List.length_pos_iff] using quote_ne_empty style name
  rw [List.length_append]
  omega

/-- Reads one quoted identifier or more, with a point between each two of them, to the end of a
text. -/
def readNames? (style : QuoteStyle) (cs : List Char) : Option (List String) :=
  match _hread : readName? style cs with
  | none => none
  | some (name, []) => some [name]
  | some (name, c :: rest) => if c = '.' then (readNames? style rest).map (name :: ·) else none
termination_by cs.length
decreasing_by
  have hlength := length_of_readName? _hread
  rw [List.length_cons] at hlength
  omega

/-- Reads a qualified name to its end. An empty text has no parts. -/
def readQualified? (style : QuoteStyle) (cs : List Char) : Option (List String) :=
  if cs = [] then some [] else readNames? style cs

def qualified (style : QuoteStyle) (names : List String) : String :=
  ".".intercalate (names.map style.quote)

theorem point_ne_closing (style : QuoteStyle) : '.' ≠ style.closing := by
  cases style <;> decide

theorem readNames?_eq (cs : List Char) :
    readNames? style cs =
      match readName? style cs with
      | none => none
      | some (name, []) => some [name]
      | some (name, c :: rest) =>
          if c = '.' then (readNames? style rest).map (name :: ·) else none := by
  rw [readNames?]
  split
  · rename_i hread
    rw [hread]
  · rename_i hread
    rw [hread]
  · rename_i hread
    rw [hread]

theorem readNames?_qualified (name : String) (names : List String) :
    readNames? style (qualified style (name :: names)).toList = some (name :: names) := by
  induction names generalizing name with
  | nil =>
      have hread : readName? style (qualified style [name]).toList = some (name, []) := by
        rw [readName?_eq_some_iff]
        exact ⟨by simp, by simp [qualified]⟩
      rw [readNames?_eq, hread]
  | cons other names ih =>
      have hread : readName? style (qualified style (name :: other :: names)).toList =
          some (name, '.' :: (qualified style (other :: names)).toList) := by
        rw [readName?_eq_some_iff]
        refine ⟨by simpa using point_ne_closing style, ?_⟩
        simp [qualified, String.intercalate_cons_cons]
      rw [readNames?_eq, hread]
      simp [ih other]

theorem eq_of_readNames? {cs : List Char} {names : List String}
    (h : readNames? style cs = some names) :
    names ≠ [] ∧ cs = (qualified style names).toList := by
  fun_induction readNames? style cs generalizing names with
  | case1 => simp at h
  | case2 cs name hname =>
      obtain rfl := Option.some.inj h
      obtain ⟨-, rfl⟩ := readName?_eq_some_iff.mp hname
      simp [qualified]
  | case3 cs name rest hname ih =>
      obtain ⟨inner, hinner, rfl⟩ := Option.map_eq_some_iff.mp h
      obtain ⟨hne, hrest⟩ := ih hinner
      obtain ⟨-, hcs⟩ := readName?_eq_some_iff.mp hname
      obtain ⟨other, inner, rfl⟩ := List.exists_cons_of_ne_nil hne
      refine ⟨by simp, ?_⟩
      rw [hcs, hrest]
      simp [qualified, String.intercalate_cons_cons]
  | case4 => simp at h

theorem qualified_eq_nil_iff {names : List String} :
    (qualified style names).toList = [] ↔ names = [] := by
  cases names with
  | nil => simp [qualified]
  | cons name names =>
      cases names with
      | nil => simp [qualified, quote_ne_empty]
      | cons other names => simp [qualified, String.intercalate_cons_cons]

/-- A text is read as a qualified name just if it is written as one, and in no other way. -/
theorem readQualified?_eq_some_iff {cs : List Char} {names : List String} :
    readQualified? style cs = some names ↔ cs = (qualified style names).toList := by
  unfold readQualified?
  split
  · rename_i hnil
    rw [hnil, eq_comm (a := []), qualified_eq_nil_iff, Option.some.injEq, eq_comm]
  · rename_i hne
    constructor
    · intro h
      exact (eq_of_readNames? h).2
    · rintro rfl
      have hnames : names ≠ [] := fun hnames => hne (qualified_eq_nil_iff.mpr hnames)
      obtain ⟨name, others, rfl⟩ := List.exists_cons_of_ne_nil hnames
      exact readNames?_qualified name others

/-- A qualified name falls into its parts: it is read as the list of those that are not empty, and
one identifier is one part, whatever points and quotes it has. What is read is just what is written
as parts with a point between each two of them. -/
theorem qualified_name_falls_into_parts (d : Dialect) :
    (∀ parts, readQualified? d.composition.quoteStyle.value (d.quoteQualified parts).toList =
      some (parts.filter fun part => !part.isEmpty)) ∧
    (∀ name, readQualified? d.composition.quoteStyle.value (d.quoteIdentifier name).toList =
      some [name]) ∧
    Function.Injective d.quoteIdentifier ∧
    ∀ cs names, readQualified? d.composition.quoteStyle.value cs = some names ↔
      cs = (".".intercalate (names.map d.quoteIdentifier)).toList := by
  have hsingle : ∀ name, readQualified? d.composition.quoteStyle.value
      (d.quoteIdentifier name).toList = some [name] := by
    intro name
    rw [readQualified?_eq_some_iff]
    simp [qualified, Dialect.quoteIdentifier]
  refine ⟨?_, hsingle, ?_, ?_⟩
  · intro parts
    rw [readQualified?_eq_some_iff]
    rfl
  · intro name other hsame
    have hname := hsingle name
    rw [hsame, hsingle other] at hname
    exact (List.singleton_inj.mp (Option.some.inj hname)).symm
  · intro cs names
    exact readQualified?_eq_some_iff

example : readQualified? .bracket "[a.]]].[[b]".toList = some ["a.]", "[b"] :=
  readQualified?_eq_some_iff.mpr (by decide)

end SqlDialects.Proofs.Quotation
