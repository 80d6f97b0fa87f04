import Mathlib.Data.List.Forall2
import SqlDialects.Proofs.JsonNumbers

namespace SqlDialects.Proofs.JsonTokens

open Json (escape quoted compact compactItems compactMembers indented indentedItems
  indentedMembers bracketed stacked lineStart)
open JsonReader

variable {a b cs front back : List Char} {ts us : List Token} {t u : Token}

theorem hex?_digits {n : Nat} (h : n < 32) :
    hex? ['0', '0', Nat.digitChar (n / 16), Nat.digitChar (n % 16)] = some n := by
  have hall : ∀ n < 32,
      hex? ['0', '0', Nat.digitChar (n / 16), Nat.digitChar (n % 16)] = some n := by decide
  exact hall n h

theorem readQuoted_escape (c : Char) (rest : List Char) :
    readQuoted (escape c ++ rest) =
      (readQuoted rest).map (.push c.toNat (escape c).length) := by
  unfold escape
  -- The characters with a letter of their own after the backslash.
  iterate 7
    split
    · subst_vars
      rfl
  split
  · rename_i hcontrol
    show (hex? ['0', '0', Nat.digitChar (c.toNat / 16), Nat.digitChar (c.toNat % 16)]).bind _ = _
    rw [hex?_digits hcontrol]
    rfl
  · rename_i hquote hbackslash _ _ _ _ _ hcontrol
    rw [List.singleton_append, readQuoted]
    · rw [if_neg hcontrol]
      rfl
    · exact hquote
    · simp [hbackslash]
    · simp [hbackslash]

theorem readQuoted_escaped (s rest : List Char) :
    readQuoted (s.flatMap escape ++ '"' :: rest) =
      some ⟨s.map Char.toNat, (s.flatMap escape).length + 1⟩ := by
  induction s with
  | nil => rfl
  | cons c s ih =>
      rw [List.flatMap_cons, List.append_assoc, readQuoted_escape, ih]
      simp [Quoted.push, Nat.add_assoc]

theorem characters?_map (s : List Char) : characters? (s.map Char.toNat) = some s := by
  induction s with
  | nil => rfl
  | cons c s ih =>
      have hvalid : c.toNat.isValidChar := c.valid
      cases s with
      | nil => simp [characters?, hvalid]
      | cons d s =>
          rw [List.map_cons, List.map_cons, characters?, if_pos hvalid, ← List.map_cons, ih]
          simp

/-- A text before which a token ends: it is empty or begins with a mark or a blank. -/
def Delimited (cs : List Char) : Prop :=
  ∀ c ∈ cs.head?, (mark? c).isSome = true

def solid (ts : List Token) : List Token :=
  ts.filter (· ≠ .blank)

/-- A text that has some tokens besides blanks, whatever follows it. -/
def Lexes (cs : List Char) (ts : List Token) : Prop :=
  ∃ all, solid all = ts ∧ ∀ rest, Delimited rest →
    tokensFrom 0 (cs ++ rest) = (tokensFrom 0 rest).map (all ++ ·)

theorem Lexes.tokens_eq (h : Lexes cs ts) : tokens cs = some ts := by
  obtain ⟨all, rfl, hall⟩ := h
  have htokens := hall [] (by simp [Delimited])
  rw [List.append_nil] at htokens
  simp [tokens, htokens, tokensFrom, solid]

theorem Delimited.of_mark {c : Char} (h : mark? c = some t) (rest : List Char) :
    Delimited (c :: rest) := by
  simp [Delimited, h]

theorem Delimited.append (ha : Delimited a) (hb : Delimited b) : Delimited (a ++ b) := by
  cases a with
  | nil => exact hb
  | cons c a => exact ha

theorem Lexes.nil : Lexes [] [] :=
  ⟨[], rfl, by simp⟩

theorem Lexes.append (ha : Lexes a ts) (hb : Lexes b us) (hdelimited : Delimited b) :
    Lexes (a ++ b) (ts ++ us) := by
  obtain ⟨before, rfl, hbefore⟩ := ha
  obtain ⟨after, rfl, hafter⟩ := hb
  refine ⟨before ++ after, List.filter_append .., ?_⟩
  intro rest hrest
  rw [List.append_assoc, hbefore _ (hdelimited.append hrest), hafter rest hrest, Option.map_map]
  simp [Function.comp_def]

theorem tokensFrom_mark {c : Char} (h : mark? c = some t) (rest : List Char) :
    tokensFrom 0 (c :: rest) = (tokensFrom 0 rest).map (t :: ·) := by
  have hquote : c ≠ '"' := by
    rintro rfl
    simp [mark?] at h
  rw [tokensFrom, if_neg hquote, h]

theorem mark?_ne_word (c : Char) (cs : List Char) : mark? c ≠ some (.word cs) := by
  unfold mark?
  grind

/-- No token goes on over a mark, so what stands behind it does not matter. -/
theorem Lexes.cons (hb : Lexes b us) {c : Char} (h : mark? c = some t) :
    Lexes (c :: b) (solid [t] ++ us) := by
  obtain ⟨all, rfl, hall⟩ := hb
  refine ⟨t :: all, List.filter_append [t] all, ?_⟩
  intro rest hrest
  rw [List.cons_append, tokensFrom_mark h, hall rest hrest, Option.map_map]
  rfl

theorem Lexes.mark (hb : Lexes b us) {c : Char} (h : mark? c = some t) (ht : t ≠ .blank) :
    Lexes (c :: b) (t :: us) := by
  have hsolid : solid [t] = [t] := by simp [solid, ht]
  have hcons := hb.cons h
  rwa [hsolid] at hcons

def AllBlank (cs : List Char) : Prop :=
  ∀ c ∈ cs, mark? c = some .blank

theorem AllBlank.nil : AllBlank [] := by
  simp [AllBlank]

theorem AllBlank.append_delimited (h : AllBlank front) (hb : Delimited b) :
    Delimited (front ++ b) := by
  apply Delimited.append
  · intro c hc
    simp [h c (List.mem_of_mem_head? hc)]
  · exact hb

theorem Lexes.blanks (hb : Lexes b us) (h : AllBlank front) : Lexes (front ++ b) us := by
  induction front with
  | nil => exact hb
  | cons c front ih =>
      obtain ⟨hc, hfront⟩ := List.forall_mem_cons.mp h
      exact (ih hfront).cons hc

theorem extend_of_delimited {rest : List Char} (h : Delimited rest) (c : Char) :
    (tokensFrom 0 rest).map (extend c) = (tokensFrom 0 rest).map (.word [c] :: ·) := by
  cases rest with
  | nil => rfl
  | cons d rest =>
      obtain ⟨t, ht⟩ := Option.isSome_iff_exists.mp (h d rfl)
      rw [tokensFrom_mark ht, Option.map_map, Option.map_map]
      congr 1
      funext more
      cases t with
      | word cs => exact absurd ht (mark?_ne_word d cs)
      | _ => rfl

/-- A character that can stand in a word. -/
def IsPlain (c : Char) : Prop :=
  c ≠ '"' ∧ mark? c = none

theorem isPlain_of_all (h : cs.all (fun c => c != '"' && mark? c == none) = true) :
    ∀ c ∈ cs, IsPlain c := by
  intro c hc
  simpa [IsPlain] using List.all_eq_true.mp h c hc

theorem lexes_word (hne : cs ≠ []) (h : ∀ c ∈ cs, IsPlain c) : Lexes cs [.word cs] := by
  refine ⟨[.word cs], rfl, ?_⟩
  intro rest hrest
  -- What follows the word matters for its last character only.
  induction cs with
  | nil => exact absurd rfl hne
  | cons c cs ih =>
      obtain ⟨⟨hquote, hmark⟩, hcs⟩ := List.forall_mem_cons.mp h
      rw [List.cons_append, tokensFrom, if_neg hquote, hmark]
      cases cs with
      | nil => exact extend_of_delimited hrest c
      | cons d cs =>
          show (tokensFrom 0 (d :: cs ++ rest)).map (extend c) = _
          rw [ih (List.cons_ne_nil d cs) hcs, Option.map_map]
          rfl

theorem tokensFrom_append (a b : List Char) : tokensFrom a.length (a ++ b) = tokensFrom 0 b := by
  induction a with
  | nil => rfl
  | cons c a ih => exact ih

theorem lexes_quoted (s : String) : Lexes (quoted s).toList [.string s] := by
  refine ⟨[.string s], rfl, ?_⟩
  intro rest _
  have hskip := tokensFrom_append (s.toList.flatMap escape ++ ['"']) rest
  rw [List.length_append, List.append_assoc] at hskip
  rw [quoted, String.toList_ofList, List.cons_append, List.cons_append, List.append_assoc,
    List.singleton_append, tokensFrom, if_pos rfl, readQuoted_escaped, Option.bind_some,
    characters?_map, Option.bind_some, String.ofList_toList]
  exact congrArg (Option.map (Token.string s :: ·)) hskip

/-- Tokens with commas between them. -/
def separated : List (List Token) → List Token
  | [] => []
  | [ts] => ts
  | ts :: next :: more => ts ++ .comma :: separated (next :: more)

theorem lexes_separated {separator : String} {texts : List String} {tss : List (List Token)}
    (hseparator : separator.toList = ',' :: front) (hfront : AllBlank front)
    (h : List.Forall₂ (fun text ts => Lexes text.toList ts) texts tss) :
    Lexes (separator.intercalate texts).toList (separated tss) := by
  induction h with
  | nil => exact .nil
  | @cons text ts texts tss htext htexts ih =>
      cases htexts with
      | nil => simpa [separated] using htext
      | cons hnext hmore =>
          have hbehind := (ih.blanks hfront).mark (c := ',') rfl (by decide)
          have hall := htext.append hbehind (.of_mark rfl _)
          simpa [String.intercalate_cons_cons, hseparator, separated] using hall

/-- Marks between which items stand. -/
structure Encloses (opening closing : Char) (t u : Token) : Prop where
  opens : mark? opening = some t
  closes : mark? closing = some u
  opens_solid : t ≠ .blank
  closes_solid : u ≠ .blank

theorem brackets_enclose : Encloses '[' ']' .openArray .closeArray :=
  ⟨rfl, rfl, by decide, by decide⟩

theorem braces_enclose : Encloses '\x7b' '\x7d' .openObject .closeObject :=
  ⟨rfl, rfl, by decide, by decide⟩

variable {opening closing : Char}

theorem Encloses.lexes (hmarks : Encloses opening closing t u) (hfront : AllBlank front)
    (hback : AllBlank back) (h : Lexes cs ts) :
    Lexes (opening :: (front ++ (cs ++ (back ++ [closing])))) (t :: (ts ++ [u])) := by
  have hend := (Lexes.nil.mark hmarks.closes hmarks.closes_solid).blanks hback
  have hdelimited := hback.append_delimited (.of_mark hmarks.closes [])
  exact ((h.append hend hdelimited).blanks hfront).mark hmarks.opens hmarks.opens_solid

mutual

/-- The tokens of a value, with no blank among them. -/
def flat : Json → List Token
  | .null => [.word "null".toList]
  | .bool true => [.word "true".toList]
  | .bool false => [.word "false".toList]
  | .number mantissa places => [.word (Json.numeral mantissa places).toList]
  | .string s => [.string s]
  | .array items => .openArray :: (separated (flatItems items) ++ [.closeArray])
  | .object members => .openObject :: (separated (flatMembers members) ++ [.closeObject])

def flatItems : List Json → List (List Token)
  | [] => []
  | item :: rest => flat item :: flatItems rest

def flatMembers : List (String × Json) → List (List Token)
  | [] => []
  | (name, value) :: rest => (.string name :: .colon :: flat value) :: flatMembers rest

end

theorem isPlain_of_isDigit {c : Char} (h : c.isDigit = true) : IsPlain c := by
  have hall : ∀ c ∈ "0123456789".toList, IsPlain c := isPlain_of_all (by decide)
  exact hall c (LiteralCharacters.mem_digitLetters_iff.mpr h)

theorem lexes_numeral (n : Int) (places : Nat) :
    Lexes (Json.numeral n places).toList [.word (Json.numeral n places).toList] := by
  obtain ⟨fraction, tail, htail, -, -, hnumeral⟩ := JsonNumbers.exists_writes_numeral n places
  have hdigits : ∀ {digits : List Char}, Numeral.allDigits digits = true →
      ∀ c ∈ digits, IsPlain c := by
    intro digits h c hc
    exact isPlain_of_isDigit (List.all_eq_true.mp h c hc)
  have hminus : ∀ negative, ∀ c ∈ JsonNumbers.minus negative, IsPlain c := by
    intro negative
    apply isPlain_of_all
    cases negative <;> rfl
  have hfraction : ∀ c ∈ tail, IsPlain c := by
    cases htail with
    | none => simp
    | point _ h => exact List.forall_mem_cons.mpr ⟨⟨by decide, rfl⟩, hdigits h⟩
  rw [hnumeral]
  apply lexes_word
  · simp
  · rw [List.forall_mem_append, List.forall_mem_append]
    exact ⟨hminus _, hdigits (IntegerSpelling.allDigits_natRepr _), hfraction⟩

theorem lexes_bracketed (hmarks : Encloses opening closing t u) {texts : List String}
    {tss : List (List Token)} (h : List.Forall₂ (fun text ts => Lexes text.toList ts) texts tss) :
    Lexes (bracketed (.singleton opening) texts (.singleton closing)).toList
      (t :: (separated tss ++ [u])) := by
  have hseparator : ",".toList = [','] := rfl
  have hinner := lexes_separated hseparator .nil h
  simpa [bracketed] using hmarks.lexes .nil .nil hinner

theorem toList_lineStart (depth : Nat) :
    (lineStart depth).toList = '\n' :: List.replicate (2 * depth) ' ' := by
  simp [lineStart]

theorem allBlank_lineStart (depth : Nat) : AllBlank (lineStart depth).toList := by
  rw [toList_lineStart, AllBlank, List.forall_mem_cons]
  refine ⟨rfl, ?_⟩
  intro c hc
  rw [List.eq_of_mem_replicate hc]
  rfl

theorem lexes_stacked (hmarks : Encloses opening closing t u) {texts : List String}
    {tss : List (List Token)} (h : List.Forall₂ (fun text ts => Lexes text.toList ts) texts tss)
    (depth : Nat) :
    Lexes (stacked depth (.singleton opening) texts (.singleton closing)).toList
      (t :: (separated tss ++ [u])) := by
  unfold stacked
  split
  · rename_i hempty
    obtain rfl := List.isEmpty_iff.mp hempty
    cases h
    simpa [separated] using hmarks.lexes .nil .nil .nil
  · have hseparator : ("," ++ lineStart (depth + 1)).toList =
        ',' :: (lineStart (depth + 1)).toList := by simp
    have hinner := lexes_separated hseparator (allBlank_lineStart (depth + 1)) h
    simpa using hmarks.lexes (allBlank_lineStart (depth + 1)) (allBlank_lineStart depth) hinner

theorem lexes_member {separator text : String} (hseparator : separator.toList = ':' :: front)
    (hfront : AllBlank front) (name : String) (h : Lexes text.toList ts) :
    Lexes (quoted name ++ separator ++ text).toList (.string name :: .colon :: ts) := by
  have hvalue := (h.blanks hfront).mark (c := ':') rfl (by decide)
  simpa [hseparator] using (lexes_quoted name).append hvalue (.of_mark rfl _)

mutual

theorem lexes_compact (j : Json) : Lexes (compact j).toList (flat j) := by
  cases j with
  | null => exact lexes_word (by decide) (isPlain_of_all (by decide))
  | bool b =>
      cases b with
      | true => exact lexes_word (by decide) (isPlain_of_all (by decide))
      | false => exact lexes_word (by decide) (isPlain_of_all (by decide))
  | number mantissa places => exact lexes_numeral mantissa places
  | string s => exact lexes_quoted s
  | array items => exact lexes_bracketed brackets_enclose (lexes_compactItems items)
  | object members => exact lexes_bracketed braces_enclose (lexes_compactMembers members)

theorem lexes_compactItems (items : List Json) :
    List.Forall₂ (fun text ts => Lexes text.toList ts) (compactItems items) (flatItems items) := by
  cases items with
  | nil => exact .nil
  | cons item rest => exact .cons (lexes_compact item) (lexes_compactItems rest)

theorem lexes_compactMembers (members : List (String × Json)) :
    List.Forall₂ (fun text ts => Lexes text.toList ts) (compactMembers members)
      (flatMembers members) := by
  match members with
  | [] => exact .nil
  | (name, value) :: rest =>
      refine .cons ?_ (lexes_compactMembers rest)
      have hseparator : ":".toList = [':'] := rfl
      exact lexes_member hseparator .nil name (lexes_compact value)

end

mutual

theorem lexes_indented (depth : Nat) (j : Json) : Lexes (indented depth j).toList (flat j) := by
  cases j with
  | null => exact lexes_compact .null
  | bool b => cases b <;> exact lexes_compact (.bool _)
  | number mantissa places => exact lexes_numeral mantissa places
  | string s => exact lexes_quoted s
  | array items =>
      exact lexes_stacked brackets_enclose (lexes_indentedItems (depth + 1) items) depth
  | object members =>
      exact lexes_stacked braces_enclose (lexes_indentedMembers (depth + 1) members) depth

theorem lexes_indentedItems (depth : Nat) (items : List Json) :
    List.Forall₂ (fun text ts => Lexes text.toList ts) (indentedItems depth items)
      (flatItems items) := by
  cases items with
  | nil => exact .nil
  | cons item rest => exact .cons (lexes_indented depth item) (lexes_indentedItems depth rest)

theorem lexes_indentedMembers (depth : Nat) (members : List (String × Json)) :
    List.Forall₂ (fun text ts => Lexes text.toList ts) (indentedMembers depth members)
      (flatMembers members) := by
  match members with
  | [] => exact .nil
  | (name, value) :: rest =>
      refine .cons ?_ (lexes_indentedMembers depth rest)
      have hseparator : ": ".toList = ':' :: [' '] := rfl
      have hspace : AllBlank [' '] := List.forall_mem_singleton.mpr rfl
      exact lexes_member hseparator hspace name (lexes_indented depth value)

end

end SqlDialects.Proofs.JsonTokens
