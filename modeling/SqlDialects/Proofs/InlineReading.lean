import Mathlib.Data.List.Forall2
import Mathlib.Data.List.TakeWhile
import SqlDialects.Proofs.InlineReader
import SqlDialects.Proofs.LiteralCharacters

namespace SqlDialects.Proofs.InlineReading

open InlineReader
open LiteralCharacters
open Tokens
open Trees

variable {q : Quotes} {α : Type}

/-- A word that is part of the language and not of what is said in it. -/
def keyword (w : String) : Tree :=
  .leaf (.word w.toList)

@[simp] theorem isWord_keyword (w v : String) :
    Tree.isWord w (keyword v) = decide (v = w) := by
  simp [Tree.isWord, keyword, String.toList_inj]

@[simp] theorem isWord_mark (w : String) (c : Char) : Tree.isWord w (.leaf (.mark c)) = false := rfl

@[simp] theorem isWord_identifier (w : String) (name : List Char) :
    Tree.isWord w (.leaf (.identifier name)) = false := rfl

@[simp] theorem isWord_group (w : String) (inner : List Tree) :
    Tree.isWord w (.group inner) = false := rfl

@[simp] theorem isMark_keyword (c : Char) (w : String) : Tree.isMark c (keyword w) = false := rfl

@[simp] theorem isMark_mark (c d : Char) : Tree.isMark c (.leaf (.mark d)) = decide (d = c) := rfl

@[simp] theorem isMark_identifier (c : Char) (name : List Char) :
    Tree.isMark c (.leaf (.identifier name)) = false := rfl

@[simp] theorem isMark_group (c : Char) (inner : List Tree) :
    Tree.isMark c (.group inner) = false := rfl

theorem reads_keyword (w : String) (h : isWordText w.toList = true) :
    Reads q w.toList [keyword w] :=
  .word h

/-- A text that reads as some trees once the blanks are left out. -/
def ReadsAs (q : Quotes) (cs : List Char) (trees : List Tree) : Prop :=
  ∃ all, Reads q cs all ∧ solid all = trees

theorem solid_append (as bs : List Tree) : solid (as ++ bs) = solid as ++ solid bs :=
  List.filter_append as bs

theorem ReadsAs.of_eq {a b : List Char} {trees : List Tree} (h : ReadsAs q b trees) (heq : a = b) :
    ReadsAs q a trees := by
  rw [heq]
  exact h

theorem ReadsAs.nil : ReadsAs q [] [] :=
  ⟨[], .nil, rfl⟩

theorem readsAs_keyword (w : String) (h : isWordText w.toList = true) :
    ReadsAs q w.toList [keyword w] :=
  ⟨_, reads_keyword w h, rfl⟩

theorem ReadsAs.identifier (name : String) :
    ReadsAs q (q.style.quote name).toList [.leaf (.identifier name.toList)] := by
  rw [QuoteStyle.quote, String.toList_ofList]
  exact ⟨_, .identifier name.toList, rfl⟩

theorem ReadsAs.blank {a b : List Char} {as bs : List Tree} (ha : ReadsAs q a as)
    (hb : ReadsAs q b bs) : ReadsAs q (a ++ ' ' :: b) (as ++ bs) := by
  obtain ⟨before, hbefore, rfl⟩ := ha
  obtain ⟨behind, hbehind, rfl⟩ := hb
  exact ⟨_, hbefore.blank hbehind, solid_append before _⟩

theorem ReadsAs.comma {a b : List Char} {as bs : List Tree} (ha : ReadsAs q a as)
    (hb : ReadsAs q b bs) : ReadsAs q (a ++ ',' :: b) (as ++ .leaf (.mark ',') :: bs) := by
  obtain ⟨before, hbefore, rfl⟩ := ha
  obtain ⟨behind, hbehind, rfl⟩ := hb
  exact ⟨_, hbefore.comma hbehind, solid_append before _⟩

theorem ReadsAs.group {a inner b : List Char} {as is bs : List Tree} (ha : ReadsAs q a as)
    (hinner : Reads q inner is) (hb : ReadsAs q b bs) :
    ReadsAs q (a ++ '(' :: (inner ++ ')' :: b)) (as ++ .group is :: bs) := by
  obtain ⟨before, hbefore, rfl⟩ := ha
  obtain ⟨behind, hbehind, rfl⟩ := hb
  exact ⟨_, hbefore.group hinner hbehind, solid_append before _⟩

/-- Whether a tree is a word that ends the items of a SELECT, a branch of a union or the rows. -/
def isClause (tree : Tree) : Bool :=
  Tree.isWord "FROM" tree || Tree.isWord "UNION" tree || Tree.isWord "ORDER" tree

/-- A text that reads as something wherever an item may stand. -/
def ReadsItem (q : Quotes) (read : List Tree → Option α) (cs : List Char) (a : α) : Prop :=
  ∃ trees, ReadsAs q cs trees ∧ (∀ tree ∈ trees, isClause tree = false) ∧
    (∀ tree ∈ trees, Tree.isMark ',' tree = false) ∧ read trees = some a

theorem readsAs_listed {read : List Tree → Option α} {items : List String} {as : List α}
    (h : List.Forall₂ (fun item a => ReadsItem q read item.toList a) items as)
    (hne : items ≠ []) :
    ∃ trees, ReadsAs q (Dialect.listed items).toList trees ∧
      (∀ tree ∈ trees, isClause tree = false) ∧ readList read trees = some as := by
  induction h with
  | nil => exact absurd rfl hne
  | @cons item a items as hitem hitems ih =>
      obtain ⟨trees, htrees, hclause, hcomma, hread⟩ := hitem
      rcases hitems with _ | ⟨hnext, hitems⟩
      · refine ⟨trees, by simpa [Dialect.listed] using htrees, hclause, ?_⟩
        rw [readList, List.splitOnP_eq_singleton hcomma]
        simp [hread]
      · obtain ⟨others, hothers, hothersClause, hothersRead⟩ := ih (by simp)
        refine ⟨trees ++ .leaf (.mark ',') :: others, ?_, ?_, ?_⟩
        · have hlist := htrees.comma (ReadsAs.nil.blank hothers)
          simpa [Dialect.listed, String.intercalate_cons_cons] using hlist
        · intro tree hmem
          rcases List.mem_append.mp hmem with hmem | hmem
          · exact hclause tree hmem
          · rcases List.mem_cons.mp hmem with rfl | hmem
            · rfl
            · exact hothersClause tree hmem
        · rw [readList, List.splitOnP_append_cons_of_forall_mem hcomma _ rfl, List.mapM_cons, hread]
          rw [readList] at hothersRead
          simp [hothersRead]

theorem cutAs_eq {expression target : List Tree}
    (h : ∀ tree ∈ expression, Tree.isWord "AS" tree = false) :
    cutAs (expression ++ .leaf (.mark ' ') :: keyword "AS" :: .leaf (.mark ' ') :: target) =
      some (expression, target) := by
  induction expression with
  | nil => rfl
  | cons tree expression ih =>
      obtain ⟨htree, hexpression⟩ := List.forall_mem_cons.mp h
      have hrest := ih hexpression
      -- The cut looks three trees ahead, so how much of the expression is left matters.
      rcases expression with _ | ⟨next, expression⟩
      · rw [List.nil_append] at hrest
        rw [List.singleton_append, cutAs, hrest]
        simp
      · obtain ⟨hnext, -⟩ := List.forall_mem_cons.mp hexpression
        rcases expression with _ | ⟨third, expression⟩
        · simp only [List.cons_append, List.nil_append] at hrest ⊢
          rw [cutAs, hrest]
          simp [hnext]
        · simp only [List.cons_append] at hrest ⊢
          rw [cutAs, hrest]
          simp [hnext]

theorem after_keyword (w : String) (rest : List Tree) :
    after w (keyword w :: rest) = some rest := by
  simp [after]

def castSql (c : Cast) : String :=
  "CAST(" ++ c.expression ++ " AS " ++ c.target ++ ")"

/-- A text that is read again as it is written. -/
def ReadsBack (q : Quotes) (s : String) (trees : List Tree) : Prop :=
  Reads q s.toList trees ∧ text q trees = s.toList

/-- An expression that is read again as it is written, and in which no AS stands. -/
def ReadsExpression (q : Quotes) (s : String) : Prop :=
  ∃ trees, ReadsBack q s trees ∧ ∀ tree ∈ trees, Tree.isWord "AS" tree = false

/-- A cast whose parts are read again as they are written. -/
structure Readable (q : Quotes) (c : Cast) : Prop where
  expression : ReadsExpression q c.expression
  target : ∃ trees, ReadsBack q c.target trees

theorem exists_cast_trees {c : Cast} (h : Readable q c) :
    ∃ inner, ReadsAs q (castSql c).toList [keyword "CAST", .group inner] ∧
      readCast q [keyword "CAST", .group inner] = some c := by
  obtain ⟨⟨expression, ⟨hexpression, htext⟩, has⟩, ⟨target, htarget, htargetText⟩⟩ := h
  have hword := reads_keyword (q := q) "AS" (by decide)
  have hinner := hexpression.blank (hword.blank htarget)
  refine ⟨expression ++ .leaf (.mark ' ') :: keyword "AS" :: .leaf (.mark ' ') :: target, ?_, ?_⟩
  · have hcast := (readsAs_keyword (q := q) "CAST" (by decide)).group hinner .nil
    simpa [castSql] using hcast
  · rw [readCast, cutAs_eq has]
    simp [htext, htargetText]

theorem readsItem_cast {c : Cast} (h : Readable q c) :
    ReadsItem q (readCast q) (castSql c).toList c := by
  obtain ⟨inner, hinner, hread⟩ := exists_cast_trees h
  refine ⟨_, hinner, ?_, ?_, hread⟩
  · simp [isClause]
  · simp

theorem readsItem_named {c : Cast} (h : Readable q c) (name : String) :
    ReadsItem q (readNamedCast q) (castSql c ++ " AS " ++ q.style.quote name).toList (c, name) := by
  obtain ⟨inner, hinner, hread⟩ := exists_cast_trees h
  have hword := readsAs_keyword (q := q) "AS" (by decide)
  have hnamed := hinner.blank (hword.blank (.identifier name))
  refine ⟨[keyword "CAST", .group inner, keyword "AS", .leaf (.identifier name.toList)],
    by simpa using hnamed, ?_, ?_, ?_⟩
  · simp [isClause]
  · simp
  · have has : Tree.isWord "AS" (keyword "AS") = true := by simp
    rw [readNamedCast, if_pos has, hread]
    simp

theorem readsItem_name (name : String) :
    ReadsItem q readName (q.style.quote name).toList name := by
  refine ⟨_, .identifier name, ?_, ?_, ?_⟩
  · simp [isClause]
  · simp
  · simp [readName]

theorem readsItem_row {row : List Cast} (hne : row ≠ []) (hrow : ∀ c ∈ row, Readable q c) :
    ReadsItem q (readRow q) ("(" ++ Dialect.listed (row.map castSql) ++ ")").toList row := by
  have hitems : List.Forall₂ (fun item c => ReadsItem q (readCast q) item.toList c)
      (row.map castSql) row := by
    rw [List.forall₂_map_left_iff, List.forall₂_same]
    intro c hc
    exact readsItem_cast (hrow c hc)
  obtain ⟨trees, ⟨all, hall, rfl⟩, -, hread⟩ := readsAs_listed hitems (by simpa using hne)
  have hgroup := ReadsAs.nil.group hall .nil
  refine ⟨_, by simpa using hgroup, ?_, ?_, ?_⟩
  · simp [isClause]
  · simp
  · simpa [readRow] using hread

theorem clause_words {tree : Tree} (h : isClause tree = false) :
    Tree.isWord "FROM" tree = false ∧ Tree.isWord "UNION" tree = false ∧
      Tree.isWord "ORDER" tree = false := by
  simpa [isClause, and_assoc] using h

/-- What may follow the items of a SELECT: nothing, or a FROM clause that neither begins another
branch nor an order. -/
def EndsSelect (q : Quotes) (clause : String) : Prop :=
  clause = "" ∨ ∃ table trees, clause = " FROM " ++ table ∧ ReadsAs q table.toList trees ∧
    ∀ tree ∈ trees, Tree.isWord "UNION" tree = false ∧ Tree.isWord "ORDER" tree = false

/-- A text that reads as a SELECT wherever a branch of a union may stand. -/
def ReadsSelect (q : Quotes) (read : List Tree → Option α) (cs : List Char) (as : List α) : Prop :=
  ∃ trees, ReadsAs q cs trees ∧
    (∀ tree ∈ trees, Tree.isWord "UNION" tree = false ∧ Tree.isWord "ORDER" tree = false) ∧
    readSelect read trees = some as

theorem readsSelect_listed {read : List Tree → Option α} {items : List String} {as : List α}
    {clause : String} (h : List.Forall₂ (fun item a => ReadsItem q read item.toList a) items as)
    (hne : items ≠ []) (hclause : EndsSelect q clause) :
    ReadsSelect q read ("SELECT " ++ Dialect.listed items ++ clause).toList as := by
  obtain ⟨trees, htrees, hitems, hread⟩ := readsAs_listed h hne
  have hfrom : ∀ tree ∈ trees, (!Tree.isWord "FROM" tree) = true := by
    intro tree hmem
    simp [(clause_words (hitems tree hmem)).1]
  have hword := readsAs_keyword (q := q) "SELECT" (by decide)
  rcases hclause with rfl | ⟨table, tableTrees, rfl, htable, htableWords⟩
  · refine ⟨keyword "SELECT" :: trees, ?_, ?_, ?_⟩
    · simpa using hword.blank htrees
    · rw [List.forall_mem_cons]
      refine ⟨by simp, ?_⟩
      intro tree hmem
      exact (clause_words (hitems tree hmem)).2
    · rw [readSelect, after_keyword, Option.bind_some,
        List.takeWhile_eq_self_iff.mpr hfrom, hread]
  · have hfromWord := readsAs_keyword (q := q) "FROM" (by decide)
    refine ⟨keyword "SELECT" :: (trees ++ keyword "FROM" :: tableTrees), ?_, ?_, ?_⟩
    · have hselect := hword.blank (htrees.blank (hfromWord.blank htable))
      simpa using hselect
    · rw [List.forall_mem_cons]
      refine ⟨by simp, ?_⟩
      rw [List.forall_mem_append, List.forall_mem_cons]
      refine ⟨fun tree hmem => (clause_words (hitems tree hmem)).2, by simp, ?_⟩
      exact htableWords
    · rw [readSelect, after_keyword, Option.bind_some,
        List.takeWhile_append_of_pos hfrom, List.takeWhile_cons_of_neg (by simp),
        List.append_nil, hread]

theorem exists_union_trees {read : List Tree → Option α} {selects : List String}
    {rows : List (List α)} {first : String} {firstTrees : List Tree}
    (hfirst : ReadsAs q first.toList firstTrees)
    (hfirstWords : ∀ tree ∈ firstTrees,
      Tree.isWord "UNION" tree = false ∧ Tree.isWord "ORDER" tree = false)
    (h : List.Forall₂ (fun select row => ReadsSelect q read select.toList row) selects rows) :
    ∃ trees others, ReadsAs q (" UNION ALL ".intercalate (first :: selects)).toList trees ∧
      (∀ tree ∈ trees, Tree.isWord "ORDER" tree = false) ∧
      trees.splitOnP (Tree.isWord "UNION") = firstTrees :: others ∧
      others.mapM (fun select => (after "ALL" select).bind (readSelect read)) = some rows := by
  induction h generalizing first firstTrees with
  | nil =>
      refine ⟨firstTrees, [], by simpa using hfirst, fun tree hmem => (hfirstWords tree hmem).2,
        ?_, rfl⟩
      exact List.splitOnP_eq_singleton fun tree hmem => (hfirstWords tree hmem).1
  | @cons select row selects rows hselect hselects ih =>
      obtain ⟨selectTrees, hselectTrees, hselectWords, hread⟩ := hselect
      obtain ⟨trees, others, htrees, horder, hsplit, hothers⟩ := ih hselectTrees hselectWords
      have hunion := readsAs_keyword (q := q) "UNION" (by decide)
      have hall := readsAs_keyword (q := q) "ALL" (by decide)
      refine ⟨firstTrees ++ keyword "UNION" :: keyword "ALL" :: trees,
        (keyword "ALL" :: selectTrees) :: others, ?_, ?_, ?_, ?_⟩
      · have hjoined := hfirst.blank (hunion.blank (hall.blank htrees))
        simpa [String.intercalate_cons_cons] using hjoined
      · rw [List.forall_mem_append, List.forall_mem_cons, List.forall_mem_cons]
        exact ⟨fun tree hmem => (hfirstWords tree hmem).2, by simp, by simp, horder⟩
      · have hfirstUnion : ∀ tree ∈ firstTrees, Tree.isWord "UNION" tree = false :=
          fun tree hmem => (hfirstWords tree hmem).1
        rw [List.splitOnP_append_cons_of_forall_mem hfirstUnion _ (by simp),
          List.splitOnP_cons_eq_if_modifyHead, if_neg (by simp), hsplit]
        rfl
      · rw [List.mapM_cons, hothers, after_keyword, Option.bind_some, hread]
        rfl

theorem readBody_union {selects : List String} {named : List (Cast × String)} {first : String}
    {rows : List (List Cast)} (hfirst : ReadsSelect q (readNamedCast q) first.toList named)
    (h : List.Forall₂ (fun select row => ReadsSelect q (readCast q) select.toList row) selects
      rows) :
    ∃ trees, ReadsAs q (" UNION ALL ".intercalate (first :: selects)).toList trees ∧
      (∀ tree ∈ trees, Tree.isWord "ORDER" tree = false) ∧
      readBody q trees = some (named.map (·.2), named.map (·.1) :: rows) := by
  obtain ⟨firstTrees, hfirstTrees, hfirstWords, hread⟩ := hfirst
  obtain ⟨trees, others, htrees, horder, hsplit, hothers⟩ :=
    exists_union_trees hfirstTrees hfirstWords h
  refine ⟨trees, htrees, horder, ?_⟩
  rw [readBody, readUnion, hsplit]
  simp [hread, hothers]

/-- The alias of a derived table, with the names of its columns. -/
def aliasSql (q : Quotes) (word table : String) (columns : List String) : String :=
  word ++ " " ++ q.style.quote table ++ " (" ++ Dialect.listed (columns.map q.style.quote) ++ ")"

theorem exists_alias_trees {word : String} (hword : word = "" ∨ word = " AS") (table : String)
    {columns : List String} (hcolumns : columns ≠ []) :
    ∃ trees names, ReadsAs q (aliasSql q word table columns).toList trees ∧
      (∀ tree ∈ trees, Tree.isWord "ORDER" tree = false) ∧
      (after "AS" trees).getD trees = [.leaf (.identifier table.toList), .group names] ∧
      readList readName (solid names) = some columns := by
  have hnames : List.Forall₂ (fun item name => ReadsItem q readName item.toList name)
      (columns.map q.style.quote) columns := by
    rw [List.forall₂_map_left_iff, List.forall₂_same]
    intro name _
    exact readsItem_name name
  obtain ⟨_, ⟨names, hnameTrees, rfl⟩, -, hread⟩ := readsAs_listed hnames (by simpa using hcolumns)
  have htable := (ReadsAs.identifier (q := q) table).blank (ReadsAs.nil.group hnameTrees .nil)
  rcases hword with rfl | rfl
  · refine ⟨[.leaf (.identifier table.toList), .group names], names, ?_, ?_, rfl, hread⟩
    · have hall := ReadsAs.nil.blank htable
      simpa [aliasSql] using hall
    · simp
  · have has := readsAs_keyword (q := q) "AS" (by decide)
    refine ⟨keyword "AS" :: [.leaf (.identifier table.toList), .group names], names,
      ?_, ?_, ?_, hread⟩
    · have hall := ReadsAs.nil.blank (has.blank htable)
      simpa [aliasSql] using hall
    · simp
    · rw [after_keyword]
      rfl

/-- Row constructors as a derived table that names its columns. -/
def valuesSql (q : Quotes) (word table : String) (rows : List (List Cast))
    (columns : List String) : String :=
  "SELECT * FROM (VALUES " ++
    Dialect.listed (rows.map fun row => "(" ++ Dialect.listed (row.map castSql) ++ ")") ++ ")" ++
    aliasSql q word table columns

theorem readUnion_star (rest : List Tree) :
    readUnion q (keyword "SELECT" :: keyword "*" :: keyword "FROM" :: rest) = none := by
  obtain ⟨part, parts, hsplit⟩ :=
    List.exists_cons_of_ne_nil (List.splitOnP_ne_nil (Tree.isWord "UNION") rest)
  have hwhole : List.splitOnP (Tree.isWord "UNION")
      (keyword "SELECT" :: keyword "*" :: keyword "FROM" :: rest) =
        (keyword "SELECT" :: keyword "*" :: keyword "FROM" :: part) :: parts := by
    rw [List.splitOnP_cons_eq_if_modifyHead, if_neg (by simp),
      List.splitOnP_cons_eq_if_modifyHead, if_neg (by simp),
      List.splitOnP_cons_eq_if_modifyHead, if_neg (by simp), hsplit]
    rfl
  have hselect : readSelect (readNamedCast q)
      (keyword "SELECT" :: keyword "*" :: keyword "FROM" :: part) = none := by
    rw [readSelect, after_keyword, Option.bind_some, List.takeWhile_cons_of_pos (by simp),
      List.takeWhile_cons_of_neg (by simp), readList, List.splitOnP_eq_singleton (by simp)]
    rfl
  rw [readUnion, hwhole]
  simp only [hselect, Option.bind_eq_bind, Option.bind_none]

theorem toList_select_values (list tail : String) :
    ("SELECT * FROM (VALUES " ++ list ++ ")" ++ tail).toList = "SELECT".toList ++ ' ' ::
      ("*".toList ++ ' ' :: ("FROM".toList ++ ' ' ::
        ([] ++ '(' :: (("VALUES".toList ++ ' ' :: list.toList) ++ ')' :: tail.toList)))) := by
  simp

theorem readBody_values {word : String} (hword : word = "" ∨ word = " AS") (table : String)
    {rows : List (List Cast)} {columns : List String} (hrows : rows ≠ []) (hcolumns : columns ≠ [])
    (hrow : ∀ row ∈ rows, row ≠ [] ∧ ∀ c ∈ row, Readable q c) :
    ∃ trees, ReadsAs q (valuesSql q word table rows columns).toList trees ∧
      (∀ tree ∈ trees, Tree.isWord "ORDER" tree = false) ∧
      readBody q trees = some (columns, rows) := by
  have hlist : List.Forall₂ (fun item row => ReadsItem q (readRow q) item.toList row)
      (rows.map fun row => "(" ++ Dialect.listed (row.map castSql) ++ ")") rows := by
    rw [List.forall₂_map_left_iff, List.forall₂_same]
    intro row hmem
    exact readsItem_row (hrow row hmem).1 (hrow row hmem).2
  obtain ⟨rowTrees, hrowTrees, -, hrowsRead⟩ := readsAs_listed hlist (by simpa using hrows)
  obtain ⟨aliasTrees, names, halias, horder, hend, hnamesRead⟩ :=
    exists_alias_trees (q := q) hword table hcolumns
  have hselect := readsAs_keyword (q := q) "SELECT" (by decide)
  have hstar := readsAs_keyword (q := q) "*" (by decide)
  have hfrom := readsAs_keyword (q := q) "FROM" (by decide)
  have hvaluesWord := readsAs_keyword (q := q) "VALUES" (by decide)
  obtain ⟨values, hvalues, hvaluesSolid⟩ := hvaluesWord.blank hrowTrees
  refine ⟨keyword "SELECT" :: keyword "*" :: keyword "FROM" :: .group values :: aliasTrees,
    ?_, ?_, ?_⟩
  · have hall := hselect.blank (hstar.blank (hfrom.blank (ReadsAs.nil.group hvalues halias)))
    exact hall.of_eq (toList_select_values _ _)
  · simp only [List.forall_mem_cons]
    refine ⟨?_, ?_, ?_, ?_, horder⟩
    · simp
    · simp
    · simp
    · simp
  · rw [readBody, readUnion_star]
    simp only [readValues, after_keyword, Option.bind_eq_bind, Option.bind_some, hend, hvaluesSolid,
      List.singleton_append, hrowsRead, hnamesRead]
    rfl

def keySql (q : Quotes) : OrderKey → String
  | .ordinal position => position.repr
  | .column name => q.style.quote name

/-- The clause that orders by a key, if there is one. -/
def orderSql (q : Quotes) : Option OrderKey → String
  | none => ""
  | some key => Dialect.orderBy (keySql q key)

theorem exists_key_trees (key : OrderKey) :
    ∃ trees, ReadsAs q (keySql q key).toList trees ∧
      readOrder (keyword "BY" :: trees) = some key := by
  cases key with
  | ordinal position =>
      have hdigits : ∀ c ∈ position.repr.toList, c.isDigit = true :=
        fun c hc => isDigit_of_mem_natRepr hc
      have hword : isWordText position.repr.toList = true := by
        rw [isWordText_iff]
        exact ⟨natRepr_ne_nil position, fun c hc => isLetter_of_isDigit (hdigits c hc)⟩
      refine ⟨_, readsAs_keyword position.repr hword, ?_⟩
      have hall : Numeral.allDigits position.repr.toList = true := by
        simpa [Numeral.allDigits] using hdigits
      have hvalue : Numeral.valueOf position.repr.toList = position := by
        rw [Numeral.valueOf, Nat.toList_repr, Nat.ofDigitChars_ten_toDigits]
      rw [readOrder, after_keyword, Option.bind_some]
      change (if Numeral.allDigits position.repr.toList then
        some (OrderKey.ordinal (Numeral.valueOf position.repr.toList)) else none) = _
      rw [if_pos hall, hvalue]
  | column name =>
      refine ⟨_, .identifier name, ?_⟩
      rw [readOrder, after_keyword]
      simp

theorem readOrdered_of_body {read : List Tree → Option α} {trees : List Tree} {a : α}
    (horder : ∀ tree ∈ trees, (!Tree.isWord "ORDER" tree) = true) (hread : read trees = some a) :
    readOrdered read trees = some (a, none) := by
  rw [readOrdered, List.takeWhile_eq_self_iff.mpr horder, List.dropWhile_eq_nil_iff.mpr horder,
    hread]
  rfl

theorem readOrdered_of_key {read : List Tree → Option α} {trees keyTrees : List Tree} {a : α}
    {key : OrderKey} (horder : ∀ tree ∈ trees, (!Tree.isWord "ORDER" tree) = true)
    (hread : read trees = some a) (hkey : readOrder keyTrees = some key) :
    readOrdered read (trees ++ keyword "ORDER" :: keyTrees) = some (a, some key) := by
  rw [readOrdered, List.takeWhile_append_of_pos horder, List.dropWhile_append_of_pos horder,
    List.takeWhile_cons_of_neg (by simp), List.dropWhile_cons_of_neg (by simp), List.append_nil,
    hread]
  simp [hkey]

/-- A body in which nothing orders it is read up to the clause that does. -/
theorem exists_ordered_trees {read : List Tree → Option α} {body : String} {trees : List Tree}
    {a : α} (hbody : ReadsAs q body.toList trees)
    (horder : ∀ tree ∈ trees, Tree.isWord "ORDER" tree = false) (hread : read trees = some a)
    (key : Option OrderKey) :
    ∃ all, ReadsAs q (body ++ orderSql q key).toList all ∧
      readOrdered read all = some (a, key) := by
  have hneg : ∀ tree ∈ trees, (!Tree.isWord "ORDER" tree) = true := by
    intro tree hmem
    simp [horder tree hmem]
  cases key with
  | none =>
      refine ⟨trees, ?_, readOrdered_of_body hneg hread⟩
      rw [orderSql, String.append_empty]
      exact hbody
  | some key =>
      obtain ⟨keyTrees, hkey, hreadKey⟩ := exists_key_trees (q := q) key
      have hwordOrder := readsAs_keyword (q := q) "ORDER" (by decide)
      have hwordBy := readsAs_keyword (q := q) "BY" (by decide)
      have hall := hbody.blank (hwordOrder.blank (hwordBy.blank hkey))
      refine ⟨trees ++ keyword "ORDER" :: keyword "BY" :: keyTrees, ?_,
        readOrdered_of_key hneg hread hreadKey⟩
      apply hall.of_eq
      simp [orderSql, Dialect.orderBy]

theorem readInline_eq {body : String} {trees : List Tree} {columns : List String}
    {rows : List (List Cast)} (hbody : ReadsAs q body.toList trees)
    (horder : ∀ tree ∈ trees, Tree.isWord "ORDER" tree = false)
    (hread : readBody q trees = some (columns, rows))
    (key : Option OrderKey) :
    readInline q (body ++ orderSql q key) = some ⟨columns, rows, key⟩ := by
  obtain ⟨_, ⟨all, hall, rfl⟩, hordered⟩ := exists_ordered_trees hbody horder hread key
  rw [readInline, hall.trees?, Option.bind_some, readStatement, hordered]
  rfl

end SqlDialects.Proofs.InlineReading
