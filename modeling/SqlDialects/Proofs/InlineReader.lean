import SqlDialects.InlineSql
import SqlDialects.Proofs.Trees

/-!
Inline tables read back from their SQL. The reader knows the quotes of a dialect and nothing else of
it: not how many columns there are, nor which of the two forms was chosen, nor what the values are.
-/

namespace SqlDialects.Proofs.InlineReader

open Tokens
open Trees

/-- An expression and the type to which it is cast. -/
structure Cast where
  expression : String
  target : String
deriving DecidableEq

inductive OrderKey where
  | ordinal (position : Nat)
  | column (name : String)
deriving DecidableEq

structure Reading where
  columns : List String
  rows : List (List Cast)
  orderBy : Option OrderKey
deriving DecidableEq

/-- Trees without the blanks between them. -/
def solid (trees : List Tree) : List Tree :=
  trees.filter fun tree => !Tree.isMark ' ' tree

def after (w : String) : List Tree → Option (List Tree)
  | [] => none
  | tree :: rest => if Tree.isWord w tree then some rest else none

/-- What stands before and after the first AS between blanks. -/
def cutAs : List Tree → Option (List Tree × List Tree)
  | before :: word :: behind :: rest =>
      if Tree.isMark ' ' before && Tree.isWord "AS" word && Tree.isMark ' ' behind then
        some ([], rest)
      else (cutAs (word :: behind :: rest)).map fun (head, tail) => (before :: head, tail)
  | _ => none

variable {α : Type}

/-- Reads what stands between commas. -/
def readList (read : List Tree → Option α) (trees : List Tree) : Option (List α) :=
  (trees.splitOnP (Tree.isMark ',')).mapM read

def readCast (q : Quotes) : List Tree → Option Cast
  | [word, .group inner] =>
      if Tree.isWord "CAST" word then
        (cutAs inner).map fun (expression, target) =>
          ⟨.ofList (text q expression), .ofList (text q target)⟩
      else none
  | _ => none

def readNamedCast (q : Quotes) : List Tree → Option (Cast × String)
  | [word, inner, as, .leaf (.identifier name)] =>
      if Tree.isWord "AS" as then (readCast q [word, inner]).map (·, .ofList name) else none
  | _ => none

def readName : List Tree → Option String
  | [.leaf (.identifier name)] => some (.ofList name)
  | _ => none

def readRow (q : Quotes) : List Tree → Option (List Cast)
  | [.group row] => readList (readCast q) (solid row)
  | _ => none

/-- Reads the items of a SELECT, with or without a FROM clause. -/
def readSelect (read : List Tree → Option α) (trees : List Tree) : Option (List α) :=
  (after "SELECT" trees).bind fun rest =>
    readList read (rest.takeWhile fun tree => !Tree.isWord "FROM" tree)

/-- Reads a union of SELECTs, of which the first names the columns. -/
def readUnion (q : Quotes) (trees : List Tree) : Option (List String × List (List Cast)) :=
  match trees.splitOnP (Tree.isWord "UNION") with
  | [] => none
  | first :: others => do
      let named ← readSelect (readNamedCast q) first
      let rows ← others.mapM fun select =>
        (after "ALL" select).bind (readSelect (readCast q))
      pure (named.map (·.2), named.map (·.1) :: rows)

/-- Reads row constructors in a derived table whose alias names the columns. -/
def readValues (q : Quotes) (trees : List Tree) : Option (List String × List (List Cast)) := do
  let rest ← after "SELECT" trees
  let rest ← after "*" rest
  let rest ← after "FROM" rest
  match rest with
  | .group values :: rest =>
      match (after "AS" rest).getD rest with
      | [.leaf (.identifier _), .group names] => do
          let rows ← (after "VALUES" (solid values)).bind (readList (readRow q))
          let columns ← readList readName (solid names)
          pure (columns, rows)
      | _ => none
  | _ => none

def readBody (q : Quotes) (trees : List Tree) : Option (List String × List (List Cast)) :=
  readUnion q trees <|> readValues q trees

/-- Reads an ORDER BY clause after its first word. -/
def readOrder (trees : List Tree) : Option OrderKey :=
  (after "BY" trees).bind fun key =>
    match key with
    | [.leaf (.identifier name)] => some (.column (.ofList name))
    | [.leaf (.word digits)] =>
        if Numeral.allDigits digits then some (.ordinal (Numeral.valueOf digits)) else none
    | _ => none

/-- Reads what stands before an ORDER BY clause, and the clause if there is one. -/
def readOrdered (read : List Tree → Option α) (trees : List Tree) :
    Option (α × Option OrderKey) := do
  let body ← read (trees.takeWhile fun tree => !Tree.isWord "ORDER" tree)
  match trees.dropWhile fun tree => !Tree.isWord "ORDER" tree with
  | [] => pure (body, none)
  | _ :: key => do
      let key ← readOrder key
      pure (body, some key)

/-- Reads an inline table without the blanks in it. -/
def readStatement (q : Quotes) (trees : List Tree) : Option Reading :=
  (readOrdered (readBody q) trees).map fun ((columns, rows), key) => ⟨columns, rows, key⟩

def readInline (q : Quotes) (sql : String) : Option Reading :=
  (trees? q sql.toList).bind fun trees => readStatement q (solid trees)

end SqlDialects.Proofs.InlineReader
