import SqlDialects.Yaml.Node
import SqlDialects.Yaml.Token.Lexer

namespace SqlDialects.Yaml

/-- What is left to read, and the numbers of the anchors so far. -/
structure Unread where
  tokens : List Token
  anchors : List (String × Nat)

/-- Reads something from the tokens, if it is there. -/
abbrev Reader :=
  StateT Unread Option

namespace Reader

def peek : Reader (Option Token) := do
  return (← get).tokens.head?

def skip : Reader Unit :=
  modify fun u => { u with tokens := u.tokens.drop 1 }

/-- Moves over the next token if it is the given one, and says whether it was. -/
def skipIf (t : Token) : Reader Bool := do
  if (← peek) = some t then
    skip
    return true
  else return false

def nextIsIn (tokens : List Token) : Reader Bool := do
  return (← peek).any tokens.contains

/-- Numbers an anchor by how many names are known before it. -/
def define (name : String) : Reader Nat := do
  let number := (← get).anchors.length
  modify fun u => { u with anchors := (name, number) :: u.anchors.filter (·.1 != name) }
  return number

def numberOf (name : String) : Reader Nat := do
  match (← get).anchors.lookup name with
  | some number => return number
  | none => failure

/-- The anchor and the tag in front of a node, in any order. -/
def properties (handles : Handles) : Reader Properties := do
  match ← peek with
  | some (.anchor name) =>
      skip
      let number ← define name
      match ← peek with
      | some (.tag t) =>
          skip
          let tag ← t.resolve? handles
          return ⟨some number, some tag⟩
      | _ => return ⟨some number, none⟩
  | some (.tag t) =>
      skip
      let name : Option String ←
        match ← peek with
        | some (.anchor name) =>
            skip
            pure (some name)
        | _ => pure none
      let tag ← t.resolve? handles
      match name with
      | some name => return ⟨some (← define name), some tag⟩
      | none => return ⟨none, some tag⟩
  | _ => return ⟨none, none⟩

/-- A node of which only the properties are written. -/
def bare (p : Properties) : Reader Node :=
  if p.anchor.isNone && p.tag.isNone then failure
  else return .scalar p .plain ""

/-- The tokens before which the key or the value of an indented entry is empty. -/
def entryEnds : List Token :=
  [.key, .value, .blockEnd]

mutual

/-- Reads a node. Indented collections are read if `block`; an item without a sequence around it
begins one if `unindented`. -/
def node (handles : Handles) (block unindented : Bool) : (fuel : Nat) → Reader Node
  | 0 => failure
  | fuel + 1 => do
      if let some (.reference name) ← peek then
        skip
        return .reference (← numberOf name)
      let p ← properties handles
      match ← peek with
      | some (.scalar style text) =>
          skip
          return .scalar p style text
      | some .bracketOpen =>
          skip
          return .sequence p (← flowItems handles true fuel)
      | some .braceOpen =>
          skip
          return .mapping p (← flowEntries handles true fuel)
      | some .item =>
          if unindented then return .sequence p (← unindentedItems handles fuel) else bare p
      | some .itemsStart =>
          if block then
            skip
            return .sequence p (← blockItems handles fuel)
          else bare p
      | some .entriesStart =>
          if block then
            skip
            return .mapping p (← blockEntries handles fuel)
          else bare p
      | _ => bare p

/-- Reads a node, or an empty one before some tokens. -/
def nodeUnless (handles : Handles) (ends : List Token) (block unindented : Bool) :
    (fuel : Nat) → Reader Node
  | 0 => failure
  | fuel + 1 => do
      if ← nextIsIn ends then return .empty else node handles block unindented fuel

def blockItems (handles : Handles) : (fuel : Nat) → Reader (List Node)
  | 0 => failure
  | fuel + 1 => do
      if ← skipIf .blockEnd then return []
      else if ← skipIf .item then
        let first ← nodeUnless handles [.item, .blockEnd] true false fuel
        return first :: (← blockItems handles fuel)
      else failure

/-- Reads the items of a sequence at the column of the entries around it. -/
def unindentedItems (handles : Handles) : (fuel : Nat) → Reader (List Node)
  | 0 => failure
  | fuel + 1 => do
      if ← skipIf .item then
        let first ← nodeUnless handles (.item :: entryEnds) true false fuel
        return first :: (← unindentedItems handles fuel)
      else return []

def blockEntries (handles : Handles) : (fuel : Nat) → Reader (List (Node × Node))
  | 0 => failure
  | fuel + 1 => do
      if ← skipIf .blockEnd then return []
      else if ← skipIf .key then
        let key ← nodeUnless handles entryEnds true true fuel
        let value ←
          if ← skipIf .value then nodeUnless handles entryEnds true true fuel else pure .empty
        return (key, value) :: (← blockEntries handles fuel)
      else failure

/-- Reads the items of a sequence between brackets. An entry among them is a mapping of its own;
where its key is missing, the token in its place counts as read. -/
def flowItems (handles : Handles) (first : Bool) : (fuel : Nat) → Reader (List Node)
  | 0 => failure
  | fuel + 1 => do
      if ← skipIf .bracketClose then return []
      else if first || (← skipIf .comma) then
        if ← skipIf .bracketClose then return []
        else if ← skipIf .key then
          let key ←
            if ← nextIsIn [.value, .comma, .bracketClose] then
              skip
              pure .empty
            else node handles false false fuel
          let value ←
            if ← skipIf .value then
              nodeUnless handles [.comma, .bracketClose] false false fuel
            else pure .empty
          return .mapping ⟨none, none⟩ [(key, value)] :: (← flowItems handles false fuel)
        else
          let item ← node handles false false fuel
          return item :: (← flowItems handles false fuel)
      else failure

/-- Reads the entries of a mapping between braces. A node alone is a key. -/
def flowEntries (handles : Handles) (first : Bool) : (fuel : Nat) → Reader (List (Node × Node))
  | 0 => failure
  | fuel + 1 => do
      if ← skipIf .braceClose then return []
      else if first || (← skipIf .comma) then
        if ← skipIf .braceClose then return []
        else if ← skipIf .key then
          let key ← nodeUnless handles [.value, .comma, .braceClose] false false fuel
          let value ←
            if ← skipIf .value then
              nodeUnless handles [.comma, .braceClose] false false fuel
            else pure .empty
          return (key, value) :: (← flowEntries handles false fuel)
        else
          let key ← node handles false false fuel
          return (key, .empty) :: (← flowEntries handles false fuel)
      else failure

end

/-- Reads the directives in front of a document. At most one gives the version, and no two the
same handle. -/
def directives (versioned : Bool) (handles : Handles) : List Token → Option (Handles × List Token)
  | .directive (.version major minor) :: rest =>
      if versioned || major ≠ 1 || (minor ≠ 1 && minor ≠ 2) then none
      else directives true handles rest
  | .directive (.handle handle meaning) :: rest =>
      if handles.any (·.1 == handle) then none
      else directives versioned ((handle, meaning) :: handles) rest
  | rest => some (handles ++ standardHandles, rest)

/-- Whether the node of a document is not written. -/
def endsDocument : List Token → Bool
  | [] | .documentStart :: _ | .documentEnd :: _ | .directive _ :: _ => true
  | _ => false

/-- Reads the node of a document. Collections nest no deeper than there are tokens. -/
def root (handles : Handles) (tokens : List Token) : Option (Node × List Token) := do
  let (node, unread) ← (node handles true false (3 * tokens.length + 3)).run ⟨tokens, []⟩
  pure (node, unread.tokens)

/-- Reads a document, if it is the only one. -/
def only (tokens : List Token) : Option Node :=
  if tokens.isEmpty then some .empty
  else do
    let (handles, rest) ← directives false [] tokens
    let (node, rest) ←
      match rest with
      | .documentStart :: rest =>
          if endsDocument rest then pure (.empty, rest) else root handles rest
      | rest => if rest.length = tokens.length then root handles rest else none
    if rest.all (· == .documentEnd) then pure node else none

end Reader

/-- The document of a text, if it holds no other. A text of which nothing is written holds an
empty node. -/
def Document.read? (text : String) : Option Document := do
  let tokens ← tokens? text
  let node ← Reader.only tokens
  pure (.ofNode node)

end SqlDialects.Yaml
