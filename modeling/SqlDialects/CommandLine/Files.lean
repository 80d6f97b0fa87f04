import SqlDialects.Text.Search

namespace SqlDialects.CommandLine

inductive ReadFailure where
  /-- There is nothing of that name. -/
  | missing
  /-- A name is looked up in what is not a directory. -/
  | notDirectory
  /-- A directory stands where a file should. -/
  | isDirectory
  /-- A name or the whole path has too many octets. -/
  | nameTooLong
  /-- The octets of the file are no text in UTF-8. -/
  | notText
  /-- Another cause, with its number and its description. -/
  | other (number : Nat) (description : String)
deriving DecidableEq, Repr

namespace ReadFailure

def numbered (description : String) (number : Nat) : String :=
  description ++ " (os error " ++ toString number ++ ")"

def message : ReadFailure → String
  | missing => numbered "No such file or directory" 2
  | notDirectory => numbered "Not a directory" 20
  | isDirectory => numbered "Is a directory" 21
  | nameTooLong => numbered "File name too long" 36
  | notText => "stream did not contain valid UTF-8"
  | other number description => numbered description number

end ReadFailure

def textOf (octets : ByteArray) : Except ReadFailure String :=
  match String.fromUTF8? octets with
  | some text => .ok text
  | none => .error .notText

/-- What a name in a directory stands for. -/
inductive Entry where
  | file (octets : ByteArray)
  | directory (entries : List (String × Entry))

def maxNameOctets : Nat :=
  255

def maxPathOctets : Nat :=
  4095

/-- Follows a name from the innermost of some entries, each of which is in the next one. The
outermost directory is the one around itself. -/
def follow (trail : List Entry) (name : String) : Except ReadFailure (List Entry) :=
  match trail with
  | .directory entries :: outer =>
      if name.isEmpty || name = "." then .ok trail
      else if name = ".." then .ok (if outer.isEmpty then trail else outer)
      else if maxNameOctets < name.utf8ByteSize then .error .nameTooLong
      else
        match entries.lookup name with
        | some entry => .ok (entry :: trail)
        | none => .error .missing
  | _ => .error .notDirectory

structure Files where
  /-- What the outermost directory holds. -/
  root : List (String × Entry)
  /-- The names that lead from there to where a path begins that has no slash in front. -/
  start : List String

namespace Files

/-- The entries along a path, the last one first. -/
def find (files : Files) (path : String) : Except ReadFailure (List Entry) :=
  if path.isEmpty then .error .missing
  else if maxPathOctets < path.utf8ByteSize then .error .nameTooLong
  else
    let names := (Text.Search.pieces (· == '/') path.toList).map String.ofList
    let before := if Text.Search.startsWith path "/" then [] else files.start
    (before ++ names).foldlM follow [.directory files.root]

def read (files : Files) (path : String) : Except ReadFailure String :=
  match files.find path with
  | .ok (.file octets :: _) => textOf octets
  | .ok _ => .error .isDirectory
  | .error failure => .error failure

end Files

end SqlDialects.CommandLine
