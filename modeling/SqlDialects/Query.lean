import SqlDialects.Error
import SqlDialects.Text.Blank
import SqlDialects.Text.LetterCase
import SqlDialects.Text.Search

namespace SqlDialects

inductive Query where
  | versionBanner
  | serverVariable (name : String)
deriving DecidableEq, Repr

namespace Query

def name : Query → String
  | versionBanner => "version_banner"
  | serverVariable name => "variable:" ++ name

def sql : Query → String
  | versionBanner => "SELECT version()"
  | serverVariable name => "SHOW VARIABLES LIKE '" ++ Text.Search.replace name "'" "''" ++ "'"

/-- Reads the name of a query. The name of a variable is not empty, and its case is dropped. -/
def read (s : String) : Except Error Query :=
  let text := Text.trimChars s.toList
  if text = "version_banner".toList then .ok versionBanner
  else
    match Text.Search.after? "variable:".toList text with
    | some (c :: name) => .ok (serverVariable (.ofList (Text.LetterCase.lowerChars (c :: name))))
    | _ => .error (.config (.unknownQuery (.ofList text)))

end Query

end SqlDialects
