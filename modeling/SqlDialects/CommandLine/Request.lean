import SqlDialects.CommandLine.Flag
import SqlDialects.Numeral.Integer

namespace SqlDialects.CommandLine

/-- What to do. Where no dialect is named it is that of the configuration. -/
inductive Request where
  | resolve
  | list
  | capabilities (tag productVersion : String)
  | inlineTable (columns types rows : List String) (orderBy dialect : Option String)
  | mapType (code : String) (precision scale : Int) (dialect : Option String)

/-- Whether the configuration has to be read. -/
def Request.usesConfig : Request → Bool
  | resolve => true
  | list | capabilities .. => false
  | inlineTable _ _ _ _ dialect | mapType _ _ _ dialect => dialect.isNone

/-- A request, with where the configuration is and how to answer. -/
structure Invocation where
  configPath : String
  asJson : Bool
  request : Request

/-- Asks what could be asked. -/
def helpFlag : Flag :=
  { name := "help", takes := .stop .help, letter := some 'h' }

/-- Takes any value, once. -/
def Takes.text : Takes :=
  .one fun _ => true

/-- Takes a number of 32 bits, once. -/
def Takes.number : Takes :=
  .one fun value => (Numeral.int32? value.toList).isSome

def programForm : Form :=
  { flags := [
      { name := "config", takes := .one fun path => !path.isEmpty, letter := some 'c' },
      { name := "output-json", takes := .nothing },
      { name := "log-format", takes := .text },
      { name := "verbosity", takes := .text },
      helpFlag,
      { name := "version", takes := .stop .version, letter := some 'V' }]
    words := 0 }

/-- The commands, with what stands after their names. -/
def commandForms : List (String × Form) :=
  [("resolve", { flags := [helpFlag], words := 0 }),
    ("list", { flags := [helpFlag], words := 0 }),
    ("capabilities",
      { flags := [{ name := "product-version", takes := .text }, helpFlag], words := 1 }),
    ("inline",
      { flags := [
          { name := "columns", takes := .many },
          { name := "types", takes := .many },
          { name := "row", takes := .many },
          { name := "order-by", takes := .text },
          { name := "dialect", takes := .text },
          helpFlag]
        words := 0 }),
    ("map-type",
      { flags := [
          { name := "code", takes := .text },
          { name := "precision", takes := .number, hyphens := true },
          { name := "scale", takes := .number, hyphens := true },
          { name := "dialect", takes := .text },
          helpFlag]
        words := 0 })]

def helpCommand : String :=
  "help"

def commandNames : List String :=
  helpCommand :: commandForms.map (·.1)

def commaParts (text : String) : List String :=
  (Text.Search.pieces (· == ',') text.toList).map String.ofList

/-- The number that is given to a flag, or zero. -/
def Given.number (g : Given) (name : String) : Int :=
  ((g.value? name).bind fun value => Numeral.int32? value.toList).getD 0

/-- What a command asks for, if all that it needs is given. -/
def request? (command : String) (g : Given) : Option Request :=
  match command with
  | "resolve" => some .resolve
  | "list" => some .list
  | "capabilities" =>
      g.words.head?.map fun tag => .capabilities tag ((g.value? "product-version").getD "")
  | "inline" =>
      if g.has "columns" && g.has "types" then
        some (.inlineTable ((g.values "columns").flatMap commaParts)
          ((g.values "types").flatMap commaParts) (g.values "row") (g.value? "order-by")
          (g.value? "dialect"))
      else none
  | "map-type" =>
      (g.value? "code").map fun code =>
        .mapType code (g.number "precision") (g.number "scale") (g.value? "dialect")
  | _ => none

def readCommand (command : String) (words : List String) : Except Stop Request :=
  if command = helpCommand then
    if words.length ≤ 1 && words.all commandNames.contains then .error .help else .error .usage
  else
    match commandForms.lookup command with
    | none => .error .usage
    | some form => do
        let (g, _) ← form.read [] none .empty words
        match request? command g with
        | some request => pure request
        | none => .error .usage

def Invocation.read (words : List String) : Except Stop Invocation := do
  let (g, command) ← programForm.read commandNames none .empty words
  match command with
  | none => .error .usage
  | some (command, words) =>
      let request ← readCommand command words
      pure ⟨(g.value? "config").getD "config.yaml", g.has "output-json", request⟩

end SqlDialects.CommandLine
