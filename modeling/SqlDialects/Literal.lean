import SqlDialects.Calendar
import SqlDialects.Composition
import SqlDialects.Numeral.Decimal
import SqlDialects.Quoting

namespace SqlDialects.Literal

/-- The truth value that a text stands for. -/
def truth? (value : String) : Option Bool :=
  match Text.LetterCase.lower (Text.trim value) with
  | "true" | "1" => some true
  | "false" | "0" => some false
  | _ => none

def ofBool : BooleanStyle → Bool → String
  | .keyword, true => "TRUE"
  | .keyword, false => "FALSE"
  | .numeric, true => "1"
  | .numeric, false => "0"

/-- A numeral as an engine takes it: one with a point and without an exponent may need one. -/
def ofDecimal (needsExponent : Bool) (cs : List Char) : String :=
  if needsExponent && cs.contains '.' && !cs.any Numeral.isExponentMark then
    String.ofList (cs ++ ['E', '0'])
  else String.ofList cs

def ofTemporal (style : TemporalStyle) (keyword : String) (body : List Char) : String :=
  let quoted := String.ofList ('\'' :: body ++ ['\''])
  match style with
  | .typed => keyword ++ " " ++ quoted
  | .quoted => quoted

/-- A text with a space for its first `T`. -/
def spaceForT : List Char → List Char
  | [] => []
  | c :: rest => if c = 'T' then ' ' :: rest else c :: spaceForT rest

/-- The literal of a type, if the value is one. White space around it is dropped, except around
character data. -/
def write? (c : Composition) (value : String) (type : LogicalType) : Option String :=
  let text := Text.trimChars value.toList
  match type with
  | .string | .object => some (c.stringStyle.value.quote value)
  | .integer => (Numeral.int32? text).map Int.repr
  | .long => (Numeral.int64? text).map Int.repr
  | .numeric | .double =>
      if Numeral.isDecimal text then some (ofDecimal (c.has .requiresExponentLiteral) text)
      else none
  | .boolean => (truth? value).map (ofBool c.booleanStyle.value)
  | .date => (Calendar.date? text).map fun _ => ofTemporal (c.temporalStyleOf type) "DATE" text
  | .time => (Calendar.time? text).map fun _ => ofTemporal (c.temporalStyleOf type) "TIME" text
  | .timestamp =>
      (Calendar.timestamp? text).map fun _ =>
        ofTemporal (c.temporalStyleOf type) "TIMESTAMP" (spaceForT text)

/-- The literal of a type. -/
def write (c : Composition) (value : String) (type : LogicalType) : Except Error String :=
  match write? c value type with
  | some literal => .ok literal
  | none => .error (.literal value type.name)

end SqlDialects.Literal
