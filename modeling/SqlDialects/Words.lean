import SqlDialects.Error
import SqlDialects.Numeral.Integer
import SqlDialects.Text.Blank
import SqlDialects.Text.LetterCase
import SqlDialects.TypeCode

namespace SqlDialects

def Capability.read (s : String) : Except Error Capability :=
  let underscored := (Text.LetterCase.lower (Text.trim s)).map fun c => if c == '-' then '_' else c
  match Capability.ofName? underscored with
  | some c => .ok c
  | none => .error (.config (.unknownCapability s))

/-- Reads the name of a logical type, or an alias of one. -/
def LogicalType.read (s : String) : Except Error LogicalType :=
  let word := Text.LetterCase.upper (Text.trim s)
  match LogicalType.ofWord? word with
  | some t => .ok t
  | none => .error (.schema (.unknownLogicalType word))

/-- Reads a type code, given as a number of 32 bits or by name. -/
def TypeCode.read (s : String) : Except Error TypeCode :=
  let text := Text.trim s
  match Numeral.int32? text.toList with
  | some code => .ok (TypeCode.ofCode code)
  | none =>
      let word := Text.LetterCase.upper text
      match TypeCode.ofWord? word with
      | some type => .ok type
      | none => .error (.config (.unknownTypeCode word))

end SqlDialects
