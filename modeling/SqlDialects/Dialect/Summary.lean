import SqlDialects.Dialect
import SqlDialects.Json

namespace SqlDialects

def QuoteStyle.name : QuoteStyle → String
  | doubleQuote => "double_quote"
  | backtick => "backtick"
  | bracket => "bracket"

def BooleanStyle.name : BooleanStyle → String
  | keyword => "keyword"
  | numeric => "numeric"

def TemporalStyle.name : TemporalStyle → String
  | typed => "typed"
  | quoted => "quoted"

def NullsOrdering.name : NullsOrdering → String
  | standard => "ansi"
  | isNullFunction => "is_null_function"
  | caseExpression => "case_expression"

namespace Composition

/-- What is decided for each logical type, as members named by the types. -/
def byType (decision : LogicalType → Option String) : Json :=
  .object (LogicalType.all.flatMap fun t => Json.optional t.name ((decision t).map .string))

def behaviorsJson (c : Composition) : Json :=
  .object [
    ("quote_style", .string c.quoteStyle.value.name),
    ("dummy_table", .stringOrNull c.dummyTable.value),
    ("string_literal", .object [
      ("prefix", .string c.stringStyle.value.lead),
      ("escape_backslash", .bool c.stringStyle.value.escapesBackslash)]),
    ("boolean_literal", .string c.booleanStyle.value.name),
    ("temporal_literal", .string c.temporalStyle.value.name),
    ("temporal_overrides", byType fun t => (c.temporalStyleFor t).map (·.value.name)),
    ("null_cast", .stringOrNull c.nullCast.value),
    ("nulls_ordering", .string c.nullsOrdering.value.name),
    ("max_value_list", match c.maxValueList.value with
      | some n => .nat n
      | none => .null),
    ("cast_types", byType fun t => some (c.castType t).value)]

def flagsJson (c : Composition) : Json :=
  .object (Capability.all.map fun f => (f.name, .bool (c.has f)))

/-- The overlay behind each capability, by name. -/
def flagOrigins (c : Composition) : Dictionary :=
  .ofList (Capability.all.map fun f => (f.name, (c.flag f).origin))

/-- The overlay behind each decided behaviour, by name. -/
def behaviorOrigins (c : Composition) : Dictionary :=
  .ofList (Behavior.all.filterMap fun b => (c.origin? b).map fun origin => (b.name, origin))

end Composition

def Dialect.summary (d : Dialect) : Json :=
  .object (
    [("tag", .string d.tag),
      ("product_name", .string d.identity.productName),
      ("product_version", .string d.identity.productVersion)] ++
    Json.optional "version" (d.identity.version?.map fun v => .string v.text) ++
    Json.optional "impersonated_via" (d.impersonatedVia.map .string) ++
    [("chain", .strings d.chain),
      ("flags", d.composition.flagsJson),
      ("flag_origin", .ofDictionary d.composition.flagOrigins),
      ("behaviors", d.composition.behaviorsJson),
      ("behavior_origin", .ofDictionary d.composition.behaviorOrigins)])

end SqlDialects
