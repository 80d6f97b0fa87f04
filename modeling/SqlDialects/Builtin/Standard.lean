import SqlDialects.Registry

namespace SqlDialects.Builtin

/-- The tag of the standard dialect. -/
def standardTag : String :=
  "ansi"

/-- The overlay at the root of all built-in dialects. -/
def standard : Overlay where
  name := standardTag
  flag := decided [
    (.allowsAs, true),
    (.allowsFromQuery, true),
    (.requiresAliasForFromQuery, false),
    (.allowsCountDistinct, true),
    (.allowsCompoundCountDistinct, false),
    (.allowsMultipleCountDistinct, true),
    (.allowsMultipleDistinctMeasures, true),
    (.allowsCountDistinctWithOtherAggs, true),
    (.requiresOrderByAlias, false),
    (.allowsOrderByAlias, true),
    (.requiresHavingAlias, false),
    (.requiresGroupByAlias, false),
    (.requiresUnionOrderByOrdinal, true),
    (.requiresUnionOrderByExprInSelect, true),
    (.supportsGroupByExpressions, true),
    (.supportsGroupingSets, false),
    (.supportsMultiValueInExpr, false),
    (.supportsUnlimitedValueList, false),
    (.supportsValuesList, false),
    (.allowsSelectNotInGroupBy, false),
    (.allowsJoinOn, true),
    (.allowsDdl, false),
    (.allowsRegexInWhere, false),
    (.requiresExponentLiteral, false)]
  quoteStyle := some .doubleQuote
  dummyTable := some none
  stringStyle := some .standard
  booleanStyle := some .keyword
  temporalStyle := some .typed
  nullCast := some none
  nullsOrdering := some .standard
  maxValueList := some none
  castType := decided [
    (.string, "VARCHAR(\x7blen\x7d)"),
    (.numeric, "DECIMAL(\x7bprecision\x7d, \x7bscale\x7d)"),
    (.integer, "INTEGER"),
    (.long, "BIGINT"),
    (.double, "DOUBLE PRECISION"),
    (.boolean, "BOOLEAN"),
    (.date, "DATE"),
    (.time, "TIME"),
    (.timestamp, "TIMESTAMP"),
    (.object, "VARCHAR(\x7blen\x7d)")]

/-- The standard dialect; no product reports it, so nothing recognises it. -/
def standardDialects : Registrations where
  definitions := [.root standardTag standard]
  recognizers := []

/-- A definition on top of the standard, named like its overlay. -/
def onStandard (overlay : Overlay) : Definition :=
  .on standardTag overlay.name overlay

def version (major minor : UInt32) : Version :=
  ⟨major, minor, 0⟩

end SqlDialects.Builtin
