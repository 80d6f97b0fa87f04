import SqlDialects.Builtin.Standard

namespace SqlDialects.Builtin

def luciddb : Overlay where
  name := "luciddb"
  flag := decided [
    (.supportsValuesList, true),
    (.requiresAliasForFromQuery, true),
    (.requiresExponentLiteral, true),
    (.allowsMultipleDistinctMeasures, false),
    (.supportsUnlimitedValueList, true),
    (.supportsMultiValueInExpr, true)]
  castType := decided [(.double, "DOUBLE")]

/-- SQLstream is built on LucidDB, whose other limits it keeps. -/
def sqlstream : Overlay where
  name := "sqlstream"
  flag := decided [(.supportsUnlimitedValueList, false)]

def luciddbDialects : Registrations where
  definitions := [onStandard luciddb, .on "luciddb" "sqlstream" sqlstream]
  recognizers := [
    .ofPatterns "sqlstream" [(.contains, "sqlstream")],
    .ofPatterns "luciddb" [(.contains, "luciddb")]]

def hive : Overlay where
  name := "hive"
  flag := decided [
    (.requiresOrderByAlias, true),
    (.requiresAliasForFromQuery, true),
    (.supportsGroupingSets, true),
    (.requiresUnionOrderByExprInSelect, false)]
  quoteStyle := some .backtick
  stringStyle := some ⟨"", true⟩
  temporalStyleFor := decided [(.time, .quoted)]
  castType := decided [
    (.string, "STRING"),
    (.object, "STRING"),
    (.integer, "INT"),
    (.double, "DOUBLE"),
    (.time, "STRING")]
  -- The driver says nothing useful about the precision of a DECIMAL.
  typeRules := [.forCode .decimal .object]

def impala : Overlay where
  name := "impala"
  flag := decided [
    (.requiresOrderByAlias, false),
    (.allowsMultipleCountDistinct, false),
    (.supportsGroupingSets, false)]

def snowflake : Overlay where
  name := "snowflake"
  flag := decided [
    (.supportsValuesList, true),
    (.supportsGroupingSets, true),
    (.supportsMultiValueInExpr, true),
    (.allowsRegexInWhere, true)]
  castType := decided [
    (.numeric, "NUMBER(\x7bprecision\x7d, \x7bscale\x7d)"),
    (.double, "DOUBLE"),
    (.timestamp, "TIMESTAMP_NTZ")]
  -- Integers of every width come as NUMBER(38,0).
  typeRules := [.forShape .numeric 38 0 .long, .forShape .decimal 38 0 .long]

def vertica : Overlay where
  name := "vertica"
  flag := decided [
    (.requiresAliasForFromQuery, true),
    (.supportsGroupingSets, true),
    (.supportsMultiValueInExpr, true),
    (.allowsRegexInWhere, true)]
  castType := decided [
    (.double, "FLOAT"),
    (.numeric, "NUMERIC(\x7bprecision\x7d, \x7bscale\x7d)")]

def clickhouse : Overlay where
  name := "clickhouse"
  flag := decided [(.allowsSelectNotInGroupBy, false), (.supportsMultiValueInExpr, true)]
  stringStyle := some ⟨"", true⟩
  booleanStyle := some .numeric
  temporalStyle := some .quoted
  -- A plain type refuses NULL.
  nullCast := some (some "Nullable(\x7btype\x7d)")
  castType := decided [
    (.string, "String"),
    (.object, "String"),
    (.numeric, "Decimal(\x7bprecision\x7d, \x7bscale\x7d)"),
    (.integer, "Int32"),
    (.long, "Int64"),
    (.double, "Float64"),
    (.boolean, "UInt8"),
    (.date, "Date"),
    (.time, "String"),
    (.timestamp, "DateTime")]

def warehouseDialects : Registrations where
  definitions := [
    onStandard hive,
    .on "hive" "impala" impala,
    onStandard snowflake,
    onStandard vertica,
    onStandard clickhouse]
  recognizers := [
    .ofPatterns "hive" [(.contains, "hive")],
    .ofPatterns "impala" [(.contains, "impala")],
    .ofPatterns "snowflake" [(.contains, "snowflake")],
    .ofPatterns "vertica" [(.contains, "vertica")],
    .ofPatterns "clickhouse" [(.contains, "clickhouse")]]

end SqlDialects.Builtin
