import SqlDialects.Builtin.Standard

namespace SqlDialects.Builtin

def mssql : Overlay where
  name := "mssql"
  flag := decided [
    (.supportsValuesList, true),
    (.requiresAliasForFromQuery, true),
    (.supportsGroupingSets, true),
    (.allowsDdl, true)]
  quoteStyle := some .bracket
  stringStyle := some ⟨"N", false⟩
  booleanStyle := some .numeric
  temporalStyle := some .quoted
  nullsOrdering := some .caseExpression
  castType := decided [
    (.string, "NVARCHAR(\x7blen\x7d)"),
    (.object, "NVARCHAR(\x7blen\x7d)"),
    (.double, "FLOAT"),
    (.boolean, "BIT"),
    (.timestamp, "DATETIME2")]

/-- SQL Server 2005 and older have neither row constructors nor types for days and times. -/
def mssqlBefore2008 : Overlay where
  name := "mssql<10"
  flag := decided [(.supportsValuesList, false), (.supportsGroupingSets, false)]
  castType := decided [(.date, "DATETIME"), (.time, "DATETIME"), (.timestamp, "DATETIME")]

def sybase : Overlay where
  name := "sybase"
  flag := decided [
    (.allowsAs, false),
    (.allowsFromQuery, false),
    (.requiresAliasForFromQuery, false),
    (.supportsValuesList, false),
    (.supportsGroupingSets, false)]
  stringStyle := some .standard
  castType := decided [
    (.string, "VARCHAR(\x7blen\x7d)"),
    (.object, "VARCHAR(\x7blen\x7d)"),
    (.timestamp, "DATETIME")]

def mssqlDialects : Registrations where
  definitions := [
    (onStandard mssql).gate (version 10 0) mssqlBefore2008,
    .on "mssql" "sybase" sybase]
  recognizers := [
    .ofPatterns "sybase" [(.contains, "sybase"), (.startsWith, "adaptive server")],
    .ofPatterns "mssql" [(.contains, "sql server"), (.equals, "mssql")]]

/-- The longest list that Oracle takes in an IN. -/
def oracleListLength : Nat :=
  1000

def oracle : Overlay where
  name := "oracle"
  -- An alias of a table follows it without AS.
  flag := decided [
    (.allowsAs, false),
    (.supportsGroupingSets, true),
    (.supportsMultiValueInExpr, true),
    (.allowsRegexInWhere, true),
    (.allowsDdl, true)]
  dummyTable := some (some "DUAL")
  maxValueList := some (some oracleListLength)
  booleanStyle := some .numeric
  -- There is no type for times, which travel as strings.
  temporalStyleFor := decided [(.time, .quoted)]
  castType := decided [
    (.string, "VARCHAR2(\x7blen\x7d)"),
    (.object, "VARCHAR2(\x7blen\x7d)"),
    (.numeric, "NUMBER(\x7bprecision\x7d, \x7bscale\x7d)"),
    (.integer, "NUMBER(10)"),
    (.long, "NUMBER(19)"),
    (.double, "BINARY_DOUBLE"),
    (.boolean, "NUMBER(1)"),
    (.time, "VARCHAR2(\x7blen\x7d)")]
  -- Computed numbers come without a precision and with a scale of -127.
  typeRules := [.forShape .numeric 0 (-127) .double]

def oracleDialects : Registrations where
  definitions := [onStandard oracle]
  recognizers := [.ofPatterns "oracle" [(.contains, "oracle")]]

def db2 : Overlay where
  name := "db2"
  flag := decided [
    (.supportsGroupingSets, true),
    (.supportsMultiValueInExpr, true),
    (.supportsValuesList, true),
    (.requiresAliasForFromQuery, true)]
  dummyTable := some (some "SYSIBM.SYSDUMMY1")
  booleanStyle := some .numeric
  castType := decided [(.double, "DOUBLE"), (.boolean, "SMALLINT")]

/-- DB2 for iSeries refuses derived tables. -/
def db2As400 : Overlay where
  name := "db2_as400"
  flag := decided [
    (.allowsFromQuery, false),
    (.requiresAliasForFromQuery, false),
    (.supportsGroupingSets, false)]

/-- The engines called DB2. -/
def db2Dialects : Registrations where
  definitions := [onStandard db2, .on "db2" "db2_as400" db2As400]
  recognizers := [
    .ofPatterns "db2_as400" [(.startsWith, "db2 udb for as/400")],
    .ofPatterns "db2" [(.startsWith, "db2")]]

def informix : Overlay where
  name := "informix"
  flag := decided [(.requiresAliasForFromQuery, true), (.requiresOrderByAlias, true)]
  dummyTable := some (some "systables WHERE tabid = 1")
  temporalStyle := some .quoted
  castType := decided [
    (.double, "FLOAT"),
    (.timestamp, "DATETIME YEAR TO FRACTION"),
    (.time, "DATETIME HOUR TO SECOND")]

def informixDialects : Registrations where
  definitions := [onStandard informix]
  recognizers := [.ofPatterns "informix" [(.contains, "informix")]]

def teradata : Overlay where
  name := "teradata"
  flag := decided [
    (.requiresAliasForFromQuery, true),
    (.supportsGroupingSets, true),
    (.supportsMultiValueInExpr, true)]
  -- A branch of a UNION has to have a FROM.
  dummyTable := some (some "(SELECT 1 AS one) AS dual_")
  booleanStyle := some .numeric
  castType := decided [(.double, "FLOAT"), (.boolean, "BYTEINT")]

def teradataDialects : Registrations where
  definitions := [onStandard teradata]
  recognizers := [.ofPatterns "teradata" [(.contains, "teradata")]]

end SqlDialects.Builtin
