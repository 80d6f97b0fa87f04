import SqlDialects.Builtin.Standard

namespace SqlDialects.Builtin

/-- The driver of MySQL also serves MariaDB and Infobright; server variables tell them apart. -/
def mysql : Overlay where
  name := "mysql"
  flag := decided [
    (.requiresAliasForFromQuery, true),
    (.allowsCompoundCountDistinct, true),
    (.supportsMultiValueInExpr, true),
    (.allowsSelectNotInGroupBy, true),
    (.allowsRegexInWhere, true),
    (.allowsDdl, true)]
  quoteStyle := some .backtick
  stringStyle := some ⟨"", true⟩
  nullsOrdering := some .isNullFunction
  -- CAST takes few target names.
  castType := decided [
    (.string, "CHAR(\x7blen\x7d)"),
    (.object, "CHAR(\x7blen\x7d)"),
    (.integer, "SIGNED"),
    (.long, "SIGNED"),
    (.boolean, "SIGNED"),
    (.double, "DOUBLE"),
    (.timestamp, "DATETIME")]
  impersonations := [
    ⟨.serverVariable "version", "MariaDB", "mariadb"⟩,
    ⟨.serverVariable "version_comment", "Infobright", "infobright"⟩]

/-- Sub-queries came with 4.1. -/
def mysqlBefore41 : Overlay where
  name := "mysql<4.1"
  flag := decided [(.allowsFromQuery, false), (.requiresAliasForFromQuery, false)]
  dummyTable := some (some "DUAL")

def mariadb : Overlay where
  name := "mariadb"
  flag := decided [(.supportsGroupingSets, false)]

def infobright : Overlay where
  name := "infobright"
  flag := decided [
    (.allowsCompoundCountDistinct, false),
    (.supportsGroupByExpressions, false),
    (.requiresOrderByAlias, true),
    (.allowsDdl, false)]

/-- Whether the recorded comment on the version names Infobright. -/
def saysInfobright (identity : Identity) : Bool :=
  (identity.answer? (.serverVariable "version_comment")).any fun comment =>
    Text.Search.contains (Text.LetterCase.lower comment) "infobright"

/-- MySQL and the engines behind its driver, the specific ones first. -/
def mysqlDialects : Registrations where
  definitions := [
    (onStandard mysql).gate (version 4 1) mysqlBefore41,
    .on "mysql" "mariadb" mariadb,
    .on "mysql" "infobright" infobright]
  recognizers := [
    (Recognizer.ofPatterns "infobright" [(.contains, "mysql")]).guarded saysInfobright,
    .ofPatterns "mariadb" [(.contains, "mariadb")],
    .ofPatterns "mysql" [(.contains, "mysql")]]

/-- The driver of PostgreSQL also serves the engines that grew out of it; the version banner
names them. -/
def postgresql : Overlay where
  name := "postgresql"
  flag := decided [
    (.supportsValuesList, true),
    (.requiresAliasForFromQuery, true),
    (.supportsMultiValueInExpr, true),
    (.supportsGroupingSets, true),
    (.allowsRegexInWhere, true),
    (.allowsDdl, true)]
  castType := decided [(.numeric, "NUMERIC(\x7bprecision\x7d, \x7bscale\x7d)")]
  impersonations := [
    ⟨.versionBanner, "Greenplum", "greenplum"⟩,
    ⟨.versionBanner, "Redshift", "redshift"⟩,
    ⟨.versionBanner, "Netezza", "netezza"⟩]

def postgresqlBefore82 : Overlay where
  name := "postgresql<8.2"
  flag := decided [(.supportsValuesList, false)]

def postgresqlBefore95 : Overlay where
  name := "postgresql<9.5"
  flag := decided [(.supportsGroupingSets, false)]

def greenplum : Overlay where
  name := "greenplum"
  flag := decided [(.requiresGroupByAlias, true), (.allowsMultipleCountDistinct, false)]

def redshift : Overlay where
  name := "redshift"
  flag := decided [(.supportsValuesList, false), (.supportsGroupingSets, false)]
  castType := decided [(.double, "FLOAT8")]

def netezza : Overlay where
  name := "netezza"
  flag := decided [
    (.supportsValuesList, false),
    (.supportsGroupingSets, false),
    (.allowsRegexInWhere, false)]

/-- PostgreSQL and the engines behind its driver, the specific ones first. -/
def postgresqlDialects : Registrations where
  definitions := [
    ((onStandard postgresql).gate (version 8 2) postgresqlBefore82).gate (version 9 5)
      postgresqlBefore95,
    .on "postgresql" "greenplum" greenplum,
    .on "postgresql" "redshift" redshift,
    .on "postgresql" "netezza" netezza]
  recognizers := [
    .ofPatterns "greenplum" [(.contains, "greenplum")],
    .ofPatterns "redshift" [(.contains, "redshift")],
    .ofPatterns "netezza" [(.contains, "netezza")],
    .ofPatterns "postgresql" [(.contains, "postgres")]]

def derby : Overlay where
  name := "derby"
  flag := decided [
    (.supportsValuesList, true),
    (.requiresAliasForFromQuery, true),
    (.supportsGroupByExpressions, false)]
  dummyTable := some (some "SYSIBM.SYSDUMMY1")
  castType := decided [(.double, "DOUBLE")]

def hsqldb : Overlay where
  name := "hsqldb"
  flag := decided [
    (.supportsValuesList, true),
    (.supportsMultiValueInExpr, true),
    (.allowsDdl, true)]
  dummyTable := some (some "INFORMATION_SCHEMA.SYSTEM_USERS")
  castType := decided [(.double, "DOUBLE")]

def h2 : Overlay where
  name := "h2"
  flag := decided [
    (.supportsValuesList, true),
    (.requiresAliasForFromQuery, true),
    (.supportsMultiValueInExpr, true),
    (.allowsDdl, true),
    (.allowsRegexInWhere, true)]
  castType := decided [(.double, "DOUBLE")]

def embeddedDialects : Registrations where
  definitions := [onStandard derby, onStandard hsqldb, onStandard h2]
  recognizers := [
    .ofPatterns "derby" [(.contains, "derby")],
    .ofPatterns "hsqldb" [(.contains, "hsql")],
    .ofPatterns "h2" [(.equals, "h2")]]

def interbase : Overlay where
  name := "interbase"
  flag := decided [(.allowsAs, false), (.allowsFromQuery, false)]
  dummyTable := some (some "RDB$DATABASE")
  booleanStyle := some .numeric
  castType := decided [(.boolean, "SMALLINT")]

/-- Derived tables came with Firebird 2. -/
def firebird : Overlay where
  name := "firebird"
  flag := decided [
    (.allowsAs, true),
    (.allowsFromQuery, true),
    (.requiresAliasForFromQuery, true)]

def interbaseDialects : Registrations where
  definitions := [onStandard interbase, .on "interbase" "firebird" firebird]
  recognizers := [
    .ofPatterns "firebird" [(.contains, "firebird")],
    .ofPatterns "interbase" [(.contains, "interbase")]]

end SqlDialects.Builtin
