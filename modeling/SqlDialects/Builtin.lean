import SqlDialects.Builtin.Analytic
import SqlDialects.Builtin.Commercial
import SqlDialects.Builtin.Open

namespace SqlDialects.Builtin

/-- The families, in the order in which they are tried. -/
def families : List Registrations :=
  [standardDialects, mysqlDialects, postgresqlDialects, mssqlDialects, oracleDialects,
    db2Dialects, embeddedDialects, informixDialects, teradataDialects, luciddbDialects,
    warehouseDialects, interbaseDialects]

def registrations : Registrations :=
  families.foldl .append .empty

def registry : Except Error Registry :=
  registrations.build

end SqlDialects.Builtin
