namespace SqlDialects

/-- A fact about an engine that is either so or not. -/
inductive Capability where
  /-- `AS` may stand before table and column aliases. -/
  | allowsAs
  /-- Sub-queries may stand in the FROM clause. -/
  | allowsFromQuery
  /-- Sub-queries in the FROM clause must carry an alias. -/
  | requiresAliasForFromQuery
  /-- `COUNT(DISTINCT x)` is understood. -/
  | allowsCountDistinct
  /-- `COUNT(DISTINCT x, y)` is understood. -/
  | allowsCompoundCountDistinct
  /-- One SELECT may hold several `COUNT(DISTINCT …)`. -/
  | allowsMultipleCountDistinct
  /-- One SELECT may hold several distinct measures. -/
  | allowsMultipleDistinctMeasures
  /-- `COUNT(DISTINCT …)` may stand beside other aggregates. -/
  | allowsCountDistinctWithOtherAggs
  /-- ORDER BY has to name aliases of the select list. -/
  | requiresOrderByAlias
  /-- ORDER BY may name aliases of the select list. -/
  | allowsOrderByAlias
  /-- HAVING has to name aliases of the select list. -/
  | requiresHavingAlias
  /-- GROUP BY has to name aliases of the select list. -/
  | requiresGroupByAlias
  /-- ORDER BY on a UNION has to use ordinals. -/
  | requiresUnionOrderByOrdinal
  /-- What ORDER BY on a UNION names has to be in the select list. -/
  | requiresUnionOrderByExprInSelect
  /-- GROUP BY takes any expression. -/
  | supportsGroupByExpressions
  /-- `GROUPING SETS` is understood. -/
  | supportsGroupingSets
  /-- `(a, b) IN ((1, 2), (3, 4))` is understood. -/
  | supportsMultiValueInExpr
  /-- The list of an IN may have any length. -/
  | supportsUnlimitedValueList
  /-- `(VALUES (…), (…)) AS t (c1, c2)` is understood. -/
  | supportsValuesList
  /-- Columns outside GROUP BY may be selected. -/
  | allowsSelectNotInGroupBy
  /-- `JOIN … ON` is understood. -/
  | allowsJoinOn
  /-- DDL statements may be issued. -/
  | allowsDdl
  /-- WHERE may hold regular expressions. -/
  | allowsRegexInWhere
  /-- A numeral with a point needs an exponent, as in `1.5E0`. -/
  | requiresExponentLiteral
deriving DecidableEq, Repr

namespace Capability

/-- All capabilities, in the order in which they are listed and checked. -/
def all : List Capability :=
  [.allowsAs, .allowsFromQuery, .requiresAliasForFromQuery, .allowsCountDistinct,
    .allowsCompoundCountDistinct, .allowsMultipleCountDistinct, .allowsMultipleDistinctMeasures,
    .allowsCountDistinctWithOtherAggs, .requiresOrderByAlias, .allowsOrderByAlias,
    .requiresHavingAlias, .requiresGroupByAlias, .requiresUnionOrderByOrdinal,
    .requiresUnionOrderByExprInSelect, .supportsGroupByExpressions, .supportsGroupingSets,
    .supportsMultiValueInExpr, .supportsUnlimitedValueList, .supportsValuesList,
    .allowsSelectNotInGroupBy, .allowsJoinOn, .allowsDdl, .allowsRegexInWhere,
    .requiresExponentLiteral]

theorem mem_all (c : Capability) : c ∈ all := by
  cases c <;> decide

def name : Capability → String
  | allowsAs => "allows_as"
  | allowsFromQuery => "allows_from_query"
  | requiresAliasForFromQuery => "requires_alias_for_from_query"
  | allowsCountDistinct => "allows_count_distinct"
  | allowsCompoundCountDistinct => "allows_compound_count_distinct"
  | allowsMultipleCountDistinct => "allows_multiple_count_distinct"
  | allowsMultipleDistinctMeasures => "allows_multiple_distinct_measures"
  | allowsCountDistinctWithOtherAggs => "allows_count_distinct_with_other_aggs"
  | requiresOrderByAlias => "requires_order_by_alias"
  | allowsOrderByAlias => "allows_order_by_alias"
  | requiresHavingAlias => "requires_having_alias"
  | requiresGroupByAlias => "requires_group_by_alias"
  | requiresUnionOrderByOrdinal => "requires_union_order_by_ordinal"
  | requiresUnionOrderByExprInSelect => "requires_union_order_by_expr_in_select"
  | supportsGroupByExpressions => "supports_group_by_expressions"
  | supportsGroupingSets => "supports_grouping_sets"
  | supportsMultiValueInExpr => "supports_multi_value_in_expr"
  | supportsUnlimitedValueList => "supports_unlimited_value_list"
  | supportsValuesList => "supports_values_list"
  | allowsSelectNotInGroupBy => "allows_select_not_in_group_by"
  | allowsJoinOn => "allows_join_on"
  | allowsDdl => "allows_ddl"
  | allowsRegexInWhere => "allows_regex_in_where"
  | requiresExponentLiteral => "requires_exponent_literal"

def ofName? (s : String) : Option Capability :=
  all.find? (·.name == s)

/-- The pairs in which the first capability, if set, needs the second to be set. -/
def implications : List (Capability × Capability) :=
  [(requiresOrderByAlias, allowsOrderByAlias),
    (requiresAliasForFromQuery, allowsFromQuery),
    (allowsMultipleCountDistinct, allowsCountDistinct),
    (allowsCompoundCountDistinct, allowsCountDistinct)]

end Capability

end SqlDialects
