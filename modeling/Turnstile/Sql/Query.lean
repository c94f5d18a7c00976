import Turnstile.Sql.Expression

namespace Turnstile.Sql.Level
variable (l : Level)

def behind (ks : List String) (p : Reads) : Reads := do
  if ← takeKeywords ks then p else return []

def joinConstraint (natural : Bool) : Reads := do
  if natural then return []
  else if ← takeKeyword "ON" then l.expr
  else if ← takeKeyword "USING" then columnList; return []
  else return []

/-- The words of a join up to its right operand: whether it takes a condition and whether it is a
natural one; `none` if no join comes next. -/
def joinKind : Reading (Option (Bool × Bool)) := do
  let _ ← takeKeyword "GLOBAL"
  if ← takeKeyword "CROSS" then
    if (← takeOneOf ["JOIN", "APPLY"]).isNone then refuse
    return some (false, false)
  else if ← takeKeyword "OUTER" then
    needKeyword "APPLY"
    return some (false, false)
  else
    let natural ← takeKeyword "NATURAL"
    if (← takeKeyword "STRAIGHT_JOIN") || (← takeKeyword "JOIN") then return some (true, natural)
    else
      match ← takeOneOf ["INNER", "LEFT", "RIGHT", "ANTI", "SEMI", "FULL"] with
      | some "LEFT" | some "RIGHT" =>
        let _ ← takeOneOf ["OUTER", "SEMI", "ANTI"]
        needKeyword "JOIN"
        return some (true, natural)
      | some "FULL" =>
        let _ ← takeKeyword "OUTER"
        needKeyword "JOIN"
        return some (true, natural)
      | some _ =>
        needKeyword "JOIN"
        return some (true, natural)
      | none => if natural then refuse else return none

def joins : Reads :=
  gatherAll do
    match ← joinKind with
    | none => return none
    | some (conditional, natural) =>
      let f ← l.factor
      let c ← if conditional then l.joinConstraint natural else pure []
      return some (f.reads ++ c)

def joined : Reads := do
  let f ← l.factor
  return f.reads ++ (← l.joins)

def tables : Reads := commaSeparated l.joined

def derivedTable : Reading Factor := do
  let q ← l.query
  needSymbol ")"
  return ⟨[q], ← takeTableAlias, false⟩

/-- What an opening parenthesis starts if no query follows it: a join, or one operand that may take
its alias inside the parentheses or behind them, but not both. -/
def enclosedFactor : Reading Factor := do
  let f ← l.factor
  let alone := (← get).length
  let js ← l.joins
  let nested := f.nested || (← get).length < alone
  needSymbol ")"
  let aliased ← takeTableAlias
  if nested then return ⟨f.reads ++ js, aliased, true⟩
  else if f.aliased && aliased then refuse
  else return ⟨f.reads, f.aliased || aliased, false⟩

def valueRows : Reads :=
  commaSeparated do
    let _ ← takeKeyword "ROW"
    parenthesized l.exprs

def optionalSample : Reading Unit := do
  if (← takeOneOf ["TABLESAMPLE", "SAMPLE"]).isSome then
    let _ ← takeOneOf ["BERNOULLI", "SYSTEM", "ROW", "BLOCK"]
    needSymbol "("
    skipBalanced ((← get).length + 1) 1
    if (← takeOneOf ["REPEATABLE", "SEED"]).isSome then
      needSymbol "("
      skipBalanced ((← get).length + 1) 1

def namedTable : Reading Factor := do
  let name ← objectName
  if ← takeKeyword "PARTITION" then columnList
  let args ←
    if ← takeSymbol "(" then
      if ← takeSymbol ")" then pure []
      else
        let args ← if ← atSubquery then l.queryReads else commaSeparated l.argument
        needSymbol ")"
        pure args
    else pure []
  let _ ← takeKeywords ["WITH", "ORDINALITY"]
  let aliased ← takeTableAlias
  let hints ←
    if (← atKeyword "WITH") && (← peekSecond).any (·.isSymbol "(") then
      advance
      parenthesized l.exprs
    else pure []
  optionalSample
  return ⟨.table name :: args ++ hints, aliased, false⟩

def factorHere : Reading Factor := do
  if ← takeKeyword "LATERAL" then
    if ← takeSymbol "(" then l.derivedTable
    else
      let _ ← objectName
      needSymbol "("
      let args ← l.arguments
      return ⟨args, ← takeTableAlias, false⟩
  else if ← takeKeyword "TABLE" then
    let e ← parenthesized l.expr
    return ⟨e, ← takeTableAlias, false⟩
  else if ← takeSymbol "(" then
    match ← attempt l.derivedTable with
    | some f => return f
    | none => l.enclosedFactor
  else if (← atKeyword "VALUES") && (← peekSecond).any (·.isSymbol "(") then
    advance
    let rows ← l.valueRows
    return ⟨rows, ← takeTableAlias, false⟩
  else if ← takeKeyword "UNNEST" then
    let es ← parenthesized l.exprs
    let _ ← takeKeywords ["WITH", "ORDINALITY"]
    let aliased ← takeTableAlias
    if ← takeKeywords ["WITH", "OFFSET"] then
      let _ ← takeAlias notColumnAlias
    return ⟨es, aliased, false⟩
  else l.namedTable

def oneOrMany (p : Reads) : Reads := do
  if ← atSymbol "(" then parenthesized (commaSeparated p) else p

def nameAlone : Reads := do
  let _ ← identifier
  return []

def wildcardOptions : Reads := do
  if ← takeKeyword "ILIKE" then
    match ← peek with
    | some (.string _) => advance
    | _ => refuse
  else if ← takeKeyword "EXCLUDE" then
    let _ ← oneOrMany nameAlone
  if ← takeKeyword "EXCEPT" then
    let _ ← oneOrMany nameAlone
  let replaced ← behind ["REPLACE"] (oneOrMany do
    let e ← l.expr
    let _ ← takeKeyword "AS"
    let _ ← identifier
    return e)
  if ← takeKeyword "RENAME" then
    let _ ← oneOrMany do
      let _ ← identifier
      needKeyword "AS"
      nameAlone
  return replaced

/-- How many tokens a star takes with the name before it, if one comes next. -/
def starLength : List Token → Nat
  | .symbol "*" :: _ => 1
  | .word .. :: .symbol "." :: rest => nameAndStar rest
  | .quoted _ :: .symbol "." :: rest => nameAndStar rest
  | _ => 0
where
  nameAndStar (rest : List Token) : Nat :=
    match starLength rest with
    | 0 => 0
    | n + 1 => n + 3

def selectItem : Reads := do
  let n := starLength (← get)
  if n > 0 then
    modify (List.drop n)
    l.wildcardOptions
  else
    let bareFrom := (← atKeyword "FROM")
    let before := (← get).length
    let e ← l.expr
    if bareFrom && (← get).length + 1 == before then refuse
    let _ ← takeAlias notColumnAlias
    return e

/-- Expressions in parentheses, perhaps none; where `bare` holds, one may stand alone. -/
def groupSet (bare : Bool) : Reads := do
  if ← takeSymbol "(" then
    if ← takeSymbol ")" then return []
    let es ← l.exprs
    needSymbol ")"
    return es
  else if bare then l.expr
  else refuse

def groupItem : Reads := do
  if ← takeKeywords ["GROUPING", "SETS"] then parenthesized (commaSeparated (l.groupSet false))
  else if (← takeOneOf ["CUBE", "ROLLUP"]).isSome then
    parenthesized (commaSeparated (l.groupSet true))
  else if (← atSymbol "(") && (← peekSecond).any (·.isSymbol ")") then
    modify (List.drop 2)
    return []
  else l.expr

def optionalGroupBy : Reads :=
  behind ["GROUP", "BY"] do
    let keys ← if ← takeKeyword "ALL" then pure [] else commaSeparated l.groupItem
    let _ ← gatherAll do
      if (← takeKeywords ["WITH", "ROLLUP"]) || (← takeKeywords ["WITH", "CUBE"])
          || (← takeKeywords ["WITH", "TOTALS"]) then return some []
      else return none
    return keys

def windows : Reads :=
  commaSeparated do
    let _ ← identifier
    needKeyword "AS"
    if ← takeSymbol "(" then l.windowSpec else nameAlone

def windowsAndQualify : Reads := do
  if ← takeKeyword "WINDOW" then
    let ws ← l.windows
    return ws ++ (← behind ["QUALIFY"] l.expr)
  else
    behind ["QUALIFY"] do
      let e ← l.expr
      return (← behind ["WINDOW"] l.windows) ++ e

def optionalTop : Reads := do
  if ← takeKeyword "TOP" then
    let n ←
      if ← takeSymbol "(" then
        let e ← l.expr
        needSymbol ")"
        pure e
      else
        advance
        pure []
    let _ ← takeKeyword "PERCENT"
    let _ ← takeKeywords ["WITH", "TIES"]
    return n
  else return []

def optionalDistinct : Reads := do
  if ← takeKeyword "ALL" then
    if ← takeKeyword "DISTINCT" then refuse
    return []
  else if ← takeKeyword "DISTINCT" then
    if ← takeKeyword "ON" then
      needSymbol "("
      if ← takeSymbol ")" then return []
      let es ← l.exprs
      needSymbol ")"
      return es
    else return []
  else return []

def optionalInto : Reading Unit := do
  if ← takeKeyword "INTO" then
    takeEach ["TEMP", "TEMPORARY", "UNLOGGED", "TABLE"]
    let _ ← objectName

def lateralViews : Reads :=
  gatherAll do
    if ← takeKeywords ["LATERAL", "VIEW"] then
      let _ ← takeKeyword "OUTER"
      let e ← l.expr
      let _ ← objectName
      let _ ← commaSeparated do
        let _ ← takeAlias ["WHERE", "GROUP", "CLUSTER", "HAVING", "LATERAL"]
        return []
      return some e
    else return none

def selectTail : Reads := do
  let views ← l.lateralViews
  let pre ← behind ["PREWHERE"] l.expr
  let condition ← behind ["WHERE"] l.expr
  let groups ← l.optionalGroupBy
  let cluster ← behind ["CLUSTER", "BY"] l.exprs
  let distribute ← behind ["DISTRIBUTE", "BY"] l.exprs
  let sort ← behind ["SORT", "BY"] (commaSeparated l.orderItem)
  let having ← behind ["HAVING"] l.expr
  return views ++ pre ++ condition ++ groups ++ cluster ++ distribute ++ sort ++ having
    ++ (← l.windowsAndQualify)

def projection : Reads := do
  let distinct ← l.optionalDistinct
  let top ← l.optionalTop
  let items ← if ← atKeyword "FROM" then pure [] else commaSeparated l.selectItem
  optionalInto
  return distinct ++ top ++ items

def selection : Reads := do
  if ← takeKeyword "FROM" then
    let from_ ← l.tables
    if ← takeKeyword "SELECT" then
      let items ← l.projection
      return items ++ from_ ++ (← l.selectTail)
    else return from_
  else
    needKeyword "SELECT"
    let items ← l.projection
    let from_ ← behind ["FROM"] l.tables
    return items ++ from_ ++ (← l.selectTail)

def queryOperand : Reads := do
  if (← atKeyword "SELECT") || (← atKeyword "FROM") then l.selection
  else if ← takeSymbol "(" then
    let q ← l.queryReads
    needSymbol ")"
    return q
  else if (← takeKeyword "VALUES") || (← takeKeyword "VALUE") then l.valueRows
  else if ← takeKeyword "TABLE" then
    let _ ← identifier
    if ← takeSymbol "." then
      let _ ← identifier
    return []
  else refuse

def queryOperands : Reads := do
  let first ← l.queryOperand
  let more ← gatherAll do
    if (← takeOneOf ["UNION", "EXCEPT", "INTERSECT", "MINUS"]).isSome then
      let _ ← takeOneOf ["ALL", "DISTINCT"]
      let _ ← takeKeywords ["BY", "NAME"]
      return some (← l.queryOperand)
    else return none
  return first ++ more

def offsetRows : Reads := do
  let e ← l.expr
  let _ ← takeOneOf ["ROW", "ROWS"]
  return e

def optionalLimit : Reads := do
  let early ← takeKeyword "OFFSET"
  let offset ← if early then l.offsetRows else pure []
  if ← takeKeyword "LIMIT" then
    let limit ← if ← takeKeyword "ALL" then pure [] else l.expr
    let second ← if !early && (← takeSymbol ",") then l.expr else pure []
    let keys ← behind ["BY"] l.exprs
    let late ← if early then pure [] else behind ["OFFSET"] l.offsetRows
    return limit ++ second ++ offset ++ late ++ keys
  else return offset

def optionalFetch : Reading Unit := do
  if ← takeKeyword "FETCH" then
    let _ ← takeOneOf ["FIRST", "NEXT"]
    if (← takeOneOf ["ROW", "ROWS"]).isNone then
      advance
      let _ ← takeKeyword "PERCENT"
      let _ ← takeOneOf ["ROW", "ROWS"]
    if !(← takeKeyword "ONLY") then
      let _ ← takeKeywords ["WITH", "TIES"]

def locks : Reading Unit := do
  let _ ← gatherAll do
    if ← takeKeyword "FOR" then
      if (← takeOneOf ["UPDATE", "SHARE"]).isNone then refuse
      if ← takeKeyword "OF" then
        let _ ← objectName
      if !(← takeKeyword "NOWAIT") then
        let _ ← takeKeywords ["SKIP", "LOCKED"]
      return some []
    else return none

def commonTable : Reading (String × Source) := do
  let name ← identifier
  if !(← takeKeyword "AS") then
    let _ ← parenthesized (commaSeparated columnName)
    needKeyword "AS"
  let q ← parenthesized l.query
  if ← takeKeyword "FROM" then
    let _ ← identifier
  return (name, q)

def moreCommonTables : Nat → Reading (List (String × Source))
  | 0 => return []
  | n + 1 => do
    if ← takeSymbol "," then
      let c ← l.commonTable
      return c :: (← moreCommonTables n)
    else return []

def assignment : Reads := do
  if ← atSymbol "(" then
    let _ ← parenthesized (commaSeparated do
      let _ ← objectName
      return [])
  else
    let _ ← objectName
  needSymbol "="
  l.expr

def assignments : Reads := commaSeparated l.assignment

def optionalReturning : Reads := behind ["RETURNING"] (commaSeparated l.selectItem)

def optionalConflict : Reads := do
  if ← takeKeyword "ON" then
    if ← takeKeyword "CONFLICT" then
      if ← takeKeywords ["ON", "CONSTRAINT"] then
        let _ ← objectName
      else optionalColumnList
      needKeyword "DO"
      if ← takeKeyword "NOTHING" then return []
      needKeyword "UPDATE"
      needKeyword "SET"
      let a ← l.assignments
      return a ++ (← behind ["WHERE"] l.expr)
    else
      needKeyword "DUPLICATE"
      needKeyword "KEY"
      needKeyword "UPDATE"
      l.assignments
  else return []

def optionalConflictWord : Reading Unit := do
  if ← takeKeyword "OR" then
    if (← takeOneOf ["REPLACE", "ROLLBACK", "ABORT", "FAIL", "IGNORE"]).isNone then refuse

/-- New rows, behind their keyword. The target is read before the rows. -/
def insertion : Reads := do
  optionalConflictWord
  let _ ← takeOneOf ["LOW_PRIORITY", "DELAYED", "HIGH_PRIORITY"]
  takeEach ["IGNORE", "OVERWRITE", "INTO", "LOCAL", "TABLE"]
  let target ← objectName
  let rows ←
    if ← takeKeywords ["DEFAULT", "VALUES"] then pure []
    else
      if !((← atSymbol "(") && (← peekSecond).any (·.isKeyword "SELECT")) then
        optionalColumnList
        if ← takeKeyword "PARTITION" then
          let _ ← parenthesized l.exprs
      if ← takeKeyword "SET" then l.assignments else l.queryReads
  if ← takeKeyword "AS" then
    let _ ← objectName
    optionalColumnList
  let conflict ← l.optionalConflict
  return .table target :: rows ++ conflict ++ (← l.optionalReturning)

def changeTail : Reads := do
  let condition ← behind ["WHERE"] l.expr
  let back ← l.optionalReturning
  let order ← l.optionalOrderBy
  let limit ←
    behind ["LIMIT"] do
      if ← takeKeyword "ALL" then return [] else l.expr
  return condition ++ back ++ order ++ limit

def update : Reads := do
  optionalConflictWord
  let target ← l.joined
  let early ← atKeyword "FROM"
  let before ← behind ["FROM"] l.tables
  needKeyword "SET"
  let changes ← l.assignments
  let after ← if early then pure [] else behind ["FROM"] l.tables
  return target ++ changes ++ before ++ after ++ (← l.changeTail)

def deletion : Reads := do
  let _ ← takeKeyword "FROM"
  let target ← l.tables
  let using_ ← behind ["USING"] l.tables
  return target ++ using_ ++ (← l.changeTail)

def queryBody : Reads := do
  if ← takeKeyword "INSERT" then l.insertion
  else if ← takeKeyword "UPDATE" then l.update
  else if ← takeKeyword "DELETE" then l.deletion
  else
    let operands ← l.queryOperands
    let order ← l.optionalOrderBy
    let limit ← l.optionalLimit
    optionalFetch
    locks
    return operands ++ order ++ limit

def queryHere : Reading Source := do
  if ← takeKeyword "WITH" then
    let recursive ← takeKeyword "RECURSIVE"
    let first ← l.commonTable
    let more ← l.moreCommonTables (← get).length
    return .query recursive (first :: more) (← l.queryBody)
  else return .query false [] (← l.queryBody)

end Turnstile.Sql.Level
