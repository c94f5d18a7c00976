import Turnstile.Sql.Keyword

namespace Turnstile.Sql

/-- One operand of a join: what it reads, whether an alias follows it, and whether it is a join
between parentheses. -/
structure Factor where
  reads : List Source
  aliased : Bool
  nested : Bool

/-- The readings that nest. `expression` stops before an operator that does not bind tighter than
the given strength. -/
structure Level where
  expression : Nat → Reads
  query : Reading Source
  factor : Reading Factor
  statement : Reads

def Level.bottom : Level := ⟨fun _ => refuse, refuse, refuse, refuse⟩

namespace Level
variable (l : Level)

def expr : Reads := l.expression 0

def queryReads : Reads := do return [← l.query]

def atSubquery : Reading Bool := do return (← atKeyword "SELECT") || (← atKeyword "WITH")

def exprs : Reads := commaSeparated l.expr

def orderItem : Reads := do
  let e ← l.expr
  let _ ← takeOneOf ["ASC", "DESC"]
  if ← takeKeyword "NULLS" then
    if (← takeOneOf ["FIRST", "LAST"]).isNone then refuse
  if ← takeKeywords ["WITH", "FILL"] then
    let mut more := []
    for k in ["FROM", "TO", "STEP"] do
      if ← takeKeyword k then more := more ++ (← l.expr)
    return e ++ more
  return e

def optionalOrderBy : Reads := do
  if ← takeKeywords ["ORDER", "BY"] then commaSeparated l.orderItem else return []

def frameBound : Reads := do
  if ← takeKeywords ["CURRENT", "ROW"] then return []
  else
    let e ← if ← takeKeyword "UNBOUNDED" then pure [] else l.expr
    if (← takeOneOf ["PRECEDING", "FOLLOWING"]).isNone then refuse
    return e

def windowSpec : Reads := do
  match ← peek with
  | some (.word _ k) =>
    unless ["PARTITION", "ORDER", "ROWS", "RANGE", "GROUPS"].contains k do advance
  | some (.quoted _) => advance
  | _ => pure ()
  let partition ← if ← takeKeywords ["PARTITION", "BY"] then l.exprs else pure []
  let order ← l.optionalOrderBy
  let frame ←
    if (← takeOneOf ["ROWS", "RANGE", "GROUPS"]).isSome then
      if ← takeKeyword "BETWEEN" then
        let low ← l.frameBound
        needKeyword "AND"
        pure (low ++ (← l.frameBound))
      else l.frameBound
    else pure []
  needSymbol ")"
  return partition ++ order ++ frame

def argument : Reads := do
  if ← takeSymbol "*" then return []
  else
    let ts ← get
    match ts with
    | _ :: .symbol "=>" :: rest | _ :: .symbol ":=" :: rest => set rest; l.expr
    | _ :: .symbol "." :: .symbol "*" :: rest => set rest; return []
    | _ => do
      let e ← l.expr
      if ← takeSymbol "=>" then return e ++ (← l.expr)
      if ← takeKeyword "AS" then let _ ← identifier
      return e

def arguments : Reads := do
  if ← takeSymbol ")" then return []
  else if ← atSubquery then
    let q ← l.queryReads
    needSymbol ")"
    return q
  else
    let _ ← takeOneOf ["DISTINCT", "ALL"]
    let args ← commaSeparated l.argument
    if (← takeOneOf ["IGNORE", "RESPECT"]).isSome then needKeyword "NULLS"
    let order ← l.optionalOrderBy
    let limit ← if ← takeKeyword "LIMIT" then l.expr else pure []
    let sep ← if ← takeKeyword "SEPARATOR" then l.expr else pure []
    needSymbol ")"
    return args ++ order ++ limit ++ sep

def functionTail : Reads := do
  let params ← if ← takeSymbol "(" then l.arguments else pure []
  let within ←
    if ← takeKeywords ["WITHIN", "GROUP"] then
      parenthesized do
        needKeyword "ORDER"
        needKeyword "BY"
        commaSeparated l.orderItem
    else pure []
  let filter ←
    if ← takeKeyword "FILTER" then
      parenthesized do
        needKeyword "WHERE"
        l.expr
    else pure []
  if (← takeOneOf ["IGNORE", "RESPECT"]).isSome then needKeyword "NULLS"
  let window ←
    if ← takeKeyword "OVER" then
      if ← takeSymbol "(" then l.windowSpec
      else do
        let _ ← identifier
        pure []
    else pure []
  -- what orders a group is read last, though it is written first
  return params ++ filter ++ window ++ within

def caseBranches : Reads := do
  let operand ← if ← atKeyword "WHEN" then pure [] else l.expr
  needKeyword "WHEN"
  let branch : Reads := do
    let condition ← l.expr
    needKeyword "THEN"
    return condition ++ (← l.expr)
  let first ← branch
  let more ← gatherAll do
    if ← takeKeyword "WHEN" then return some (← branch) else return none
  let last ← if ← takeKeyword "ELSE" then l.expr else pure []
  needKeyword "END"
  return operand ++ first ++ more ++ last

def dateFields : List String :=
  ["YEAR", "YEARS", "QUARTER", "QUARTERS", "MONTH", "MONTHS", "WEEK", "WEEKS", "DAY", "DAYS",
    "HOUR", "HOURS", "MINUTE", "MINUTES", "SECOND", "SECONDS", "CENTURY", "DECADE", "DOW", "DOY",
    "EPOCH", "ISODOW", "ISOYEAR", "JULIAN", "MICROSECOND", "MICROSECONDS", "MILLENNIUM",
    "MILLISECOND", "MILLISECONDS", "NANOSECOND", "NANOSECONDS", "TIMEZONE", "DATE", "TIME",
    "DAYOFWEEK", "DAYOFYEAR", "ISOWEEK", "DATETIME", "CENTURIES", "DECADES", "MILLENNIUMS"]

def intervalUnit : Reading Unit := do
  if (← takeOneOf dateFields).isSome then
    if ← atSymbol "(" then
      advance
      skipBalanced ((← get).length + 1) 1
    if ← takeKeyword "TO" then
      if (← takeOneOf dateFields).isNone then refuse
      if ← atSymbol "(" then
        advance
        skipBalanced ((← get).length + 1) 1

def keywordForm (k : String) : Reads := do
  match k with
  | "CASE" => l.caseBranches
  | "NOT" =>
    if ← takeKeyword "EXISTS" then parenthesized l.queryReads else l.expression 15
  | "EXISTS" => parenthesized l.queryReads
  | "CAST" | "TRY_CAST" | "SAFE_CAST" =>
    parenthesized do
      let e ← l.expr
      needKeyword "AS"
      dataType
      let format ← if ← takeKeyword "FORMAT" then l.expr else pure []
      return e ++ format
  | "CONVERT" | "TRY_CONVERT" =>
    parenthesized do
      let e ← l.expr
      if ← takeKeyword "USING" then let _ ← objectName; return e
      needSymbol ","
      match ← attempt (do
        dataType
        if ← takeSymbol "," then return (← l.exprs)
        if ← atSymbol ")" then return [] else refuse) with
      | some more => return e ++ more
      | none => return e ++ (← l.exprs)
  | "EXTRACT" =>
    parenthesized do
      let _ ← identifier
      if ← takeSymbol "," then l.expr
      else
        needKeyword "FROM"
        l.expr
  | "CEIL" | "FLOOR" =>
    parenthesized do
      let e ← l.expr
      if ← takeKeyword "TO" then
        let _ ← identifier
        return e
      if ← takeSymbol "," then return e ++ (← l.expr)
      return e
  | "POSITION" =>
    parenthesized do
      let a ← l.expression 20
      needKeyword "IN"
      return a ++ (← l.expr)
  | "SUBSTRING" | "SUBSTR" =>
    parenthesized do
      let e ← l.expr
      let start ← if (← takeSymbol ",") || (← takeKeyword "FROM") then l.expr else pure []
      let len ← if (← takeSymbol ",") || (← takeKeyword "FOR") then l.expr else pure []
      return e ++ start ++ len
  | "OVERLAY" =>
    parenthesized do
      let e ← l.expr
      needKeyword "PLACING"
      let what ← l.expr
      needKeyword "FROM"
      let start ← l.expr
      let len ← if ← takeKeyword "FOR" then l.expr else pure []
      return e ++ what ++ start ++ len
  | "TRIM" =>
    parenthesized do
      let _ ← takeOneOf ["BOTH", "LEADING", "TRAILING"]
      if ← takeKeyword "FROM" then l.expr
      else
        let e ← l.expr
        if ← takeKeyword "FROM" then return e ++ (← l.expr)
        if ← takeSymbol "," then return e ++ (← l.exprs)
        return e
  | "INTERVAL" => do
    let e ← l.expression 50
    intervalUnit
    return e
  | "ARRAY" =>
    if ← takeSymbol "[" then
      if ← takeSymbol "]" then return []
      let es ← l.exprs
      needSymbol "]"
      return es
    else parenthesized l.queryReads
  | _ => refuse

def formKeywords : List String :=
  ["CASE", "NOT", "EXISTS", "CAST", "TRY_CAST", "SAFE_CAST", "CONVERT", "TRY_CONVERT", "EXTRACT",
    "CEIL", "FLOOR", "POSITION", "SUBSTRING", "SUBSTR", "OVERLAY", "TRIM", "INTERVAL", "ARRAY"]

/-- Keywords of forms without which the word is no expression at all. -/
def strictKeywords : List String := ["EXISTS", "INTERVAL", "TRIM", "STRUCT"]

def nameTail : Nat → Reading Unit
  | 0 => return ()
  | n + 1 => do
    if (← atSymbol ".") && (← peekSecond).any (fun t =>
        match t with
        | .word .. | .quoted _ | .string _ => true
        | _ => false) then
      advance
      advance
      nameTail n
    else return ()

def nameOrCall : Reads := do
  let _ ← identifier
  nameTail (← get).length
  if ← takeSymbol "(" then
    let args ← l.arguments
    return args ++ (← l.functionTail)
  else return []

def parenthesis : Reads := do
  if ← atSubquery then
    let q ← l.queryReads
    needSymbol ")"
    return q
  else
    let es ← l.exprs
    needSymbol ")"
    return es

def literalTypes : List String :=
  ["DATE", "TIME", "TIMESTAMP", "DATETIME", "TIMESTAMPTZ", "JSON", "UUID", "NUMERIC", "BIGNUMERIC"]

def operand : Reads := do
  match ← peek with
  | none => refuse
  | some .number | some (.string _) | some .placeholder => advance; return []
  | some (.quoted _) => l.nameOrCall
  | some (.symbol s) =>
    match s with
    | "(" => advance; l.parenthesis
    | "-" | "+" => advance; l.expression 40
    | "~" | "|/" | "||/" | "!!" => advance; l.expression 30
    | "!" => advance; l.expression 15
    | "[" => do
      advance
      if ← takeSymbol "]" then return []
      let es ← l.exprs
      needSymbol "]"
      return es
    | ":" => do
      advance
      let _ ← identifier
      return []
    | _ => refuse
  | some (.word _ k) => do
    let second ← peekSecond
    let beforeString := match second with
      | some (.string _) => true
      | _ => false
    if literalTypes.contains k && beforeString then advance; advance; return []
    else if k == "TRUE" || k == "FALSE" || k == "NULL" then advance; return []
    else if formKeywords.contains k then
      match ← attempt (do advance; l.keywordForm k) with
      | some r => return r
      | none => if strictKeywords.contains k then refuse else l.nameOrCall
    else l.nameOrCall

def accesses : Reads := do
  gatherAll do
    if ← takeSymbol "[" then
      let low ← if ← atSymbol ":" then pure [] else l.expr
      let high ←
        if ← takeSymbol ":" then
          if ← atSymbol "]" then pure [] else l.expr
        else pure []
      needSymbol "]"
      return some (low ++ high)
    else if (← atSymbol ".") && (← peekSecond).any (fun t =>
        match t with
        | .word .. | .quoted _ | .string _ => true
        | _ => false) then
      advance
      return some (← l.nameOrCall)
    else return none

/-- How strongly the operator binds that comes next; zero if none does. -/
def nextStrength : Reading Nat := do
  match ← peek with
  | some (.symbol s) =>
    return match s with
    | "=" | "<" | "<=" | "<>" | "!=" | ">" | ">=" | "==" | "<=>" => 20
    | "~" | "~*" | "!~" | "!~*" | "~~" | "~~*" | "!~~" | "!~~*" => 20
    | "|" => 21
    | "^" | "<<" | ">>" => 22
    | "&" => 23
    | "+" | "-" => 30
    | "*" | "/" | "//" | "%" | "||" => 40
    | "::" | "!" => 50
    | "->" | "->>" | "#>>" | "<@" | "?|" | "?&" | "&&" | "&<" | "&>" | "^@" => 16
    | _ => 0
  | some (.word _ k) =>
    match k with
    | "OR" => return 5
    | "AND" => return 10
    | "XOR" => return 24
    | "AT" =>
      let ks := ((← get).drop 1).take 2
      return if ks.map Token.keyword == ["TIME", "ZONE"] then 41 else 0
    | "NOT" =>
      match (← peekSecond).map Token.keyword with
      | some k =>
        return if k == "IN" || k == "BETWEEN" then 20
          else if ["LIKE", "ILIKE", "SIMILAR", "RLIKE", "REGEXP"].contains k then 19
          else 0
      | none => return 0
    | "IS" => return 17
    | "IN" | "BETWEEN" | "OVERLAPS" | "OPERATOR" => return 20
    | "LIKE" | "ILIKE" | "SIMILAR" | "RLIKE" | "REGEXP" => return 19
    | "DIV" => return 40
    | "COLLATE" => return 42
    | _ => return 0
  | _ => return 0

def comparand (strength : Nat) : Reads := do
  if (← takeOneOf ["ANY", "ALL", "SOME"]).isSome then
    needSymbol "("
    if ← atSubquery then
      let q ← l.queryReads
      needSymbol ")"
      return q
    else
      let e ← l.expression strength
      needSymbol ")"
      return e
  else l.expression strength

def membership : Reads := do
  if ← takeKeyword "UNNEST" then parenthesized l.expr
  else
    needSymbol "("
    match ← attempt l.queryReads with
    | some q => needSymbol ")"; return q
    | none =>
      let es ← l.exprs
      needSymbol ")"
      return es

def optionalEscape : Reading Unit := do
  if ← takeKeyword "ESCAPE" then advance

def isTail : Reads := do
  let _ ← takeKeyword "NOT"
  if ← takeKeywords ["DISTINCT", "FROM"] then l.expr
  else if (← takeOneOf ["NULL", "TRUE", "FALSE", "UNKNOWN", "NORMALIZED"]).isSome then return []
  else refuse

def keywordOperator (strength : Nat) : Reads := do
  let _ ← takeKeyword "NOT"
  if ← takeKeyword "IN" then l.membership
  else if ← takeKeyword "BETWEEN" then
    let low ← l.expression 20
    needKeyword "AND"
    return low ++ (← l.expression 20)
  else if (← takeKeyword "LIKE") || (← takeKeyword "ILIKE") then
    let _ ← takeKeyword "ANY"
    let e ← l.expression 19
    optionalEscape
    return e
  else if ← takeKeywords ["SIMILAR", "TO"] then
    let e ← l.expression 19
    optionalEscape
    return e
  else if (← takeKeyword "RLIKE") || (← takeKeyword "REGEXP") then l.expression 19
  else if ← takeKeyword "IS" then l.isTail
  else if ← takeKeyword "COLLATE" then let _ ← objectName; return []
  else if ← takeKeywords ["AT", "TIME", "ZONE"] then l.expression 41
  else if (← takeOneOf ["AND", "OR", "XOR", "DIV", "OVERLAPS"]).isSome then l.comparand strength
  else refuse

/-- An operator that binds tighter than `strength`, with what it takes. -/
def operator (strength : Nat) : Reading (Option (List Source)) := do
  let s ← nextStrength
  if s ≤ strength then return none
  else
    match ← peek with
    | some (.symbol "::") => advance; dataType; return some []
    | some (.symbol "!") => advance; return some []
    | some (.symbol _) => advance; return some (← l.comparand s)
    | _ => return some (← l.keywordOperator s)

def binary (strength : Nat) : Reads := do
  let first ← l.operand
  let inner ← l.accesses
  let rest ← gatherAll (l.operator strength)
  return first ++ inner ++ rest

end Level
end Turnstile.Sql
