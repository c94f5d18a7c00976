import Turnstile.Sql.Token
import Turnstile.Sql.Source

namespace Turnstile.Sql

abbrev Reading := StateT (List Token) Option

/-- Names and queries met on the way, in the order they are written. -/
abbrev Reads := Reading (List Source)

def peek : Reading (Option Token) := do return (← get).head?

def peekSecond : Reading (Option Token) := do return ((← get).drop 1).head?

def advance : Reading Unit := modify (List.drop 1)

def refuse {α : Type} : Reading α := failure

def Token.isKeyword (k : String) : Token → Bool
  | .word _ upper => upper == k
  | _ => false

def Token.isSymbol (s : String) : Token → Bool
  | .symbol t => s == t
  | _ => false

def Token.keyword : Token → String
  | .word _ upper => upper
  | _ => ""

def atKeyword (k : String) : Reading Bool := do return (← peek).any (·.isKeyword k)

def atSymbol (s : String) : Reading Bool := do return (← peek).any (·.isSymbol s)

def takeKeyword (k : String) : Reading Bool := do
  if ← atKeyword k then advance; return true
  else return false

def takeSymbol (s : String) : Reading Bool := do
  if ← atSymbol s then advance; return true
  else return false

def takeKeywords (ks : List String) : Reading Bool := do
  let next := (← get).take ks.length
  if next.map Token.keyword == ks then modify (List.drop ks.length); return true
  else return false

def takeOneOf (ks : List String) : Reading (Option String) := do
  match ← peek with
  | some (.word _ upper) => if ks.contains upper then advance; return some upper else return none
  | _ => return none

def needKeyword (k : String) : Reading Unit := do
  if ← takeKeyword k then return () else refuse

def needSymbol (s : String) : Reading Unit := do
  if ← takeSymbol s then return () else refuse

def attempt {α : Type} (p : Reading α) : Reading (Option α) := fun ts =>
  match p ts with
  | some (a, rest) => some (some a, rest)
  | none => some (none, ts)

/-- Goes on as long as there is something to read; each round takes a token. -/
def gather (step : Reading (Option (List Source))) : Nat → List Source → Reads
  | 0, acc => return acc
  | n + 1, acc => do
    match ← step with
    | none => return acc
    | some more => gather step n (acc ++ more)

def gatherAll (step : Reading (Option (List Source))) : Reads := do
  gather step ((← get).length + 1) []

def commaSeparated (p : Reads) : Reads := do
  let first ← p
  let rest ← gatherAll do
    if ← takeSymbol "," then return some (← p) else return none
  return first ++ rest

def parenthesized {α : Type} (p : Reading α) : Reading α := do
  needSymbol "("
  let a ← p
  needSymbol ")"
  return a

def identifier : Reading String := do
  match ← peek with
  | some (.word text _) | some (.quoted text) | some (.string text) => advance; return text
  | _ => refuse

def moreParts : Nat → Reading (List String)
  | 0 => return []
  | n + 1 => do
    if ← takeSymbol "." then
      let p ← identifier
      return p :: (← moreParts n)
    else return []

def objectName : Reading (List String) := do
  let p ← identifier
  return p :: (← moreParts (← get).length)

def columnList : Reading Unit := do
  let _ ← parenthesized (commaSeparated do
    let _ ← identifier
    return [])
  return ()

def optionalColumnList : Reading Unit := do
  if ← atSymbol "(" then columnList

def skipBalanced : Nat → Nat → Reading Unit
  | 0, _ => refuse
  | n + 1, depth => do
    match ← peek with
    | none => refuse
    | some t =>
      advance
      if t.isSymbol "(" then skipBalanced n (depth + 1)
      else if t.isSymbol ")" then
        if depth ≤ 1 then return () else skipBalanced n (depth - 1)
      else skipBalanced n depth

def notTableAlias : List String :=
  ["WITH", "EXPLAIN", "ANALYZE", "SELECT", "WHERE", "GROUP", "SORT", "HAVING", "ORDER", "PIVOT",
    "UNPIVOT", "TOP", "LATERAL", "VIEW", "LIMIT", "OFFSET", "FETCH", "UNION", "EXCEPT",
    "INTERSECT", "MINUS", "ON", "JOIN", "INNER", "CROSS", "FULL", "LEFT", "RIGHT", "NATURAL",
    "USING", "CLUSTER", "DISTRIBUTE", "GLOBAL", "ANTI", "SEMI", "RETURNING", "OUTPUT", "ASOF",
    "MATCH_CONDITION", "SET", "QUALIFY", "WINDOW", "END", "FOR", "PARTITION", "PREWHERE",
    "SETTINGS", "FORMAT", "START", "CONNECT", "MATCH_RECOGNIZE", "SAMPLE", "TABLESAMPLE", "FROM",
    "OPEN", "OUTER", "STRAIGHT_JOIN"]

def notColumnAlias : List String :=
  ["WITH", "EXPLAIN", "ANALYZE", "SELECT", "WHERE", "GROUP", "SORT", "HAVING", "ORDER", "TOP",
    "LATERAL", "VIEW", "LIMIT", "OFFSET", "FETCH", "UNION", "EXCEPT", "EXCLUDE", "INTERSECT",
    "MINUS", "CLUSTER", "DISTRIBUTE", "RETURNING", "VALUES", "FROM", "INTO", "END"]

/-- Takes an alias, whose keyword must not be reserved unless `AS` stands before it. -/
def takeAlias (reserved : List String) : Reading Bool := do
  let explicit ← takeKeyword "AS"
  match ← peek with
  | some (.word _ upper) =>
    if explicit || !reserved.contains upper then advance; return true else return false
  | some (.quoted _) | some (.string _) => advance; return true
  | _ => if explicit then refuse else return false

def takeEach : List String → Reading Unit
  | [] => return ()
  | k :: ks => do
    let _ ← takeKeyword k
    takeEach ks

def skipBrackets : Nat → Reading Unit
  | 0 => return ()
  | n + 1 => do
    if ← takeSymbol "[" then
      if (← peek) == some .number then advance
      needSymbol "]"
      skipBrackets n
    else return ()

def dataType : Reading Unit := do
  let name ← objectName
  let long := ["DOUBLE", "CHARACTER", "CHAR", "NATIONAL", "BIT", "LONG"]
  if long.contains (name.head?.getD "").toUpper then
    takeEach ["PRECISION", "CHARACTER", "CHAR", "LARGE", "OBJECT", "VARYING"]
  if ← takeSymbol "(" then skipBalanced ((← get).length + 1) 1
  takeEach ["UNSIGNED", "SIGNED"]
  if (← takeKeywords ["WITH", "TIME", "ZONE"]) then return ()
  if (← takeKeywords ["WITHOUT", "TIME", "ZONE"]) then return ()
  if ← atSymbol "<" then
    advance
    let _ ← gatherAll do
      match ← peek with
      | some t => if t.isSymbol ">" || t.isSymbol ">>" || t.isSymbol ";" then return none
                  else advance; return some []
      | none => return none
    if ← takeSymbol ">>" then return () else needSymbol ">"
  skipBrackets (← get).length

def columnName : Reads := do
  let _ ← identifier
  match ← peek with
  | some (.word ..) | some (.quoted _) => dataType
  | _ => pure ()
  return []

def takeTableAlias : Reading Bool := do
  let aliased ← takeAlias notTableAlias
  if aliased && (← atSymbol "(") then
    let _ ← parenthesized (commaSeparated columnName)
  return aliased

end Turnstile.Sql
