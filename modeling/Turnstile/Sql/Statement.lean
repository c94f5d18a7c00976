import Turnstile.Sql.Query
import Turnstile.Access.Denial

namespace Turnstile.Sql

namespace Level
variable (l : Level)

def referenceActions : Reading Unit := do
  let _ ← gatherAll do
    if (← takeKeywords ["ON", "DELETE"]) || (← takeKeywords ["ON", "UPDATE"]) then
      if ← takeKeyword "SET" then
        if (← takeOneOf ["NULL", "DEFAULT"]).isNone then refuse
      else if ← takeKeyword "NO" then needKeyword "ACTION"
      else if (← takeOneOf ["CASCADE", "RESTRICT"]).isNone then refuse
      return some []
    else return none

def reference : Reading Unit := do
  let _ ← objectName
  optionalColumnList
  referenceActions

def generation : Reads := do
  if ← takeKeyword "ALWAYS" then pure ()
  else
    needKeyword "BY"
    needKeyword "DEFAULT"
  needKeyword "AS"
  if ← takeKeyword "IDENTITY" then
    if ← takeSymbol "(" then skipBalanced ((← get).length + 1) 1
    return []
  else
    let e ← parenthesized l.expr
    let _ ← takeOneOf ["STORED", "VIRTUAL"]
    return e

def columnOption : Reading (Option (List Source)) := do
  let named ← takeKeyword "CONSTRAINT"
  if named then
    let _ ← identifier
  if (← takeKeywords ["NOT", "NULL"]) || (← takeKeyword "NULL") then return some []
  else if ← takeKeyword "DEFAULT" then return some (← l.expr)
  else if (← takeKeywords ["PRIMARY", "KEY"]) || (← takeKeyword "UNIQUE") then return some []
  else if ← takeKeyword "REFERENCES" then reference; return some []
  else if ← takeKeyword "CHECK" then return some (← parenthesized l.expr)
  else if (← takeOneOf ["AUTO_INCREMENT", "AUTOINCREMENT"]).isSome then return some []
  else if ← takeKeyword "COLLATE" then let _ ← objectName; return some []
  else if ← takeKeyword "COMMENT" then
    match ← peek with
    | some (.string _) => advance; return some []
    | _ => refuse
  else if ← takeKeyword "GENERATED" then return some (← l.generation)
  else if named then refuse
  else return none

def tableConstraint : Reading (Option (List Source)) := do
  let named ← takeKeyword "CONSTRAINT"
  if named then
    let _ ← identifier
  if ← takeKeywords ["PRIMARY", "KEY"] then columnList; return some []
  else if ← takeKeyword "UNIQUE" then
    let _ ← takeOneOf ["KEY", "INDEX"]
    columnList
    return some []
  else if ← takeKeywords ["FOREIGN", "KEY"] then
    columnList
    needKeyword "REFERENCES"
    reference
    return some []
  else if ← takeKeyword "CHECK" then return some (← parenthesized l.expr)
  else if named then refuse
  else return none

def columnOrConstraint : Reads := do
  match ← l.tableConstraint with
  | some c => return c
  | none =>
    let _ ← identifier
    dataType
    gatherAll l.columnOption

def optionalColumns : Reads := do
  if ← takeSymbol "(" then
    if ← takeSymbol ")" then return []
    let cs ← commaSeparated l.columnOrConstraint
    needSymbol ")"
    return cs
  else return []

def optionalOptions : Reading Unit := do
  if (← atKeyword "WITH") && (← peekSecond).any (·.isSymbol "(") then
    modify (List.drop 2)
    skipBalanced ((← get).length + 1) 1

/-- A new table: its name is reported, and what its rows are taken from. -/
def newTable : Reads := do
  let _ ← takeKeywords ["IF", "NOT", "EXISTS"]
  let name ← objectName
  if ← takeKeyword "LIKE" then
    let _ ← objectName
  let columns ← l.optionalColumns
  optionalOptions
  if ← takeKeywords ["ON", "COMMIT"] then
    if (← takeKeywords ["DELETE", "ROWS"]) || (← takeKeywords ["PRESERVE", "ROWS"])
        || (← takeKeyword "DROP") then pure ()
    else refuse
  let rows ←
    if (← takeKeyword "AS") || (← atKeyword "SELECT") then l.queryReads else pure []
  return .table name :: columns ++ rows

/-- A new view: its own name is not reported. -/
def newView : Reads := do
  let first ← takeKeywords ["IF", "NOT", "EXISTS"]
  let _ ← objectName
  if !first then
    let _ ← takeKeywords ["IF", "NOT", "EXISTS"]
  if ← atSymbol "(" then
    let _ ← parenthesized (commaSeparated columnName)
  optionalOptions
  needKeyword "AS"
  let q ← l.queryReads
  if ← takeKeyword "WITH" then
    let _ ← takeKeyword "NO"
    needKeyword "DATA"
  return q

def creation : Reads := do
  let _ ← takeKeywords ["OR", "REPLACE"]
  takeEach ["LOCAL", "GLOBAL", "TRANSIENT"]
  let _ ← takeOneOf ["TEMP", "TEMPORARY"]
  if ← takeKeyword "TABLE" then l.newTable
  else
    let _ ← takeKeyword "MATERIALIZED"
    needKeyword "VIEW"
    l.newView

/-- The names of what is dropped are not reported. -/
def removal : Reading Unit := do
  let _ ← takeKeyword "TEMPORARY"
  if ← takeKeyword "MATERIALIZED" then needKeyword "VIEW"
  else if (← takeOneOf ["TABLE", "VIEW", "INDEX", "ROLE", "SCHEMA", "DATABASE", "SEQUENCE", "STAGE",
      "TYPE", "USER", "STREAM"]).isNone then refuse
  let _ ← takeKeywords ["IF", "EXISTS"]
  let _ ← commaSeparated do
    let _ ← objectName
    return []
  let cascade ← takeKeyword "CASCADE"
  let restrict ← takeKeyword "RESTRICT"
  let _ ← takeKeyword "PURGE"
  if cascade && restrict then refuse
  if ← takeKeyword "ON" then
    let _ ← objectName

def truncation : Reads := do
  let _ ← takeKeyword "TABLE"
  let _ ← takeKeywords ["IF", "EXISTS"]
  let names ← commaSeparated do
    let _ ← takeKeyword "ONLY"
    let name ← objectName
    let _ ← takeSymbol "*"
    return [.table name]
  let parts ← behind ["PARTITION"] (parenthesized l.exprs)
  if !(← takeKeywords ["RESTART", "IDENTITY"]) then
    let _ ← takeKeywords ["CONTINUE", "IDENTITY"]
  let _ ← takeOneOf ["CASCADE", "RESTRICT"]
  return names ++ parts

def explainOptions : Reads :=
  parenthesized (commaSeparated do
    let _ ← identifier
    if (← atSymbol ",") || (← atSymbol ")") then return [] else l.expr)

/-- A question about a statement or about a table. A question cannot be asked about a question. -/
def explanation (withOptions : Bool) : Reads := do
  let options ←
    if withOptions && (← atSymbol "(") then l.explainOptions
    else
      if (← takeKeywords ["QUERY", "PLAN"]) || (← takeKeyword "ESTIMATE") then pure ()
      else
        takeEach ["ANALYZE", "VERBOSE"]
        if ← takeKeyword "FORMAT" then advance
      pure []
  let question := (← peek).any fun t => ["EXPLAIN", "DESCRIBE", "DESC"].contains t.keyword
  match ← attempt l.statement with
  | some reads => if question then refuse else return options ++ reads
  | none =>
    let _ ← takeOneOf ["EXTENDED", "FORMATTED"]
    return options ++ [.table (← objectName)]

def statementHere : Reads := do
  match ← peek with
  | some (.symbol "(") => l.queryReads
  | some (.word _ k) =>
    match k with
    | "SELECT" | "WITH" | "VALUES" | "FROM" => l.queryReads
    | "INSERT" | "REPLACE" => advance; l.insertion
    | "UPDATE" => advance; l.update
    | "DELETE" => advance; l.deletion
    | "CREATE" => advance; l.creation
    | "DROP" => advance; removal; return []
    | "TRUNCATE" => advance; l.truncation
    | "EXPLAIN" => advance; l.explanation true
    | "DESCRIBE" | "DESC" => advance; l.explanation false
    | _ => refuse
  | _ => refuse

def ofDepth : Nat → Level
  | 0 => bottom
  | n + 1 =>
    let inner := ofDepth n
    ⟨inner.binary, inner.queryHere, inner.factorHere, inner.statementHere⟩

end Level

def nestingLimit : Nat := 50

def takeSemicolons : Nat → Reading Bool
  | 0 => return false
  | n + 1 => do
    if ← takeSymbol ";" then
      let _ ← takeSemicolons n
      return true
    else return false

/-- Statements with semicolons between them. The word that ends a block ends the text, too. -/
def statementsFrom : Nat → Reads
  | 0 => return []
  | n + 1 => do
    let _ ← takeSemicolons (← get).length
    if (← peek).isNone then return []
    else
      let reads ← (Level.ofDepth nestingLimit).statement
      if ← atSymbol ";" then return reads ++ (← statementsFrom n)
      else if (← peek).isNone || (← atKeyword "END") then return reads
      else refuse

def sources? (sql : String) : Option (List Source) := do
  let ts ← tokens sql
  let (reads, _) ← (statementsFrom (ts.length + 1)).run ts
  return reads

def extract (sql : String) (schema : Option String) : Option TableSet :=
  (sources? sql).map (tablesOf schema)

/-- The extractor that reads statements. What is wrong in a text that it cannot read is told in the
words of `complaint`. -/
def extractor (complaint : String → String) : Extractor := fun sql schema =>
  match extract sql schema with
  | some ts => .ok ts
  | none => .error (.unreadableQuery (complaint sql))

end Turnstile.Sql
