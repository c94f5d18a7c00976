import Turnstile.Toml.Statement

namespace Turnstile.Toml

inductive Making where
  /-- The header of a table within it called for it. -/
  | implied
  /-- A path of names called for it. -/
  | dotted
  /-- It has its own header. -/
  | headed
deriving DecidableEq, Repr

inductive Node where
  | closed (value : Value)
  | table (making : Making) (entries : List (String × Node))
  /-- An array of tables by headers, of which only the last is added to. -/
  | tables (earlier : List (List (String × Node))) (last : List (String × Node))

abbrev Entries := List (String × Node)

mutual
def Node.value : Node → Value
  | .closed v => v
  | .table _ es => .table (entriesValue es)
  | .tables earlier last => .array (tablesValue earlier ++ [.table (entriesValue last)])
def entriesValue : Entries → List (String × Value)
  | [] => []
  | (name, node) :: es => (name, node.value) :: entriesValue es
def tablesValue : List Entries → List Value
  | [] => []
  | es :: ess => .table (entriesValue es) :: tablesValue ess
end

def putNode (name : String) (node : Node) : Entries → Entries
  | [] => [(name, node)]
  | (other, n) :: es =>
    if other = name then (name, node) :: es else (other, n) :: putNode name node es

/-- Gives a value at a path. Tables on the way are made, or were made or implied before, but have
no header; the last of them was made by a path, too. -/
def giveValue? (value : Value) : Path → Entries → Option Entries
  | [], _ => none
  | [name], es => if (es.lookup name).isSome then none else some (putNode name (.closed value) es)
  | name :: path, es =>
    match es.lookup name with
    | none => do some (putNode name (.table .dotted (← giveValue? value path [])) es)
    | some (.table making inner) =>
      if making = .headed ∨ (making = .implied ∧ path.length = 1) then none
      else do some (putNode name (.table making (← giveValue? value path inner)) es)
    | some _ => none

mutual
def Literal.value? : Literal → Option Value
  | .scalar s => some (.scalar s)
  | .array items => (itemValues? items).map .array
  | .table entries => (fillInline? [] entries).map fun es => .table (entriesValue es)
def itemValues? : List Literal → Option (List Value)
  | [] => some []
  | item :: items => do
    let v ← item.value?
    some (v :: (← itemValues? items))
def fillInline? (es : Entries) : List (Path × Literal) → Option Entries
  | [] => some es
  | (path, literal) :: entries => do
    let v ← literal.value?
    fillInline? (← giveValue? v path es) entries
end

/-- Changes what stands at a path of tables, of which missing ones are implied. -/
def changeAt? (change : Option Node → Option Node) : Path → Entries → Option Entries
  | [], _ => none
  | [name], es => do some (putNode name (← change (es.lookup name)) es)
  | name :: path, es => do
    let node ← match es.lookup name with
      | none => (changeAt? change path []).map (.table .implied)
      | some (.table making inner) => (changeAt? change path inner).map (.table making)
      | some (.tables earlier last) => (changeAt? change path last).map (.tables earlier)
      | some (.closed _) => none
    some (putNode name node es)

def openTable? : Option Node → Option Node
  | none => some (.table .headed [])
  | some (.table .implied es) => some (.table .headed es)
  | some _ => none

def openElement? : Option Node → Option Node
  | none => some (.tables [] [])
  | some (.tables earlier last) => some (.tables (earlier ++ [last]) [])
  | some _ => none

def inOpened? (change : Entries → Option Entries) : Option Node → Option Node
  | some (.table making es) => (change es).map (.table making)
  | some (.tables earlier last) => (change last).map (.tables earlier)
  | _ => none

structure Draft where
  /-- The path in the last header. -/
  opened : Path
  entries : Entries

def Draft.extend? (d : Draft) : Statement → Option Draft
  | .header path => do some ⟨path, ← changeAt? openTable? path d.entries⟩
  | .element path => do some ⟨path, ← changeAt? openElement? path d.entries⟩
  | .entry path literal => do
    let give := giveValue? (← literal.value?) path
    let es ← if d.opened.isEmpty then give d.entries
      else changeAt? (inOpened? give) d.opened d.entries
    some { d with entries := es }

def document? (s : String) : Option (List (String × Value)) := do
  let d ← (← Statement.ofText? s).foldlM Draft.extend? ⟨[], []⟩
  some (entriesValue d.entries)

end Turnstile.Toml
