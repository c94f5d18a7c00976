import Turnstile.Sql.Table
import Turnstile.Text.Lowercase

namespace Turnstile.Sql

inductive Source where
  /-- A name in the place of a table, by its parts. -/
  | table (parts : List String)
  /-- A query: whether its declarations may refer to themselves, the declared names with what their
  queries read, and what the rest of it reads. -/
  | query (recursive : Bool) (ctes : List (String × Source)) (body : List Source)
deriving Repr

def cteKey (name : String) : String := Text.lowercase name

structure Found where
  declared : List String
  names : List (List String)
deriving DecidableEq, Repr

/-- A name of one part that is declared already stands for no table. -/
def Found.meet (f : Found) (parts : List String) : Found :=
  match parts with
  | [name] =>
    if f.declared.contains (cteKey name) then f else { f with names := f.names ++ [parts] }
  | _ => { f with names := f.names ++ [parts] }

def Found.declare (f : Found) (names : List String) : Found :=
  { f with declared := names.map cteKey ++ f.declared }

mutual
/-- Walks what is read in order. A query's names are known before any of its parts is walked, and
they stay known after it. -/
def Source.walk (f : Found) : Source → Found
  | .table parts => f.meet parts
  | .query _ ctes body => walkAll (walkCtes (f.declare (ctes.map (·.1))) ctes) body
def walkCtes (f : Found) : List (String × Source) → Found
  | [] => f
  | (_, s) :: rest => walkCtes (s.walk f) rest
def walkAll (f : Found) : List Source → Found
  | [] => f
  | s :: rest => walkAll (s.walk f) rest
end

/-- The table of a name: its last part, in the schema that the part before it names, or else in the
given one. -/
def tableOf (schema : Option String) (parts : List String) : Option Table :=
  match parts.reverse with
  | [] => none
  | [name] => some (Table.of name schema)
  | name :: s :: _ => some (Table.of name (some s))

def tablesOf (schema : Option String) (sources : List Source) : TableSet :=
  .ofList ((walkAll ⟨[], []⟩ sources).names.filterMap (tableOf schema))

end Turnstile.Sql
