import Turnstile.Sql.Table
import Turnstile.Catalog.Entity
import Turnstile.Catalog.Error
import Turnstile.Text.Quoted

namespace Turnstile

inductive DenialType where
  | table
  | datasource
  | dashboard
  | userActivity
  | guestToken
  | embedding
deriving DecidableEq, Repr

inductive DenialLevel where
  | info
  | warning
  | error
deriving DecidableEq, Repr

structure Denial where
  type : DenialType
  message : String
  level : DenialLevel
  /-- Details by name, each name once. -/
  extra : List (String × Json.Value)

namespace Denial

def new (type : DenialType) (message : String) : Denial := ⟨type, message, .error, []⟩

def withExtra (d : Denial) (name : String) (value : Json.Value) : Denial :=
  { d with extra := d.extra.filter (·.1 != name) ++ [(name, value)] }

def withLink (d : Denial) : Option String → Denial
  | some link => d.withExtra "link" (Json.toJson link)
  | none => d

def backquoted (s : String) : String := "`" ++ s ++ "`"

def tables (ts : List Table) (link : Option String) : Denial :=
  let names := ts.map Table.text
  ((new .table ("You need access to the following tables: "
      ++ String.intercalate ", " (names.map backquoted)
      ++ ", `all_database_access` or `all_datasource_access` permission")).withLink link).withExtra
    "tables" (Json.toJson names)

def datasource (d : Datasource) (link : Option String) : Denial :=
  ((new .datasource ("This endpoint requires the datasource " ++ d.displayName
      ++ ", database or `all_datasource_access` permission")).withLink link).withExtra
    "datasource" (Json.toJson d.displayName)

def dashboard : Denial := new .dashboard "You don't have access to this dashboard."

def userActivity : Denial := new .userActivity "Access to user's activity data is restricted"

def guestToken : Denial := new .guestToken "Invalid guest token"

def embedding : Denial := new .embedding "Embedded dashboard not found."

end Denial

inductive AccessError where
  | tablesDenied (d : Denial)
  | datasourceDenied (d : Denial)
  | dashboardDenied (d : Denial)
  | userActivityDenied (d : Denial)
  /-- A pattern of a role's rule is not well formed. -/
  | invalidPattern (pattern : String)
  | roleNotFound (name : String)
  /-- A query's text could not be read, with the words of whoever tried. -/
  | unreadableQuery (reason : String)
  | store (e : StoreError)

namespace AccessError

def denial? : AccessError → Option Denial
  | tablesDenied d => some d
  | datasourceDenied d => some d
  | dashboardDenied d => some d
  | userActivityDenied d => some d
  | _ => none

def isDenial (e : AccessError) : Bool := e.denial?.isSome

def message : AccessError → String
  | tablesDenied d => d.message
  | datasourceDenied d => d.message
  | dashboardDenied d => d.message
  | userActivityDenied d => d.message
  | invalidPattern pattern => "invalid role pattern " ++ Text.quoted pattern
  | roleNotFound name => "role not found: " ++ name
  | unreadableQuery reason => "failed to parse SQL: " ++ reason
  | store e => e.message

end AccessError

/-- Finds the tables in a query's text, where unqualified names take the given schema, or fails with
an error of its own. -/
abbrev Extractor := String → Option String → Except AccessError TableSet

def Extractor.blank : Extractor := fun _ _ => .ok (.ofList [])

end Turnstile
