import Turnstile.Catalog.Entity

namespace Turnstile

namespace PermissionName

def databaseAccess : String := "database_access"
def schemaAccess : String := "schema_access"
def datasourceAccess : String := "datasource_access"
def allDatabaseAccess : String := "all_database_access"
def allDatasourceAccess : String := "all_datasource_access"
def allQueryAccess : String := "all_query_access"

def onObjects : List String := [databaseAccess, schemaAccess, datasourceAccess]

def onData : List String :=
  [databaseAccess, schemaAccess, datasourceAccess, allDatasourceAccess, allDatabaseAccess,
    allQueryAccess]

def isOnData (name : String) : Bool := onData.contains name

end PermissionName

namespace ResourceName

def database (name : String) (id : DatabaseId) : String :=
  "[" ++ name ++ "].(id:" ++ id.text ++ ")"

def datasource (databaseName tableName : String) (id : DatasourceId) : String :=
  "[" ++ databaseName ++ "].[" ++ tableName ++ "](id:" ++ id.text ++ ")"

/-- `[database].[schema]`; there is none for an empty schema. -/
def schema (databaseName : String) (schema : Option String) : Option String :=
  (schema.filter (· ≠ "")).map fun s => "[" ++ databaseName ++ "].[" ++ s ++ "]"

def splitAtSeparator : List Char → Option (List Char × List Char)
  | ']' :: '.' :: '[' :: rest => some ([], rest)
  | c :: rest => (splitAtSeparator rest).map fun (a, b) => (c :: a, b)
  | [] => none

def unpackSchema (s : String) : Option (String × String) :=
  match s.toList with
  | '[' :: rest =>
    if rest.getLast? = some ']' then
      (splitAtSeparator rest.dropLast).map fun (a, b) => (String.ofList a, String.ofList b)
    else none
  | _ => none

end ResourceName

def Database.resourceName (d : Database) : String := ResourceName.database d.name d.id

def Datasource.resourceName (d : Datasource) (db : Database) : String :=
  ResourceName.datasource db.name d.tableName d.id

def Datasource.schemaResourceName (d : Datasource) (db : Database) : Option String :=
  ResourceName.schema db.name d.namedSchema

end Turnstile
