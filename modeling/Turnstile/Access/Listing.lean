import Turnstile.Access.Viewer
import Turnstile.Text.Sorted

namespace Turnstile.Viewer
variable (v : Viewer)

def resourceNames (permission : String) : List String :=
  Text.sortTexts ((v.pairs.filter (·.1 == permission)).map (·.2))

def holdsNamed (d : Datasource) : Bool :=
  d.perm.any (v.resourceNames PermissionName.datasourceAccess).contains
    || d.schemaPerm.any (v.resourceNames PermissionName.schemaAccess).contains

def addDatasourcesOf (found : Ledger Datasource) (db : Database) : Ledger Datasource :=
  (v.catalog.datasources.rows.filter (·.databaseId == some db.id)).foldl Ledger.putNew found

/-- The datasources the principal holds a pair on, and with them those of every database that is
all open, by ascending identifier. -/
def datasources : List Datasource :=
  ((v.catalog.databases.rows.filter v.canAccessDatabase).foldl v.addDatasourcesOf
    (v.catalog.datasources.filter v.holdsNamed)).rows

/-- Whether the principal holds a pair on a schema of this name, judged by the resource's text. -/
def holdsSchemaNamed (db : Database) (schema : String) : Bool :=
  (v.resourceNames PermissionName.schemaAccess).any fun s =>
    ("[" ++ db.name ++ "].").toList.isPrefixOf s.toList
      && ((ResourceName.unpackSchema s).any (·.2 == schema))

def holdsDatasourceIn (db : Database) (schema : String) : Bool :=
  v.catalog.datasources.rows.any fun d =>
    d.databaseId == some db.id && d.namedSchema == some schema
      && d.perm.any (v.canAccess PermissionName.datasourceAccess)

/-- Those of the schemas that the principal can reach. With `hierarchical`, access to all of the
database opens every schema. -/
def reachableSchemas (db : Database) (schemas : List String) (hierarchical : Bool) :
    List String :=
  if hierarchical && v.canAccessDatabase db then schemas
  else schemas.filter fun s => v.holdsSchemaNamed db s || v.holdsDatasourceIn db s

/-- Whether a datasource over the table is listed; a given schema stands for the table's own. -/
def listsTable (db : Database) (schema : Option String) (t : Table) : Bool :=
  v.catalog.datasources.rows.any fun d =>
    d.databaseId == some db.id && v.holdsNamed d && d.tableName == t.name
      && d.namedSchema == (match schema.filter (· ≠ "") with
        | some s => some s
        | none => t.schema)

def reachableTables (db : Database) (tables : List Table) (schema : Option String) : List Table :=
  if v.canAccessDatabase db then tables
  else if (ResourceName.schema db.name schema).any (v.canAccess PermissionName.schemaAccess) then
    tables
  else tables.filter (v.listsTable db schema)

end Turnstile.Viewer
