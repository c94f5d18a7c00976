import Turnstile.Catalog.Upkeep

namespace Turnstile

inductive Written where
  | database (id : DatabaseId)
  | datasource (id : DatasourceId)
deriving DecidableEq, Repr

/-- A change to the catalog that a write brings with it; an error undoes the write. -/
abbrev Hook := Written → Catalog → Except StoreError Catalog

def runHooks (hooks : List Hook) (w : Written) (c : Catalog) : Except StoreError Catalog :=
  hooks.foldlM (fun c hook => hook w c) c

namespace PermissionSync

/-- Stores a datasource's resource names and makes their pairs. One without a stored database is
left as it is. -/
def datasource (id : DatasourceId) (c : Catalog) : Except StoreError Catalog :=
  match c.datasource? id with
  | none => .error (.missing id)
  | some d =>
    match d.databaseId.bind c.database? with
    | none => .ok c
    | some db => do
      let perm := d.resourceName db
      let schemaPerm := d.schemaResourceName db
      let c ←
        if d.perm = some perm ∧ d.schemaPerm = schemaPerm then .ok c
        else c.setDatasourcePerms id perm schemaPerm
      let c := (c.ensurePair PermissionName.datasourceAccess perm).2
      match schemaPerm with
      | none => .ok c
      | some s => .ok (c.ensurePair PermissionName.schemaAccess s).2

/-- Makes a database's pair. If the stored name is not the derived one, mends it and goes on with
the datasources of the database, whose names contain it. -/
def database (id : DatabaseId) (c : Catalog) : Except StoreError Catalog :=
  match c.database? id with
  | none => .error (.missing id)
  | some db => do
    let perm := db.resourceName
    let c := (c.ensurePair PermissionName.databaseAccess perm).2
    if db.perm = some perm then .ok c
    else
      let c ← c.setDatabasePerm id perm
      let children := c.datasources.rows.filter (·.databaseId == some id)
      children.foldlM (fun c d => datasource d.id c) c

def hook : Hook
  | .database id => database id
  | .datasource id => datasource id

end PermissionSync
end Turnstile
