import Turnstile.Catalog.Basic
import Turnstile.Catalog.Error

namespace Turnstile.Catalog

def addPermission (c : Catalog) (name : String) : Permission × Catalog :=
  let row : Permission := ⟨⟨c.counter + 1⟩, name⟩
  (row, { c with counter := c.counter + 1, permissions := c.permissions.put row })

def addResource (c : Catalog) (name : String) : Resource × Catalog :=
  let row : Resource := ⟨⟨c.counter + 1⟩, name⟩
  (row, { c with counter := c.counter + 1, resources := c.resources.put row })

def addPair (c : Catalog) (p : PermissionId) (r : ResourceId) : Pair × Catalog :=
  let row : Pair := ⟨⟨c.counter + 1⟩, p, r⟩
  (row, { c with counter := c.counter + 1, pairs := c.pairs.put row })

def addRole (c : Catalog) (name : String) : Role × Catalog :=
  let row : Role := ⟨⟨c.counter + 1⟩, name, .empty⟩
  (row, { c with counter := c.counter + 1, roles := c.roles.put row })

def insertPermission (c : Catalog) (name : String) : Except StoreError (Permission × Catalog) :=
  match c.permissionNamed? name with
  | some _ => .error (.duplicate .permission name)
  | none => .ok (c.addPermission name)

def insertResource (c : Catalog) (name : String) : Except StoreError (Resource × Catalog) :=
  match c.resourceNamed? name with
  | some _ => .error (.duplicate .resource name)
  | none => .ok (c.addResource name)

def insertPair (c : Catalog) (p : PermissionId) (r : ResourceId) :
    Except StoreError (Pair × Catalog) :=
  match c.pairOf? p r with
  | some _ => .error (.duplicate .pair (p.text ++ "/" ++ r.text))
  | none => .ok (c.addPair p r)

def insertRole (c : Catalog) (name : String) : Except StoreError (Role × Catalog) :=
  match c.roleNamed? name with
  | some _ => .error (.duplicate .role name)
  | none => .ok (c.addRole name)

def ensurePermission (c : Catalog) (name : String) : Permission × Catalog :=
  match c.permissionNamed? name with
  | some row => (row, c)
  | none => c.addPermission name

def ensureResource (c : Catalog) (name : String) : Resource × Catalog :=
  match c.resourceNamed? name with
  | some row => (row, c)
  | none => c.addResource name

/-- The pair of the two names, with any missing side. -/
def ensurePair (c : Catalog) (permission resource : String) : Pair × Catalog :=
  let (p, c) := c.ensurePermission permission
  let (r, c) := c.ensureResource resource
  match c.pairOf? p.id r.id with
  | some row => (row, c)
  | none => c.addPair p.id r.id

def ensureRole (c : Catalog) (name : String) : Role × Catalog :=
  match c.roleNamed? name with
  | some row => (row, c)
  | none => c.addRole name

def stripRole (ids : List PairId) (role : Role) : Role :=
  { role with pairIds := role.pairIds.filter (fun id => !ids.contains id) }

/-- Deletes the pairs, takes them from every role, and counts how many there were. -/
def deletePairs (c : Catalog) (ids : List PairId) : Nat × Catalog :=
  let left := ids.foldl (fun l id => l.erase id.number) c.pairs
  (c.pairs.rows.length - left.rows.length,
    { c with pairs := left, roles := c.roles.map (stripRole ids) (fun _ => rfl) })

def deletePermission (c : Catalog) (id : PermissionId) : Bool × Catalog :=
  (c.permissions.has id.number, { c with permissions := c.permissions.erase id.number })

def deleteResource (c : Catalog) (id : ResourceId) : Bool × Catalog :=
  (c.resources.has id.number, { c with resources := c.resources.erase id.number })

/-- Gives a role exactly the listed pairs. A pair that does not exist is reported before a role
that does not. -/
def setRolePairs (c : Catalog) (id : RoleId) (pairs : IdSet .pair) : Except StoreError Catalog :=
  match pairs.rows.find? (fun p => !c.pairs.has p.number) with
  | some p => .error (.missing p)
  | none =>
    match c.role? id with
    | none => .error (.missing id)
    | some role => .ok { c with roles := c.roles.put { role with pairIds := pairs } }

def setDatabasePerm (c : Catalog) (id : DatabaseId) (perm : String) : Except StoreError Catalog :=
  match c.database? id with
  | none => .error (.missing id)
  | some row => .ok { c with databases := c.databases.put { row with perm := some perm } }

def setDatasourcePerms (c : Catalog) (id : DatasourceId) (perm : String)
    (schemaPerm : Option String) : Except StoreError Catalog :=
  match c.datasource? id with
  | none => .error (.missing id)
  | some row =>
    .ok { c with
      datasources := c.datasources.put { row with perm := some perm, schemaPerm := schemaPerm } }

def putUser (c : Catalog) (row : User) : Catalog := { c with users := c.users.put row }
def putDatabase (c : Catalog) (row : Database) : Catalog :=
  { c with databases := c.databases.put row }
def putDatasource (c : Catalog) (row : Datasource) : Catalog :=
  { c with datasources := c.datasources.put row }
def putChart (c : Catalog) (row : Chart) : Catalog := { c with charts := c.charts.put row }
def putDashboard (c : Catalog) (row : Dashboard) : Catalog :=
  { c with dashboards := c.dashboards.put row }
def putEmbedding (c : Catalog) (row : Embedding) : Catalog :=
  { c with embeddings := c.embeddings.put row }
def putRowFilter (c : Catalog) (row : RowFilter) : Catalog :=
  { c with rowFilters := c.rowFilters.put row }

end Turnstile.Catalog
