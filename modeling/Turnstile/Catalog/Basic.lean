import Turnstile.Catalog.Naming

namespace Turnstile

structure Catalog where
  counter : Nat
  permissions : Ledger Permission
  resources : Ledger Resource
  pairs : Ledger Pair
  roles : Ledger Role
  users : Ledger User
  databases : Ledger Database
  datasources : Ledger Datasource
  charts : Ledger Chart
  dashboards : Ledger Dashboard
  embeddings : Ledger Embedding
  rowFilters : Ledger RowFilter
deriving DecidableEq

namespace Catalog

def empty : Catalog :=
  ⟨0, .empty, .empty, .empty, .empty, .empty, .empty, .empty, .empty, .empty, .empty, .empty⟩

instance : Inhabited Catalog := ⟨empty⟩

variable (c : Catalog)

def permission? (id : PermissionId) : Option Permission := c.permissions.find? id.number
def resource? (id : ResourceId) : Option Resource := c.resources.find? id.number
def pair? (id : PairId) : Option Pair := c.pairs.find? id.number
def role? (id : RoleId) : Option Role := c.roles.find? id.number
def user? (id : UserId) : Option User := c.users.find? id.number
def database? (id : DatabaseId) : Option Database := c.databases.find? id.number
def datasource? (id : DatasourceId) : Option Datasource := c.datasources.find? id.number
def chart? (id : ChartId) : Option Chart := c.charts.find? id.number
def dashboard? (id : DashboardId) : Option Dashboard := c.dashboards.find? id.number
def embedding? (uuid : Uuid) : Option Embedding := c.embeddings.find? uuid.number

def permissionNamed? (name : String) : Option Permission :=
  c.permissions.rows.find? (·.name == name)

def resourceNamed? (name : String) : Option Resource := c.resources.rows.find? (·.name == name)

def roleNamed? (name : String) : Option Role := c.roles.rows.find? (·.name == name)

def pairOf? (p : PermissionId) (r : ResourceId) : Option Pair :=
  c.pairs.rows.find? fun x => x.permissionId == p && x.resourceId == r

/-- The embedding of a dashboard; of several the one with the smallest uuid. -/
def embeddingOf? (id : DashboardId) : Option Embedding :=
  c.embeddings.rows.find? (·.dashboardId == id)

def resolve? (p : Pair) : Option NamedPair :=
  match c.permission? p.permissionId, c.resource? p.resourceId with
  | some permission, some resource => some ⟨p.id, permission.name, resource.name⟩
  | _, _ => none

/-- All pairs whose sides both exist, by ascending identifier. -/
def namedPairs : List NamedPair := c.pairs.rows.filterMap c.resolve?

def namesOf? (id : PairId) : Option (String × String) :=
  ((c.pair? id).bind c.resolve?).map fun p => (p.permission, p.resource)

/-- The datasources of a database over a table of that name, in the given schema if there is one. -/
def datasourcesNamed (db : DatabaseId) (table : String) (schema : Option String) :
    List Datasource :=
  c.datasources.rows.filter fun d =>
    d.databaseId == some db && d.tableName == table
      && (schema.isNone || d.namedSchema == schema)

def rowFiltersOn (id : DatasourceId) : List RowFilter :=
  c.rowFilters.rows.filter (IdSet.contains ·.tableIds id)

end Catalog
end Turnstile
