import Turnstile.Ident
import Turnstile.Uuid

namespace Turnstile

structure Permission where
  id : PermissionId
  name : String
deriving DecidableEq, Repr

structure Resource where
  id : ResourceId
  name : String
deriving DecidableEq, Repr

/-- A permission on a resource, the unit that roles hold. Either side may be gone. -/
structure Pair where
  id : PairId
  permissionId : PermissionId
  resourceId : ResourceId
deriving DecidableEq, Repr

structure NamedPair where
  id : PairId
  permission : String
  resource : String
deriving DecidableEq, Repr

structure Role where
  id : RoleId
  name : String
  pairIds : IdSet .pair
deriving DecidableEq

structure User where
  id : UserId
  username : String
  roleIds : List RoleId
deriving DecidableEq, Repr

/-- A database; `perm` is the resource name stored for access to all of it. -/
structure Database where
  id : DatabaseId
  name : String
  perm : Option String
deriving DecidableEq, Repr

/-- A table of a database that can be charted. Both resource names are stored with it. -/
structure Datasource where
  id : DatasourceId
  databaseId : Option DatabaseId
  schema : Option String
  tableName : String
  perm : Option String
  schemaPerm : Option String
  isRowFilterable : Bool
deriving DecidableEq, Repr

structure Chart where
  id : ChartId
  datasourceId : DatasourceId
deriving DecidableEq, Repr

structure Dashboard where
  id : DashboardId
  published : Bool
  ownerIds : List UserId
  roleIds : List RoleId
  chartIds : List ChartId
deriving DecidableEq, Repr

structure Embedding where
  uuid : Uuid
  dashboardId : DashboardId
deriving DecidableEq, Repr

/-- Whether a filter binds those who hold one of its roles, or everyone else. -/
inductive RowFilterType where
  | regular
  | base
deriving DecidableEq, Repr

structure RowFilter where
  id : RowFilterId
  type : RowFilterType
  groupKey : Option String
  clause : String
  roleIds : IdSet .role
  tableIds : IdSet .datasource
deriving DecidableEq

instance : Filed Permission := ⟨fun r => r.id.number⟩
instance : Filed Resource := ⟨fun r => r.id.number⟩
instance : Filed Pair := ⟨fun r => r.id.number⟩
instance : Filed Role := ⟨fun r => r.id.number⟩
instance : Filed User := ⟨fun r => r.id.number⟩
instance : Filed Database := ⟨fun r => r.id.number⟩
instance : Filed Datasource := ⟨fun r => r.id.number⟩
instance : Filed Chart := ⟨fun r => r.id.number⟩
instance : Filed Dashboard := ⟨fun r => r.id.number⟩
instance : Filed Embedding := ⟨fun r => r.uuid.number⟩
instance : Filed RowFilter := ⟨fun r => r.id.number⟩

def RowFilterType.text : RowFilterType → String
  | .regular => "Regular"
  | .base => "Base"

namespace Datasource

/-- The schema; an empty one counts as none. -/
def namedSchema (d : Datasource) : Option String := d.schema.filter (· ≠ "")

def displayName (d : Datasource) : String :=
  match d.namedSchema with
  | some s => s ++ "." ++ d.tableName
  | none => d.tableName

end Datasource
end Turnstile
