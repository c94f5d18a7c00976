import Turnstile.Catalog.Basic
import Turnstile.Principal
import Turnstile.Access.Denial
import Turnstile.Text.Quoted

namespace Turnstile

structure AccessSettings where
  /-- The role of those who are not signed in. -/
  publicRole : Option String
  /-- The role that makes an administrator. -/
  adminRole : String
  /-- Whether guests are let in at all. -/
  embedded : Bool
  /-- Whether a published dashboard opens only to its roles. -/
  dashboardRoles : Bool
  /-- Whether everyone signed in sees what others do. -/
  broadActivity : Bool
  /-- The address shown with a refusal. -/
  instructionsLink : Option String
deriving DecidableEq, Repr

def AccessSettings.standard : AccessSettings :=
  ⟨some "Public", "Admin", false, false, true, none⟩

def AccessSettings.describe (s : AccessSettings) : String :=
  Text.describe "AccessSettings" [("public_role", Text.quotedOption s.publicRole),
    ("admin_role", Text.quoted s.adminRole), ("embedded", toString s.embedded),
    ("dashboard_rbac", toString s.dashboardRoles),
    ("broad_activity_access", toString s.broadActivity),
    ("permission_instructions_link", Text.quotedOption s.instructionsLink)]

structure Viewer where
  catalog : Catalog
  settings : AccessSettings
  principal : Principal
  extract : Extractor

inductive Target where
  | table (db : Database) (t : Table)
  /-- All tables of a query; unqualified names take the schema. -/
  | query (db : Database) (sql : String) (schema : Option String)
  | datasource (d : Datasource)

inductive Probe where
  | universalGrant
  | databaseGrant
  | schemaGrant
  | directGrant
  | dashboardRelationship
deriving DecidableEq, Repr

def Probe.order : List Probe :=
  [.universalGrant, .databaseGrant, .schemaGrant, .directGrant, .dashboardRelationship]

namespace Viewer
variable (v : Viewer)

def guest? : Option Guest := if v.settings.embedded then v.principal.guest? else none

def isGuest : Bool := v.guest?.isSome

def roleIds : List RoleId :=
  match v.principal with
  | .anonymous => ((v.settings.publicRole.bind v.catalog.roleNamed?).map (·.id)).toList
  | .user _ ids => ids
  | .guest g => g.roleId.toList

def roles : List Role := v.roleIds.filterMap v.catalog.role?

def pairs : List (String × String) :=
  v.roles.flatMap fun r => r.pairIds.rows.filterMap v.catalog.namesOf?

def canAccess (permission resource : String) : Bool := v.pairs.contains (permission, resource)

def isAdmin : Bool := v.roles.any (·.name == v.settings.adminRole)

def canAccessAllQueries : Bool :=
  v.canAccess PermissionName.allQueryAccess PermissionName.allQueryAccess

def canAccessAllDatasources : Bool :=
  v.canAccess PermissionName.allDatasourceAccess PermissionName.allDatasourceAccess

def canAccessAllDatabases : Bool :=
  v.canAccess PermissionName.allDatabaseAccess PermissionName.allDatabaseAccess

/-- Access to all of a database, by the name stored with it or else the derived one. -/
def canAccessDatabase (db : Database) : Bool :=
  v.canAccessAllDatasources || v.canAccessAllDatabases
    || v.canAccess PermissionName.databaseAccess (db.perm.getD db.resourceName)

def holdsDashboardRole (d : Dashboard) : Bool :=
  !v.settings.dashboardRoles || d.roleIds.any fun id => v.roles.any (·.id == id)

/-- Whether the principal may open a dashboard. For a guest its grants alone decide. -/
def hasDashboardAccess (d : Dashboard) : Bool :=
  match v.guest? with
  | some g =>
    match v.catalog.embeddingOf? d.id with
    | some e => g.opens d.id (some e)
    | none => false
  | none =>
    v.isAdmin || (v.principal.userId?.any d.ownerIds.contains)
      || (if d.published then v.holdsDashboardRole d else d.roleIds.isEmpty)

def charts (d : Dashboard) (id : DatasourceId) : Bool :=
  d.chartIds.any fun c => (v.catalog.chart? c).any (·.datasourceId == id)

def canAccessThroughDashboard (d : Datasource) : Bool :=
  v.catalog.dashboards.rows.any fun b => v.charts b d.id && v.hasDashboardAccess b

def probe (d : Datasource) : Probe → Bool
  | .universalGrant => v.canAccessAllDatasources
  | .databaseGrant => (d.databaseId.bind v.catalog.database?).any v.canAccessDatabase
  | .schemaGrant => d.schemaPerm.any (v.canAccess PermissionName.schemaAccess)
  | .directGrant => d.perm.any (v.canAccess PermissionName.datasourceAccess)
  | .dashboardRelationship =>
    (v.settings.dashboardRoles || v.isGuest) && v.canAccessThroughDashboard d

def grantingProbe? (d : Datasource) : Option Probe := Probe.order.find? (v.probe d)

def canAccessDatasource (d : Datasource) : Bool := (v.grantingProbe? d).isSome

def canAccessSchema (d : Datasource) : Bool :=
  v.canAccessAllDatasources || v.probe d .databaseGrant || v.probe d .schemaGrant

def reachesTable (db : Database) (t : Table) : Bool :=
  (ResourceName.schema db.name t.schema).any (v.canAccess PermissionName.schemaAccess)
    || (v.catalog.datasourcesNamed db.id t.name t.schema).any fun d =>
      d.perm.any (v.canAccess PermissionName.datasourceAccess)

def canAccessTable (db : Database) (t : Table) : Bool :=
  v.canAccessDatabase db || v.reachesTable db t

def requireTables (db : Database) (ts : List Table) : Except AccessError Unit :=
  match ts.filter fun t => !v.reachesTable db t with
  | [] => .ok ()
  | denied => .error (.tablesDenied (Denial.tables denied v.settings.instructionsLink))

/-- Refuses unless the principal may read the target. A query's text is read only if its tables
matter. -/
def requireAccess : Target → Except AccessError Unit
  | .datasource d =>
    if v.canAccessDatasource d then .ok ()
    else .error (.datasourceDenied (Denial.datasource d v.settings.instructionsLink))
  | .table db t => if v.canAccessDatabase db then .ok () else v.requireTables db [t]
  | .query db sql schema =>
    if v.canAccessDatabase db then .ok ()
    else do
      let ts ← v.extract sql schema
      v.requireTables db ts.rows

section
variable {v} {db : Database} {sql : String} {schema : Option String}

/-- Whoever may read the whole database is never asked what the text reads. -/
theorem requireQuery_open (h : v.canAccessDatabase db = true) :
    v.requireAccess (.query db sql schema) = .ok () := by
  simp [requireAccess, h]

/-- For all others what stops the extractor stops the check, with the same error. -/
theorem requireQuery_failed {e : AccessError} (hdb : v.canAccessDatabase db = false)
    (h : v.extract sql schema = .error e) :
    v.requireAccess (.query db sql schema) = .error e := by
  simp only [requireAccess, hdb, h, Bool.false_eq_true, ↓reduceIte]
  rfl

theorem requireQuery_found {ts : TableSet} (hdb : v.canAccessDatabase db = false)
    (h : v.extract sql schema = .ok ts) :
    v.requireAccess (.query db sql schema) = v.requireTables db ts.rows := by
  simp only [requireAccess, hdb, h, Bool.false_eq_true, ↓reduceIte]
  rfl

end

def requireDashboard (d : Dashboard) : Except AccessError Unit :=
  if v.hasDashboardAccess d then .ok () else .error (.dashboardDenied Denial.dashboard)

/-- Refuses unless the principal is signed in and may see what that user does. -/
def requireUserActivity (id : UserId) : Except AccessError Unit :=
  if v.principal.userId?.any (fun own => v.settings.broadActivity || own == id) then .ok ()
  else .error (.userActivityDenied Denial.userActivity)

end Viewer
end Turnstile
