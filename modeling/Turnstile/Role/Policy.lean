import Turnstile.Catalog.Entity
import Turnstile.Catalog.Naming

namespace Turnstile

structure Policy where
  /-- Resources that only administrators do more than read with. -/
  readOnlyResources : List String
  /-- Resources that only administrators and the middle tier do more than read with. -/
  lowerReadOnlyResources : List String
  adminResources : List String
  middleResources : List String
  adminPermissions : List String
  middlePermissions : List String
  readPermissions : List String
  /-- Permissions that every tier keeps, whatever the other lists say. -/
  sharedPermissions : List String
  /-- The pairs for writing queries by hand, permission first. -/
  queryPairs : List (String × String)
  granterPermissions : List String
deriving DecidableEq, Repr

inductive Tier where
  | admin
  | alpha
  | gamma
  | sqlLab
  | granter
deriving DecidableEq, Repr

namespace Policy

/-- The policy in force unless another is set. All lists are ascending. -/
def standard : Policy where
  readOnlyResources := ["Database", "DruidClusterModelView", "DynamicPlugin"]
  lowerReadOnlyResources :=
    ["Database", "Dataset", "Datasource", "DruidClusterModelView", "DynamicPlugin"]
  adminResources :=
    ["AccessRequestsModelView", "Log", "Refresh Druid Metadata", "ResetPasswordView",
      "RoleModelView", "Row Level Security", "Row Level Security Filters",
      "RowLevelSecurityFiltersModelView", "SQL Lab", "Security", "UserDBModelView",
      "UserLDAPModelView", "UserOAuthModelView", "UserOIDModelView", "UserRemoteUserModelView"]
  middleResources :=
    ["CSS Templates", "Import dashboards", "Manage", "Queries", "Upload a CSV"]
  adminPermissions :=
    ["all_query_access", "can_approve", "can_grant_guest_token", "can_override_role_permissions",
      "can_set_embedded", "can_sql_json", "can_sync_druid_source", "can_update_role"]
  middlePermissions := ["all_database_access", "all_datasource_access", "muldelete"]
  readPermissions :=
    ["can_external_metadata", "can_external_metadata_by_name", "can_get", "can_list", "can_read",
      "can_show"]
  sharedPermissions := ["can_userinfo", "resetmypassword"]
  queryPairs :=
    [("can_csv", "Palisade"), ("can_read", "Database"), ("can_read", "SavedQuery"),
      ("can_sql_json", "Palisade"), ("can_sqllab", "Palisade"),
      ("can_sqllab_table_viz", "Palisade"), ("can_sqllab_viz", "Palisade"),
      ("menu_access", "Query Search"), ("menu_access", "SQL Editor"), ("menu_access", "SQL Lab"),
      ("menu_access", "Saved Queries")]
  granterPermissions := ["can_approve", "can_override_role_permissions"]

def isOnObject (permission : String) : Bool := PermissionName.onObjects.contains permission

variable (p : Policy)

def isAdminOnly (permission resource : String) : Bool :=
  (p.readOnlyResources.contains resource && !p.readPermissions.contains permission)
    || p.adminResources.contains resource || p.adminPermissions.contains permission

def isMiddleOnly (permission resource : String) : Bool :=
  (p.lowerReadOnlyResources.contains resource && !p.readPermissions.contains permission)
    || p.middleResources.contains resource || p.middlePermissions.contains permission

def holds (tier : Tier) (permission resource : String) : Bool :=
  match tier with
  | .admin => !isOnObject permission
  | .alpha =>
    !(isOnObject permission || p.isAdminOnly permission resource)
      || p.sharedPermissions.contains permission
  | .gamma =>
    !(isOnObject permission || p.isAdminOnly permission resource
        || p.isMiddleOnly permission resource)
      || p.sharedPermissions.contains permission
  | .sqlLab => p.queryPairs.contains (permission, resource)
  | .granter => p.granterPermissions.contains permission

end Policy
end Turnstile
