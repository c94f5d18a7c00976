import Turnstile.Role.Definition
import Turnstile.Text.Sorted

namespace Turnstile
open Json

instance : ToJson Policy where
  toJson p := .ofMembers [("read_only_model_views", toJson p.readOnlyResources),
    ("gamma_read_only_model_views", toJson p.lowerReadOnlyResources),
    ("admin_only_view_menus", toJson p.adminResources),
    ("alpha_only_view_menus", toJson p.middleResources),
    ("admin_only_permissions", toJson p.adminPermissions),
    ("alpha_only_permissions", toJson p.middlePermissions),
    ("read_only_permissions", toJson p.readPermissions),
    ("accessible_permissions", toJson p.sharedPermissions),
    ("sql_lab_pairs", toJson p.queryPairs), ("granter_permissions", toJson p.granterPermissions)]
instance : FromJson Policy where
  ofJson? v := do
    let r ← v.record? ["read_only_model_views", "gamma_read_only_model_views",
      "admin_only_view_menus", "alpha_only_view_menus", "admin_only_permissions",
      "alpha_only_permissions", "read_only_permissions", "accessible_permissions",
      "sql_lab_pairs", "granter_permissions"]
    let set (name : String) : Option (List String) := (r.required name).map Text.sortTexts
    some ⟨← set "read_only_model_views", ← set "gamma_read_only_model_views",
      ← set "admin_only_view_menus", ← set "alpha_only_view_menus",
      ← set "admin_only_permissions", ← set "alpha_only_permissions",
      ← set "read_only_permissions", ← set "accessible_permissions",
      ← (r.required "sql_lab_pairs").map Text.sortPairs, ← set "granter_permissions"⟩

def Tier.name : Tier → String
  | admin => "admin"
  | alpha => "alpha"
  | gamma => "gamma"
  | sqlLab => "sql_lab"
  | granter => "granter"

def Tier.ofName? (s : String) : Option Tier :=
  [Tier.admin, alpha, gamma, sqlLab, granter].find? (·.name == s)

instance : ToJson Tier := ⟨fun t => toJson t.name⟩
instance : FromJson Tier := ⟨fun v => v.caseName?.bind Tier.ofName?⟩

instance : ToJson PairPattern where
  toJson p := .ofMembers [("resource", toJson p.resource), ("permission", toJson p.permission)]
instance : FromJson PairPattern where
  ofJson? v := do
    let r ← v.record? ["resource", "permission"]
    some ⟨← r.required "resource", ← r.required "permission"⟩

/-- A rule is an object of one member, whose name tells of what kind the rule is. -/
def RoleRule.ofJson? : Value → Option RoleRule
  | .object [(some "predicate", v)] => (Json.ofJson? v).map .tier
  | .object [(some "patterns", v)] => (Json.ofJson? v).map .patterns
  | _ => none

instance : ToJson RoleRule where
  toJson
    | .tier t => .ofMembers [("predicate", toJson t)]
    | .patterns ps => .ofMembers [("patterns", toJson ps)]
instance : FromJson RoleRule := ⟨RoleRule.ofJson?⟩

instance : ToJson RoleDefinition where
  toJson d := .ofMembers [("name", toJson d.name), ("rule", toJson d.rule)]
instance : FromJson RoleDefinition where
  ofJson? v := do
    let r ← v.record? ["name", "rule"]
    some ⟨← r.required "name", ← r.required "rule"⟩

end Turnstile
