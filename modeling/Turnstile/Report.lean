import Turnstile.Manager
import Turnstile.Access.Wire
import Turnstile.Token.Claims

namespace Turnstile
open Json

def StoreError.kind : StoreError → String
  | notFound .. => "NotFound"
  | duplicate .. => "Duplicate"
  | lockPoisoned => "LockPoisoned"
  | backend _ => "Backend"

def AccessError.kind : AccessError → String
  | tablesDenied _ => "TableAccessDenied"
  | datasourceDenied _ => "DatasourceAccessDenied"
  | dashboardDenied _ => "DashboardAccessDenied"
  | userActivityDenied _ => "UserActivityAccessDenied"
  | invalidPattern _ => "InvalidPattern"
  | roleNotFound _ => "RoleNotFound"
  | unreadableQuery _ => "SqlParse"
  | store e => e.kind

def TokenError.kind : TokenError → String
  | decode _ => "Decode"
  | expired .. => "Expired"
  | missingClaim _ => "MissingClaim"
  | notGuestToken _ => "NotGuestToken"
  | missingAudience => "MissingAudience"
  | unsupportedAlgorithm _ => "UnsupportedAlgorithm"
  | embeddingNotFound _ => "EmbeddedResourceNotFound"
  | store e => e.kind

def ConfigError.kind : ConfigError → String
  | unreadable => "ReadError"
  | malformed => "ParseError"
  | invalid _ => "ValidationError"

namespace ManagerError

def kind : ManagerError → String
  | access e => e.kind
  | token e => e.kind
  | store e => e.kind
  | config e => e.kind

def layer : ManagerError → String
  | access _ => "Security"
  | token _ => "GuestToken"
  | store _ => "Store"
  | config _ => "Config"

/-- Kinds whose words depend on how a foreign text was read; a report leaves them out. -/
def silentKinds : List String := ["InvalidPattern", "SqlParse", "Decode", "ReadError", "ParseError"]

def details : ManagerError → List (String × Value)
  | access (.invalidPattern p) => [("pattern", toJson p)]
  | token (.decode fault) => [("reason", toJson fault.text)]
  | _ => []

def refusal : ManagerError → List (String × Value)
  | token e => [("invalid_token", toJson e.refusesToken)]
  | _ => []

def report (e : ManagerError) : Value :=
  .ofMembers ([("error", toJson e.kind), ("layer", toJson e.layer)]
    ++ (if silentKinds.contains e.kind then [] else [("message", toJson e.message)])
    ++ (if e.isDenial then [("denied", toJson true)] else [])
    ++ e.refusal ++ memberIfSome "object" e.denial? ++ e.details)

end ManagerError

instance : ToJson Table where
  toJson t := .ofMembers [("schema", toJson t.schema), ("table", toJson t.name),
    ("text", toJson t.text)]

instance : ToJson Guest where
  toJson g := .ofMembers [
    ("guest", .ofMembers [("user", toJson g.profile), ("resources", toJson g.grants),
      ("rls", toJson g.rules), ("role", toJson g.roleId)]),
    ("username", toJson g.username)]

instance : ToJson Principal where
  toJson
    | .anonymous => toJson "anonymous"
    | .user id roles => .ofMembers [("user", toJson id), ("roles", toJson roles)]
    | .guest g => toJson g

def Probe.name : Probe → String
  | universalGrant => "UniversalGrant"
  | databaseGrant => "DatabaseGrant"
  | schemaGrant => "SchemaGrant"
  | directGrant => "DirectGrant"
  | dashboardRelationship => "DashboardRelationship"

instance : ToJson Probe := ⟨fun p => toJson p.name⟩

instance : ToJson AccessSettings where
  toJson s := .ofMembers [("public_role", toJson s.publicRole),
    ("admin_role", toJson s.adminRole), ("embedded", toJson s.embedded),
    ("dashboard_rbac", toJson s.dashboardRoles),
    ("broad_activity_access", toJson s.broadActivity),
    ("permission_instructions_link", toJson s.instructionsLink)]

end Turnstile
