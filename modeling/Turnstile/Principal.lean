import Turnstile.Catalog.Entity

namespace Turnstile

/-- A reference to a dashboard or a datasource, kept as it was written. -/
inductive GuestRef where
  | number (n : Nat)
  | text (s : String)
deriving DecidableEq, Repr

def GuestRef.toText : GuestRef → String
  | .number n => Decimal.text n
  | .text s => s

structure GuestProfile where
  username : Option String
  firstName : Option String
  lastName : Option String
deriving DecidableEq, Repr

instance : Inhabited GuestProfile := ⟨⟨none, none, none⟩⟩

/-- What kind of thing a grant opens. Only dashboards can be opened. -/
inductive GrantType where
  | dashboard
  | unknown
deriving DecidableEq, Repr

structure GuestGrant where
  type : GrantType
  id : GuestRef
deriving DecidableEq, Repr

structure GuestRule where
  dataset : Option GuestRef
  clause : String
deriving DecidableEq, Repr

/-- A rule with no scope, or with an empty text for one, holds everywhere. -/
def GuestRule.appliesTo (r : GuestRule) (id : DatasourceId) : Bool :=
  match r.dataset with
  | none => true
  | some scope => scope == .text "" || scope.toText == id.text

/-- A visitor with what it carries, and the role all guests share, if there is one. -/
structure Guest where
  profile : GuestProfile
  grants : List GuestGrant
  rules : List GuestRule
  roleId : Option RoleId
deriving DecidableEq, Repr

namespace Guest

def username (g : Guest) : String := g.profile.username.getD "guest_user"

def dashboardRefs (g : Guest) : List GuestRef :=
  (g.grants.filter (·.type == .dashboard)).map (·.id)

def opens (g : Guest) (id : DashboardId) (embedding : Option Embedding) : Bool :=
  g.dashboardRefs.any (·.toText == id.text)
    || (match embedding with
      | some e => g.dashboardRefs.any (·.toText == e.uuid.text)
      | none => false)

end Guest

inductive Principal where
  | anonymous
  | user (id : UserId) (roleIds : List RoleId)
  | guest (g : Guest)
deriving DecidableEq, Repr

namespace Principal

def userId? : Principal → Option UserId
  | user id _ => some id
  | _ => none

def guest? : Principal → Option Guest
  | guest g => some g
  | _ => none

end Principal
end Turnstile
