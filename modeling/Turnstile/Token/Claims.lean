import Turnstile.Token.Error
import Turnstile.Principal

namespace Turnstile

structure Claims where
  profile : Option GuestProfile
  grants : Option (List GuestGrant)
  rules : Option (List GuestRule)
  issued : Instant
  expires : Instant
  audience : String
  type : Option String
deriving DecidableEq, Repr

structure GuestClaims where
  profile : GuestProfile
  grants : List GuestGrant
  rules : List GuestRule
  issued : Instant
  expires : Instant
  audience : String
deriving DecidableEq, Repr

namespace Claims

def guestType : String := "guest"

def verify (c : Claims) : Except TokenError GuestClaims :=
  match c.profile, c.grants, c.rules with
  | none, _, _ => .error (.missingClaim "user")
  | _, none, _ => .error (.missingClaim "resources")
  | _, _, none => .error (.missingClaim "rls_rules")
  | some profile, some grants, some rules =>
    if c.type = some guestType then
      .ok ⟨profile, grants, rules, c.issued, c.expires, c.audience⟩
    else .error (.notGuestToken c.type)

end Claims

namespace GuestClaims

def guest (c : GuestClaims) (roleId : Option RoleId) : Guest :=
  ⟨c.profile, c.grants, c.rules, roleId⟩

def stated (c : GuestClaims) : Claims :=
  ⟨some c.profile, some c.grants, some c.rules, c.issued, c.expires, c.audience,
    some Claims.guestType⟩

end GuestClaims

open Json

def GuestRef.ofJson? : Value → Option GuestRef
  | .number (.natural n) => some (.number n)
  | .text (some s) => some (.text s)
  | _ => none

instance : ToJson GuestRef where
  toJson
    | .number n => toJson n
    | .text s => toJson s
instance : FromJson GuestRef := ⟨GuestRef.ofJson?⟩

instance : ToJson GuestProfile where
  toJson p := .ofMembers (memberIfSome "username" p.username
    ++ memberIfSome "first_name" p.firstName ++ memberIfSome "last_name" p.lastName)
instance : FromJson GuestProfile where
  ofJson? v := do
    let r ← v.record? ["username", "first_name", "last_name"]
    some ⟨← r.omissible "username", ← r.omissible "first_name", ← r.omissible "last_name"⟩

instance : ToJson GrantType where
  toJson
    | .dashboard => toJson "dashboard"
    | .unknown => toJson "unknown"

instance : FromJson GrantType where
  ofJson? v := v.caseName?.map fun s => if s = "dashboard" then .dashboard else .unknown

instance : ToJson GuestGrant where
  toJson g := .ofMembers [("type", toJson g.type), ("id", toJson g.id)]
instance : FromJson GuestGrant where
  ofJson? v := do
    let r ← v.record? ["type", "id"]
    some ⟨← r.required "type", ← r.required "id"⟩

instance : ToJson GuestRule where
  toJson r := .ofMembers (memberIfSome "dataset" r.dataset ++ [("clause", toJson r.clause)])
instance : FromJson GuestRule where
  ofJson? v := do
    let r ← v.record? ["dataset", "clause"]
    some ⟨← r.omissible "dataset", ← r.required "clause"⟩

instance : ToJson Claims where
  toJson c := .ofMembers [("user", toJson c.profile), ("resources", toJson c.grants),
    ("rls_rules", toJson c.rules), ("iat", toJson c.issued), ("exp", toJson c.expires),
    ("aud", toJson c.audience), ("type", toJson c.type)]
instance : FromJson Claims where
  ofJson? v := do
    let r ← v.record? ["user", "resources", "rls_rules", "iat", "exp", "aud", "type"]
    some ⟨← r.omissible "user", ← r.omissible "resources", ← r.omissible "rls_rules",
      ← r.required "iat", ← r.required "exp", ← r.required "aud", ← r.omissible "type"⟩

end Turnstile
