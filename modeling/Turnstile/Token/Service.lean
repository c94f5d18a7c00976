import Turnstile.Token.Claims
import Turnstile.Token.Config
import Turnstile.Token.Request
import Turnstile.Catalog.Basic

namespace Turnstile

def tokenField : String := "guest_token"

structure TokenService where
  config : TokenConfig
  now : Instant

namespace TokenService

def describe (s : TokenService) : String :=
  Text.describeFields "GuestTokenService" s.config.commonFields ", .. \x7d"

def withAudience (s : TokenService) (a : Audience) : TokenService :=
  { s with config := { s.config with audience := some a } }

/-- Takes other settings; an audience stays if they have none. -/
def withConfig (s : TokenService) (c : TokenConfig) : TokenService :=
  { s with config := { c with audience := c.audience.or s.config.audience } }

def audience (s : TokenService) (host : Option String) : Except TokenError String × TokenService :=
  match s.config.audience, host with
  | some a, _ => (.ok a.resolve.1, s.withAudience a.resolve.2)
  | none, some h => (.ok h, s)
  | none, none => (.error .missingAudience, s)

def claims (s : TokenService) (profile : GuestProfile) (grants : List GuestGrant)
    (rules : List GuestRule) (audience : String) : GuestClaims :=
  ⟨profile, grants, rules, s.now, s.now.later s.config.lifetime, audience⟩

def issue (s : TokenService) (profile : GuestProfile) (grants : List GuestGrant)
    (rules : List GuestRule) (host : Option String) : Except TokenError String × TokenService :=
  match s.audience host with
  | (.error e, s) => (.error e, s)
  | (.ok a, s) =>
    let c := (s.claims profile grants rules a).stated
    (.ok (Signed.sign s.config.signing s.config.secret (Json.toJson c).render), s)

def passingMembers : List String := ["sub", "nbf", "iss"]

/-- Whether a member that is looked at in passing can be read: a subject is no list and no object,
a start is neither of them unless it is empty, and an issuer is not too deep. -/
def passingMemberFits (name : String) (v : Json.Value) : Bool :=
  match name, v with
  | "sub", .array _ => false
  | "sub", .object _ => false
  | "nbf", .array (_ :: _) => false
  | "nbf", .object (_ :: _) => false
  | "iss", v => v.depth < 127
  | _, _ => true

def passingMembersFit (v : Json.Value) : Bool :=
  match v with
  | .object ms =>
    let known := ms.filterMap fun m =>
      m.1.bind fun name => if passingMembers.contains name then some (name, m.2) else none
    (known.map (·.1)).Nodup && known.all fun m => passingMemberFits m.1 m.2
  | _ => false

def claimsOf? (payload : List UInt8) : Option Claims := do
  let v ← Json.parse (← Signed.textOfBytes? payload)
  let c ← Json.ofJson? v
  if passingMembersFit v then some c else none

def check (s : TokenService) (raw audience : String) : Except TokenError Claims :=
  match Signed.payload s.config.signing s.config.secret raw with
  | .error fault => .error (.decode fault)
  | .ok payload =>
    match claimsOf? payload with
    | none => .error (.decode .json)
    | some c =>
      if c.audience ≠ audience then .error (.decode .invalidAudience)
      else if c.expires.seconds ≤ s.now.seconds then .error (.expired c.expires s.now)
      else .ok c

def parse (s : TokenService) (raw : String) (host : Option String) :
    Except TokenError Claims × TokenService :=
  match s.audience host with
  | (.error e, s) => (.error e, s)
  | (.ok a, s) => (s.check raw a, s)

def validate (s : TokenService) (raw : String) (host : Option String) :
    Except TokenError GuestClaims × TokenService :=
  match s.parse raw host with
  | (.error e, s) => (.error e, s)
  | (.ok c, s) => (c.verify, s)

/-- The token that a request carries, in its header or else in its form. -/
def rawToken? (s : TokenService) (r : Request) : Option String :=
  (((r.header? s.config.headerName).filter (· ≠ "")).or (r.field? tokenField)).filter (· ≠ "")

def resolve (s : TokenService) (r : Request) (roleId : Option RoleId) :
    Option Guest × TokenService :=
  match s.rawToken? r with
  | none => (none, s)
  | some raw =>
    match s.validate raw r.host with
    | (.error _, s) => (none, s)
    | (.ok c, s) => (some (c.guest roleId), s)

def roleId? (s : TokenService) (c : Catalog) : Option RoleId :=
  (s.config.roleName.bind c.roleNamed?).map (·.id)

end TokenService

namespace Catalog

def refersToDashboard (c : Catalog) (ref : GuestRef) : Bool :=
  (match Decimal.readWord ref.toText with
    | .ok n => (c.dashboard? ⟨n⟩).isSome
    | .error _ => false)
    || ((Uuid.ofText? ref.toText).bind c.embedding?).isSome

def requireGrants (c : Catalog) : List GuestGrant → Except TokenError Unit
  | [] => .ok ()
  | g :: gs =>
    if g.type = .dashboard ∧ !c.refersToDashboard g.id then
      .error (.embeddingNotFound g.id.toText)
    else c.requireGrants gs

end Catalog
end Turnstile
