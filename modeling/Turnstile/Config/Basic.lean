import Turnstile.Token.Config
import Turnstile.Access.Viewer
import Turnstile.Role.Synchronizer

namespace Turnstile

namespace Config

structure Auth where
  /-- The role of those who are not signed in. -/
  publicRole : Option String
  /-- The role whose pairs are merged into that role. -/
  template : Option String
  adminRole : String
deriving DecidableEq, Repr

structure Features where
  embedded : Bool
  dashboardRoles : Bool
deriving DecidableEq, Repr

structure Activity where
  broadAccess : Bool
deriving DecidableEq, Repr

structure GuestToken where
  secret : String
  algorithm : String
  lifetime : Nat
  audience : Option String
  headerName : String
  roleName : Option String
deriving DecidableEq, Repr

def Auth.standard : Auth := ⟨some "Public", none, "Admin"⟩
def Features.standard : Features := ⟨false, false⟩
def Activity.standard : Activity := ⟨true⟩

def standardSecret : String := "test-guest-secret-change-me"

def GuestToken.standard : GuestToken :=
  ⟨standardSecret, Signing.hs256.name, 300, none, TokenConfig.standardHeader, none⟩

end Config

structure Config where
  auth : Config.Auth
  features : Config.Features
  activity : Config.Activity
  guestToken : Config.GuestToken
  /-- The address shown with a refusal. -/
  instructionsLink : Option String
deriving DecidableEq, Repr

inductive ConfigFault where
  | unknownAlgorithm (name : String)
  | zeroLifetime
  | blankHeader
  | missingSecret
deriving DecidableEq, Repr

inductive ConfigError where
  /-- The file cannot be read. -/
  | unreadable
  /-- The file's text is no configuration. -/
  | malformed
  | invalid (fault : ConfigFault)
deriving DecidableEq, Repr

def ConfigFault.message : ConfigFault → String
  | unknownAlgorithm name =>
    "guest_token.algorithm must be one of ["
      ++ String.intercalate ", " (Signing.all.map fun s => Text.quoted s.name)
      ++ "], got " ++ Text.quoted name
  | zeroLifetime => "guest_token.exp_seconds must be positive"
  | blankHeader => "guest_token.header_name must not be empty"
  | missingSecret => "guest_token.secret is required when features.embedded is on"

def ConfigError.message : ConfigError → String
  | unreadable => "Failed to read config file"
  | malformed => "Failed to parse TOML config"
  | invalid fault => "Invalid configuration: " ++ fault.message

namespace Config

def standard : Config := ⟨.standard, .standard, .standard, .standard, none⟩

def fault? (c : Config) : Option ConfigFault :=
  if (Signing.ofName? c.guestToken.algorithm).isNone then
    some (.unknownAlgorithm c.guestToken.algorithm)
  else if c.guestToken.lifetime = 0 then some .zeroLifetime
  else if (Text.trimBlanks c.guestToken.headerName.toList).isEmpty then some .blankHeader
  else if c.features.embedded ∧ c.guestToken.secret = "" then some .missingSecret
  else none

def validate (c : Config) : Except ConfigError Unit :=
  match c.fault? with
  | some fault => .error (.invalid fault)
  | none => .ok ()

def accessSettings (c : Config) : AccessSettings :=
  ⟨c.auth.publicRole, c.auth.adminRole, c.features.embedded, c.features.dashboardRoles,
    c.activity.broadAccess, c.instructionsLink⟩

def synchronizer (c : Config) : Synchronizer :=
  Synchronizer.standard.withPublicRoleLike c.auth.publicRole c.auth.template

def tokenConfig (c : Config) : Except TokenError TokenConfig := do
  let t := c.guestToken
  let config ← (TokenConfig.standard t.secret).withAlgorithm t.algorithm
  .ok { config with
    lifetime := t.lifetime
    headerName := t.headerName
    audience := t.audience.map .fixed
    roleName := t.roleName }

end Config
end Turnstile
