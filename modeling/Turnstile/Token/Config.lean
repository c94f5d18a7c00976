import Turnstile.Token.Signed

namespace Turnstile

inductive Audience where
  | fixed (name : String)
  /-- Asked anew for every token: the answers, and how many were given already. -/
  | dynamic (answer : Nat → String) (asked : Nat)

namespace Audience

/-- The audience now, and what is left to be asked. -/
def resolve : Audience → String × Audience
  | fixed name => (name, fixed name)
  | dynamic answer asked => (answer asked, dynamic answer (asked + 1))

def describe : Audience → String
  | fixed name => "Fixed(" ++ Text.quoted name ++ ")"
  | dynamic .. => "Dynamic(..)"

def describeOption : Option Audience → String
  | none => "None"
  | some a => "Some(" ++ a.describe ++ ")"

end Audience

structure TokenConfig where
  secret : String
  signing : Signing
  /-- For how many seconds a token holds. -/
  lifetime : Nat
  /-- Without one the host of the request is the audience. -/
  audience : Option Audience
  headerName : String
  /-- The role of all guests. -/
  roleName : Option String

namespace TokenConfig

def standardHeader : String := "X-GuestToken"

def standard (secret : String) : TokenConfig := ⟨secret, .hs256, 300, none, standardHeader, none⟩

def withAlgorithm (c : TokenConfig) (name : String) : Except TokenError TokenConfig :=
  match Signing.ofName? name with
  | some signing => .ok { c with signing }
  | none => .error (.unsupportedAlgorithm name)

def commonFields (c : TokenConfig) : List (String × String) :=
  [("algorithm", c.signing.name), ("exp_seconds", Decimal.text c.lifetime),
    ("audience", Audience.describeOption c.audience), ("header_name", Text.quoted c.headerName)]

def describe (c : TokenConfig) : String :=
  Text.describe "GuestTokenConfig"
    (("secret", Text.quoted "[REDACTED]") :: c.commonFields
      ++ [("role_name", Text.quotedOption c.roleName)])

end TokenConfig
end Turnstile
