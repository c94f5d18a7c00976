import Turnstile.Access.Denial
import Turnstile.Text.Quoted

namespace Turnstile

inductive DecodeFault where
  /-- A part is not base64. -/
  | base64
  /-- A part is not JSON of the right form. -/
  | json
  /-- The text has no three parts. -/
  | invalidToken
  | invalidSignature
  /-- The token names another algorithm. -/
  | invalidAlgorithm
  /-- The token is for someone else. -/
  | invalidAudience
deriving DecidableEq, Repr

def DecodeFault.text : DecodeFault → String
  | base64 => "Base64"
  | json => "Json"
  | invalidToken => "InvalidToken"
  | invalidSignature => "InvalidSignature"
  | invalidAlgorithm => "InvalidAlgorithm"
  | invalidAudience => "InvalidAudience"

inductive TokenError where
  | decode (fault : DecodeFault)
  | expired (exp now : Instant)
  /-- A claim that every guest's token has is not there. -/
  | missingClaim (name : String)
  /-- The token is of another type, or of none. -/
  | notGuestToken (type : Option String)
  /-- Neither the settings nor the request tell whom the token is for. -/
  | missingAudience
  | unsupportedAlgorithm (name : String)
  | embeddingNotFound (id : String)
  | store (e : StoreError)
deriving DecidableEq, Repr

namespace TokenError

def refusesToken : TokenError → Bool
  | decode _ => true
  | expired .. => true
  | missingClaim _ => true
  | notGuestToken _ => true
  | missingAudience => true
  | _ => false

def denial? (e : TokenError) : Option Denial :=
  match e with
  | embeddingNotFound _ => some Denial.embedding
  | _ => if e.refusesToken then some Denial.guestToken else none

def message : TokenError → String
  | decode fault => "failed to decode guest token: " ++ fault.text
  | expired exp now => "guest token expired at " ++ exp.text ++ " (now " ++ now.text ++ ")"
  | missingClaim name => "guest token is missing the " ++ Denial.backquoted name ++ " claim"
  | notGuestToken type => "token type " ++ Text.quotedOption type ++ " is not a guest token"
  | missingAudience => "no guest token audience configured and the request host is unknown"
  | unsupportedAlgorithm name => "unsupported guest token algorithm: " ++ name
  | embeddingNotFound id => "embedded resource not found: " ++ id
  | store e => e.message

end TokenError
end Turnstile
