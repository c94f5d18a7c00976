import Turnstile.Digest.Sha2
import Turnstile.Text.Base64
import Turnstile.Json.Reader
import Turnstile.Json.Printer
import Turnstile.Json.Record
import Turnstile.Token.Error

namespace Turnstile

inductive Signing where
  | hs256
  | hs384
  | hs512
deriving DecidableEq, Repr

namespace Signing

def name : Signing → String
  | hs256 => "HS256"
  | hs384 => "HS384"
  | hs512 => "HS512"

def hash : Signing → Digest.Sha2
  | hs256 => .sha256
  | hs384 => .sha384
  | hs512 => .sha512

def all : List Signing := [hs256, hs384, hs512]

def ofName? (s : String) : Option Signing := all.find? (·.name == s)

end Signing

namespace Signed

open Json

def algorithmNames : List String :=
  ["HS256", "HS384", "HS512", "ES256", "ES384", "RS256", "RS384", "RS512", "PS256", "PS384",
    "PS512", "EdDSA"]

def header (signing : Signing) : Value :=
  .ofMembers [("typ", toJson "JWT"), ("alg", toJson signing.name)]

def bytes (s : String) : List UInt8 := s.toUTF8.toList

def encoded (s : String) : List Char := Text.Base64.encode (bytes s)

def signature (signing : Signing) (secret : String) (body : List Char) : List UInt8 :=
  Digest.hmac signing.hash (bytes secret) (bytes (String.ofList body))

def sign (signing : Signing) (secret payload : String) : String :=
  let body := encoded (header signing).render ++ '.' :: encoded payload
  String.ofList (body ++ '.' :: Text.Base64.encode (signature signing secret body))

def splitAtLastPeriod : List Char → Option (List Char × List Char)
  | [] => none
  | c :: cs =>
    match splitAtLastPeriod cs with
    | some (a, b) => some (c :: a, b)
    | none => if c = '.' then some ([], cs) else none

def textMembers : List String :=
  ["typ", "cty", "jku", "kid", "x5u", "x5t", "x5t#S256", "enc", "zip", "url", "nonce"]

def listMembers : List String := ["x5c", "crit"]

def isText (v : Value) : Bool := v.string?.isSome

def isNull : Value → Bool
  | .null => true
  | _ => false

def isObject : Value → Bool
  | .object _ => true
  | _ => false

def memberFits (name : String) (v : Value) : Bool :=
  if name = "alg" then v.caseName?.any algorithmNames.contains
  else if textMembers.contains name then isText v || isNull v
  else if listMembers.contains name then isNull v || v.items?.any (·.all isText)
  else if name = "jwk" then isNull v || isObject v
  else isText v

def knownMembers : List String := "alg" :: "jwk" :: textMembers ++ listMembers

def headerAlgorithm? (v : Value) : Option String :=
  match v with
  | .object ms => do
    let ms ← readableMembers ms
    let names := (ms.map (·.1)).filter knownMembers.contains
    if names.Nodup ∧ ms.all (fun m => memberFits m.1 m.2) then
      (← ms.lookup "alg").caseName?
    else none
  | _ => none

def textOfBytes? (bs : List UInt8) : Option String := String.fromUTF8? ⟨bs.toArray⟩

/-- Opens a signed text: its payload, if it is signed with this algorithm and this secret. -/
def payload (signing : Signing) (secret raw : String) : Except DecodeFault (List UInt8) := do
  let some (body, sent) := splitAtLastPeriod raw.toList | .error .invalidToken
  let some (head, content) := splitAtLastPeriod body | .error .invalidToken
  let some headBytes := Text.Base64.decode head | .error .base64
  let some algorithm := ((textOfBytes? headBytes).bind parse).bind headerAlgorithm? | .error .json
  if algorithm ≠ signing.name then .error .invalidAlgorithm
  let some sentBytes := Text.Base64.decode sent | .error .base64
  if sentBytes ≠ signature signing secret body then .error .invalidSignature
  let some contentBytes := Text.Base64.decode content | .error .base64
  .ok contentBytes

end Signed
end Turnstile
