import Turnstile.Config.Decode
import Turnstile.Toml.Document
import Turnstile.Text.Lowercase

namespace Turnstile

inductive Setting where
  | nothing
  | flag (b : Bool)
  | integer (n : Int)
  | real (x : Decimal.Binary64)
  | text (s : String)
  | list (items : List Setting)
  | group (entries : List (String × Setting))
deriving Repr

inductive Step where
  | name (s : String)
  /-- A place in a list, counted from its end if it is below zero. -/
  | place (n : Int)
deriving DecidableEq, Repr

namespace Setting

def entries : Setting → List (String × Setting)
  | group es => es
  | _ => []

def items : Setting → List Setting
  | list vs => vs
  | _ => []

def putEntry (name : String) (v : Setting) : List (String × Setting) → List (String × Setting)
  | [] => [(name, v)]
  | (other, w) :: es => if other = name then (name, v) :: es else (other, w) :: putEntry name v es

def get (s : Setting) (name : String) : Setting := (s.entries.lookup name).getD (group [])

def set (s : Setting) (name : String) (v : Setting) : Setting := group (putEntry name v s.entries)

mutual
def laidOver : Setting → Setting → Setting
  | group es, s => layEach es s
  | v, _ => v
/-- Lays the entries of a group over a setting, which becomes a group with the first of them. -/
def layEach : List (String × Setting) → Setting → Setting
  | [], s => s
  | (name, v) :: es, s => layEach es (s.set name (v.laidOver (s.get name)))
end

/-- Finds a place in a list, which grows by nothings at one of its ends if it lacks the place. -/
def reach (vs : List Setting) (n : Int) : Nat × List Setting :=
  let place := if n < 0 then vs.length + n else n
  if place < 0 then (0, List.replicate place.natAbs nothing ++ vs)
  else (place.toNat, vs ++ List.replicate (place.toNat + 1 - vs.length) nothing)

def putAt (v : Setting) : List Step → Setting → Setting
  | [], s => v.laidOver s
  | .name name :: steps, s => s.set name (putAt v steps (s.get name))
  | .place n :: steps, s =>
    let (k, vs) := reach s.items n
    list (vs.modify k (putAt v steps))

end Setting

namespace Step

def isNameChar (c : Char) : Bool := c.isAlphanum || c == '_' || c == '-'

def readPlace? (cs : List Char) : Option (Int × List Char) :=
  let (negative, cs) := match cs with
    | '-' :: cs => (true, cs)
    | cs => (false, cs)
  let ds := cs.takeWhile Char.isDigit
  match Decimal.readSigned? (if negative then '-' :: ds else ds), cs.dropWhile Char.isDigit with
  | some n, ']' :: rest => some (n, rest)
  | _, _ => none

def readMore? : Nat → List Char → Option (List Step)
  | _, [] => some []
  | fuel + 1, '.' :: cs =>
    let word := cs.takeWhile isNameChar
    if word.isEmpty then none
    else (readMore? fuel (cs.dropWhile isNameChar)).map (.name (String.ofList word) :: ·)
  | fuel + 1, '[' :: cs => do
    let (n, rest) ← readPlace? cs
    (readMore? fuel rest).map (.place n :: ·)
  | _, _ => none

/-- The steps of a key: names with points between them, and places in brackets. A key of another
form is one name. -/
def ofKey (key : String) : List Step :=
  let cs := key.toList
  let word := cs.takeWhile isNameChar
  let more := if word.isEmpty then none else readMore? (cs.length + 1) (cs.dropWhile isNameChar)
  match more with
  | some steps => .name (String.ofList word) :: steps
  | none => [.name key]

end Step

def Setting.putLayer (s : Setting) (layer : List (String × Setting)) : Setting :=
  layer.foldl (fun s (key, v) => v.putAt (Step.ofKey key) s) s

open Toml in
def Setting.ofScalar? : Scalar → Option Setting
  | .text s => some (text s)
  | .integer n => if -9223372036854775808 ≤ n ∧ n ≤ 9223372036854775807 then some (integer n) else none
  | .real x => some (real x)
  | .flag b => some (flag b)
  | .moment s => some (text s)

mutual
def Setting.ofToml? : Toml.Value → Option Setting
  | .scalar s => ofScalar? s
  | .array vs => (ofItems? vs).map list
  | .table es => (ofEntries? es).map group
def Setting.ofItems? : List Toml.Value → Option (List Setting)
  | [] => some []
  | v :: vs => do
    let s ← ofToml? v
    some (s :: (← ofItems? vs))
def Setting.ofEntries? : List (String × Toml.Value) → Option (List (String × Setting))
  | [] => some []
  | (name, v) :: es => do
    let s ← ofToml? v
    some ((name, s) :: (← ofEntries? es))
end

namespace Setting

def ofOption : Option String → Setting
  | none => nothing
  | some s => text s

def ofConfig (c : Config) : Setting :=
  group [
    ("auth", group [("role_public", ofOption c.auth.publicRole),
      ("public_role_like", ofOption c.auth.template), ("admin_role", text c.auth.adminRole)]),
    ("features", group [("embedded", flag c.features.embedded),
      ("dashboard_rbac", flag c.features.dashboardRoles)]),
    ("activity", group [("broad_access", flag c.activity.broadAccess)]),
    ("guest_token", group [("secret", text c.guestToken.secret),
      ("algorithm", text c.guestToken.algorithm), ("exp_seconds", integer c.guestToken.lifetime),
      ("audience", ofOption c.guestToken.audience), ("header_name", text c.guestToken.headerName),
      ("role_name", ofOption c.guestToken.roleName)]),
    ("permission_instructions_link", ofOption c.instructionsLink)]

def text? : Setting → Option String
  | text s => some s
  | flag b => some (if b then "true" else "false")
  | integer n => some (Decimal.signedText n)
  | real x => some x.text
  | _ => none

def switchWord? (s : String) : Option Bool :=
  let word := Text.lowercase s
  if ["true", "on", "yes"].contains word then some true
  else if ["false", "off", "no"].contains word then some false
  else none

/-- A switch, also as a word, or as a number that is not zero. -/
def flag? : Setting → Option Bool
  | flag b => some b
  | integer n => some (n != 0)
  | real x => some !x.isZero
  | text "1" => some true
  | text "0" => some false
  | text s => switchWord? s
  | _ => none

/-- A number of 64 bits, also as a text, rounded, or as a switch. -/
def count? : Setting → Option Nat
  | integer n => if 0 ≤ n then some n.toNat else none
  | flag b => some b.toNat
  | real x => some x.toWord
  | text s =>
    match switchWord? s with
    | some b => some b.toNat
    | none => (Decimal.readWord s).toOption
  | _ => none

def isNothing : Setting → Bool
  | nothing => true
  | _ => false

def fields? (names : List String) : Setting → Option (List (String × Setting))
  | group es => some es
  | list vs => some (names.zip vs)
  | _ => none

end Setting

def Format.setting : Format Setting where
  fields? := Setting.fields?
  isNothing := Setting.isNothing
  text? := Setting.text?
  flag? := Setting.flag?
  count? := Setting.count?

end Turnstile
