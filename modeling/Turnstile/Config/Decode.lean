import Turnstile.Config.Basic

namespace Turnstile

structure Format (δ : Type) where
  /-- The values of the fields that are given, of those called so. -/
  fields? : List String → δ → Option (List (String × δ))
  /-- Whether the value stands for nothing. -/
  isNothing : δ → Bool
  text? : δ → Option String
  flag? : δ → Option Bool
  count? : δ → Option Nat

namespace Format
variable {δ : Type} (f : Format δ)

def orElse {α : Type} (given : List (String × δ)) (name : String) (standard : α)
    (read : δ → Option α) : Option α :=
  match given.lookup name with
  | none => some standard
  | some v => read v

def optionalText? (v : δ) : Option (Option String) :=
  if f.isNothing v then some none else (f.text? v).map some

open Config

def auth? (v : δ) : Option Auth := do
  let given ← f.fields? ["role_public", "public_role_like", "admin_role"] v
  let s := Auth.standard
  some ⟨← orElse given "role_public" s.publicRole f.optionalText?,
    ← orElse given "public_role_like" s.template f.optionalText?,
    ← orElse given "admin_role" s.adminRole f.text?⟩

def features? (v : δ) : Option Features := do
  let given ← f.fields? ["embedded", "dashboard_rbac"] v
  let s := Features.standard
  some ⟨← orElse given "embedded" s.embedded f.flag?,
    ← orElse given "dashboard_rbac" s.dashboardRoles f.flag?⟩

def activity? (v : δ) : Option Activity := do
  let given ← f.fields? ["broad_access"] v
  some ⟨← orElse given "broad_access" Activity.standard.broadAccess f.flag?⟩

def guestToken? (v : δ) : Option GuestToken := do
  let given ← f.fields?
    ["secret", "algorithm", "exp_seconds", "audience", "header_name", "role_name"] v
  let s := GuestToken.standard
  some ⟨← orElse given "secret" s.secret f.text?, ← orElse given "algorithm" s.algorithm f.text?,
    ← orElse given "exp_seconds" s.lifetime f.count?,
    ← orElse given "audience" s.audience f.optionalText?,
    ← orElse given "header_name" s.headerName f.text?,
    ← orElse given "role_name" s.roleName f.optionalText?⟩

def config? (v : δ) : Option Config := do
  let given ← f.fields?
    ["auth", "features", "activity", "guest_token", "permission_instructions_link"] v
  let s := Config.standard
  some ⟨← orElse given "auth" s.auth f.auth?, ← orElse given "features" s.features f.features?,
    ← orElse given "activity" s.activity f.activity?,
    ← orElse given "guest_token" s.guestToken f.guestToken?,
    ← orElse given "permission_instructions_link" s.instructionsLink f.optionalText?⟩

end Format

open Json

def Format.json : Format Value where
  fields? names v := (v.record? names).map (·.given)
  isNothing v := match v with
    | .null => true
    | _ => false
  text? := Value.string?
  flag? := Value.bool?
  count? := Value.natural?

instance : FromJson Config := ⟨Format.json.config?⟩

instance : ToJson Config where
  toJson c := .ofMembers [
    ("auth", .ofMembers [("role_public", toJson c.auth.publicRole),
      ("public_role_like", toJson c.auth.template), ("admin_role", toJson c.auth.adminRole)]),
    ("features", .ofMembers [("embedded", toJson c.features.embedded),
      ("dashboard_rbac", toJson c.features.dashboardRoles)]),
    ("activity", .ofMembers [("broad_access", toJson c.activity.broadAccess)]),
    ("guest_token", .ofMembers [("secret", toJson c.guestToken.secret),
      ("algorithm", toJson c.guestToken.algorithm), ("exp_seconds", toJson c.guestToken.lifetime),
      ("audience", toJson c.guestToken.audience),
      ("header_name", toJson c.guestToken.headerName),
      ("role_name", toJson c.guestToken.roleName)]),
    ("permission_instructions_link", toJson c.instructionsLink)]

end Turnstile
