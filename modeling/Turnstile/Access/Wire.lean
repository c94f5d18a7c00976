import Turnstile.Access.Denial
import Turnstile.Json.Settled

namespace Turnstile
open Json

def DenialType.name : DenialType → String
  | table => "TABLE_SECURITY_ACCESS_ERROR"
  | datasource => "DATASOURCE_SECURITY_ACCESS_ERROR"
  | dashboard => "DASHBOARD_ACCESS_DENIED"
  | userActivity => "USER_ACTIVITY_SECURITY_ACCESS_ERROR"
  | guestToken => "INVALID_GUEST_TOKEN"
  | embedding => "EMBEDDED_RESOURCE_NOT_FOUND"

def DenialType.ofName? (s : String) : Option DenialType :=
  [DenialType.table, datasource, dashboard, userActivity, guestToken, embedding].find?
    (·.name == s)

def DenialLevel.name : DenialLevel → String
  | info => "info"
  | warning => "warning"
  | error => "error"

def DenialLevel.ofName? (s : String) : Option DenialLevel :=
  [DenialLevel.info, warning, error].find? (·.name == s)

instance : ToJson DenialType := ⟨fun t => toJson t.name⟩
instance : FromJson DenialType := ⟨fun v => v.caseName?.bind DenialType.ofName?⟩
instance : ToJson DenialLevel := ⟨fun t => toJson t.name⟩
instance : FromJson DenialLevel := ⟨fun v => v.caseName?.bind DenialLevel.ofName?⟩

def detailDepth : Nat := 126

def details? (v : Value) : Option (List (String × Value)) :=
  if v.depth ≤ detailDepth then
    match v.settled? with
    | some (.object ms) => readableMembers ms
    | _ => none
  else none

instance : ToJson Denial where
  toJson d := .ofMembers ([("error_type", toJson d.type), ("message", toJson d.message),
    ("level", toJson d.level)]
      ++ (if d.extra.isEmpty then [] else [("extra", .ofMembers d.extra)]))
instance : FromJson Denial where
  ofJson? v := do
    let r ← v.record? ["error_type", "message", "level", "extra"]
    some ⟨← r.required "error_type", ← r.required "message", ← r.required "level",
      ← (r.get? "extra").elim (some []) details?⟩

end Turnstile
