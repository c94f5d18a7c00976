import Turnstile.Json.Value

namespace Turnstile.Json

def putMember (ms : List (Option String × Value)) (name : String) (v : Value) :
    List (Option String × Value) :=
  ms.filter (·.1 != some name) ++ [(some name, v)]

mutual
/-- The value as it is understood; none if half a surrogate pair stands alone in it. -/
def Value.settled? : Value → Option Value
  | .text s => s.map fun s => .text (some s)
  | .array items => (settledItems? items).map .array
  | .object ms => (settledMembers? [] ms).map .object
  | v => some v
def settledItems? : List Value → Option (List Value)
  | [] => some []
  | v :: vs => do
    let v ← v.settled?
    some (v :: (← settledItems? vs))
def settledMembers? (settled : List (Option String × Value)) :
    List (Option String × Value) → Option (List (Option String × Value))
  | [] => some settled
  | (name, v) :: ms => do
    let name ← name
    let v ← v.settled?
    settledMembers? (putMember settled name v) ms
end

end Turnstile.Json
