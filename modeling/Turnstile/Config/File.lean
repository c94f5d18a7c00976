import Turnstile.Config.Decode
import Turnstile.Toml.Document

namespace Turnstile

namespace Toml.Value

def fields? (names : List String) : Value → Option (List (String × Value))
  | table es => some es
  | array vs => some (names.zip vs)
  | scalar _ => none

def text? : Value → Option String
  | scalar (.text s) => some s
  | _ => none

def flag? : Value → Option Bool
  | scalar (.flag b) => some b
  | _ => none

def count? : Value → Option Nat
  | scalar (.integer n) => if 0 ≤ n ∧ n ≤ Decimal.wordMax then some n.toNat else none
  | _ => none

end Toml.Value

def Format.toml : Format Toml.Value where
  fields? := Toml.Value.fields?
  isNothing _ := false
  text? := Toml.Value.text?
  flag? := Toml.Value.flag?
  count? := Toml.Value.count?

namespace Config

def projectName : String := "palisade.toml"
def localName : String := "palisade.local.toml"

def pathIn (dir name : String) : String :=
  if dir = "" ∨ dir.toList.getLast? = some '/' then dir ++ name else dir ++ "/" ++ name

def ofFile (text : Option String) : Except ConfigError Config :=
  match text with
  | none => .error .unreadable
  | some s =>
    match (Toml.document? s).bind fun es => Format.toml.config? (.table es) with
    | none => .error .malformed
    | some c => do
      c.validate
      .ok c

end Config
end Turnstile
