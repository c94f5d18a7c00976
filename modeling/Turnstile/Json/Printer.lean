import Turnstile.Json.Value
import Turnstile.Decimal.Natural

namespace Turnstile.Json

def hexChar (n : Nat) : Char :=
  if n < 10 then Char.ofNat ('0'.toNat + n) else Char.ofNat ('a'.toNat + (n - 10))

def escapeChar (c : Char) : List Char :=
  if c = '"' then ['\\', '"']
  else if c = '\\' then ['\\', '\\']
  else if c = '\n' then ['\\', 'n']
  else if c = '\r' then ['\\', 'r']
  else if c = '\t' then ['\\', 't']
  else if c = '\x08' then ['\\', 'b']
  else if c = '\x0c' then ['\\', 'f']
  else if c.toNat < 0x20 then ['\\', 'u', '0', '0', hexChar (c.toNat / 16), hexChar (c.toNat % 16)]
  else [c]

def writeText (s : String) : List Char :=
  '"' :: s.toList.flatMap escapeChar ++ ['"']

/-- A text that denotes no characters is written as the escape of a lone half. -/
def writeOptionalText : Option String → List Char
  | some s => writeText s
  | none => ['"', '\\', 'u', 'd', '8', '0', '0', '"']

def writeNumber : Number → List Char
  | .natural n => Nat.toDigits 10 n
  | .negative n => '-' :: Nat.toDigits 10 n
  | .real literal => literal

mutual
def writeValue : Value → List Char
  | .null => ['n', 'u', 'l', 'l']
  | .bool true => ['t', 'r', 'u', 'e']
  | .bool false => ['f', 'a', 'l', 's', 'e']
  | .number n => writeNumber n
  | .text s => writeOptionalText s
  | .array [] => ['[', ']']
  | .array (v :: vs) => '[' :: writeValue v ++ writeItems vs
  | .object [] => ['{', '}']
  | .object ((name, v) :: ms) =>
    '{' :: writeOptionalText name ++ ':' :: writeValue v ++ writeMembers ms
def writeItems : List Value → List Char
  | [] => [']']
  | v :: vs => ',' :: writeValue v ++ writeItems vs
def writeMembers : List (Option String × Value) → List Char
  | [] => ['}']
  | (name, v) :: ms => ',' :: writeOptionalText name ++ ':' :: writeValue v ++ writeMembers ms
end

def Value.render (v : Value) : String := String.ofList (writeValue v)

end Turnstile.Json
