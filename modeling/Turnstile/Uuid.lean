import Turnstile.Ledger
import Turnstile.Decimal.Natural
import Turnstile.Json.Record
import Turnstile.Json.Printer

namespace Turnstile

structure Uuid where
  number : Nat
deriving DecidableEq, Repr

namespace Uuid

instance : Filed Uuid := ⟨Uuid.number⟩

theorem eq_of_number (a b : Uuid) (h : Filed.number a = Filed.number b) : a = b := by
  cases a
  cases b
  exact congrArg Uuid.mk h

def digits (u : Uuid) : List Char :=
  (List.range 32).map fun i => Json.hexChar (u.number / Nat.pow 16 (31 - i) % 16)

/-- The digits with hyphens after the 8th, 12th, 16th and 20th. -/
def text (u : Uuid) : String :=
  let ds := u.digits
  String.ofList (ds.take 8 ++ '-' :: (ds.drop 8).take 4 ++ '-' :: (ds.drop 12).take 4
    ++ '-' :: (ds.drop 16).take 4 ++ '-' :: ds.drop 20)

def ofDigits? (ds : List Char) : Option Uuid :=
  if ds.length = 32 then
    (ds.foldlM (fun acc c => (Decimal.hexDigit? c).map (acc * 16 + ·)) 0).map Uuid.mk
  else none

def unhyphenated? (cs : List Char) : Option (List Char) :=
  match cs.drop 8, cs.drop 13, cs.drop 18, cs.drop 23 with
  | '-' :: _, '-' :: _, '-' :: _, '-' :: last =>
    some (cs.take 8 ++ (cs.drop 9).take 4 ++ (cs.drop 14).take 4 ++ (cs.drop 19).take 4 ++ last)
  | _, _, _, _ => none

def ofHyphenated? (cs : List Char) : Option Uuid := (unhyphenated? cs).bind ofDigits?

def dropStart? : List Char → List Char → Option (List Char)
  | [], cs => some cs
  | p :: ps, c :: cs => if p = c then dropStart? ps cs else none
  | _ :: _, [] => none

/-- Reads 32 plain digits, the hyphenated form, that form in braces, or behind `urn:uuid:`. -/
def ofText? (s : String) : Option Uuid :=
  let cs := s.toList
  match cs.length with
  | 32 => ofDigits? cs
  | 36 => ofHyphenated? cs
  | 38 =>
    match cs with
    | '\x7b' :: rest => if rest.getLast? = some '\x7d' then ofHyphenated? rest.dropLast else none
    | _ => none
  | 45 => (dropStart? ['u', 'r', 'n', ':', 'u', 'u', 'i', 'd', ':'] cs).bind ofHyphenated?
  | _ => none

instance : Json.ToJson Uuid := ⟨fun u => Json.toJson u.text⟩
instance : Json.FromJson Uuid := ⟨fun v => v.string?.bind ofText?⟩

end Uuid
end Turnstile
