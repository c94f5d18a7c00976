import Turnstile.Toml.Value
import Turnstile.Toml.Moment

namespace Turnstile.Toml
open Decimal

def isWordChar (c : Char) : Bool := c.isAlphanum || ['+', '-', '_', '.', ':'].contains c

/-- Digits without the underscores, which stand one at a time between digits. -/
def joinDigits? (isDigit : Char → Bool) : List Char → Option (List Char)
  | [] => none
  | [c] => if isDigit c then some [c] else none
  | c :: '_' :: cs => if isDigit c then (joinDigits? isDigit cs).map (c :: ·) else none
  | c :: cs => if isDigit c then (joinDigits? isDigit cs).map (c :: ·) else none

def valueIn (base : Nat) (ds : List Char) : Nat :=
  ds.foldl (fun n c => n * base + (hexDigit? c).getD 0) 0

def basedInteger? (letter : Char) (cs : List Char) : Option Nat :=
  let read (base : Nat) (isDigit : Char → Bool) := (joinDigits? isDigit cs).map (valueIn base)
  match letter with
  | 'x' => read 16 fun c => (hexDigit? c).isSome
  | 'o' => read 8 fun c => '0' ≤ c && c ≤ '7'
  | 'b' => read 2 fun c => c == '0' || c == '1'
  | _ => none

def wholeDigits? (cs : List Char) : Option (List Char) := do
  let ds ← joinDigits? Char.isDigit cs
  if ds.head? = some '0' ∧ ds.length ≠ 1 then none else some ds

def exponent? : List Char → Option Int
  | [] => some 0
  | mark :: cs =>
    if mark = 'e' ∨ mark = 'E' then
      match cs with
      | '-' :: ds => (joinDigits? Char.isDigit ds).map fun ds => -(valueIn 10 ds : Int)
      | '+' :: ds => (joinDigits? Char.isDigit ds).map fun ds => (valueIn 10 ds : Int)
      | ds => (joinDigits? Char.isDigit ds).map fun ds => (valueIn 10 ds : Int)
    else none

def spanDigits (cs : List Char) : List Char × List Char :=
  cs.span fun c => c.isDigit || c == '_'

def real? (negative : Bool) (whole rest : List Char) : Option Scalar := do
  let (part, rest) ← match rest with
    | '.' :: cs =>
      let (part, rest) := spanDigits cs
      (joinDigits? Char.isDigit part).map (·, rest)
    | _ => some ([], rest)
  let e ← exponent? rest
  match Binary64.ofDecimal negative (valueIn 10 (whole ++ part)) (e - part.length) with
  | .infinite _ => none
  | x => some (.real x)

def decimal? (negative : Bool) (cs : List Char) : Option Scalar := do
  let (whole, rest) := spanDigits cs
  let whole ← wholeDigits? whole
  let n : Int := valueIn 10 whole
  if rest.isEmpty then some (.integer (if negative then -n else n)) else real? negative whole rest

def signed? (negative : Bool) (cs : List Char) : Option Scalar :=
  if cs = ['i', 'n', 'f'] then some (.real (.infinite negative))
  else if cs = ['n', 'a', 'n'] then some (.real .nan)
  else decimal? negative cs

def Scalar.ofWord? (cs : List Char) : Option Scalar :=
  if cs = ['t', 'r', 'u', 'e'] then some (.flag true)
  else if cs = ['f', 'a', 'l', 's', 'e'] then some (.flag false)
  else match moment? cs with
  | some s => some (.moment s)
  | none =>
    match cs with
    | '-' :: cs => signed? true cs
    | '+' :: cs => signed? false cs
    | '0' :: letter :: ds =>
      match basedInteger? letter ds with
      | some n => some (.integer n)
      | none => signed? false cs
    | cs => signed? false cs

end Turnstile.Toml
