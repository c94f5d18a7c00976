import Turnstile.Decimal.Natural

namespace Turnstile.Decimal

inductive Binary64 where
  | nan
  | infinite (negative : Bool)
  | finite (negative : Bool) (units : Nat)
deriving DecidableEq, Repr

namespace Binary64

/-- The power of two that a one has of units. -/
def scale : Nat := 1074

def precision : Nat := 53

def unitsEnd : Nat := Nat.pow 2 (1024 + scale)

def one : Nat := Nat.pow 2 scale

/-- The quotient, to the nearest whole number, ties to even. -/
def roundQuotient (n d : Nat) : Nat :=
  let q := n / d
  let r := n % d
  if 2 * r < d then q else if d < 2 * r then q + 1 else q + q % 2

/-- The distance between a number of that many units and the next, as a power of two. -/
def spacing (units : Nat) : Nat := units.log2 + 1 - precision

def ofQuotient (negative : Bool) (n d : Nat) : Binary64 :=
  let n := n * one
  let p := spacing (n / d)
  let units := roundQuotient n (d * Nat.pow 2 p) * Nat.pow 2 p
  if units < unitsEnd then finite negative units else infinite negative

/-- The number nearest to `digits * 10 ^ exponent`. Beyond what can be told apart from nothing or
from too much, the exponent is not worked out. -/
def ofDecimal (negative : Bool) (digits : Nat) (exponent : Int) : Binary64 :=
  let size := exponent + (Nat.toDigits 10 digits).length
  if digits = 0 ∨ size < -330 then finite negative 0
  else if 330 < size then infinite negative
  else if exponent < 0 then ofQuotient negative digits (Nat.pow 10 exponent.natAbs)
  else ofQuotient negative (digits * Nat.pow 10 exponent.natAbs) 1

def spanDigits (cs : List Char) : List Char × List Char :=
  (cs.takeWhile Char.isDigit, cs.dropWhile Char.isDigit)

def digitsValue (ds : List Char) : Nat := ds.foldl (fun n c => n * 10 + (c.toNat - 48)) 0

def readExponent? : List Char → Option Int
  | [] => some 0
  | e :: cs =>
    if e = 'e' ∨ e = 'E' then
      let (negative, ds) := match cs with
        | '-' :: ds => (true, ds)
        | '+' :: ds => (false, ds)
        | ds => (false, ds)
      if ds.isEmpty ∨ !ds.all Char.isDigit then none
      else some (if negative then -(digitsValue ds : Int) else digitsValue ds)
    else none

def readUnsigned? (negative : Bool) (cs : List Char) : Option Binary64 := do
  let (whole, rest) := spanDigits cs
  let (part, rest) := match rest with
    | '.' :: rest => spanDigits rest
    | rest => ([], rest)
  if whole.isEmpty ∧ part.isEmpty then none
  else
    let e ← readExponent? rest
    some (ofDecimal negative (digitsValue (whole ++ part)) (e - part.length))

def read? (cs : List Char) : Option Binary64 :=
  let (negative, cs) := match cs with
    | '-' :: cs => (true, cs)
    | '+' :: cs => (false, cs)
    | cs => (false, cs)
  let word := String.ofList (cs.map Char.toLower)
  if word = "nan" then some nan
  else if word = "inf" ∨ word = "infinity" then some (infinite negative)
  else readUnsigned? negative cs

/-- A number of steps of a decimal grid that rounds to the given number of units; the step is
`10 ^ exponent`. Of two the nearer one is taken. -/
def onGrid? (units : Nat) (exponent : Int) : Option Nat :=
  -- everything is compared in parts of a quarter unit, of which a step has a whole number
  let (step, part) :=
    if exponent < 0 then (4 * one, Nat.pow 10 exponent.natAbs)
    else (4 * one * Nat.pow 10 exponent.natAbs, 1)
  let goal := 4 * units * part
  let k := goal / step
  let fits (k : Nat) : Bool :=
    let x := k * step
    let s := Nat.pow 2 (spacing units)
    let below := if units = Nat.pow 2 units.log2 ∧ 0 < spacing units then s else 2 * s
    let low := (4 * units - below) * part
    let high := (4 * units + 2 * s) * part
    if units / s % 2 = 0 then low ≤ x && x ≤ high else low < x && x < high
  let lowFits := fits k
  let highFits := fits (k + 1)
  if lowFits && (!highFits || 2 * (goal - k * step) < step) then some k
  else if highFits then some (k + 1)
  else none

def leadingZeros (units : Nat) : Nat → Nat
  | 0 => 0
  | fuel + 1 => if units * 10 < one then leadingZeros (units * 10) fuel + 1 else 0

def decimalSize (units : Nat) : Int :=
  let whole := units / one
  if 0 < whole then (Nat.toDigits 10 whole).length else -(leadingZeros units 400 : Int)

def searchGrids (units : Nat) (exponent : Int) : Nat → Nat × Int
  | 0 => (0, 0)
  | fuel + 1 =>
    match onGrid? units exponent with
    | some d => (d, exponent)
    | none => searchGrids units (exponent - 1) fuel

/-- The fewest digits that read back as the number, with their exponent. No number needs more than
seventeen digits. -/
def shortest (units : Nat) : Nat × Int :=
  searchGrids units (decimalSize units) 20

def positional (digits : List Char) (exponent : Int) : List Char :=
  if 0 ≤ exponent then digits ++ List.replicate exponent.natAbs '0'
  else
    let n := exponent.natAbs
    let filled := List.replicate (n + 1 - digits.length) '0' ++ digits
    filled.take (filled.length - n) ++ '.' :: filled.drop (filled.length - n)

def text : Binary64 → String
  | nan => "NaN"
  | infinite negative => if negative then "-inf" else "inf"
  | finite negative units =>
    let digits :=
      if units = 0 then ['0']
      else
        let (d, e) := shortest units
        positional (Nat.toDigits 10 d) e
    String.ofList (if negative then '-' :: digits else digits)

/-- The nearest whole number, a half away from zero, kept within 64 bits; nothing gives zero. -/
def toWord : Binary64 → Nat
  | nan => 0
  | infinite negative => if negative then 0 else wordMax
  | finite negative units =>
    if negative then 0 else min ((2 * units + one) / (2 * one)) wordMax

def isZero : Binary64 → Bool
  | finite _ units => units == 0
  | _ => false

end Binary64
end Turnstile.Decimal
