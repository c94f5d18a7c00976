import Turnstile.Decimal.Natural

namespace Turnstile.Toml

structure Date where
  year : Nat
  month : Nat
  day : Nat
deriving DecidableEq, Repr

structure Time where
  hour : Nat
  minute : Nat
  second : Nat
  /-- The digits of the part of a second, without zeros at the end. -/
  part : List Char
deriving DecidableEq, Repr

inductive Offset where
  | universal
  | minutes (ahead : Int)
deriving DecidableEq, Repr

def readFixed? : Nat → List Char → Option (Nat × List Char)
  | 0, cs => some (0, cs)
  | n + 1, c :: cs => do
    let d ← Decimal.digit? c
    let (value, rest) ← readFixed? n cs
    some (d * Nat.pow 10 n + value, rest)
  | _ + 1, [] => none

def isLeapYear (year : Nat) : Bool :=
  year % 4 == 0 && (year % 100 != 0 || year % 400 == 0)

def monthLength (year month : Nat) : Nat :=
  if month = 2 then if isLeapYear year then 29 else 28
  else if [4, 6, 9, 11].contains month then 30
  else 31

def readDate? (cs : List Char) : Option (Date × List Char) := do
  let (year, cs) ← readFixed? 4 cs
  let '-' :: cs := cs | none
  let (month, cs) ← readFixed? 2 cs
  let '-' :: cs := cs | none
  let (day, cs) ← readFixed? 2 cs
  if 1 ≤ month ∧ month ≤ 12 ∧ 1 ≤ day ∧ day ≤ monthLength year month then
    some (⟨year, month, day⟩, cs)
  else none

/-- Keeps as many digits as nanoseconds have, without zeros at the end. -/
def trimPart (ds : List Char) : List Char :=
  ((ds.take 9).reverse.dropWhile (· == '0')).reverse

def readPart? : List Char → Option (List Char × List Char)
  | '.' :: cs =>
    let ds := cs.takeWhile Char.isDigit
    if ds.isEmpty then none else some (trimPart ds, cs.dropWhile Char.isDigit)
  | cs => some ([], cs)

/-- The seconds, which may be left out; a minute may have one more than sixty. -/
def readSecond? : List Char → Option (Nat × List Char × List Char)
  | ':' :: cs => do
    let (second, cs) ← readFixed? 2 cs
    let (part, cs) ← readPart? cs
    if second ≤ 60 then some (second, part, cs) else none
  | cs => some (0, [], cs)

def readTime? (cs : List Char) : Option (Time × List Char) := do
  let (hour, cs) ← readFixed? 2 cs
  let ':' :: cs := cs | none
  let (minute, cs) ← readFixed? 2 cs
  let (second, part, cs) ← readSecond? cs
  if hour ≤ 23 ∧ minute ≤ 59 then some (⟨hour, minute, second, part⟩, cs) else none

def readOffset? : List Char → Option (Option Offset)
  | [] => some none
  | ['Z'] => some (some .universal)
  | ['z'] => some (some .universal)
  | sign :: cs => do
    if sign ≠ '+' ∧ sign ≠ '-' then none
    else
      let (hours, cs) ← readFixed? 2 cs
      let ':' :: cs := cs | none
      let (minutes, cs) ← readFixed? 2 cs
      if hours ≤ 23 ∧ minutes ≤ 59 ∧ cs = [] then
        let ahead : Int := hours * 60 + minutes
        some (some (.minutes (if sign = '-' then -ahead else ahead)))
      else none

def twoDigits (n : Nat) : String :=
  if n < 10 then "0" ++ Decimal.text n else Decimal.text n

def Date.text (d : Date) : String :=
  String.ofList (List.replicate (4 - (Decimal.text d.year).length) '0')
    ++ Decimal.text d.year ++ "-" ++ twoDigits d.month ++ "-" ++ twoDigits d.day

def Time.text (t : Time) : String :=
  twoDigits t.hour ++ ":" ++ twoDigits t.minute ++ ":" ++ twoDigits t.second
    ++ (if t.part.isEmpty then "" else "." ++ String.ofList t.part)

def Offset.text : Offset → String
  | universal => "Z"
  | minutes ahead =>
    (if ahead < 0 then "-" else "+") ++ twoDigits (ahead.natAbs / 60) ++ ":"
      ++ twoDigits (ahead.natAbs % 60)

/-- A moment is a time, a date, or both with a mark between, and then perhaps an offset. Its written
form has the mark `T` and all seconds. -/
def moment? (cs : List Char) : Option String :=
  match readTime? cs with
  | some (t, rest) => if rest.isEmpty then some t.text else none
  | none => do
    let (d, rest) ← readDate? cs
    match rest with
    | [] => some d.text
    | mark :: rest =>
      if ['T', 't', ' '].contains mark then
        let (t, rest) ← readTime? rest
        let offset ← readOffset? rest
        some (d.text ++ "T" ++ t.text ++ (offset.map Offset.text).getD "")
      else none

end Turnstile.Toml
