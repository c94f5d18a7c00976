import Turnstile.Json.Value
import Turnstile.Decimal.Natural

namespace Turnstile.Json

def isBlank (c : Char) : Bool := c == ' ' || c == '\n' || c == '\t' || c == '\r'

def skipBlank (cs : List Char) : List Char := cs.dropWhile isBlank

def readHex4 : List Char → Option (Nat × List Char)
  | a :: b :: c :: d :: rest => do
    let a ← Decimal.hexDigit? a
    let b ← Decimal.hexDigit? b
    let c ← Decimal.hexDigit? c
    let d ← Decimal.hexDigit? d
    some (((a * 16 + b) * 16 + c) * 16 + d, rest)
  | _ => none

def simpleEscape? : Char → Option Char
  | '"' => some '"'
  | '\\' => some '\\'
  | '/' => some '/'
  | 'b' => some '\x08'
  | 'f' => some '\x0c'
  | 'n' => some '\n'
  | 'r' => some '\r'
  | 't' => some '\t'
  | _ => none

def joinSurrogates (high low : Nat) : Char :=
  Char.ofNat (0x10000 + (high - 0xD800) * 0x400 + (low - 0xDC00))

def isHighSurrogate (n : Nat) : Bool := 0xD800 ≤ n && n < 0xDC00
def isLowSurrogate (n : Nat) : Bool := 0xDC00 ≤ n && n < 0xE000

/-- The character of a numeric escape, whose first digits are read as `n`, with what follows.
A half surrogate that meets no partner denotes no character. -/
def finishEscape (n : Nat) (rest : List Char) : Option Char × List Char :=
  if isHighSurrogate n then
    match rest with
    | '\\' :: 'u' :: more =>
      match readHex4 more with
      | some (low, after) =>
        if isLowSurrogate low then (some (joinSurrogates n low), after) else (none, rest)
      | none => (none, rest)
    | _ => (none, rest)
  else if isLowSurrogate n then (none, rest)
  else (some (Char.ofNat n), rest)

/-- Reads up to the closing quote; each round takes at least one character, so `fuel` need not
exceed the number of characters left. -/
def readChars : Nat → List Char → Option (List (Option Char) × List Char)
  | 0, _ => none
  | _ + 1, [] => none
  | _ + 1, '"' :: rest => some ([], rest)
  | fuel + 1, '\\' :: 'u' :: rest => do
    let (n, rest) ← readHex4 rest
    let (c, rest) := finishEscape n rest
    let (cs, rest) ← readChars fuel rest
    some (c :: cs, rest)
  | fuel + 1, '\\' :: e :: rest => do
    let c ← simpleEscape? e
    let (cs, rest) ← readChars fuel rest
    some (some c :: cs, rest)
  | fuel + 1, c :: rest =>
    if c == '\\' || c.toNat < 0x20 then none
    else do
      let (cs, rest) ← readChars fuel rest
      some (some c :: cs, rest)

def joinChars (cs : List (Option Char)) : Option String :=
  (cs.mapM id).map String.ofList

def readText (cs : List Char) : Option (Option String × List Char) :=
  (readChars (cs.length + 1) cs).map fun (t, rest) => (joinChars t, rest)

def spanDigits (cs : List Char) : List Char × List Char :=
  (cs.takeWhile Char.isDigit, cs.dropWhile Char.isDigit)

/-- The integral part of a number: no digit stands behind a leading zero. -/
def readIntegral : List Char → Option (List Char × List Char)
  | '0' :: rest => if (rest.head?.map Char.isDigit).getD false then none else some (['0'], rest)
  | cs =>
    match spanDigits cs with
    | ([], _) => none
    | (ds, rest) => some (ds, rest)

def readFraction : List Char → Option (List Char × List Char)
  | '.' :: rest =>
    match spanDigits rest with
    | ([], _) => none
    | (ds, rest) => some ('.' :: ds, rest)
  | cs => some ([], cs)

def readExponent : List Char → Option (List Char × List Char)
  | c :: rest =>
    if c == 'e' || c == 'E' then
      let (sign, rest) := match rest with
        | '+' :: r => (['+'], r)
        | '-' :: r => (['-'], r)
        | r => ([], r)
      match spanDigits rest with
      | ([], _) => none
      | (ds, rest) => some ('e' :: sign ++ ds, rest)
    else some ([], c :: rest)
  | [] => some ([], [])

def digitsValue (ds : List Char) : Nat :=
  ds.foldl (fun acc c => acc * 10 + (c.toNat - '0'.toNat)) 0

def wholeNumber (negative : Bool) (digits : List Char) : Number :=
  let n := digitsValue digits
  if negative then
    if n = 0 ∨ 9223372036854775808 < n then .real ('-' :: digits) else .negative n
  else if n ≤ Decimal.wordMax then .natural n else .real digits

def readUnsigned (negative : Bool) (cs : List Char) : Option (Number × List Char) := do
  let (whole, rest) ← readIntegral cs
  let (fraction, rest) ← readFraction rest
  let (exponent, rest) ← readExponent rest
  if fraction.isEmpty && exponent.isEmpty then some (wholeNumber negative whole, rest)
  else
    let sign := if negative then ['-'] else []
    some (.real (sign ++ whole ++ fraction ++ exponent), rest)

def readNumber : List Char → Option (Number × List Char)
  | '-' :: rest => readUnsigned true rest
  | cs => readUnsigned false cs

mutual
/-- Reads one value behind any blanks. Every call takes a character or comes from one that did. -/
def readValue : Nat → List Char → Option (Value × List Char)
  | 0, _ => none
  | fuel + 1, cs =>
    match skipBlank cs with
    | 'n' :: 'u' :: 'l' :: 'l' :: rest => some (.null, rest)
    | 't' :: 'r' :: 'u' :: 'e' :: rest => some (.bool true, rest)
    | 'f' :: 'a' :: 'l' :: 's' :: 'e' :: rest => some (.bool false, rest)
    | '"' :: rest => (readText rest).map fun (t, rest) => (.text t, rest)
    | '[' :: rest =>
      match skipBlank rest with
      | ']' :: rest => some (.array [], rest)
      | rest => (readItems fuel rest).map fun (vs, rest) => (.array vs, rest)
    | '{' :: rest =>
      match skipBlank rest with
      | '}' :: rest => some (.object [], rest)
      | rest => (readMembers fuel rest).map fun (ms, rest) => (.object ms, rest)
    | rest => (readNumber rest).map fun (n, rest) => (.number n, rest)
def readItems : Nat → List Char → Option (List Value × List Char)
  | 0, _ => none
  | fuel + 1, cs => do
    let (v, rest) ← readValue fuel cs
    match skipBlank rest with
    | ']' :: rest => some ([v], rest)
    | ',' :: rest =>
      let (vs, rest) ← readItems fuel rest
      some (v :: vs, rest)
    | _ => none
def readMembers : Nat → List Char → Option (List (Option String × Value) × List Char)
  | 0, _ => none
  | fuel + 1, cs =>
    match skipBlank cs with
    | '"' :: rest => do
      let (name, rest) ← readText rest
      match skipBlank rest with
      | ':' :: rest =>
        let (v, rest) ← readValue fuel rest
        match skipBlank rest with
        | '}' :: rest => some ([(name, v)], rest)
        | ',' :: rest =>
          let (ms, rest) ← readMembers fuel rest
          some ((name, v) :: ms, rest)
        | _ => none
      | _ => none
    | _ => none
end

def parse (s : String) : Option Value :=
  let cs := s.toList
  match readValue (2 * cs.length + 2) cs with
  | some (v, rest) => if (skipBlank rest).isEmpty then some v else none
  | none => none

end Turnstile.Json
