import Turnstile.Toml.Value

namespace Turnstile.Toml
open Decimal

def isControl (c : Char) : Bool := (c.toNat < 0x20 && c != '\t') || c == '\x7f'

def isBlank (c : Char) : Bool := c == ' ' || c == '\t'

def newline? : List Char → Option (List Char)
  | '\n' :: rest => some rest
  | '\r' :: '\n' :: rest => some rest
  | _ => none

def readCode? (digits : Nat) (cs : List Char) : Option (Char × List Char) := do
  let ds ← (cs.take digits).mapM hexDigit?
  let n := ds.foldl (fun n d => n * 16 + d) 0
  if ds.length = digits ∧ n.isValidChar then some (Char.ofNat n, cs.drop digits) else none

def readEscape? : List Char → Option (Char × List Char)
  | 'b' :: cs => some ('\x08', cs)
  | 't' :: cs => some ('\t', cs)
  | 'n' :: cs => some ('\n', cs)
  | 'f' :: cs => some ('\x0c', cs)
  | 'r' :: cs => some ('\r', cs)
  | 'e' :: cs => some ('\x1b', cs)
  | '"' :: cs => some ('"', cs)
  | '\\' :: cs => some ('\\', cs)
  | 'x' :: cs => readCode? 2 cs
  | 'u' :: cs => readCode? 4 cs
  | 'U' :: cs => readCode? 8 cs
  | _ => none

def readLine? (mark : Char) : Nat → List Char → Option (List Char × List Char)
  | fuel + 1, c :: cs =>
    if c = mark then some ([], cs)
    else if c = '\\' ∧ mark = '"' then do
      let (c, cs) ← readEscape? cs
      let (text, rest) ← readLine? mark fuel cs
      some (c :: text, rest)
    else if isControl c then none
    else do
      let (text, rest) ← readLine? mark fuel cs
      some (c :: text, rest)
  | _, _ => none

def skipLines : List Char → List Char
  | '\n' :: cs => skipLines cs
  | '\r' :: '\n' :: cs => skipLines cs
  | c :: cs => if isBlank c then skipLines cs else c :: cs
  | [] => []

/-- How many marks of a closing run belong to the text: all that stand before the last three. -/
def closingRun? (mark : Char) (cs : List Char) : Option (Nat × List Char) :=
  let run := cs.takeWhile (· == mark)
  if run.length < 3 then none
  else
    let own := min (run.length - 3) 2
    some (own, cs.drop (own + 3))

def readLines? (mark : Char) : Nat → List Char → Option (List Char × List Char)
  | fuel + 1, c :: cs =>
    match closingRun? mark (c :: cs) with
    | some (own, rest) => some (List.replicate own mark, rest)
    | none =>
      match newline? (c :: cs) with
      | some next => do
        let (text, rest) ← readLines? mark fuel next
        some ((c :: cs).take ((c :: cs).length - next.length) ++ text, rest)
      | none =>
        if c = '\\' ∧ mark = '"' then
          match newline? (cs.dropWhile isBlank) with
          | some next => readLines? mark fuel (skipLines next)
          | none => do
            let (c, cs) ← readEscape? cs
            let (text, rest) ← readLines? mark fuel cs
            some (c :: text, rest)
        else if isControl c then none
        else do
          let (text, rest) ← readLines? mark fuel cs
          some (c :: text, rest)
  | _, _ => none

def readQuoted? (mark : Char) (cs : List Char) : Option (String × List Char) := do
  let (text, rest) ←
    if cs.take 2 = [mark, mark] then
      let cs := cs.drop 2
      readLines? mark (cs.length + 1) ((newline? cs).getD cs)
    else readLine? mark (cs.length + 1) cs
  some (String.ofList text, rest)

end Turnstile.Toml
