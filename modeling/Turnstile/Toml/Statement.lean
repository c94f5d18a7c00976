import Turnstile.Toml.Scalar
import Turnstile.Toml.Quoted

namespace Turnstile.Toml

def depthLimit : Nat := 80

def skipBlank (cs : List Char) : List Char := cs.dropWhile isBlank

def skipComment? : List Char → Option (List Char)
  | '#' :: cs =>
    match cs.dropWhile (!isControl ·) with
    | [] => some []
    | rest => (newline? rest).map fun _ => rest
  | cs => some cs

def skipSpace? : Nat → List Char → Option (List Char)
  | 0, _ => none
  | fuel + 1, cs => do
    let cs ← skipComment? (skipBlank cs)
    match newline? cs with
    | some cs => skipSpace? fuel cs
    | none => some cs

def isKeyChar (c : Char) : Bool := c.isAlphanum || c == '_' || c == '-'

def readName? : List Char → Option (String × List Char)
  | '"' :: cs => (readLine? '"' (cs.length + 1) cs).map fun (s, rest) => (String.ofList s, rest)
  | '\'' :: cs => (readLine? '\'' (cs.length + 1) cs).map fun (s, rest) => (String.ofList s, rest)
  | cs =>
    let name := cs.takeWhile isKeyChar
    if name.isEmpty then none else some (String.ofList name, cs.dropWhile isKeyChar)

def readPath? : Nat → List Char → Option (Path × List Char)
  | 0, _ => none
  | fuel + 1, cs => do
    let (name, cs) ← readName? cs
    match skipBlank cs with
    | '.' :: cs =>
      let (path, cs) ← readPath? fuel (skipBlank cs)
      some (name :: path, cs)
    | cs => some ([name], cs)

def readTarget? (cs : List Char) : Option (Path × List Char) :=
  match readPath? (cs.length + 1) cs with
  | some (path, '=' :: cs) => some (path, skipBlank cs)
  | _ => none

/-- A word without quotes; a date may have a time behind a blank. -/
def spanWord (cs : List Char) : List Char × List Char :=
  let (word, rest) := cs.span isWordChar
  match readDate? word, rest with
  | some (_, []), ' ' :: d :: more =>
    if d.isDigit then
      let (time, rest) := (d :: more).span isWordChar
      (word ++ ' ' :: time, rest)
    else (word, rest)
  | _, _ => (word, rest)

mutual
def readValue? (room : Nat) : Nat → List Char → Option (Literal × List Char)
  | 0, _ => none
  | fuel + 1, cs =>
    match cs with
    | '"' :: cs => (readQuoted? '"' cs).map fun (s, rest) => (.scalar (.text s), rest)
    | '\'' :: cs => (readQuoted? '\'' cs).map fun (s, rest) => (.scalar (.text s), rest)
    | '[' :: cs =>
      if room = 0 then none
      else (readItems? (room - 1) fuel cs).map fun (items, rest) => (.array items, rest)
    | '{' :: cs =>
      if room = 0 then none
      else (readEntries? (room - 1) fuel cs).map fun (entries, rest) => (.table entries, rest)
    | cs =>
      let (word, rest) := spanWord cs
      (Scalar.ofWord? word).map fun s => (.scalar s, rest)

def readItems? (room : Nat) : Nat → List Char → Option (List Literal × List Char)
  | 0, _ => none
  | fuel + 1, cs => do
    match ← skipSpace? (cs.length + 1) cs with
    | ']' :: rest => some ([], rest)
    | cs =>
      let (item, cs) ← readValue? room fuel cs
      match ← skipSpace? (cs.length + 1) cs with
      | ']' :: rest => some ([item], rest)
      | ',' :: cs =>
        let (items, rest) ← readItems? room fuel cs
        some (item :: items, rest)
      | _ => none

def readEntries? (room : Nat) : Nat → List Char → Option (List (Path × Literal) × List Char)
  | 0, _ => none
  | fuel + 1, cs => do
    match ← skipSpace? (cs.length + 1) cs with
    | '}' :: rest => some ([], rest)
    | cs =>
      let (path, cs) ← readTarget? cs
      let (value, cs) ← readValue? room fuel cs
      match ← skipSpace? (cs.length + 1) cs with
      | '}' :: rest => some ([(path, value)], rest)
      | ',' :: cs =>
        let (entries, rest) ← readEntries? room fuel cs
        some ((path, value) :: entries, rest)
      | _ => none
end

def readHeader? (cs : List Char) : Option (Path × List Char) :=
  readPath? (cs.length + 1) (skipBlank cs)

def readStatement? : List Char → Option (Statement × List Char)
  | '[' :: '[' :: cs =>
    match readHeader? cs with
    | some (path, ']' :: ']' :: rest) => some (.element path, rest)
    | _ => none
  | '[' :: cs =>
    match readHeader? cs with
    | some (path, ']' :: rest) => some (.header path, rest)
    | _ => none
  | cs => do
    let (path, cs) ← readTarget? cs
    let (value, rest) ← readValue? depthLimit (2 * cs.length + 2) cs
    some (.entry path value, rest)

def readStatements? : Nat → List Char → Option (List Statement)
  | 0, _ => none
  | fuel + 1, cs => do
    match ← skipSpace? (cs.length + 1) cs with
    | [] => some []
    | cs =>
      let (statement, cs) ← readStatement? cs
      match ← skipComment? (skipBlank cs) with
      | [] => some [statement]
      | cs => some (statement :: (← readStatements? fuel (← newline? cs)))

/-- The statements of a text, before which a byte order mark does not count. -/
def Statement.ofText? (s : String) : Option (List Statement) :=
  let cs := match s.toList with
    | '\ufeff' :: cs => cs
    | cs => cs
  readStatements? (cs.length + 1) cs

end Turnstile.Toml
