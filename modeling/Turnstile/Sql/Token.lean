import Turnstile.Text.Blank
import Turnstile.Text.Letter
import Turnstile.Decimal.Natural

namespace Turnstile.Sql

inductive Token where
  /-- A bare word, with its letters in upper case for the comparison with keywords. -/
  | word (text upper : String)
  /-- An identifier in quotes. -/
  | quoted (text : String)
  | string (text : String)
  | number
  | placeholder
  | symbol (s : String)
deriving DecidableEq, Repr

def isWordStart (c : Char) : Bool := Text.isLetter c || c == '_' || c == '#' || c == '@'

def isWordPart (c : Char) : Bool := isWordStart c || c.isDigit || c == '$'

def bareWord (cs : List Char) : Token :=
  let s := String.ofList cs
  .word s s.toUpper

/-- Reads up to a closing quote; a doubled quote stands for one. -/
def readQuoted (q : Char) : Nat → List Char → Option (List Char × List Char)
  | 0, _ => none
  | _ + 1, [] => none
  | fuel + 1, c :: rest =>
    if c == q then
      match rest with
      | d :: more =>
        if d == q then (readQuoted q fuel more).map fun (t, r) => (q :: t, r) else some ([], rest)
      | [] => some ([], [])
    else (readQuoted q fuel rest).map fun (t, r) => (c :: t, r)

/-- Reads up to a closing quote where a backslash takes the next character with it. -/
def readEscaped (q : Char) : Nat → List Char → Option (List Char × List Char)
  | 0, _ => none
  | _ + 1, [] => none
  | fuel + 1, '\\' :: c :: rest => (readEscaped q fuel rest).map fun (t, r) => (c :: t, r)
  | fuel + 1, c :: rest =>
    if c == q then
      match rest with
      | d :: more =>
        if d == q then (readEscaped q fuel more).map fun (t, r) => (q :: t, r) else some ([], rest)
      | [] => some ([], [])
    else (readEscaped q fuel rest).map fun (t, r) => (c :: t, r)

def dropComment : Nat → List Char → Option (List Char)
  | depth, '/' :: '*' :: rest => dropComment (depth + 1) rest
  | depth, '*' :: '/' :: rest =>
    match depth with
    | 0 => some rest
    | d + 1 => dropComment d rest
  | depth, _ :: rest => dropComment depth rest
  | _, [] => none

def dropStart? : List Char → List Char → Option (List Char)
  | [], cs => some cs
  | p :: ps, c :: cs => if p == c then dropStart? ps cs else none
  | _ :: _, [] => none

def splitAtMark (mark : List Char) : List Char → Option (List Char × List Char)
  | [] => if mark.isEmpty then some ([], []) else none
  | c :: cs =>
    match dropStart? mark (c :: cs) with
    | some rest => some ([], rest)
    | none => (splitAtMark mark cs).map fun (a, b) => (c :: a, b)

def dropExponent (cs : List Char) : List Char :=
  match cs with
  | e :: rest =>
    if e == 'e' || e == 'E' then
      let digits := match rest with
        | '+' :: r => r
        | '-' :: r => r
        | r => r
      if (digits.head?.map Char.isDigit).getD false then digits.dropWhile Char.isDigit else cs
    else cs
  | [] => cs

def dropNumber (cs : List Char) : List Char :=
  match cs with
  | '0' :: 'x' :: rest => rest.dropWhile fun c => (Decimal.hexDigit? c).isSome
  | _ =>
    let rest := match cs.dropWhile Char.isDigit with
      | '.' :: r => r.dropWhile Char.isDigit
      | r => r
    match dropExponent rest with
    | 'L' :: r => r
    | r => r

def longSymbols : List String :=
  ["!~~*", "<=>", "->>", "#>>", "!~~", "~~*", "!~*", "||/", "?|", "?&", "::", ":=", "=>", "==",
    "!=", "!!", "!~", "<>", "<=", "<<", "<@", ">=", ">>", "||", "|/", "|>", "->", "&&", "&<", "&>",
    "^@", "~~", "~*", "//"]

/-- Letters that make a string of what follows them when it is a quote. -/
def isStringMark (c : Char) : Bool := ['N', 'n', 'X', 'x', 'B', 'b', 'R', 'r'].contains c

/-- A dollar sign starts a string between two equal tags, or a placeholder. -/
def readDollar (cs : List Char) : Option (Token × List Char) :=
  let tag := cs.takeWhile fun c => Text.isLetter c || c.isDigit || c == '_'
  match cs.drop tag.length with
  | '$' :: rest =>
    match splitAtMark ('$' :: tag ++ ['$']) rest with
    | some (text, rest) => some (.string (String.ofList text), rest)
    | none => none
  | rest => some (.placeholder, rest)

def readToken (cs : List Char) : Option (Token × List Char) :=
  match cs with
  | [] => none
  | c :: rest =>
    match isStringMark c, rest with
    | true, '\'' :: body =>
      (readQuoted '\'' (body.length + 1) body).map fun (t, r) => (.string (String.ofList t), r)
    | _, _ =>
      match c, rest with
      | 'E', '\'' :: body | 'e', '\'' :: body =>
        (readEscaped '\'' (body.length + 1) body).map fun (t, r) => (.string (String.ofList t), r)
      | 'U', '&' :: '\'' :: body | 'u', '&' :: '\'' :: body =>
        (readQuoted '\'' (body.length + 1) body).map fun (t, r) => (.string (String.ofList t), r)
      | '\'', _ =>
        (readQuoted '\'' (rest.length + 1) rest).map fun (t, r) => (.string (String.ofList t), r)
      | '"', _ =>
        (readQuoted '"' (rest.length + 1) rest).map fun (t, r) => (.quoted (String.ofList t), r)
      | '\x60', _ =>
        (readQuoted '\x60' (rest.length + 1) rest).map fun (t, r) => (.quoted (String.ofList t), r)
      | '$', _ => readDollar rest
      | '?', _ => some (.placeholder, rest)
      | '.', d :: _ =>
        if d.isDigit then some (.number, dropNumber cs) else some (.symbol ".", rest)
      | _, _ =>
        if isWordStart c then some (bareWord (cs.takeWhile isWordPart), cs.dropWhile isWordPart)
        else if c.isDigit then some (.number, dropNumber cs)
        else
          match longSymbols.find? (fun s => s.toList.isPrefixOf cs) with
          | some s => some (.symbol s, cs.drop s.length)
          | none => some (.symbol (String.ofList [c]), rest)

/-- Drops one blank or comment, if there is one at the front; `none` inside stands for a comment
that is not closed. -/
def dropGap (cs : List Char) : Option (Option (List Char)) :=
  match cs with
  | '-' :: '-' :: rest => some (some (rest.dropWhile (· != '\n')))
  | '/' :: '*' :: rest => some (dropComment 0 rest)
  | c :: rest => if Text.isBlank c then some (some rest) else none
  | [] => none

def tokensFrom : Nat → List Char → Option (List Token)
  | 0, cs => if cs.isEmpty then some [] else none
  | fuel + 1, cs =>
    if cs.isEmpty then some []
    else
      match dropGap cs with
      | some none => none
      | some (some rest) => tokensFrom fuel rest
      | none => do
        let (t, rest) ← readToken cs
        some (t :: (← tokensFrom fuel rest))

def tokens (s : String) : Option (List Token) :=
  let cs := s.toList
  tokensFrom (cs.length + 1) cs

end Turnstile.Sql
