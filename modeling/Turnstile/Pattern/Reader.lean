import Turnstile.Pattern.Basic
import Turnstile.Text.Blank
import Turnstile.Text.WordChar
import Turnstile.Text.Letter
import Turnstile.Text.Fold
import Turnstile.Decimal.Natural

namespace Turnstile.Pattern

structure Flags where
  ignoreCase : Bool
  multiLine : Bool
  dotAll : Bool
  verbose : Bool
  lineFeeds : Bool
  unicode : Bool

def Flags.standard : Flags := ⟨false, false, false, false, false, true⟩

/-- Sets one flag by its letter; the letter `U` changes only which match is preferred. -/
def Flags.set? (f : Flags) (letter : Char) (value : Bool) : Option Flags :=
  match letter with
  | 'i' => some { f with ignoreCase := value }
  | 'm' => some { f with multiLine := value }
  | 's' => some { f with dotAll := value }
  | 'x' => some { f with verbose := value }
  | 'R' => some { f with lineFeeds := value }
  | 'u' => some { f with unicode := value }
  | 'U' => some f
  | _ => none

structure CharSet where
  weight : Nat
  has : Char → Bool

namespace CharSet

def single (c : Char) : CharSet := ⟨1, (· == c)⟩
def range (a b : Char) : CharSet := ⟨1, fun c => a ≤ c && c ≤ b⟩
def union (s t : CharSet) : CharSet := ⟨s.weight + t.weight, fun c => s.has c || t.has c⟩
def complement (s : CharSet) : CharSet := ⟨s.weight + 1, fun c => !s.has c⟩
def none : CharSet := ⟨0, fun _ => false⟩

def foldCase (s : CharSet) : CharSet :=
  ⟨s.weight * 2, fun c => s.has c || (Text.caseVariants c).any s.has⟩

end CharSet

inductive SetOp where
  | intersection
  | difference
  | symmetricDifference

def SetOp.apply (op : SetOp) (s t : CharSet) : CharSet :=
  ⟨s.weight + t.weight,
    match op with
    | .intersection => fun c => s.has c && t.has c
    | .difference => fun c => s.has c && !t.has c
    | .symmetricDifference => fun c => s.has c != t.has c⟩

/-- Drops blanks and comments where the flags say that they do not count. -/
def skipVerbose (f : Flags) : Nat → List Char → List Char
  | 0, cs => cs
  | fuel + 1, c :: cs =>
    if !f.verbose then c :: cs
    else if Text.isBlank c then skipVerbose f fuel cs
    else if c == '#' then skipVerbose f fuel (cs.dropWhile (· != '\n'))
    else c :: cs
  | _ + 1, [] => []

def skip (f : Flags) (cs : List Char) : List Char := skipVerbose f (cs.length + 1) cs

inductive Escape where
  | char (c : Char)
  | set (s : CharSet)
  | assertion (a : Assertion)

def charOf? (n : Nat) : Option Char :=
  if n < 0xD800 ∨ (0xDFFF < n ∧ n < 0x110000) then some (Char.ofNat n) else none

def hexValue? (ds : List Char) : Option Nat :=
  if ds.isEmpty then none
  else ds.foldlM (fun acc c => (Decimal.hexDigit? c).map (acc * 16 + ·)) 0

/-- A character by its number, in braces or with a fixed count of digits. -/
def readHexChar (width : Nat) : List Char → Option (Char × List Char)
  | '\x7b' :: cs =>
    match cs.dropWhile (· != '\x7d') with
    | _ :: rest => ((hexValue? (cs.takeWhile (· != '\x7d'))).bind charOf?).map (·, rest)
    | [] => none
  | cs =>
    if cs.length < width then none
    else ((hexValue? (cs.take width)).bind charOf?).map (·, cs.drop width)

def isEscapable (c : Char) : Bool :=
  c.toNat < 128 && !c.isAlphanum && c != '<' && c != '>'

def perlSet? (f : Flags) : Char → Option CharSet
  | 'd' => some ⟨70, if f.unicode then Text.isDecimalDigit else Char.isDigit⟩
  | 's' => some ⟨10, if f.unicode then Text.isBlank else
      fun c => c == ' ' || (0x09 ≤ c.toNat && c.toNat ≤ 0x0d)⟩
  | 'w' => some ⟨800, if f.unicode then Text.isWordChar else
      fun c => c.isAlphanum || c == '_'⟩
  | _ => none

def readBoundary (cs : List Char) : Assertion × List Char :=
  let kinds : List (List Char × Assertion) :=
    [("start".toList, .wordStart), ("end".toList, .wordEnd),
      ("start-half".toList, .wordStartHalf), ("end-half".toList, .wordEndHalf)]
  match cs with
  | '\x7b' :: rest =>
    match kinds.lookup (rest.takeWhile (· != '\x7d')), rest.dropWhile (· != '\x7d') with
    | some a, _ :: after => (a, after)
    | _, _ => (.wordBoundary, cs)
  | _ => (.wordBoundary, cs)

def escapeOf? (f : Flags) (c : Char) : Option Escape :=
  match c with
  | 'a' => some (.char '\x07')
  | 'f' => some (.char '\x0c')
  | 't' => some (.char '\t')
  | 'n' => some (.char '\n')
  | 'r' => some (.char '\r')
  | 'v' => some (.char '\x0b')
  | 'A' => some (.assertion .textStart)
  | 'z' => some (.assertion .textEnd)
  | 'B' => some (.assertion .notWordBoundary)
  | '<' => some (.assertion .wordStart)
  | '>' => some (.assertion .wordEnd)
  | _ =>
    match perlSet? f c, perlSet? f c.toLower with
    | some s, _ => some (.set s)
    | none, some s => some (.set s.complement)
    | none, none => if isEscapable c then some (.char c) else none

def readEscape (f : Flags) : List Char → Option (Escape × List Char)
  | [] => none
  | 'x' :: cs => (readHexChar 2 cs).map fun (c, rest) => (.char c, rest)
  | 'u' :: cs => (readHexChar 4 cs).map fun (c, rest) => (.char c, rest)
  | 'U' :: cs => (readHexChar 8 cs).map fun (c, rest) => (.char c, rest)
  | 'b' :: cs => some (.assertion (readBoundary cs).1, (readBoundary cs).2)
  | c :: cs => (escapeOf? f c).map (·, cs)

def asciiSet? (name : String) : Option CharSet :=
  let between (a b : Char) (c : Char) : Bool := a ≤ c && c ≤ b
  let punct (c : Char) : Bool :=
    between '!' '/' c || between ':' '@' c || between '[' '\x60' c || between '\x7b' '~' c
  match name with
  | "alnum" => some ⟨3, Char.isAlphanum⟩
  | "alpha" => some ⟨2, Char.isAlpha⟩
  | "ascii" => some ⟨1, (·.toNat < 128)⟩
  | "blank" => some ⟨2, fun c => c == ' ' || c == '\t'⟩
  | "cntrl" => some ⟨2, fun c => c.toNat < 32 || c.toNat == 127⟩
  | "digit" => some ⟨1, Char.isDigit⟩
  | "graph" => some ⟨1, between '!' '~'⟩
  | "lower" => some ⟨1, Char.isLower⟩
  | "print" => some ⟨1, between ' ' '~'⟩
  | "punct" => some ⟨4, punct⟩
  | "space" => some ⟨2, fun c => c == ' ' || between '\t' '\r' c⟩
  | "upper" => some ⟨1, Char.isUpper⟩
  | "word" => some ⟨4, fun c => c.isAlphanum || c == '_'⟩
  | "xdigit" => some ⟨3, fun c => (Decimal.hexDigit? c).isSome⟩
  | _ => none

def readAsciiName (negated : Bool) (cs : List Char) : Option (CharSet × List Char) :=
  match cs.dropWhile (· != ':') with
  | ':' :: ']' :: rest => do
    let s ← asciiSet? (String.ofList (cs.takeWhile (· != ':')))
    some (if negated then s.complement else s, rest)
  | _ => none

def readAsciiSet : List Char → Option (CharSet × List Char)
  | ':' :: '^' :: cs => readAsciiName true cs
  | ':' :: cs => readAsciiName false cs
  | _ => none

def readClassItem (f : Flags) : List Char → Option (Escape × List Char)
  | '\\' :: cs => readEscape f cs
  | c :: cs => some (.char c, cs)
  | [] => none

def Escape.classSet? : Escape → Option CharSet
  | .char c => some (.single c)
  | .set s => some s
  | .assertion _ => none

def Escape.rangeSet? : Escape → Escape → Option CharSet
  | .char x, .char y => if x ≤ y then some (.range x y) else none
  | _, _ => none

/-- Reads the end of a range behind the hyphen. A hyphen before the closing bracket or before
another hyphen makes no range. -/
def readRangeEnd (f : Flags) (a : Escape) (cs : List Char) : Option (CharSet × List Char) :=
  match skip f cs with
  | ']' :: _ | '-' :: _ => a.classSet?.map (·, '-' :: cs)
  | cs => do
    let (b, rest) ← readClassItem f cs
    (a.rangeSet? b).map (·, rest)

def readBehindMember (f : Flags) (a : Escape) (cs : List Char) : Option (CharSet × List Char) :=
  match skip f cs with
  | [] => none
  | '-' :: rest => readRangeEnd f a rest
  | rest => a.classSet?.map (·, rest)

def readClassRange (f : Flags) (cs : List Char) : Option (CharSet × List Char) := do
  let (a, rest) ← readClassItem f cs
  readBehindMember f a rest

/-- What stands in brackets, and how many levels of brackets and operations it has inside. -/
structure ClassSet where
  set : CharSet
  depth : Nat

def ClassSet.bracketed (negated : Bool) (s : ClassSet) : ClassSet :=
  ⟨if negated then s.set.complement else s.set, s.depth + 1⟩

structure Members where
  set : CharSet
  count : Nat
  depth : Nat

namespace Members

def none : Members := ⟨.none, 0, 0⟩

def chars (s : CharSet) (count : Nat) : Members := ⟨s, count, 0⟩

def add (ms : Members) (s : ClassSet) : Members :=
  ⟨ms.set.union s.set, ms.count + 1, max ms.depth s.depth⟩

def levels (ms : Members) : Nat := if ms.count ≤ 1 then ms.depth else ms.depth + 1

end Members

/-- What of a class is read so far: what is left of the last operation, with that operation, and the
members behind it. -/
structure ClassDraft where
  left : Option (ClassSet × SetOp)
  items : Members

/-- Closes the members read so far under case if that is asked for, and applies the operation. -/
def ClassDraft.value (f : Flags) (d : ClassDraft) : ClassSet :=
  let items := if f.ignoreCase then d.items.set.foldCase else d.items.set
  match d.left with
  | none => ⟨items, d.items.levels⟩
  | some (s, op) => ⟨op.apply s.set items, max s.depth d.items.levels + 1⟩

def ClassDraft.add (d : ClassDraft) (s : ClassSet) : ClassDraft :=
  { d with items := d.items.add s }

def leadingHyphens (f : Flags) : Nat → List Char → Nat × List Char
  | 0, cs => (0, cs)
  | fuel + 1, cs =>
    match cs with
    | '-' :: rest =>
      let (n, rest) := leadingHyphens f fuel (skip f rest)
      (n + 1, rest)
    | _ => (0, cs)

def readNegation (f : Flags) (cs : List Char) : Bool × List Char :=
  match skip f cs with
  | '^' :: rest => (true, skip f rest)
  | cs => (false, cs)

/-- The characters that stand for themselves only at the start of a class. -/
def readFirst (f : Flags) (cs : List Char) : Members × List Char :=
  match leadingHyphens f (cs.length + 1) cs with
  | (0, ']' :: rest) => (.chars (.single ']') 1, rest)
  | (0, rest) => (.none, rest)
  | (n + 1, rest) => (.chars (.single '-') (n + 1), rest)

def readClassOpening (f : Flags) (cs : List Char) : Bool × Members × List Char :=
  ((readNegation f cs).1, readFirst f (readNegation f cs).2)

inductive ClassPart where
  | close
  | operation (op : SetOp)
  | items (s : CharSet)
  /-- A class inside the class, so far as its opening tells. -/
  | nested (negated : Bool) (first : Members)

def readInnerBracket (f : Flags) (cs : List Char) : ClassPart × List Char :=
  match readAsciiSet cs with
  | some (s, rest) => (.items s, rest)
  | none =>
    let (negated, first, rest) := readClassOpening f cs
    (.nested negated first, rest)

def readClassPart (f : Flags) (cs : List Char) : Option (ClassPart × List Char) :=
  match skip f cs with
  | [] => none
  | ']' :: rest => some (.close, rest)
  | '[' :: rest => some (readInnerBracket f rest)
  | '&' :: '&' :: rest => some (.operation .intersection, rest)
  | '-' :: '-' :: rest => some (.operation .difference, rest)
  | '~' :: '~' :: rest => some (.operation .symmetricDifference, rest)
  | cs => (readClassRange f cs).map fun (s, rest) => (.items s, rest)

/-- Reads a class behind its opening, up to its closing bracket. Every part takes a character. -/
def readClass (f : Flags) : Nat → ClassDraft → List Char → Option (ClassSet × List Char)
  | 0, _, _ => none
  | fuel + 1, d, cs => do
    let (part, rest) ← readClassPart f cs
    match part with
    | .close => some (d.value f, rest)
    | .operation op => readClass f fuel ⟨some (d.value f, op), .none⟩ rest
    | .items s => readClass f fuel (d.add ⟨s, 0⟩) rest
    | .nested negated first =>
      let (s, rest) ← readClass f fuel ⟨none, first⟩ rest
      readClass f fuel (d.add (s.bracketed negated)) rest

def readBrackets (f : Flags) (cs : List Char) : Option (ClassSet × List Char) := do
  let (negated, first, rest) := readClassOpening f cs
  let (s, rest) ← readClass f (rest.length + 1) ⟨none, first⟩ rest
  some (s.bracketed negated, rest)

/-- Reads flags up to the colon or parenthesis behind them, which stays. A flag may be given once,
and a minus sign needs a flag behind it. -/
def readFlags (value dangling : Bool) (seen : List Char) (f : Flags) :
    List Char → Option (Flags × List Char)
  | [] => none
  | c :: cs =>
    if c == ':' || c == ')' then if dangling then none else some (f, c :: cs)
    else if c == '-' then if value then readFlags false true seen f cs else none
    else if seen.contains c then none
    else do readFlags value false (c :: seen) (← f.set? c value) cs

def isGroupName : List Char → Bool
  | [] => false
  | c :: cs =>
    (c == '_' || Text.isLetter c)
      && cs.all fun c =>
        ['_', '.', '[', ']'].contains c || Text.isLetter c || Text.isDecimalDigit c

def readGroupName (cs : List Char) : Option (List Char × List Char) :=
  match cs.dropWhile (· != '>') with
  | _ :: rest =>
    if isGroupName (cs.takeWhile (· != '>')) then some (cs.takeWhile (· != '>'), rest) else none
  | [] => none

inductive GroupOpening where
  | flags (f : Flags)
  | group (f : Flags) (name : Option (List Char))

def readFlagsOpening (f : Flags) (cs : List Char) : Option (GroupOpening × List Char) := do
  let (g, rest) ← readFlags true false [] f cs
  match rest with
  | ')' :: rest => if cs.head? = some ')' then none else some (.flags g, rest)
  | _ :: rest => some (.group g none, rest)
  | [] => none

/-- Reads what tells groups apart. Look-around is refused, since its signs are no flags and start
no name. -/
def readGroupOpening (f : Flags) (cs : List Char) : Option (GroupOpening × List Char) :=
  match skip f cs with
  | '?' :: 'P' :: '<' :: rest | '?' :: '<' :: rest =>
    (readGroupName rest).map fun (name, rest) => (.group f (some name), rest)
  | '?' :: rest => readFlagsOpening f rest
  | rest => some (.group f none, rest)

structure Part where
  pattern : Pattern
  depth : Nat

structure Draft where
  /-- The alternatives that are complete; the depth is that of the deepest. -/
  closed : Option Part
  /-- The current alternative without its last part; the depth is that of its deepest part. -/
  before : Part
  /-- The last part, if it is one that can be repeated. -/
  last : Option Part
  /-- How many parts the current alternative has. -/
  count : Nat

namespace Draft

def start : Draft := ⟨none, ⟨.empty, 0⟩, none, 0⟩

def parts (d : Draft) : Part :=
  match d.last with
  | some p => ⟨.seq d.before.pattern p.pattern, max d.before.depth p.depth⟩
  | none => d.before

/-- The current alternative. Two parts and more make a level of their own. -/
def current (d : Draft) : Part :=
  ⟨d.parts.pattern, if d.count ≤ 1 then d.parts.depth else d.parts.depth + 1⟩

def push (d : Draft) (p : Part) : Draft :=
  { d with before := d.parts, last := some p, count := d.count + 1 }

def settle (d : Draft) : Draft :=
  { d with before := d.parts, last := none, count := d.count + 1 }

def alternatives (d : Draft) : Part :=
  match d.closed with
  | some p => ⟨.alt p.pattern d.current.pattern, max p.depth d.current.depth⟩
  | none => d.current

def value (d : Draft) : Part :=
  ⟨d.alternatives.pattern,
    if d.closed.isNone then d.alternatives.depth else d.alternatives.depth + 1⟩

def nextAlternative (d : Draft) : Draft := ⟨some d.alternatives, ⟨.empty, 0⟩, none, 0⟩

def repeatLast (d : Draft) (low : Nat) (high : Option Nat) : Option Draft :=
  d.last.map fun p => { d with last := some ⟨.times p.pattern low high, p.depth + 1⟩ }

end Draft

def setPattern (s : CharSet) : Pattern := .one s.weight s.has

def literal (f : Flags) (c : Char) : Pattern :=
  setPattern (if f.ignoreCase then (CharSet.single c).foldCase else .single c)

def dot (f : Flags) : Pattern :=
  .one 10 (if f.dotAll then fun _ => true
    else if f.lineFeeds then fun c => c != '\n' && c != '\r'
    else (· != '\n'))

def escapePattern (f : Flags) : Escape → Pattern
  | .char c => literal f c
  | .set s => setPattern s
  | .assertion a => .assert a

def readCount (cs : List Char) : Option (Option Nat × List Char) :=
  let cs := cs.dropWhile Text.isBlank
  let ds := cs.takeWhile Char.isDigit
  let rest := (cs.dropWhile Char.isDigit).dropWhile Text.isBlank
  if ds.isEmpty then some (none, rest)
  else match Decimal.readUpTo 4294967295 ds with
    | .ok n => some (some n, rest)
    | .error _ => none

/-- Reads the upper bound of a repetition behind the comma; there is none before the brace that
closes the bounds. -/
def readUpperBound (f : Flags) (low : Nat) (cs : List Char) : Option (Option Nat × List Char) :=
  match skip f cs with
  | '\x7d' :: rest => some (none, '\x7d' :: rest)
  | cs => do
    let (high, rest) ← readCount cs
    let high ← high
    if low ≤ high then some (some high, rest) else none

def readBoundsEnd (f : Flags) (low : Nat) : List Char → Option (Option Nat × List Char)
  | ',' :: rest => readUpperBound f low rest
  | rest => some (some low, rest)

def readBounds (f : Flags) (cs : List Char) : Option ((Nat × Option Nat) × List Char) := do
  let (low, rest) ← readCount (skip f cs)
  let low ← low
  match ← readBoundsEnd f low rest with
  | (high, '\x7d' :: rest) => some ((low, high), rest)
  | _ => none

/-- The question mark that makes a repetition prefer few rounds, which changes no answer here. -/
def dropLazy : List Char → List Char
  | '?' :: cs => cs
  | cs => cs

inductive Item where
  /-- The closing parenthesis, which stays, or the end of the text. -/
  | stop
  | alternative
  | repetition (low : Nat) (high : Option Nat)
  | part (p : Part)
  | opening (o : GroupOpening)

def readItem (f : Flags) (cs : List Char) : Option (Item × List Char) :=
  match skip f cs with
  | [] => some (.stop, [])
  | ')' :: rest => some (.stop, ')' :: rest)
  | '|' :: rest => some (.alternative, rest)
  | '*' :: rest => some (.repetition 0 none, rest)
  | '+' :: rest => some (.repetition 1 none, rest)
  | '?' :: rest => some (.repetition 0 (some 1), rest)
  | '\x7b' :: rest =>
    (readBounds f rest).map fun ((low, high), rest) => (.repetition low high, rest)
  | '(' :: rest => (readGroupOpening f rest).map fun (o, rest) => (.opening o, rest)
  | '[' :: rest =>
    (readBrackets f rest).map fun (s, rest) => (.part ⟨setPattern s.set, s.depth⟩, rest)
  | '\\' :: rest => (readEscape f rest).map fun (e, rest) => (.part ⟨escapePattern f e, 0⟩, rest)
  | '.' :: rest => some (.part ⟨dot f, 0⟩, rest)
  | '^' :: rest => some (.part ⟨.assert (if f.multiLine then .lineStart else .textStart), 0⟩, rest)
  | '$' :: rest => some (.part ⟨.assert (if f.multiLine then .lineEnd else .textEnd), 0⟩, rest)
  | c :: rest => some (.part ⟨literal f c, 0⟩, rest)

/-- What stands in a group, and the names of all groups by then. -/
structure Group extends Part where
  names : List (List Char)

def Group.part (g : Group) : Part := ⟨g.pattern, g.depth + 1⟩

/-- Reads the rest of a group, up to but without its closing parenthesis or the end of the text.
Names of groups must differ. Every item but the last takes a character. -/
def readGroup : Nat → Flags → List (List Char) → Draft → List Char → Option (Group × List Char)
  | 0, _, _, _, _ => none
  | fuel + 1, f, names, d, cs => do
    let (item, rest) ← readItem f cs
    match item with
    | .stop => some (⟨d.value, names⟩, rest)
    | .alternative => readGroup fuel f names d.nextAlternative rest
    | .repetition low high => readGroup fuel f names (← d.repeatLast low high) (dropLazy rest)
    | .part p => readGroup fuel f names (d.push p) rest
    | .opening (.flags g) => readGroup fuel g names d.settle rest
    | .opening (.group g name) =>
      if name.any names.contains then none
      else
        match ← readGroup fuel g (name.toList ++ names) .start rest with
        | (inner, ')' :: rest) => readGroup fuel f inner.names (d.push inner.part) rest
        | _ => none

def weightLimit : Nat := 250000

def nestingLimit : Nat := 250

def Part.fits (p : Part) : Bool := p.pattern.weight ≤ weightLimit && p.depth ≤ nestingLimit

def read (text : String) : Option Pattern :=
  let cs := text.toList
  match readGroup (cs.length + 1) .standard [] .start cs with
  | some (g, []) => if g.fits then some g.pattern else none
  | _ => none

/-- The expression that matches where a match of `text` stands at the start. The text is put into a
group behind an anchor as it is. -/
def readAnchored (text : String) : Option Pattern := read ("^(?:" ++ text ++ ")")

def isMatch (p : Pattern) (text : String) : Bool := p.occursIn Text.isWordChar text

end Turnstile.Pattern
