namespace Turnstile

inductive Assertion where
  | textStart
  | textEnd
  | lineStart
  | lineEnd
  | wordBoundary
  | notWordBoundary
  | wordStart
  | wordEnd
  | wordStartHalf
  | wordEndHalf
deriving DecidableEq, Repr

inductive Pattern where
  | empty
  /-- One character of a set. `weight` tells how large a table the set is. -/
  | one (weight : Nat) (has : Char → Bool)
  | assert (a : Assertion)
  | seq (a b : Pattern)
  | alt (a b : Pattern)
  /-- The expression in a row, at least `low` times and at most `high` times if given. -/
  | times (p : Pattern) (low : Nat) (high : Option Nat)

namespace Assertion

/-- Whether the place between `before` and `after` satisfies the assertion. `isWord` tells the
characters of words. -/
def holds (isWord : Char → Bool) (before after : Option Char) : Assertion → Bool
  | textStart => before.isNone
  | textEnd => after.isNone
  | lineStart => before.isNone || before == some '\n'
  | lineEnd => after.isNone || after == some '\n'
  | wordBoundary => before.any isWord != after.any isWord
  | notWordBoundary => before.any isWord == after.any isWord
  | wordStart => !before.any isWord && after.any isWord
  | wordEnd => before.any isWord && !after.any isWord
  | wordStartHalf => !before.any isWord
  | wordEndHalf => !after.any isWord

end Assertion

namespace Pattern

def mergePlaces (is js : List Nat) : List Nat := is ++ js.filter fun j => !is.contains j

def stepTimes (f : List Nat → List Nat) : Nat → List Nat → List Nat
  | 0, is => is
  | n + 1, is => stepTimes f n (f is)

def stepUpTo (f : List Nat → List Nat) : Nat → List Nat → List Nat
  | 0, is => is
  | n + 1, is => mergePlaces is (stepUpTo f n (f is))

/-- The places in `w` that a match can end at when it starts at one of the given places. -/
def ends (isWord : Char → Bool) (w : Array Char) : Pattern → List Nat → List Nat
  | empty, is => is
  | one _ has, is => is.filterMap fun i => if w[i]?.any has then some (i + 1) else none
  | assert a, is =>
    is.filter fun i => a.holds isWord (if i = 0 then none else w[i - 1]?) w[i]?
  | seq a b, is => ends isWord w b (ends isWord w a is)
  | alt a b, is => mergePlaces (ends isWord w a is) (ends isWord w b is)
  | times p low high, is =>
    let f := ends isWord w p
    let more := match high with
      | some h => min (h - low) (w.size + 1)
      | none => w.size + 1
    stepUpTo f more (stepTimes f low is)

def occursIn (isWord : Char → Bool) (p : Pattern) (text : String) : Bool :=
  let w := text.toList.toArray
  !(p.ends isWord w (List.range (w.size + 1))).isEmpty

/-- How large a machine for the expression is, with repetitions written out. -/
def weight : Pattern → Nat
  | empty => 1
  | one n _ => n
  | assert _ => 1
  | seq a b => a.weight + b.weight
  | alt a b => a.weight + b.weight + 1
  | times p low high => p.weight * max 1 (high.getD low) + 1

end Pattern
end Turnstile
