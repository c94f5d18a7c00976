import Turnstile.Text.Range

namespace Turnstile.Text

def blankRanges : List (Nat × Nat) := [
  (9, 13), (32, 32), (133, 133), (160, 160), (5760, 5760), (8192, 8202), (8232, 8233),
  (8239, 8239), (8287, 8287), (12288, 12288)]

def isBlank (c : Char) : Bool := inRanges blankRanges c.toNat

def trimBlanks (cs : List Char) : List Char :=
  ((cs.dropWhile isBlank).reverse.dropWhile isBlank).reverse

def blankWords (s : String) : List String :=
  let step := fun (acc : List (List Char) × List Char) (c : Char) =>
    if isBlank c then (if acc.2.isEmpty then acc else (acc.2.reverse :: acc.1, []))
    else (acc.1, c :: acc.2)
  let (done, last) := s.toList.foldl step ([], [])
  ((if last.isEmpty then done else last.reverse :: done).reverse).map String.ofList

end Turnstile.Text
