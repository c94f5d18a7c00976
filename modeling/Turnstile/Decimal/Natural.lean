namespace Turnstile.Decimal

def wordMax : Nat := 18446744073709551615

inductive NumberError where
  | empty
  | invalidDigit
  | tooLarge
deriving DecidableEq, Repr

def NumberError.message : NumberError → String
  | .empty => "cannot parse integer from empty string"
  | .invalidDigit => "invalid digit found in string"
  | .tooLarge => "number too large to fit in target type"

def digit? (c : Char) : Option Nat :=
  if '0' ≤ c ∧ c ≤ '9' then some (c.toNat - '0'.toNat) else none

def hexDigit? (c : Char) : Option Nat :=
  if '0' ≤ c ∧ c ≤ '9' then some (c.toNat - '0'.toNat)
  else if 'a' ≤ c ∧ c ≤ 'f' then some (c.toNat - 'a'.toNat + 10)
  else if 'A' ≤ c ∧ c ≤ 'F' then some (c.toNat - 'A'.toNat + 10)
  else none

def pushDigit (limit acc : Nat) (c : Char) : Except NumberError Nat :=
  match digit? c with
  | none => .error .invalidDigit
  | some d => if acc * 10 + d ≤ limit then .ok (acc * 10 + d) else .error .tooLarge

/-- Reads a nonempty run of digits that may follow a plus sign. -/
def readUpTo (limit : Nat) : List Char → Except NumberError Nat
  | [] => .error .empty
  | ['+'] => .error .invalidDigit
  | '+' :: cs => cs.foldlM (pushDigit limit) 0
  | cs => cs.foldlM (pushDigit limit) 0

def readWord (s : String) : Except NumberError Nat := readUpTo wordMax s.toList

def readSigned? : List Char → Option Int
  | ['-'] => none
  | '-' :: cs =>
    match cs.foldlM (pushDigit 9223372036854775808) 0 with
    | .ok n => some (-(n : Int))
    | .error _ => none
  | cs =>
    match readUpTo 9223372036854775807 cs with
    | .ok n => some n
    | .error _ => none

def text (n : Nat) : String := String.ofList (Nat.toDigits 10 n)

theorem text_inj {m n : Nat} : text m = text n ↔ m = n := by
  refine ⟨fun h => ?_, congrArg text⟩
  have hdigits : Nat.toDigits 10 m = Nat.toDigits 10 n := String.ofList_injective h
  simpa using congrArg (fun ds => Nat.ofDigitChars 10 ds 0) hdigits

def signedText (n : Int) : String := (if n < 0 then "-" else "") ++ text n.natAbs

end Turnstile.Decimal
