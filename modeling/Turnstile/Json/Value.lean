namespace Turnstile.Json

/-- A number literal. Only `natural` and `negative` denote whole numbers of 64 bits. -/
inductive Number where
  | natural (n : Nat)
  /-- The number below zero by `n`. -/
  | negative (n : Nat)
  /-- A literal with a fraction, an exponent, a negative zero, or more digits than fit. -/
  | real (literal : List Char)
deriving DecidableEq, Repr

/-- A JSON value. A text is `none` when its escapes leave half a surrogate pair alone. -/
inductive Value where
  | null
  | bool (b : Bool)
  | number (n : Number)
  | text (s : Option String)
  | array (items : List Value)
  | object (members : List (Option String × Value))
deriving Repr

namespace Value

instance : Inhabited Value := ⟨null⟩

def ofString (s : String) : Value := text (some s)

def ofNat (n : Nat) : Value := number (.natural n)

def ofMembers (ms : List (String × Value)) : Value :=
  object (ms.map fun m => (some m.1, m.2))

def ofOption {α : Type} (f : α → Value) : Option α → Value
  | none => null
  | some a => f a

mutual
def depth : Value → Nat
  | array items => depthOfItems items + 1
  | object members => depthOfMembers members + 1
  | _ => 0
def depthOfItems : List Value → Nat
  | [] => 0
  | v :: vs => max v.depth (depthOfItems vs)
def depthOfMembers : List (Option String × Value) → Nat
  | [] => 0
  | (_, v) :: ms => max v.depth (depthOfMembers ms)
end

end Value
end Turnstile.Json
