import Turnstile.Json.Value

namespace Turnstile.Json

class ToJson (α : Type) where
  toJson : α → Value

class FromJson (α : Type) where
  ofJson? : Value → Option α

export ToJson (toJson)
export FromJson (ofJson?)

instance : ToJson Nat := ⟨Value.ofNat⟩
instance : ToJson String := ⟨Value.ofString⟩
instance : ToJson Bool := ⟨Value.bool⟩
instance {α : Type} [ToJson α] : ToJson (Option α) := ⟨Value.ofOption toJson⟩
instance {α : Type} [ToJson α] : ToJson (List α) := ⟨fun xs => .array (xs.map toJson)⟩

def memberIfSome {α : Type} [ToJson α] (name : String) : Option α → List (String × Value)
  | none => []
  | some a => [(name, toJson a)]

/-- Only a whole number of 64 bits is a number here. -/
def Value.natural? : Value → Option Nat
  | .number (.natural n) => some n
  | _ => none

def Value.string? : Value → Option String
  | .text s => s
  | _ => none

def Value.bool? : Value → Option Bool
  | .bool b => some b
  | _ => none

def Value.items? : Value → Option (List Value)
  | .array items => some items
  | _ => none

instance : FromJson Nat := ⟨Value.natural?⟩
instance : FromJson String := ⟨Value.string?⟩
instance : FromJson Bool := ⟨Value.bool?⟩
instance {α : Type} [FromJson α] : FromJson (List α) := ⟨fun v => v.items?.bind (·.mapM ofJson?)⟩

def Value.stringPair? : Value → Option (String × String)
  | .array [a, b] => do some (← a.string?, ← b.string?)
  | _ => none

instance : ToJson (String × String) := ⟨fun p => .array [toJson p.1, toJson p.2]⟩
instance : FromJson (String × String) := ⟨Value.stringPair?⟩

structure Record where
  /-- Whether the fields were told apart by place and not by name. -/
  positional : Bool
  given : List (String × Value)

def readableMembers (ms : List (Option String × Value)) : Option (List (String × Value)) :=
  ms.mapM fun m => m.1.map (·, m.2)

def Value.record? (names : List String) (v : Value) : Option Record :=
  match v with
  | .object ms => do
    let known := (← readableMembers ms).filter (names.contains ·.1)
    if (known.map (·.1)).Nodup then some ⟨false, known⟩ else none
  | .array items => if items.length ≤ names.length then some ⟨true, names.zip items⟩ else none
  | _ => none

namespace Record

def get? (r : Record) (name : String) : Option Value := r.given.lookup name

def required {α : Type} [FromJson α] (r : Record) (name : String) : Option α :=
  (r.get? name).bind ofJson?

def nullable {α : Type} [FromJson α] : Value → Option (Option α)
  | .null => some none
  | v => (ofJson? v).map some

/-- A field that may be null, or left out where fields have names. -/
def optional {α : Type} [FromJson α] (r : Record) (name : String) : Option (Option α) :=
  match r.get? name with
  | none => if r.positional then none else some none
  | some v => nullable v

/-- A field that may be null or left out in either form. -/
def omissible {α : Type} [FromJson α] (r : Record) (name : String) : Option (Option α) :=
  match r.get? name with
  | none => some none
  | some v => nullable v

end Record

/-- The name of a case without content, written as a text or as the only member, with null. -/
def Value.caseName? : Value → Option String
  | .text s => s
  | .object [(name, .null)] => name
  | _ => none

end Turnstile.Json
