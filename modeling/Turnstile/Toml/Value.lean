import Turnstile.Decimal.Binary64

namespace Turnstile.Toml

inductive Scalar where
  | text (s : String)
  | integer (n : Int)
  | real (x : Decimal.Binary64)
  | flag (b : Bool)
  /-- A date, a time or both, in their one written form. -/
  | moment (s : String)
deriving DecidableEq, Repr

abbrev Path := List String

inductive Literal where
  | scalar (s : Scalar)
  | array (items : List Literal)
  | table (entries : List (Path × Literal))
deriving Repr

inductive Statement where
  /-- Gives a value, in the table whose header stands above. -/
  | entry (path : Path) (value : Literal)
  /-- The header of a table. -/
  | header (path : Path)
  /-- The header of one more table of an array. -/
  | element (path : Path)
deriving Repr

/-- A value of a document. The names in a table differ from each other. -/
inductive Value where
  | scalar (s : Scalar)
  | array (items : List Value)
  | table (entries : List (String × Value))
deriving Repr

instance : Inhabited Value := ⟨.array []⟩

end Turnstile.Toml
