import Turnstile.Ident

namespace Turnstile

inductive StoreError where
  /-- A row that was referred to does not exist. -/
  | notFound (kind : Kind) (key : String)
  /-- A second row of the same name, or a second pair of the same sides. -/
  | duplicate (kind : Kind) (key : String)
  /-- A writer broke off in the middle, and nothing can be read or written any more. -/
  | lockPoisoned
  | backend (message : String)
deriving DecidableEq, Repr

def StoreError.message : StoreError → String
  | .notFound kind key => kind.label ++ " not found: " ++ key
  | .duplicate kind key => "duplicate " ++ kind.label ++ ": " ++ key
  | .lockPoisoned => "store lock poisoned"
  | .backend message => "backend error: " ++ message

def StoreError.missing {kind : Kind} (id : Id kind) : StoreError := .notFound kind id.text

end Turnstile
