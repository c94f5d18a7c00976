import Turnstile.Catalog.Hook
import Turnstile.Text.Quoted

namespace Turnstile

/-- A catalog with the hooks of its writes. Once a writer broke off, the store is shut. -/
structure Store where
  catalog : Catalog
  hooks : List Hook
  poisoned : Bool

namespace Store

def bare : Store := ⟨.empty, [], false⟩

def withHook (s : Store) (hook : Hook) : Store := { s with hooks := s.hooks ++ [hook] }

def standard : Store := bare.withHook PermissionSync.hook

def describeHooks (s : Store) : String :=
  Text.describe "HookRegistry" [("hooks", Decimal.text s.hooks.length)]

def read (s : Store) : Except StoreError Catalog :=
  if s.poisoned then .error .lockPoisoned else .ok s.catalog

/-- Runs `f` on the catalog and keeps its outcome only if it succeeds. `lift` tells how a closed
store is reported. -/
def transact {ε α : Type} (s : Store) (lift : StoreError → ε)
    (f : Catalog → Except ε (α × Catalog)) : Except ε (α × Store) :=
  match s.read with
  | .error e => .error (lift e)
  | .ok c =>
    match f c with
    | .error e => .error e
    | .ok (a, c) => .ok (a, { s with catalog := c })

def update {α : Type} (s : Store) (f : Catalog → α × Catalog) : Except StoreError (α × Store) :=
  s.transact id fun c => .ok (f c)

def saveDatabase (s : Store) (row : Database) : Except StoreError Store :=
  (s.transact id fun c =>
    (runHooks s.hooks (.database row.id) (c.putDatabase row)).map ((), ·)).map (·.2)

def saveDatasource (s : Store) (row : Datasource) : Except StoreError Store :=
  (s.transact id fun c =>
    (runHooks s.hooks (.datasource row.id) (c.putDatasource row)).map ((), ·)).map (·.2)

/-- The store after a writer broke off: its writes are lost. -/
def poison (s : Store) : Store := { s with poisoned := true }

end Store
end Turnstile
