import Turnstile.Ledger
import Turnstile.Decimal.Natural
import Turnstile.Json.Record
import Turnstile.Text.Blank

namespace Turnstile

inductive Kind where
  | permission
  | resource
  | pair
  | role
  | user
  | database
  | datasource
  | chart
  | dashboard
  | rowFilter
deriving DecidableEq, Repr

def Kind.label : Kind → String
  | .permission => "permission"
  | .resource => "resource"
  | .pair => "permission view"
  | .role => "role"
  | .user => "user"
  | .database => "database"
  | .datasource => "datasource"
  | .chart => "chart"
  | .dashboard => "dashboard"
  | .rowFilter => "row level security filter"

def Kind.idName : Kind → String
  | .permission => "PermissionId"
  | .resource => "ResourceId"
  | .pair => "PvmId"
  | .role => "RoleId"
  | .user => "UserId"
  | .database => "DatabaseId"
  | .datasource => "DatasourceId"
  | .chart => "ChartId"
  | .dashboard => "DashboardId"
  | .rowFilter => "RlsFilterId"

structure Id (kind : Kind) where
  number : Nat
deriving DecidableEq, Repr

abbrev PermissionId := Id .permission
abbrev ResourceId := Id .resource
abbrev PairId := Id .pair
abbrev RoleId := Id .role
abbrev UserId := Id .user
abbrev DatabaseId := Id .database
abbrev DatasourceId := Id .datasource
abbrev ChartId := Id .chart
abbrev DashboardId := Id .dashboard
abbrev RowFilterId := Id .rowFilter

instance {kind : Kind} : Filed (Id kind) := ⟨Id.number⟩

theorem Id.eq_of_number {kind : Kind} (a b : Id kind) (h : Filed.number a = Filed.number b) :
    a = b := by
  cases a
  cases b
  exact congrArg Id.mk h

theorem Id.number_inj {kind : Kind} {a b : Id kind} : a.number = b.number ↔ a = b :=
  ⟨Id.eq_of_number a b, congrArg Id.number⟩

abbrev IdSet (kind : Kind) : Type := Ledger (Id kind)

namespace Id
variable {kind : Kind}

instance : Inhabited (Id kind) := ⟨⟨0⟩⟩

def text (id : Id kind) : String := Decimal.text id.number

theorem text_inj {a b : Id kind} : a.text = b.text ↔ a = b :=
  Decimal.text_inj.trans Id.number_inj

def describe (id : Id kind) : String := kind.idName ++ "(" ++ id.text ++ ")"

/-- Reads an identifier from a text that may have blanks around it. -/
def ofText (s : String) : Except Decimal.NumberError (Id kind) :=
  (Decimal.readUpTo Decimal.wordMax (Text.trimBlanks s.toList)).map Id.mk

/-- Identifiers by number, equal ones side by side in their order. -/
def sort (ids : List (Id kind)) : List (Id kind) :=
  ids.mergeSort (fun a b => a.number ≤ b.number)

instance : Json.ToJson (Id kind) := ⟨fun id => Json.toJson id.number⟩
instance : Json.FromJson (Id kind) := ⟨fun v => v.natural?.map Id.mk⟩

end Id

namespace IdSet
variable {kind : Kind}

def ofIds (ids : List (Id kind)) : IdSet kind := Ledger.ofList ids

def contains (s : IdSet kind) (id : Id kind) : Bool := Ledger.has s id.number

theorem mem_put {s : IdSet kind} {id x : Id kind} :
    x ∈ (Ledger.put s id).rows ↔ x ∈ s.rows ∨ x = id := by
  rw [Ledger.mem_put, or_comm]
  refine ⟨fun h => h.imp_left And.left, fun h => ?_⟩
  by_cases hx : x = id
  · exact .inr hx
  · exact h.imp_left fun hs => ⟨hs, fun hn => hx (Id.number_inj.mp hn)⟩

theorem mem_foldl_put {s : IdSet kind} {ids : List (Id kind)} {x : Id kind} :
    x ∈ (ids.foldl Ledger.put s).rows ↔ x ∈ s.rows ∨ x ∈ ids := by
  induction ids generalizing s with
  | nil => simp
  | cons id ids ih => rw [List.foldl_cons, ih, mem_put, List.mem_cons, or_assoc]

theorem mem_ofIds {ids : List (Id kind)} {x : Id kind} : x ∈ (ofIds ids).rows ↔ x ∈ ids := by
  unfold ofIds Ledger.ofList
  rw [mem_foldl_put]
  simp [Ledger.empty]

instance : Json.ToJson (IdSet kind) := ⟨fun s => Json.toJson s.rows⟩
instance : Json.FromJson (IdSet kind) :=
  ⟨fun v => (Json.ofJson? v : Option (List (Id kind))).map ofIds⟩

end IdSet

structure Instant where
  seconds : Nat
deriving DecidableEq, Repr

namespace Instant

def epoch : Instant := ⟨0⟩

/-- The moment `s` seconds later; the last moment that fits 64 bits is never passed. -/
def later (t : Instant) (s : Nat) : Instant := ⟨min (t.seconds + s) Decimal.wordMax⟩

/-- The moment `s` seconds later on a clock that starts anew after 64 bits. -/
def advance (t : Instant) (s : Nat) : Instant := ⟨(t.seconds + s) % (Decimal.wordMax + 1)⟩

def text (t : Instant) : String := Decimal.text t.seconds

instance : Json.ToJson Instant := ⟨fun t => Json.toJson t.seconds⟩
instance : Json.FromJson Instant := ⟨fun v => v.natural?.map Instant.mk⟩

end Instant
end Turnstile
