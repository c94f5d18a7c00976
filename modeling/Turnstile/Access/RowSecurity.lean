import Turnstile.Access.Viewer

namespace Turnstile.Viewer
variable (v : Viewer)

def holdsRoleOf (f : RowFilter) : Bool := v.roles.any fun r => IdSet.contains f.roleIds r.id

/-- Regular filters bind those who have one of their roles, base filters everyone else. -/
def bindsTo (f : RowFilter) : Bool :=
  match f.type with
  | .regular => v.holdsRoleOf f
  | .base => !v.holdsRoleOf f

def effectiveFilters (d : Datasource) : List RowFilter :=
  (v.catalog.rowFiltersOn d.id).filter v.bindsTo

def filterIds (d : Datasource) : List RowFilterId := (v.effectiveFilters d).map (·.id)

def guestRules (d : Datasource) : List GuestRule :=
  match v.guest? with
  | some g => g.rules.filter (·.appliesTo d.id)
  | none => []

def guestClauses (d : Datasource) : List String := (v.guestRules d).map (·.clause)

/-- The guest's clauses, and behind them the filters' identifiers if the datasource is filtered. -/
def cacheKey (d : Datasource) : List String :=
  v.guestClauses d ++ if d.isRowFilterable then (v.filterIds d).map Id.text else []

end Turnstile.Viewer
