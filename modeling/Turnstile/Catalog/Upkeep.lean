import Turnstile.Catalog.Write

namespace Turnstile.Catalog

def danglingPairs (c : Catalog) : List PairId :=
  (c.pairs.rows.filter fun p => (c.resolve? p).isNone).map (·.id)

def cleanPairs (c : Catalog) : Nat × Catalog := c.deletePairs c.danglingPairs

def wantedByDatasource (c : Catalog) (d : Datasource) : List (String × String) :=
  match d.databaseId.bind c.database? with
  | none => []
  | some db =>
    (PermissionName.datasourceAccess, d.resourceName db)
      :: ((d.schemaResourceName db).map (PermissionName.schemaAccess, ·)).toList

def wantedPairs (c : Catalog) : List (String × String) :=
  c.datasources.rows.flatMap c.wantedByDatasource
    ++ c.databases.rows.map fun db => (PermissionName.databaseAccess, db.resourceName)

def createPairs (c : Catalog) (known : List (String × String)) :
    List (String × String) → Nat × Catalog
  | [] => (0, c)
  | w :: ws =>
    if known.contains w then c.createPairs known ws
    else
      let (n, c) := (c.ensurePair w.1 w.2).2.createPairs (w :: known) ws
      (n + 1, c)

/-- Makes the pairs that are wanted and that no existing pair stands for, and counts them. -/
def createMissingPairs (c : Catalog) : Nat × Catalog :=
  c.createPairs (c.namedPairs.map fun p => (p.permission, p.resource)) c.wantedPairs

end Turnstile.Catalog
