import Turnstile.Role.Definition
import Turnstile.Catalog.Store
import Turnstile.Access.Denial

namespace Turnstile

def customPairs : List (String × String) :=
  [(PermissionName.allDatasourceAccess, PermissionName.allDatasourceAccess),
    (PermissionName.allDatabaseAccess, PermissionName.allDatabaseAccess),
    (PermissionName.allQueryAccess, PermissionName.allQueryAccess),
    ("can_share_dashboard", "Palisade"),
    ("can_share_chart", "Palisade")]

structure SyncReport where
  /-- How many pairs each defined role was given. -/
  roles : List (String × Nat)
  created : Nat
  deleted : Nat
deriving DecidableEq, Repr

structure Synchronizer where
  policy : Policy
  definitions : List RoleDefinition
  publicRole : Option String
  /-- The role whose pairs are merged into the public role. -/
  template : Option String

namespace Catalog

def ensureCustomPairs (c : Catalog) : Catalog :=
  customPairs.foldl (fun c p => (c.ensurePair p.1 p.2).2) c

/-- The identifiers of the pairs with both sides that fall under a rule. -/
def matchingPairs (c : Catalog) (policy : Policy) (rule : ReadyRule) : IdSet .pair :=
  IdSet.ofIds ((c.namedPairs.filter (rule.admits policy)).map (·.id))

def isDataPair (c : Catalog) (id : PairId) : Bool :=
  (c.namesOf? id).any fun p => PermissionName.isOnData p.1

def setRole (c : Catalog) (policy : Policy) (name : String) (rule : ReadyRule) :
    Except StoreError (Nat × Catalog) := do
  let ids := c.matchingPairs policy rule
  let (role, c) := c.ensureRole name
  let c ← c.setRolePairs role.id ids
  .ok (ids.rows.length, c)

end Catalog

namespace Synchronizer

def standard : Synchronizer := ⟨.standard, RoleDefinition.builtins, none, none⟩

def replaceDefinition (d : RoleDefinition) : List RoleDefinition → List RoleDefinition
  | [] => [d]
  | e :: es => if e.name = d.name then d :: es else e :: replaceDefinition d es

def withDefinition (s : Synchronizer) (d : RoleDefinition) : Synchronizer :=
  { s with definitions := replaceDefinition d s.definitions }

def withPublicRoleLike (s : Synchronizer) (publicRole template : Option String) : Synchronizer :=
  { s with publicRole := publicRole, template := template }

def ready (s : Synchronizer) : Except AccessError (List (String × ReadyRule)) :=
  s.definitions.mapM fun d =>
    match d.rule.ready with
    | .ok r => .ok (d.name, r)
    | .error pattern => .error (.invalidPattern pattern)

def setRoles (policy : Policy) :
    List (String × ReadyRule) → Catalog → Except StoreError (List (String × Nat) × Catalog)
  | [], c => .ok ([], c)
  | (name, rule) :: rest, c => do
    let (n, c) ← c.setRole policy name rule
    let (counts, c) ← setRoles policy rest c
    .ok ((name, n) :: counts, c)

/-- The pairs of the role to copy from: those under its rule if it is defined, else those it has. -/
def sourcePairs (s : Synchronizer) (rules : List (String × ReadyRule)) (source : String)
    (c : Catalog) : Except AccessError (IdSet .pair) :=
  match rules.lookup source with
  | some rule => .ok (c.matchingPairs s.policy rule)
  | none =>
    match c.roleNamed? source with
    | some role => .ok role.pairIds
    | none => .error (.roleNotFound source)

/-- Gives a role, made if need be, the pairs of another; with `merge` it keeps those of its own
that are permissions on data. -/
def copyPairs (s : Synchronizer) (rules : List (String × ReadyRule)) (source target : String)
    (merge : Bool) (c : Catalog) : Except AccessError Catalog := do
  let ids ← s.sourcePairs rules source c
  let (role, c) := c.ensureRole target
  let kept := if merge then role.pairIds.rows.filter c.isDataPair else []
  match c.setRolePairs role.id (kept.foldl Ledger.put ids) with
  | .ok c => .ok c
  | .error e => .error (.store e)

def syncCatalog (s : Synchronizer) (rules : List (String × ReadyRule)) (c : Catalog) :
    Except AccessError (SyncReport × Catalog) := do
  let c := c.ensureCustomPairs
  let (counts, c) ←
    match setRoles s.policy rules c with
    | .ok r => .ok r
    | .error e => .error (AccessError.store e)
  let c ←
    match s.publicRole, s.template with
    | some publicRole, some template => s.copyPairs rules template publicRole true c
    | _, _ => .ok c
  let (created, c) := c.createMissingPairs
  .ok (⟨counts, created, 0⟩, c)

def sync (s : Synchronizer) (store : Store) : Except AccessError (SyncReport × Store) := do
  let rules ← s.ready
  let (report, store) ← store.transact .store (s.syncCatalog rules)
  let (deleted, store) ← store.transact .store fun c => .ok c.cleanPairs
  .ok ({ report with deleted := deleted }, store)

def copyRole (s : Synchronizer) (store : Store) (source target : String) (merge : Bool) :
    Except AccessError Store := do
  let rules ← s.ready
  let (_, store) ← store.transact .store fun c =>
    (s.copyPairs rules source target merge c).map ((), ·)
  .ok store

end Synchronizer
end Turnstile
