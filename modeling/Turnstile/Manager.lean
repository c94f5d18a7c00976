import Turnstile.Config.Basic
import Turnstile.Token.Service
import Turnstile.Access.Listing
import Turnstile.Access.RowSecurity
import Turnstile.Sql.Statement

namespace Turnstile

inductive ManagerError where
  | access (e : AccessError)
  | token (e : TokenError)
  | store (e : StoreError)
  | config (e : ConfigError)

namespace ManagerError

def denial? : ManagerError → Option Denial
  | access e => e.denial?
  | token e => e.denial?
  | _ => none

def isDenial : ManagerError → Bool
  | access e => e.isDenial
  | _ => false

def message : ManagerError → String
  | access e => e.message
  | token e => e.message
  | store e => e.message
  | config e => e.message

end ManagerError

structure Manager where
  store : Store
  settings : AccessSettings
  synchronizer : Synchronizer
  tokens : TokenService
  extract : Extractor

namespace Manager

/-- A manager without configuration. What is wrong in a query that cannot be read is told in the
words of `complaint`. -/
def standard (complaint : String → String) (store : Store) (now : Instant) : Manager :=
  ⟨store, .standard, .standard, ⟨.standard Config.standardSecret, now⟩, Sql.extractor complaint⟩

def ofConfig (complaint : String → String) (store : Store) (config : Config) (now : Instant) :
    Except ManagerError Manager :=
  match config.validate, config.tokenConfig with
  | .error e, _ => .error (.config e)
  | .ok _, .error e => .error (.token e)
  | .ok _, .ok tokens =>
    .ok ⟨store, config.accessSettings, config.synchronizer, ⟨tokens, now⟩,
      Sql.extractor complaint⟩

def withStore (m : Manager) (store : Store) : Manager := { m with store }

def withTokens (m : Manager) (tokens : TokenService) : Manager := { m with tokens }

def setClock (m : Manager) (now : Instant) : Manager := m.withTokens { m.tokens with now }

def sync (m : Manager) : Except ManagerError (SyncReport × Manager) :=
  match m.synchronizer.sync m.store with
  | .error e => .error (.access e)
  | .ok (report, store) => .ok (report, m.withStore store)

def copyRole (m : Manager) (source target : String) (merge : Bool) : Except ManagerError Manager :=
  match m.synchronizer.copyRole m.store source target merge with
  | .error e => .error (.access e)
  | .ok store => .ok (m.withStore store)

def cleanPairs (m : Manager) : Except ManagerError (Nat × Manager) :=
  match m.store.update Catalog.cleanPairs with
  | .error e => .error (.store e)
  | .ok (n, store) => .ok (n, m.withStore store)

def createMissingPairs (m : Manager) : Except ManagerError (Nat × Manager) :=
  match m.store.update Catalog.createMissingPairs with
  | .error e => .error (.store e)
  | .ok (n, store) => .ok (n, m.withStore store)

def loadUser (m : Manager) (id : UserId) : Except ManagerError Principal :=
  match m.store.read with
  | .error e => .error (.store e)
  | .ok c =>
    match c.user? id with
    | none => .error (.store (.missing id))
    | some u => .ok (.user u.id u.roleIds)

/-- The guest that a request comes from, if guests are let in and it carries a token that is
accepted. -/
def requestPrincipal (m : Manager) (r : Request) :
    Except ManagerError (Option Principal) × Manager :=
  if m.settings.embedded then
    match m.store.read with
    | .error e => (.error (.token (.store e)), m)
    | .ok c =>
      let (guest, tokens) := m.tokens.resolve r (m.tokens.roleId? c)
      (.ok (guest.map .guest), m.withTokens tokens)
  else (.ok none, m)

def requireGrants (m : Manager) (grants : List GuestGrant) : Except ManagerError Unit :=
  match m.store.read with
  | .error e => .error (.token (.store e))
  | .ok c =>
    match c.requireGrants grants with
    | .error e => .error (.token e)
    | .ok _ => .ok ()

/-- Issues a token without a look at what it grants. -/
def issueToken (m : Manager) (profile : GuestProfile) (grants : List GuestGrant)
    (rules : List GuestRule) (host : Option String) : Except ManagerError String × Manager :=
  match m.tokens.issue profile grants rules host with
  | (.error e, tokens) => (.error (.token e), m.withTokens tokens)
  | (.ok token, tokens) => (.ok token, m.withTokens tokens)

def createGuestToken (m : Manager) (profile : GuestProfile) (grants : List GuestGrant)
    (rules : List GuestRule) (host : Option String) : Except ManagerError String × Manager :=
  match m.requireGrants grants with
  | .error e => (.error e, m)
  | .ok _ => m.issueToken profile grants rules host

def view {α : Type} (m : Manager) (p : Principal) (f : Viewer → Except AccessError α) :
    Except ManagerError α :=
  match m.store.read with
  | .error e => .error (.access (.store e))
  | .ok c =>
    match f ⟨c, m.settings, p, m.extract⟩ with
    | .error e => .error (.access e)
    | .ok a => .ok a

def requireAccess (m : Manager) (p : Principal) (target : Target) : Except ManagerError Unit :=
  m.view p fun v => v.requireAccess target

def dashboard (m : Manager) (p : Principal) (id : DashboardId) : Except ManagerError Dashboard :=
  m.view p fun v =>
    match v.catalog.dashboard? id with
    | none => .error (.store (.missing id))
    | some d => (v.requireDashboard d).map fun _ => d

def requireUserActivity (m : Manager) (p : Principal) (id : UserId) : Except ManagerError Unit :=
  m.view p fun v => v.requireUserActivity id

def effectiveFilters (m : Manager) (p : Principal) (d : Datasource) :
    Except ManagerError (List RowFilter) :=
  m.view p fun v => .ok (v.effectiveFilters d)

def cacheKey (m : Manager) (p : Principal) (d : Datasource) : Except ManagerError (List String) :=
  m.view p fun v => .ok (v.cacheKey d)

end Manager
end Turnstile
