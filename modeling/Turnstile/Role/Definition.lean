import Turnstile.Role.Policy
import Turnstile.Pattern.Reader

namespace Turnstile

structure PairPattern where
  resource : String
  permission : String
deriving DecidableEq, Repr

inductive RoleRule where
  | tier (t : Tier)
  | patterns (ps : List PairPattern)
deriving DecidableEq, Repr

structure RoleDefinition where
  name : String
  rule : RoleRule
deriving DecidableEq, Repr

/-- A rule with its expressions read; of a pair of expressions the resource's is first. -/
inductive ReadyRule where
  | tier (t : Tier)
  | patterns (ps : List (Pattern × Pattern))

def RoleDefinition.builtins : List RoleDefinition :=
  [⟨"Admin", .tier .admin⟩, ⟨"Alpha", .tier .alpha⟩, ⟨"Gamma", .tier .gamma⟩,
    ⟨"granter", .tier .granter⟩, ⟨"sql_lab", .tier .sqlLab⟩]

def readSide (pattern : String) : Except String Pattern :=
  match Pattern.readAnchored pattern with
  | some p => .ok p
  | none => .error pattern

def PairPattern.ready (p : PairPattern) : Except String (Pattern × Pattern) := do
  let resource ← readSide p.resource
  let permission ← readSide p.permission
  .ok (resource, permission)

def RoleRule.ready : RoleRule → Except String ReadyRule
  | .tier t => .ok (.tier t)
  | .patterns ps => (ps.mapM PairPattern.ready).map .patterns

def ReadyRule.admits (rule : ReadyRule) (policy : Policy) (p : NamedPair) : Bool :=
  match rule with
  | .tier t => policy.holds t p.permission p.resource
  | .patterns ps =>
    ps.any fun q => Pattern.isMatch q.1 p.resource && Pattern.isMatch q.2 p.permission

end Turnstile
