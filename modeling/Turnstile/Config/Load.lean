import Turnstile.Config.Environment
import Turnstile.Config.File

namespace Turnstile

namespace Config

/-- Where settings come from. A file that is not there has no text. -/
structure Sources where
  user : Option String
  project : Option String
  machine : Option String
  /-- The word that the names of variables start with. -/
  word : String
  vars : Environment.Variables
deriving DecidableEq, Repr

inductive LoadError where
  /-- The text of a file cannot be taken in. -/
  | unbuildable
  /-- A setting has no meaning for its type. -/
  | undecodable
  | invalid (fault : ConfigFault)
deriving DecidableEq, Repr

def LoadError.context : LoadError → String
  | unbuildable => "Failed to build configuration"
  | undecodable => "Failed to deserialize configuration"
  | invalid _ => "Configuration failed validation"

def fileLayer? : Option String → Option (List (String × Setting))
  | none => some []
  | some s => do Setting.ofEntries? (← Toml.document? s)

namespace Sources

/-- The layers over the standard settings, from the lowest to the highest. -/
def layers? (s : Sources) : Option (List (List (String × Setting))) := do
  some [← fileLayer? s.user, ← fileLayer? s.project, ← fileLayer? s.machine,
    Environment.layer s.word s.vars]

def merged? (s : Sources) : Option Setting := do
  some ((← s.layers?).foldl Setting.putLayer (.ofConfig .standard))

def load (s : Sources) : Except LoadError Config :=
  match s.merged? with
  | none => .error .unbuildable
  | some merged =>
    match Format.setting.config? merged with
    | none => .error .undecodable
    | some c =>
      match c.fault? with
      | some fault => .error (.invalid fault)
      | none => .ok c

def loadOrStandard (s : Sources) : Config :=
  match s.load with
  | .ok c => c
  | .error _ => .standard

end Sources
end Config
end Turnstile
