import Turnstile.Config.Setting

namespace Turnstile.Environment

abbrev Variables := List (String × String)

def standardWord : String := "PALISADE"

/-- Two underscores make a point. -/
def markPoints : List Char → List Char
  | '_' :: '_' :: cs => '.' :: markPoints cs
  | c :: cs => c :: markPoints cs
  | [] => []

def key? (word name : String) : Option String :=
  let start := (Text.lowercase (word ++ "_")).toList
  let cs := (Text.lowercase name).toList
  if start.isPrefixOf cs then some (String.ofList (markPoints (cs.drop start.length))) else none

/-- What the text of a variable stands for: a switch, a number or else a text. -/
def setting (s : String) : Setting :=
  let lower := Text.lowercase s
  if lower = "true" then .flag true
  else if lower = "false" then .flag false
  else match Decimal.readSigned? s.toList with
  | some n => .integer n
  | none =>
    match Decimal.Binary64.read? s.toList with
    | some x => .real x
    | none => .text s

def layer (word : String) (vars : Variables) : List (String × Setting) :=
  vars.filterMap fun (name, s) => (key? word name).map (·, setting s)

end Turnstile.Environment
