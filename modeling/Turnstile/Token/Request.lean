import Turnstile.Text.Lowercase

namespace Turnstile

structure Request where
  headers : List (String × String)
  form : List (String × String)
  /-- The host that the request was sent to. -/
  host : Option String
deriving DecidableEq, Repr

namespace Request

/-- The value of a header; upper and lower case are the same, and the last one counts. -/
def header? (r : Request) (name : String) : Option String :=
  (r.headers.reverse.find? fun h => Text.lowercaseAscii h.1 == Text.lowercaseAscii name).map (·.2)

def field? (r : Request) (name : String) : Option String := r.form.reverse.lookup name

end Request
end Turnstile
