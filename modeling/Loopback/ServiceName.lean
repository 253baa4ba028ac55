/-
Names of services.

A name is trimmed and starts with a slash; an empty name and a lone slash are refused.
-/
import Loopback.Failure
import Loopback.Text.Blank

namespace Loopback.ServiceName

/-- put a slash in front if there is none -/
def rooted (name : String) : String :=
  if name.toList.head? = some '/' then name else "/" ++ name

/-- the canonical form of a name -/
def normalize? (name : String) : Option String :=
  let name := Text.trim name
  if name = "" ∨ name = "/" then none else some (rooted name)

/-- what is reported for a name without a canonical form -/
def unset : InvocationError := .configuration "Service name is not set"

/-- the canonical form of a name, or the error to report -/
def normalize (name : String) : Except InvocationError String :=
  match normalize? name with
  | some n => .ok n
  | none => .error unset

end Loopback.ServiceName
