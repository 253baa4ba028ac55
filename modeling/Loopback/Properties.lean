/-
Configuration properties.

One property decides where calls go: the last segment of the connection URL list names the target block. Properties
come from a dictionary or from environment variables, whose names are upper-case with a low line between words.
-/
import Loopback.Dict
import Loopback.Failure
import Loopback.Text.Blank

namespace Loopback

/-- properties by name -/
abbrev Properties := Dict String String

namespace Properties

/-! ## The target block -/

/-- the name of the property that holds the connection URL list -/
def connectionUrlList : String := "localrpc.connectionUrlList"

/-- the characters after the last slash -/
def lastSegment (l : List Char) : List Char :=
  (l.reverse.takeWhile (· != '/')).reverse

/-- the last segment of a URL list, without blanks around the list and slashes at its end -/
def segmentOf (urls : String) : String :=
  String.ofList (lastSegment (Text.dropEndWhile (· == '/') (Text.trimChars urls.toList)))

/-- the block that a URL list names; a scheme is no block -/
def blockName? (urls : String) : Option String :=
  let name := segmentOf urls
  if name = "" ∨ name.toList.getLast? = some ':' then none else some name

/-- the block that a URL list names, or the error to report -/
def blockName (urls : String) : Except InvocationError String :=
  match blockName? urls with
  | some name => .ok name
  | none => .error (.configuration
      s!"Property {connectionUrlList} does not end with a deployment block name: '{urls}'")

/-- the block that calls go to -/
def targetBlockName (property : String → Option String) : Except InvocationError String :=
  match property connectionUrlList with
  | none => .error (.configuration s!"Property {connectionUrlList} not defined")
  | some urls => blockName urls

/-! ## Environment variables -/

/-- whether a word may end after a character: a small letter or a digit -/
def endsWord (c : Char) : Bool := c.isLower || c.isDigit

/-- the characters of a variable name; `inWord` says that the character before may end a word -/
def variableChars : (inWord : Bool) → List Char → List Char
  | _, [] => []
  | inWord, c :: r =>
    if c == '.' || c == '-' then '_' :: variableChars false r
    else if c.isUpper && inWord then '_' :: c :: variableChars false r
    else c.toUpper :: variableChars (endsWord c) r

/-- the environment variable that holds a property -/
def variableName (name : String) : String :=
  String.ofList (variableChars false name.toList)

/-- the value of an environment variable; no variable has an empty name or an equals sign in it -/
def valueOf? (vars : Dict String String) (name : String) : Option String :=
  if name = "" ∨ '=' ∈ name.toList then none else vars.get? name

/-- a property held in environment variables -/
def ofVariables (vars : Dict String String) (name : String) : Option String :=
  valueOf? vars (variableName name)

end Properties

end Loopback
