/-
The directory of services: which invoker answers under which entry name.

`ι` is the type of invokers. A batch is registered in one step; `tryRegisterAll` refuses a batch with a name that is
taken and names the first one.
-/
import Loopback.Dict
import Loopback.Text.Quoted

namespace Loopback

/-- invokers by entry name -/
abbrev Directory (ι : Type) := Dict String ι

namespace Directory

variable {ι : Type}

/-- the first name of a batch that is taken -/
def conflict? (d : Directory ι) (entries : List (String × ι)) : Option String :=
  (entries.find? fun e => d.contains e.1).map (·.1)

/-- register a batch unless one of its names is taken -/
def tryRegisterAll (d : Directory ι) (entries : List (String × ι)) : Except String (Directory ι) :=
  match d.conflict? entries with
  | some name => .error name
  | none => .ok (d.insertAll entries)

/-- the names of a batch that are taken, in the order of the batch -/
def taken (d : Directory ι) (entries : List (String × ι)) : List String :=
  (entries.map (·.1)).filter d.contains

/-- the form of a directory in diagnostics -/
def debug (d : Directory ι) : String :=
  "ServiceDirectory \x7b entries: " ++ Text.quotedList d.keys ++ " \x7d"

end Directory

end Loopback
