/-
What is logged.

An entry is an event with its level and message, or the start of a span around a call. Both carry named fields.
-/
namespace Loopback

/-- how much an event matters -/
inductive Level where
  | trace
  | debug
  | info
  | warn
  | error
deriving DecidableEq, Repr

def Level.name : Level → String
  | trace => "TRACE"
  | debug => "DEBUG"
  | info => "INFO"
  | warn => "WARN"
  | error => "ERROR"

/-- the value of a field -/
inductive Field where
  | text (s : String)
  | count (n : Nat)
  | flag (b : Bool)
deriving DecidableEq, Repr

/-- one line of the log -/
inductive LogEntry where
  | event (level : Level) (message : String) (fields : List (String × Field))
  | span (level : Level) (name : String) (fields : List (String × Field))
deriving DecidableEq, Repr

end Loopback
