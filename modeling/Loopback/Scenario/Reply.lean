/-
What the steps of a scenario answer.
-/
import Loopback.Block
import Loopback.Service

namespace Loopback.Scenario

/-- the answer of a call, with the bytes of a buffer that it returned -/
structure Answer where
  error : ErrorType
  ty : AnyTy
  answer : Except error.Val ty.Val
  bytes : Bytes

/-- how a call ended -/
inductive CallEnd where
  | abandoned (outcome : Except InvocationError Unit)
  | answered (answer : Answer)

/-- a new dispatcher, the number of entries of its directory, and its form in diagnostics -/
structure DispatcherView where
  dispatcher : Dispatcher
  entries : Nat
  debug : String

/-- a new proxy of a known class: the service name and its form in diagnostics -/
structure ProxyView where
  service : String
  debug : String

/-- what a step answers; invokers are told by the names of those that are the same object -/
inductive Reply where
  | done
  | truth (b : Bool)
  | property (value : Option String)
  | forms (environment directory : String)
  | ran (result : InvocationResult) (failure : Option RemoteFailure)
  | replaced (names : Option (List String))
  | removed (names : Option (List String))
  | found (contains : Bool) (names : Option (List String))
  | entries (names : List String)
  | batch (conflict : Option String) (names : List String)
  | directory (names : List String) (size : Nat) (isEmpty : Bool)
  | status (status : Option BlockStatus)
  | statuses (names : List String) (snapshot : List BlockStatus) (isEmpty : Bool)
  | access (error : InvocationError)
  /-- a start: the block before it, how it ended, and the answers of the steps of its initialization, if that ran -/
  | started (block : String) (unstarted : String) (outcome : Except StartError RunningBlock)
      (init : Option (List (Reply × List LogEntry)))
  | noBlock
  | blockInvoker (names : Option (List String))
  | dispatcher (outcome : Except InvocationError DispatcherView)
  /-- a call: how it ended, its form if asked for, and the answers of the steps before it was completed -/
  | called (ending : CallEnd) (debug : Option (Option String)) (before : Option (List (Reply × List LogEntry)))
  | proxy (outcome : Except InvocationError Unit)
  | concreteProxy (outcome : Except InvocationError ProxyView)
  | invoked (answer : Answer)
  | bytes (bs : Bytes)
  | audit (entries : List String)
  | metrics (m : Metrics)
  | exported (m : Metrics)

/-- an answer with what was logged for it -/
abbrev Entry := Reply × List LogEntry

end Loopback.Scenario
