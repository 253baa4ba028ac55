/-
The steps of a scenario, as they are written down.

Invokers, records and blocks are described here before they exist; `Play` sets them up.
-/
import Loopback.Scenario.Stage

namespace Loopback.Scenario

/-! ## Descriptions -/

/-- the invoker of a step: one that has a name, or a new one -/
inductive InvokerSpec where
  | named (id : String)
  | task (codec : CodecKind) (task : Task)
  /-- always answer with a failure, which is encoded when the invoker is set up -/
  | failing (codec : CodecKind) (failure : RemoteFailure)
  /-- relay calls to a service of another environment -/
  | forward (codec : CodecKind) (service env : String)
  /-- serve users of its own -/
  | users (codec : CodecKind)

/-- the argument of a record -/
inductive SlotSpec where
  | payload (bs : Bytes)
  /-- a payload that is encoded when the record is set up -/
  | value (t : Ty) (v : t.Val)
  | reference (b : BypassValue)
  | null

/-- a record -/
structure RecordSpec where
  method : String
  codec : CodecKind
  /-- arguments with the names of their types -/
  args : List (String × SlotSpec)
  resultByReference : Option Bool
  security : List SecurityContext

/-- a service of a block: its path and its invoker -/
abbrev ServiceSpec := String × InvokerSpec

/-- a block -/
structure BlockSpec where
  name : String
  contextName : Option String
  services : List ServiceSpec

/-- an argument of a call -/
inductive CallArg where
  | value (t : Ty) (v : t.Val)
  | optional (t : Ty) (v : Option t.Val)
  | reference (t : AnyTy) (v : t.Val)
  | optionalReference (t : AnyTy) (v : Option t.Val)

/-- how a call is completed -/
inductive Completion where
  | value (t : Ty)
  | reference (t : AnyTy)
  /-- the call is dropped before it is completed -/
  | abandon

/-- a call through a dispatcher -/
structure CallSpec where
  dispatcher : String
  method : String
  args : List CallArg
  completion : Completion
  error : ErrorType
  /-- whether to tell the form of the call -/
  debug : Bool

/-- an event that is counted -/
inductive MetricEvent where
  | call
  | success
  | declared
  | error (e : InvocationError)

/-! ## Steps -/

/-- one step of a scenario -/
inductive Step where
  | environment (id : String) (parent : Option String) (properties : Properties)
  | setProperty (env name value : String)
  | removeProperty (env name : String)
  | property (env name : String)
  | debug (env : String)
  | invoker (id : String) (spec : InvokerSpec)
  | runInvoker (id : String) (record : RecordSpec)
  | register (env entry : String) (spec : InvokerSpec)
  | registerAll (env : String) (entries : List ServiceSpec)
  | tryRegisterAll (env : String) (entries : List ServiceSpec)
  | unregister (env entry : String)
  | unregisterAll (env : String) (entries : List String)
  /-- look an entry up; the invoker that is found may get a name -/
  | lookup (env entry : String) (hold : Option String)
  | directory (env : String)
  | recordStarted (env name contextName : String)
  | recordFailed (env name contextName : String) (cause : CapturedFailure)
  | removeStatus (env name : String)
  | status (env name : String)
  | statuses (env : String)
  | accessError (env block entry : String)
  | start (env handle : String) (block : BlockSpec)
  /-- start with an initialization: it runs steps, adds services, and fails with a chain of messages if there is one -/
  | startWith (env handle : String) (block : BlockSpec) (steps : List Step) (add : List ServiceSpec)
      (failure : List String)
  | stop (handle : String)
  | blockInvoker (handle path : String)
  | dispatcher (env id service : String) (codec : CodecKind) (security : Option SecurityContext)
  /-- make a call; steps may run before it is completed -/
  | call (spec : CallSpec) (before : Option (List Step))
  | proxy (env id interface service : String) (codec : CodecKind) (security : Option SecurityContext)
  | concreteProxy (env id className service : String) (security : Option SecurityContext)
  | invoke (proxy : String) (sig : Signature) (args : Args sig.params)
  | buffer (id : String)
  | audit (id : String)
  | metrics (env : String)
  | exported
  | recordMetric (env : String) (event : MetricEvent)
  | logError (entry method : String) (e : InvocationError)

/-- a scenario: the properties of its main environment, and its steps -/
structure Script where
  properties : Properties
  steps : List Step

end Loopback.Scenario
