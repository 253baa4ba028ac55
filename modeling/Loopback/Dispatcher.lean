/-
The calling side of a call.

A dispatcher is bound to a service. `call` finds the invoker of the target block before any argument is touched; the
arguments are then added in order; `invoke` and `invokeReference` run the invoker and turn its answer into a value or
into an error of the caller's type. Every call is counted when it starts, and once more when it ends.
-/
import Loopback.Environment
import Loopback.ErrorType
import Loopback.ServiceName

namespace Loopback

variable {ι σ : Type}

/-! ## Dispatchers -/

/-- what makes the calls to one service -/
structure Dispatcher where
  serviceName : String
  environment : Environment
  codec : Codec
  securityContext : Option SecurityContext

namespace Dispatcher

/-- a dispatcher for a service -/
def new (service : String) (env : Environment) (codec : Codec) : Except InvocationError Dispatcher :=
  match ServiceName.normalize service with
  | .ok name => .ok ⟨name, env, codec, none⟩
  | .error e => .error e

/-- attach a context to every call -/
def withSecurityContext (d : Dispatcher) (context : SecurityContext) : Dispatcher :=
  { d with securityContext := some context }

/-- count and log an error of a call, and return it -/
def reject (d : Dispatcher) (entry method : String) (e : InvocationError) : Act ι σ InvocationError := do
  d.environment.countError e
  logError entry method e
  return e

/-- the entry of the service in the target block, and its invoker -/
def resolve (d : Dispatcher) : Act ι σ (Except InvocationError (String × ι)) := do
  match ← d.environment.targetBlock with
  | .error e => return .error e
  | .ok block => do
    let entry := block ++ d.serviceName
    match ← d.environment.lookup entry with
    | some invoker => return .ok (entry, invoker)
    | none => return .error ((← d.environment.statuses).accessError block entry)

/-- the form of a dispatcher in diagnostics -/
def debug (d : Dispatcher) : String :=
  "Dispatcher \x7b service_name: " ++ Text.quoted d.serviceName ++ ", codec: " ++ Text.quoted d.codec.name ++
    ", security_context: " ++ Text.optional SecurityContext.debug d.securityContext ++ ", .. \x7d"

end Dispatcher

/-! ## Calls -/

/-- a call in progress -/
structure Call (ι : Type) where
  dispatcher : Dispatcher
  entry : String
  invoker : ι
  record : Invocation

/-- start a call of a method -/
def Dispatcher.call (d : Dispatcher) (method : String) : Act ι σ (Except InvocationError (Call ι)) := do
  d.environment.count .calls
  match ← d.resolve with
  | .error e => return .error (← d.reject d.serviceName method e)
  | .ok (entry, invoker) =>
    let record := Invocation.start method
    return .ok ⟨d, entry, invoker, d.securityContext.elim record record.attach⟩

namespace Call

def method (c : Call ι) : String := c.record.method

/-- count and log an error of the call, and return it -/
def reject (c : Call ι) (e : InvocationError) : Act ι σ InvocationError :=
  c.dispatcher.reject c.entry c.method e

/-- add an argument to the record -/
def push (c : Call ι) (typeName : String) (slot : Slot) : Call ι :=
  { c with record := c.record.push typeName slot }

/-- add an encoded argument under a type name -/
def pushEncoded (c : Call ι) (typeName : String) (t : Ty) (v : t.Val) : Act ι σ (Except InvocationError (Call ι)) := do
  match ← c.dispatcher.codec.serialize t v with
  | .ok bs => return .ok (c.push typeName (.payload bs))
  | .error e => return .error (← c.reject e.toInvocationError)

/-- add a serialized argument -/
def argument (c : Call ι) (t : Ty) (v : t.Val) : Act ι σ (Except InvocationError (Call ι)) :=
  c.pushEncoded t.name t v

/-- add a serialized argument that may be absent; it is then null -/
def optionalArgument (c : Call ι) (t : Ty) (v : Option t.Val) : Act ι σ (Except InvocationError (Call ι)) :=
  match v with
  | none => return .ok (c.push (optionalName t.name) .null)
  | some v => c.pushEncoded (optionalName t.name) t v

/-- add an argument by reference -/
def referenceArgument (c : Call ι) (t : AnyTy) (v : t.Val) : Call ι :=
  c.push t.name (.reference ⟨t, v⟩)

/-- add an argument by reference that may be absent; it is then null -/
def optionalReferenceArgument (c : Call ι) (t : AnyTy) (v : Option t.Val) : Call ι :=
  c.push (optionalName t.name) (match v with
    | none => .null
    | some v => .reference ⟨t, v⟩)

/-- the form of a call in diagnostics -/
def debug (c : Call ι) : String :=
  "Call \x7b entry: " ++ Text.quoted c.entry ++ ", method: " ++ Text.quoted c.method ++ ", .. \x7d"

/-! ## Completing a call -/

/-- log the record and run the invoker on it -/
def run (behave : Behaviour ι σ) (c : Call ι) (byReference : Bool) : Act ι σ InvocationResult := do
  let record := c.record.expectResult byReference
  Act.span .debug "local_invocation" ([("service", .text c.dispatcher.serviceName), ("method", .text c.method)] ++
    record.sessionId.toList.map fun id => ("session_id", .text id.text))
  Act.event .trace "Dispatching local invocation"
    [("entry", .text c.entry), ("arity", .count record.arity), ("result_bypass", .flag byReference)]
  behave c.invoker record

/-- end the call with an error of the invocation layer -/
def fail {α : Type} (c : Call ι) (E : ErrorType) (e : InvocationError) : Act ι σ (Except E.Val α) := do
  return .error (E.ofInvocation (← c.reject e))

/-- end the call with a value -/
def succeed {α : Type} (c : Call ι) (E : ErrorType) (a : α) : Act ι σ (Except E.Val α) := do
  c.dispatcher.environment.count .successes
  return .ok a

/-- end the call with the error that a failure envelope holds: the declared one if there is one -/
def unpack {α : Type} (c : Call ι) (E : ErrorType) (bs : Bytes) : Act ι σ (Except E.Val α) := do
  match c.dispatcher.codec.decode .remoteFailure bs with
  | .error e => c.fail E e.toInvocationError
  | .ok f =>
    match f.firstDeclaredCause with
    | none => c.fail E (.remote f)
    | some payload =>
      match c.dispatcher.codec.decode E.ty payload with
      | .ok e => do
        c.dispatcher.environment.count .declared
        Act.event .debug "Local service returned a declared error"
          [("entry", .text c.entry), ("method", .text c.method), ("error", .text f.message)]
        return .error e
      | .error e => do
        Act.event .warn "Declared error does not decode as the method's error type"
          [("entry", .text c.entry), ("method", .text c.method), ("error", .text e.message)]
        c.fail E (.remote f)

/-- complete a call whose result is serialized -/
def invoke (behave : Behaviour ι σ) (c : Call ι) (t : Ty) (E : ErrorType) : Act ι σ (Except E.Val t.Val) := do
  match ← c.run behave false with
  | .value bs =>
    match c.dispatcher.codec.decode t bs with
    | .ok v => c.succeed E v
    | .error e => c.fail E e.toInvocationError
  | .reference _ => c.fail E (.protocol
      s!"'{c.method}' returned its result by reference but the caller expects it serialized")
  | .failure bs => c.unpack E bs

/-- complete a call whose result is passed by reference -/
def invokeReference (behave : Behaviour ι σ) (c : Call ι) (t : AnyTy) (E : ErrorType) :
    Act ι σ (Except E.Val t.Val) := do
  match ← c.run behave true with
  | .reference b =>
    match b.downcast t with
    | some v => c.succeed E v
    | none => c.fail E (.protocol s!"result of '{c.method}' is not a {t.name}")
  | .value _ => c.fail E (.protocol
      s!"'{c.method}' returned its result serialized but the caller expects it by reference")
  | .failure bs => c.unpack E bs

end Call

end Loopback
