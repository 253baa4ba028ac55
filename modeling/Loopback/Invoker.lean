/-
The receiving side of a call.

`execute` runs a method and turns every outcome into a result: a rejection and a panic become failure envelopes. A
declared error is wrapped in an envelope with its encoding. An envelope that cannot be encoded is sent without its
causes, and as no bytes at all if that fails too.
-/
import Loopback.Environment
import Loopback.ErrorType

namespace Loopback.Invoker

variable {ι σ : Type}

/-! ## Failures -/

/-- send a failure envelope -/
def failure (codec : Codec) (f : RemoteFailure) : Act ι σ InvocationResult := do
  match ← codec.serialize .remoteFailure f with
  | .ok bs => return .failure bs
  | .error e => do
    Act.event .error "Failed to encode failure envelope; sending it without causes"
      [("codec", .text codec.name), ("error", .text e.message), ("failure", .text f.display)]
    match ← codec.serialize .remoteFailure f.plain with
    | .ok bs => return .failure bs
    | .error _ => return .failure []

/-- wrap a declared error in an envelope, with its encoding if it has one -/
def declaredFailure (codec : Codec) (E : ErrorType) (e : E.Val) : Act ι σ RemoteFailure := do
  match ← codec.serialize E.ty e with
  | .ok bs => return .ofDeclared (E.report e) (some bs)
  | .error err => do
    Act.event .warn "Declared error is not encodable; sending it as a remote failure"
      [("error_type", .text (E.report e).typeName), ("codec", .text codec.name), ("error", .text err.message)]
    return .ofDeclared (E.report e) none

/-- send a declared error -/
def declared (codec : Codec) (E : ErrorType) (e : E.Val) : Act ι σ InvocationResult := do
  failure codec (← declaredFailure codec E e)

/-! ## Results -/

/-- send the outcome of a method whose result is serialized -/
def encodeValue (codec : Codec) (t : Ty) (E : ErrorType) (outcome : Except E.Val t.Val) :
    Act ι σ (Except InvocationError InvocationResult) := do
  match outcome with
  | .ok v =>
    match ← codec.serialize t v with
    | .ok bs => return .ok (.value bs)
    | .error e => return .error e.toInvocationError
  | .error e => return .ok (← declared codec E e)

/-- send the outcome of a method whose result is passed by reference -/
def encodeReference (codec : Codec) (t : AnyTy) (E : ErrorType) (outcome : Except E.Val t.Val) :
    Act ι σ (Except InvocationError InvocationResult) := do
  match outcome with
  | .ok v => return .ok (.reference ⟨t, v⟩)
  | .error e => return .ok (← declared codec E e)

/-- the rejection of a method that a service does not have -/
def unknownMethod (service method : String) : InvocationError :=
  .protocol s!"service '{service}' has no method '{method}'"

/-! ## Execution -/

/-- run the body of a method on a record and send what comes of it -/
def execute (codec : Codec) (inv : Invocation)
    (body : Invocation → Act ι σ (Except InvocationError InvocationResult)) : Act ι σ InvocationResult := do
  match ← (body inv).caught with
  | .ok (.ok r) => return r
  | .ok (.error e) => do
    Act.event .warn "Rejected local invocation" [("method", .text inv.method), ("error", .text e.message)]
    failure codec (.ofRejection e)
  | .error p => do
    Act.event .error "Local service panicked" [("method", .text inv.method), ("panic", .text p.message)]
    failure codec (.ofPanic p)

end Loopback.Invoker
