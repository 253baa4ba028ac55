/-
Services: their interfaces, the calls their proxies make and the invokers that answer them.

A signature lists the parameters of a method and the way each is passed. A proxy marshals the arguments in order and
completes the call; the invoker checks the record against the signature, unmarshals the arguments in the same order
and runs the method. Both sides follow the one signature.
-/
import Loopback.Dispatcher
import Loopback.Invoker

namespace Loopback

variable {ι σ : Type}

/-! ## Signatures -/

/-- the way an argument is passed -/
inductive Passing where
  /-- serialized -/
  | value (t : Ty)
  /-- serialized, may be absent -/
  | optional (t : Ty)
  /-- by reference -/
  | reference (t : AnyTy)
  /-- by reference, may be absent -/
  | optionalReference (t : AnyTy)
deriving DecidableEq, Repr

namespace Passing

/-- the arguments of a parameter -/
@[reducible] def Val : Passing → Type
  | value t => t.Val
  | optional t => Option t.Val
  | reference t => t.Val
  | optionalReference t => Option t.Val

/-- the name of the declared type -/
def typeName : Passing → String
  | value t => t.name
  | optional t => optionalName t.name
  | reference t => t.name
  | optionalReference t => optionalName t.name

def byReference : Passing → Bool
  | value _ => false
  | optional _ => false
  | reference _ => true
  | optionalReference _ => true

def mayBeAbsent : Passing → Bool
  | value _ => false
  | optional _ => true
  | reference _ => false
  | optionalReference _ => true

end Passing

/-- a parameter of a method -/
structure Param where
  name : String
  passing : Passing
deriving DecidableEq, Repr

/-- the way a result is passed -/
inductive Returning where
  | value (t : Ty)
  | reference (t : AnyTy)
deriving DecidableEq, Repr

namespace Returning

/-- the results of a method -/
@[reducible] def Val : Returning → Type
  | value t => t.Val
  | reference t => t.Val

def byReference : Returning → Bool
  | value _ => false
  | reference _ => true

end Returning

/-- the interface of a method -/
structure Signature where
  name : String
  params : List Param
  result : Returning
  error : ErrorType

/-- the arguments of parameters, in order -/
@[reducible] def Args : List Param → Type
  | [] => Unit
  | p :: r => p.passing.Val × Args r

namespace Signature

/-- what a method answers: its result or its declared error -/
@[reducible] def Answer (sig : Signature) : Type := Except sig.error.Val sig.result.Val

/-- the names of the declared types -/
def types (sig : Signature) : List String := sig.params.map (·.passing.typeName)

/-- the places of the parameters passed by reference -/
def referencePlaces (sig : Signature) : List Nat :=
  sig.params.zipIdx.filterMap fun (p, i) => if p.passing.byReference then some i else none

end Signature

/-- a method with what it does -/
structure Method (ι σ : Type) where
  signature : Signature
  body : Args signature.params → Act ι σ signature.Answer

/-- a service: the name of its interface, and its methods in order of declaration -/
structure Service (ι σ : Type) where
  interface : String
  methods : List (Method ι σ)

/-! ## The calling side -/

/-- add the argument of a parameter -/
def Passing.marshal (c : Call ι) : (p : Passing) → p.Val → Act ι σ (Except InvocationError (Call ι))
  | .value t, v => c.argument t v
  | .optional t, v => c.optionalArgument t v
  | .reference t, v => return .ok (c.referenceArgument t v)
  | .optionalReference t, v => return .ok (c.optionalReferenceArgument t v)

/-- add the arguments of parameters, in order -/
def marshal : (ps : List Param) → Args ps → Call ι → Act ι σ (Except InvocationError (Call ι))
  | [], _, c => return .ok c
  | p :: ps, (v, vs), c => do
    match ← p.passing.marshal c v with
    | .ok c => marshal ps vs c
    | .error e => return .error e

/-- complete a call in the way of its result -/
def Returning.complete (behave : Behaviour ι σ) (c : Call ι) (E : ErrorType) :
    (r : Returning) → Act ι σ (Except E.Val r.Val)
  | .value t => c.invoke behave t E
  | .reference t => c.invokeReference behave t E

/-- call a method through a dispatcher -/
def Signature.call (behave : Behaviour ι σ) (d : Dispatcher) (sig : Signature) (args : Args sig.params) :
    Act ι σ sig.Answer := do
  match ← d.call sig.name with
  | .error e => return .error (sig.error.ofInvocation e)
  | .ok c =>
    match ← marshal sig.params args c with
    | .error e => return .error (sig.error.ofInvocation e)
    | .ok c => sig.result.complete behave c sig.error

/-! ## The receiving side -/

/-- read or take the argument of a parameter -/
def Passing.unmarshal (codec : Codec) (index : Nat) : (p : Passing) → Invocation.Taker p.Val
  | .value t => Invocation.reading fun inv => inv.argument codec t index
  | .optional t => Invocation.reading fun inv => inv.optionalArgument codec t index
  | .reference t => Invocation.take t index
  | .optionalReference t => Invocation.takeOptional t index

/-- read or take the arguments of parameters, in order, the first one at a place -/
def unmarshal (codec : Codec) : (ps : List Param) → (index : Nat) → Invocation.Taker (Args ps)
  | [], _ => return ()
  | p :: ps, index => do
    let v ← p.passing.unmarshal codec index
    let vs ← unmarshal codec ps (index + 1)
    return (v, vs)

/-- the arguments of a record that fits a signature -/
def Signature.receive (sig : Signature) (codec : Codec) (inv : Invocation) : Except InvocationError (Args sig.params) :=
  match inv.expectSignature sig.types sig.result.byReference with
  | .error e => .error e
  | .ok () => (unmarshal codec sig.params 0 inv).1

/-- send the answer of a method in the way of its result -/
def Returning.encode (codec : Codec) (E : ErrorType) :
    (r : Returning) → Except E.Val r.Val → Act ι σ (Except InvocationError InvocationResult)
  | .value t, answer => Invoker.encodeValue codec t E answer
  | .reference t, answer => Invoker.encodeReference codec t E answer

namespace Method

/-- run a method on a record, if the record fits it -/
def serve (m : Method ι σ) (codec : Codec) (inv : Invocation) :
    Act ι σ (Except InvocationError InvocationResult) := do
  match m.signature.receive codec inv with
  | .error e => return .error e
  | .ok args => m.signature.result.encode codec m.signature.error (← m.body args)

end Method

namespace Service

/-- the method of a name -/
def method? (s : Service ι σ) (name : String) : Option (Method ι σ) :=
  s.methods.find? fun m => m.signature.name == name

/-- what the invoker of a service does with a record -/
def respond (s : Service ι σ) (codec : Codec) (inv : Invocation) : Act ι σ InvocationResult :=
  Invoker.execute codec inv fun inv =>
    match s.method? inv.method with
    | some m => m.serve codec inv
    | none => return .error (Invoker.unknownMethod s.interface inv.method)

/-- the names of the methods -/
def methodNames (s : Service ι σ) : List String := s.methods.map (·.signature.name)

end Service

/-! ## Proxies -/

/-- what makes proxies -/
structure ProxyFactory where
  environment : Environment
  codec : Codec
  securityContext : Option SecurityContext

namespace ProxyFactory

/-- a factory with the default codec -/
def new (env : Environment) : ProxyFactory := ⟨env, .postcard none, none⟩

/-- route the calls through an environment -/
def withEnvironment (f : ProxyFactory) (env : Environment) : ProxyFactory := { f with environment := env }

/-- marshal the values with a codec -/
def withCodec (f : ProxyFactory) (codec : Codec) : ProxyFactory := { f with codec := codec }

/-- attach a context to every call of the proxies that are made from now on -/
def withSecurityContext (f : ProxyFactory) (context : SecurityContext) : ProxyFactory :=
  { f with securityContext := some context }

/-- the dispatcher of a new proxy for a service -/
def create (f : ProxyFactory) (interface service : String) : Act ι σ (Except InvocationError Dispatcher) := do
  match Dispatcher.new service f.environment f.codec with
  | .error e => return .error e
  | .ok d =>
    Act.event .debug "Created local service proxy"
      [("service", .text d.serviceName), ("interface", .text interface), ("codec", .text f.codec.name)]
    return .ok (f.securityContext.elim d d.withSecurityContext)

end ProxyFactory

end Loopback
