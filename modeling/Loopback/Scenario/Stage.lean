/-
The stage of a scenario: its environments, invokers, blocks, dispatchers and proxies by name.

An invoker is the number of its object; `behave` says what each object does with a record. An object may relay a call
to another one, so `behave` is defined by the number of relays that may still follow.
-/
import Loopback.Sample.Services
import Loopback.Scenario.Portrait
import Loopback.Scenario.Reply

namespace Loopback.Scenario

open Sample

/-! ## Invokers -/

/-- one of the sample services -/
inductive SampleService where
  | users (number : Nat)
  | buffers (sharedBuffer : String)
  | calculator

/-- what a hand-written invoker does with a record -/
inductive Body where
  /-- send a value -/
  | give (t : Ty) (v : t.Val)
  /-- send a value by reference -/
  | giveReference (b : BypassValue)
  /-- send a declared error -/
  | declare (E : ErrorType) (e : E.Val) (byReference : Bool)
  | reject (e : InvocationError)
  | unknownMethod (service : String)
  | panic (p : Panic)
  /-- send the first argument back -/
  | echo (t : Ty)
  /-- send the first argument back by reference -/
  | echoReference (t : AnyTy)
  /-- send the record as text -/
  | inspect
  /-- send the session attributes as text -/
  | whoami
  /-- call the same method elsewhere -/
  | forward (d : Dispatcher)

/-- what an invoker does -/
inductive Task where
  /-- answer without looking -/
  | answer (r : InvocationResult)
  | run (body : Body)
  | serve (s : SampleService)

/-- an invoker: its codec and what it does -/
structure InvokerObject where
  codec : Codec
  task : Task

/-! ## The stage -/

/-- everything that has a name -/
structure Stage where
  environments : Dict String Environment
  /-- the invokers by their numbers -/
  objects : List InvokerObject
  invokers : Dict String Nat
  blocks : Dict String RunningBlock
  dispatchers : Dict String Dispatcher
  proxies : Dict String Dispatcher
  /-- the answers of the steps of the latest initialization -/
  initReplies : Option (List Entry)

/-- an empty stage -/
def Stage.empty : Stage := ⟨.empty, [], .empty, .empty, .empty, .empty, none⟩

/-- a computation on the stage -/
abbrev Play := Run Nat Stage

namespace Play

def stage : Play Stage := return (← Act.app).2

def modifyStage (f : Stage → Stage) : Play Unit := Act.modifyApp fun (s, stage) => (s, f stage)

/-- an environment by its name -/
def environment (name : String) : Play Environment :=
  return ((← stage).environments.get? name).getD ⟨0, 0⟩

/-- a new invoker -/
def addObject (o : InvokerObject) : Play Nat := do
  let n := (← stage).objects.length
  modifyStage fun s => { s with objects := s.objects ++ [o] }
  return n

/-- the names of an invoker, ascending -/
def namesOf (invoker : Nat) : Play (List String) :=
  return ((← stage).invokers.entries.filter fun e => e.2 = invoker).map (·.1)

/-- the names of an invoker, if there is one -/
def namesOf? : Option Nat → Play (Option (List String))
  | none => return none
  | some i => return some (← namesOf i)

end Play

/-! ## What invokers do -/

/-- a sample service -/
def SampleService.service : SampleService → Service Nat (Store × Stage)
  | users n => Users.service n
  | buffers s => Buffers.service s
  | calculator => Calculator.service

/-- call a method for a number with a number -/
def relay (behave : Behaviour Nat (Store × Stage)) (d : Dispatcher) (method : String) (n : UInt64) :
    Play (Except InvocationError UInt64) := do
  match ← d.call method with
  | .error e => return .error e
  | .ok c =>
    match ← c.argument .u64 n with
    | .error e => return .error e
    | .ok c => c.invoke behave .u64 .invocation

/-- what the body of an invoker comes to -/
def Body.outcome (behave : Behaviour Nat (Store × Stage)) (codec : Codec) (body : Body) (inv : Invocation) :
    Play (Except InvocationError InvocationResult) :=
  match body with
  | give t v => Invoker.encodeValue codec t .invocation (.ok v)
  | giveReference b => Invoker.encodeReference codec b.ty .invocation (.ok b.val)
  | declare E e false => Invoker.encodeValue codec .unit E (.error e)
  | declare E e true => Invoker.encodeReference codec (.data .unit) E (.error e)
  | reject e => return .error e
  | unknownMethod service => return .error (Invoker.unknownMethod service inv.method)
  | panic p => Act.panic p
  | echo t =>
    match inv.argument codec t 0 with
    | .ok v => Invoker.encodeValue codec t .invocation (.ok v)
    | .error e => return .error e
  | echoReference t =>
    match (Invocation.take t 0 inv).1 with
    | .ok v => Invoker.encodeReference codec t .invocation (.ok v)
    | .error e => return .error e
  | inspect => Invoker.encodeValue codec .text .invocation (.ok inv.portrait)
  | whoami => Invoker.encodeValue codec .text .invocation (.ok inv.sessionPortrait)
  | forward d => do
    match inv.argument codec .u64 0 with
    | .ok n => Invoker.encodeValue codec .u64 .invocation (← relay behave d inv.method n)
    | .error e => return .error e

/-- what the objects do with a record, when `behave` says what those do that they relay to -/
def respond (behave : Behaviour Nat (Store × Stage)) : Behaviour Nat (Store × Stage) := fun i inv => do
  match (← Play.stage).objects[i]? with
  | none => return .failure []
  | some o =>
    match o.task with
    | .answer r => return r
    | .run body => Invoker.execute o.codec inv (body.outcome behave o.codec)
    | .serve s => s.service.respond o.codec inv

/-- what each invoker does with a record, when at most `relays` relays follow -/
def behaveWithin : (relays : Nat) → Behaviour Nat (Store × Stage)
  | 0 => respond fun _ _ => return .failure []
  | k + 1 => respond (behaveWithin k)

/-- what each invoker does with a record; a chain of relays that ends meets no invoker twice -/
def behave : Behaviour Nat (Store × Stage) := fun i inv => do
  behaveWithin (← Play.stage).objects.length i inv

end Loopback.Scenario
