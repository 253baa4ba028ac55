/-
Scenarios run.

Each step answers, and what was logged for it is kept with the answer. Steps may run inside others: the log is cleared
when a step starts, so the entry of an outer step holds only what was logged after the last inner one.
-/
import Loopback.Scenario.Step

namespace Loopback.Scenario

open Sample

/-! ## Setting up -/

namespace InvokerSpec

/-- the invoker of a description -/
def setUp : InvokerSpec → Play Nat
  | named id => return ((← Play.stage).invokers.get? id).getD 0
  | task codec t => do
    Play.addObject ⟨← Act.openCodec codec, t⟩
  | failing codec f => do
    let codec ← Act.openCodec codec
    let bs : Except CodecError Bytes ← codec.serialize .remoteFailure f
    Play.addObject ⟨codec, .answer (.failure (bs.toOption.getD []))⟩
  | forward codec service env => do
    let codec ← Act.openCodec codec
    match Dispatcher.new service (← Play.environment env) codec with
    | .ok d => Play.addObject ⟨codec, .run (.forward d)⟩
    | .error e => Play.addObject ⟨codec, .run (.reject e)⟩
  | users codec => do
    Play.addObject ⟨← Act.openCodec codec, .serve (.users (← Run.newUsers))⟩

end InvokerSpec

/-- the services of descriptions, in order -/
def setUpServices : List ServiceSpec → Play (List (String × Nat))
  | [] => return []
  | (path, spec) :: r => do
    let i ← spec.setUp
    let rest ← setUpServices r
    return (path, i) :: rest

/-- the block of a description -/
def BlockSpec.setUp (b : BlockSpec) : Play (DeploymentBlock Nat) :=
  return ⟨b.name, b.contextName, ← setUpServices b.services⟩

/-- add arguments to a record -/
def pushArgs {ι σ : Type} (codec : Codec) (inv : Invocation) : List (String × SlotSpec) → Act ι σ Invocation
  | [] => return inv
  | (name, .payload bs) :: r => pushArgs codec (inv.push name (.payload bs)) r
  | (name, .value t v) :: r => do
    let bs : Except CodecError Bytes ← codec.serialize t v
    pushArgs codec (inv.push name (.payload (bs.toOption.getD []))) r
  | (name, .reference b) :: r => pushArgs codec (inv.push name (.reference b)) r
  | (name, .null) :: r => pushArgs codec (inv.push name .null) r

/-- the record of a description -/
def RecordSpec.setUp {ι σ : Type} (codec : Codec) (r : RecordSpec) : Act ι σ Invocation := do
  let inv ← pushArgs codec (.start r.method) r.args
  return r.security.foldl Invocation.attach (r.resultByReference.elim inv inv.expectResult)

/-! ## Calls -/

/-- add arguments to a call, up to the first that fails -/
def addArgs (c : Call Nat) : List CallArg → Play (Except InvocationError (Call Nat))
  | [] => return .ok c
  | arg :: r => do
    let added : Except InvocationError (Call Nat) ← match arg with
      | .value t v => c.argument t v
      | .optional t v => c.optionalArgument t v
      | .reference t v => pure (.ok (c.referenceArgument t v))
      | .optionalReference t v => pure (.ok (c.optionalReferenceArgument t v))
    match added with
    | .ok c => addArgs c r
    | .error e => return .error e

/-- the bytes of a buffer that is answered -/
def answeredBytes (E : ErrorType) : (t : AnyTy) → Except E.Val t.Val → Play Bytes
  | .buffer, .ok name => Run.buffer name
  | _, _ => return []

/-- an answer with what belongs to it -/
def answer (E : ErrorType) (t : AnyTy) (a : Except E.Val t.Val) : Play Answer :=
  return ⟨E, t, a, ← answeredBytes E t a⟩

/-- a call that ended with an error of the invocation layer -/
def Completion.failed (E : ErrorType) (e : InvocationError) : Completion → Play CallEnd
  | value t => return .answered (← answer E (.data t) (.error (E.ofInvocation e)))
  | reference t => return .answered (← answer E t (.error (E.ofInvocation e)))
  | abandon => return .abandoned (.error e)

/-- complete a call -/
def Completion.complete (E : ErrorType) (c : Call Nat) : Completion → Play CallEnd
  | value t => do
    return .answered (← answer E (.data t) (← c.invoke behave t E))
  | reference t => do
    return .answered (← answer E t (← c.invokeReference behave t E))
  | abandon => return .abandoned (.ok ())

/-- the type that carries a result -/
def Returning.anyTy : Returning → AnyTy
  | .value t => .data t
  | .reference t => t

/-- the answer of a proxy -/
def proxyAnswer (E : ErrorType) : (r : Returning) → Except E.Val r.Val → Play Answer
  | .value t, a => answer E (.data t) a
  | .reference t, a => answer E t a

/-! ## Blocks -/

/-- stop a block whose handle is gone -/
def stopBlock : Option RunningBlock → Play Unit
  | none => return ()
  | some b => b.stop

/-- answer a start: a started block takes its handle, and one that had it is stopped -/
def finishStart (handle name unstarted : String) (outcome : Except StartError RunningBlock) : Play Reply := do
  let init := (← Play.stage).initReplies
  Play.modifyStage fun s => { s with initReplies := none }
  match outcome with
  | .error _ => pure ()
  | .ok b => do
    let old := (← Play.stage).blocks.get? handle
    Play.modifyStage fun s => { s with blocks := s.blocks.insert handle b }
    stopBlock old
  return .started name unstarted outcome init

/-! ## Running -/

/-- the counter of an event -/
def MetricEvent.counter : MetricEvent → Counter
  | call => .calls
  | success => .successes
  | declared => .declared
  | error e => .ofKind e.kind

/-- a failure that a result holds -/
def decodedFailure (codec : Codec) : InvocationResult → Option RemoteFailure
  | .failure bs => (codec.decode .remoteFailure bs).toOption
  | _ => none

/-- attach a context, if there is one -/
def secured (security : Option SecurityContext) (d : Dispatcher) : Dispatcher :=
  security.elim d d.withSecurityContext

mutual

/-- run a step -/
def Step.play : Step → Play Reply
  | .environment id parent properties => do
    let env ← match parent with
      | none => Environment.new properties
      | some p => (← Play.environment p).sharing properties
    Play.modifyStage fun s => { s with environments := s.environments.insert id env }
    return .done
  | .setProperty env name value => do
    (← Play.environment env).setProperty name value
    return .done
  | .removeProperty env name => do
    (← Play.environment env).removeProperty name
    return .done
  | .property env name => return .property (← (← Play.environment env).property name)
  | .debug env => do
    let env ← Play.environment env
    return .forms (← env.debug) (← env.directory).debug
  | .invoker id spec => do
    let i ← spec.setUp
    Play.modifyStage fun s => { s with invokers := s.invokers.insert id i }
    return .done
  | .runInvoker id record => do
    let codec ← Act.openCodec record.codec
    let inv ← record.setUp codec
    let r ← behave (((← Play.stage).invokers.get? id).getD 0) inv
    return .ran r (decodedFailure codec r)
  | .register env entry spec => do
    let i ← spec.setUp
    let old ← (← Play.environment env).register entry i
    return .replaced (← Play.namesOf? old)
  | .registerAll env entries => do
    let env ← Play.environment env
    env.registerAll (← setUpServices entries)
    return .entries (← env.directory).keys
  | .tryRegisterAll env entries => do
    let env ← Play.environment env
    let conflict ← env.tryRegisterAll (← setUpServices entries)
    return .batch conflict (← env.directory).keys
  | .unregister env entry => do
    let old ← (← Play.environment env).unregister entry
    return .removed (← Play.namesOf? old)
  | .unregisterAll env entries => do
    let env ← Play.environment env
    env.unregisterAll entries
    return .entries (← env.directory).keys
  | .lookup env entry hold => do
    let env ← Play.environment env
    let found ← env.lookup entry
    let names ← Play.namesOf? found
    match hold, found with
    | some id, some i => Play.modifyStage fun s => { s with invokers := s.invokers.insert id i }
    | _, _ => pure ()
    return .found ((← env.directory).contains entry) names
  | .directory env => do
    let d ← (← Play.environment env).directory
    return .directory d.keys d.size d.isEmpty
  | .recordStarted env name contextName =>
    return .truth (← (← Play.environment env).tryRecordStarted name contextName)
  | .recordFailed env name contextName cause =>
    return .truth (← (← Play.environment env).recordFailed name contextName cause)
  | .removeStatus env name => return .status (← (← Play.environment env).removeStatus name)
  | .status env name => return .status ((← (← Play.environment env).statuses).get? name)
  | .statuses env => do
    let s ← (← Play.environment env).statuses
    return .statuses s.keys s.values s.isEmpty
  | .accessError env block entry =>
    return .access ((← (← Play.environment env).statuses).accessError block entry)
  | .start env handle spec => do
    let block ← spec.setUp
    let outcome ← block.start (← Play.environment env)
    finishStart handle block.name block.debug outcome
  | .startWith env handle spec steps add failure => do
    let block ← spec.setUp
    let outcome ← block.startWith (← Play.environment env) fun b => do
      let replies ← Step.playAll steps
      Play.modifyStage fun s => { s with initReplies := some replies }
      let added ← setUpServices add
      let b := added.foldl (fun b (path, i) => b.addService path i) b
      return (b, if failure.isEmpty then .ok () else .error (chainReport failure))
    finishStart handle block.name block.debug outcome
  | .stop handle => do
    match (← Play.stage).blocks.get? handle with
    | none => return .truth false
    | some b => do
      Play.modifyStage fun s => { s with blocks := s.blocks.erase handle }
      b.stop
      return .truth true
  | .blockInvoker handle path => do
    match (← Play.stage).blocks.get? handle with
    | none => return .noBlock
    | some b => return .blockInvoker (← Play.namesOf? (← b.invoker? path))
  | .dispatcher env id service codec security => do
    let env ← Play.environment env
    match Dispatcher.new service env (← Act.openCodec codec) with
    | .error e => return .dispatcher (.error e)
    | .ok d => do
      let d := secured security d
      Play.modifyStage fun s => { s with dispatchers := s.dispatchers.insert id d }
      return .dispatcher (.ok ⟨d, (← env.directory).size, d.debug⟩)
  | .call spec before => do
    match (← Play.stage).dispatchers.get? spec.dispatcher with
    | none => return .done
    | some d =>
      match ← d.call spec.method with
      | .error e =>
        return .called (← spec.completion.failed spec.error e) (if spec.debug then some none else none)
          (before.map fun _ => [])
      | .ok c => do
        let debug := if spec.debug then some (some c.debug) else none
        match ← addArgs c spec.args with
        | .error e =>
          return .called (← spec.completion.failed spec.error e) debug (before.map fun _ => [])
        | .ok c => do
          let replies ← Step.playSome before
          return .called (← spec.completion.complete spec.error c) debug replies
  | .proxy env id interface service codec security => do
    let factory := (ProxyFactory.new (← Play.environment env)).withCodec (← Act.openCodec codec)
    match ← (security.elim factory factory.withSecurityContext).create interface service with
    | .error e => return .proxy (.error e)
    | .ok d => do
      Play.modifyStage fun s => { s with proxies := s.proxies.insert id d }
      return .proxy (.ok ())
  | .concreteProxy env id className service security => do
    match Dispatcher.new service (← Play.environment env) (.postcard none) with
    | .error e => return .concreteProxy (.error e)
    | .ok d => do
      let d := secured security d
      Play.modifyStage fun s => { s with proxies := s.proxies.insert id d }
      return .concreteProxy (.ok ⟨d.serviceName, className ++ " \x7b dispatcher: " ++ d.debug ++ " \x7d"⟩)
  | .invoke id sig args => do
    match (← Play.stage).proxies.get? id with
    | none => return .done
    | some d => return .invoked (← proxyAnswer sig.error sig.result (← sig.call behave d args))
  | .buffer id => return .bytes (← Run.buffer id)
  | .audit id => return .audit (← Run.audit id)
  | .metrics env => return .metrics (← (← Play.environment env).metrics)
  | .exported => return .exported (← get).exported
  | .recordMetric env event => do
    (← Play.environment env).count event.counter
    return .done
  | .logError entry method e => do
    Loopback.logError entry method e
    return .done

/-- run steps in order, each with what is logged for it -/
def Step.playAll : List Step → Play (List Entry)
  | [] => return []
  | s :: r => do
    Act.clearLog
    let reply ← s.play
    let log ← Act.takeLog
    let rest ← Step.playAll r
    return (reply, log) :: rest

/-- run steps if there are any -/
def Step.playSome : Option (List Step) → Play (Option (List Entry))
  | none => return none
  | some l => return some (← Step.playAll l)

end

/-- run a scenario from the beginning -/
def Script.play (s : Script) : List Entry :=
  let act : Play (List Entry) := do
    let env ← Environment.new s.properties
    Play.modifyStage fun stage => { stage with environments := stage.environments.insert "main" env }
    Step.playAll s.steps
  match (act (.initial (Store.empty, Stage.empty))).1 with
  | .ok entries => entries
  | .error _ => []

end Loopback.Scenario
