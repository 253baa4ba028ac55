/-
Deployment blocks.

A block groups services under a context name. Starting it publishes the entries of all its services at once and then
records the block as started; stopping it undoes both in the opposite order. A start checks the status first, then
runs the initialization, then publishes; a batch that was registered is removed again when the status is refused.
-/
import Loopback.Environment
import Loopback.ServiceName

namespace Loopback

variable {ι σ : Type}

/-! ## Model -/

/-- a block that is not started yet -/
structure DeploymentBlock (ι : Type) where
  name : String
  contextName : Option String
  /-- paths with their invokers, in order of declaration -/
  services : List (String × ι)

/-- a started block -/
structure RunningBlock where
  name : String
  contextName : String
  entries : List String
  environment : Environment
deriving DecidableEq, Repr

/-- why a block did not start -/
inductive StartError where
  | alreadyRunning (name : String)
  | duplicateService (name path : String)
  | unnamedService (name : String)
  | failed (name : String) (cause : CapturedFailure)
deriving DecidableEq, Repr

/-- the text of a start error -/
def StartError.message : StartError → String
  | alreadyRunning name => s!"deployment block '{name}' is already running"
  | duplicateService name path => s!"deployment block '{name}' declares service '{path}' twice"
  | unnamedService name => s!"deployment block '{name}' declares a service without a name"
  | failed name cause => s!"deployment block '{name}' failed to start: {cause.message}"

/-- the texts of its sources -/
def StartError.sources : StartError → List String
  | failed _ cause => cause.chain.map Link.message
  | _ => []

namespace DeploymentBlock

/-- add a service -/
def addService (b : DeploymentBlock ι) (path : String) (invoker : ι) : DeploymentBlock ι :=
  { b with services := b.services ++ [(path, invoker)] }

/-- the context name; the block name unless another one is set -/
def context (b : DeploymentBlock ι) : String := b.contextName.getD b.name

/-! ## Entries -/

/-- add the entries of services to those `done` -/
def entriesFrom (b : DeploymentBlock ι) (done : List (String × ι)) :
    List (String × ι) → Except StartError (List (String × ι))
  | [] => .ok done
  | (path, invoker) :: rest =>
    match ServiceName.normalize? path with
    | none => .error (.unnamedService b.name)
    | some path =>
      let entry := b.context ++ path
      if done.any (·.1 == entry) then .error (.duplicateService b.name path)
      else b.entriesFrom (done ++ [(entry, invoker)]) rest

/-- the entries of the services: the context name and the path of each -/
def entries (b : DeploymentBlock ι) : Except StartError (List (String × ι)) :=
  b.entriesFrom [] b.services

/-! ## Starting -/

/-- what runs before a block is published: it may change the block, and may fail -/
abbrev Init (ι σ : Type) := DeploymentBlock ι → Act ι σ (DeploymentBlock ι × Except Report Unit)

/-- an initialization that does nothing -/
def Init.nothing : Init ι σ := fun b => return (b, .ok ())

/-- record that the initialization failed -/
def fail (b : DeploymentBlock ι) (env : Environment) (contextName : String) (cause : CapturedFailure) :
    Act ι σ (Except StartError RunningBlock) := do
  if ← env.recordFailed b.name contextName cause then return .error (.failed b.name cause)
  else return .error (.alreadyRunning b.name)

/-- publish the entries, then the status; without the status the entries are removed again -/
def publish (b : DeploymentBlock ι) (env : Environment) (contextName : String) (entries : List (String × ι)) :
    Act ι σ (Except StartError RunningBlock) := do
  match ← env.tryRegisterAll entries with
  | some _ => return .error (.alreadyRunning b.name)
  | none => do
    let names := entries.map (·.1)
    if ← env.tryRecordStarted b.name contextName then
      Act.event .info "Started deployment block"
        [("block", .text b.name), ("context", .text contextName), ("services", .count names.length)]
      return .ok ⟨b.name, contextName, names, env⟩
    else
      env.unregisterAll names
      return .error (.alreadyRunning b.name)

/-- start a block after its initialization; the context name is the one before it -/
def startWith (b : DeploymentBlock ι) (env : Environment) (init : Init ι σ) :
    Act ι σ (Except StartError RunningBlock) := do
  if (← env.statuses).isStarted b.name then return .error (.alreadyRunning b.name)
  let (b', outcome) ← init b
  match outcome with
  | .error e => b'.fail env b.context (.capture e)
  | .ok () =>
    match b'.entries with
    | .error e => return .error e
    | .ok entries => b'.publish env b.context entries

/-- start a block -/
def start (b : DeploymentBlock ι) (env : Environment) : Act ι σ (Except StartError RunningBlock) :=
  b.startWith env .nothing

/-- the form of a block in diagnostics -/
def debug (b : DeploymentBlock ι) : String :=
  "DeploymentBlock \x7b name: " ++ Text.quoted b.name ++ ", context_name: " ++
    Text.optional Text.quoted b.contextName ++ ", services: " ++ Text.quotedList (b.services.map (·.1)) ++ " \x7d"

end DeploymentBlock

/-! ## Running blocks -/

namespace RunningBlock

/-- the invoker of a path, as the directory has it now -/
def invoker? (b : RunningBlock) (path : String) : Act ι σ (Option ι) := do
  match ServiceName.normalize? path with
  | none => return none
  | some path =>
    let entry := b.contextName ++ path
    if entry ∈ b.entries then b.environment.lookup entry else return none

/-- stop the block: its status goes first, then its entries -/
def stop (b : RunningBlock) : Act ι σ Unit := do
  let _ ← b.environment.removeStatus b.name
  b.environment.unregisterAll b.entries
  Act.event .info "Stopped deployment block" [("block", .text b.name)]

/-- the form of a running block in diagnostics -/
def debug (b : RunningBlock) : String :=
  "RunningBlock \x7b name: " ++ Text.quoted b.name ++ ", context_name: " ++ Text.quoted b.contextName ++
    ", entries: " ++ Text.quotedList b.entries ++ ", .. \x7d"

end RunningBlock

end Loopback
