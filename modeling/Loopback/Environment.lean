/-
Environments: the directory, the statuses, the properties and the counters that calls go through.

An environment is the number of its hub and of its properties. Every operation here is one step: it reads a hub once
and publishes at most one new one, then logs what it did.
-/
import Loopback.World

namespace Loopback

/-- the hub and the properties of an environment -/
structure Environment where
  hub : Nat
  properties : Nat
deriving DecidableEq, Repr

namespace Environment

variable {ι σ : Type}

/-! ## Parts -/

/-- the hub of an environment -/
def getHub (env : Environment) : Act ι σ (Hub ι) := return (← get).hubs.get env.hub

/-- publish a new hub -/
def setHub (env : Environment) (hub : Hub ι) : Act ι σ Unit :=
  modify fun w => { w with hubs := w.hubs.set env.hub hub }

def directory (env : Environment) : Act ι σ (Directory ι) := return (← env.getHub).directory

def statuses (env : Environment) : Act ι σ Statuses := return (← env.getHub).statuses

def metrics (env : Environment) : Act ι σ Metrics := return (← env.getHub).metrics

/-- change the directory -/
def setDirectory (env : Environment) (d : Directory ι) : Act ι σ Unit := do
  env.setHub { ← env.getHub with directory := d }

/-- change the statuses -/
def setStatuses (env : Environment) (s : Statuses) : Act ι σ Unit := do
  env.setHub { ← env.getHub with statuses := s }

/-- properties of their own -/
def withProperties (hub : Nat) (properties : Properties) : Act ι σ Environment := do
  let n := (← get).properties.next
  modify fun w => { w with properties := w.properties.set n properties }
  return ⟨hub, n⟩

/-- a new environment -/
def new (properties : Properties) : Act ι σ Environment := do
  let n := (← get).hubs.next
  modify fun w => { w with hubs := w.hubs.set n .empty }
  withProperties n properties

/-- an environment that shares the hub of another one -/
def sharing (env : Environment) (properties : Properties) : Act ι σ Environment :=
  withProperties env.hub properties

/-! ## Properties -/

/-- all properties -/
def allProperties (env : Environment) : Act ι σ Properties := return (← get).properties.get env.properties

def property (env : Environment) (name : String) : Act ι σ (Option String) :=
  return (← env.allProperties).get? name

def setProperty (env : Environment) (name value : String) : Act ι σ Unit :=
  modify fun w =>
    { w with properties := w.properties.set env.properties ((w.properties.get env.properties).insert name value) }

def removeProperty (env : Environment) (name : String) : Act ι σ Unit :=
  modify fun w =>
    { w with properties := w.properties.set env.properties ((w.properties.get env.properties).erase name) }

/-- the block that calls go to -/
def targetBlock (env : Environment) : Act ι σ (Except InvocationError String) :=
  return Properties.targetBlockName (← env.allProperties).get?

/-! ## The directory -/

/-- the invoker of an entry -/
def lookup (env : Environment) (entry : String) : Act ι σ (Option ι) :=
  return (← env.directory).get? entry

/-- register an invoker; the one that it replaces is returned -/
def register (env : Environment) (entry : String) (invoker : ι) : Act ι σ (Option ι) := do
  let d ← env.directory
  env.setDirectory (d.insert entry invoker)
  match d.get? entry with
  | some old => do
    Act.event .warn "Replaced registered local service invoker" [("entry", .text entry)]
    return some old
  | none => do
    Act.event .debug "Registered local service invoker" [("entry", .text entry)]
    return none

/-- register a batch -/
def registerAll (env : Environment) (entries : List (String × ι)) : Act ι σ Unit := do
  if entries.isEmpty then return ()
  let d ← env.directory
  env.setDirectory (d.insertAll entries)
  (d.taken entries).forM fun entry =>
    Act.event .warn "Replaced registered local service invoker" [("entry", .text entry)]
  Act.event .debug "Registered local service invokers" [("count", .count entries.length)]

/-- register a batch unless one of its names is taken; the first such name is returned -/
def tryRegisterAll (env : Environment) (entries : List (String × ι)) : Act ι σ (Option String) := do
  match (← env.directory).tryRegisterAll entries with
  | .error name => return some name
  | .ok d => do
    env.setDirectory d
    Act.event .debug "Registered local service invokers" [("count", .count entries.length)]
    return none

/-- remove an entry; its invoker is returned -/
def unregister (env : Environment) (entry : String) : Act ι σ (Option ι) := do
  let d ← env.directory
  env.setDirectory (d.erase entry)
  match d.get? entry with
  | some old => do
    Act.event .debug "Unregistered local service invoker" [("entry", .text entry)]
    return some old
  | none => return none

/-- remove a batch of entries -/
def unregisterAll (env : Environment) (entries : List String) : Act ι σ Unit := do
  if entries.isEmpty then return ()
  env.setDirectory ((← env.directory).eraseAll entries)
  Act.event .debug "Unregistered local service invokers" [("count", .count entries.length)]

/-! ## The statuses -/

/-- record that a block started, unless it is recorded so -/
def tryRecordStarted (env : Environment) (name contextName : String) : Act ι σ Bool := do
  match (← env.statuses).record ⟨name, contextName, .started⟩ with
  | none => return false
  | some s => do
    env.setStatuses s
    Act.event .debug "Deployment block started" [("block", .text name), ("context", .text contextName)]
    return true

/-- record that a block failed to start, unless it is recorded as started -/
def recordFailed (env : Environment) (name contextName : String) (cause : CapturedFailure) : Act ι σ Bool := do
  match (← env.statuses).record ⟨name, contextName, .failed cause⟩ with
  | none => return false
  | some s => do
    env.setStatuses s
    Act.event .warn "Deployment block failed to start"
      [("block", .text name), ("context", .text contextName), ("error", .text cause.message)]
    return true

/-- forget the status of a block; it is returned -/
def removeStatus (env : Environment) (name : String) : Act ι σ (Option BlockStatus) := do
  let s ← env.statuses
  env.setStatuses (s.erase name)
  return s.get? name

/-! ## The counters -/

/-- count one more, here and in the exported counters -/
def count (env : Environment) (c : Counter) : Act ι σ Unit := do
  let hub ← env.getHub
  env.setHub { hub with metrics := hub.metrics.bump c }
  modify fun w => { w with exported := w.exported.bump c }

/-- count an error by its kind -/
def countError (env : Environment) (e : InvocationError) : Act ι σ Unit :=
  env.count (.ofKind e.kind)

/-! ## Diagnostics -/

/-- the form of an environment in diagnostics -/
def debug (env : Environment) : Act ι σ String := do
  let hub ← env.getHub
  return "LocalEnvironment \x7b directory: " ++ hub.directory.debug ++ ", blocks: " ++
    Text.quotedList hub.statuses.keys ++ ", .. \x7d"

end Environment

/-- log an error of the invocation layer: what an operator must mend is an error, all else a warning -/
def logError {ι σ : Type} (entry method : String) (e : InvocationError) : Act ι σ Unit :=
  match e with
  | .remote f => Act.event .warn "Local service raised an undeclared failure"
      [("entry", .text entry), ("method", .text method), ("failure_type", .text f.typeName),
        ("error", .text e.message)]
  | .configuration _ | .localAccess .. => Act.event .error "Local service invocation failed"
      [("entry", .text entry), ("method", .text method), ("kind", .text e.kind.name), ("error", .text e.message)]
  | .codec _ | .protocol _ => Act.event .warn "Local service invocation record rejected"
      [("entry", .text entry), ("method", .text method), ("kind", .text e.kind.name), ("error", .text e.message)]

end Loopback
