/-
What is known of the deployment blocks: which started, and why others did not.

A status that says "started" is left only by `remove`; both ways to record refuse to overwrite it. `accessError`
explains to a caller why an entry is missing.
-/
import Loopback.Dict
import Loopback.Properties

namespace Loopback

/-! ## Model -/

/-- how the start of a block ended -/
inductive Outcome where
  | started
  | failed (cause : CapturedFailure)
deriving DecidableEq, Repr

/-- what is known of a block -/
structure BlockStatus where
  name : String
  contextName : String
  outcome : Outcome
deriving DecidableEq, Repr

/-- whether the block started -/
def BlockStatus.isStarted (s : BlockStatus) : Bool := s.outcome = .started

/-- why the block did not start -/
def BlockStatus.failure (s : BlockStatus) : Option CapturedFailure :=
  match s.outcome with
  | .started => none
  | .failed f => some f

/-- statuses by block name -/
abbrev Statuses := Dict String BlockStatus

namespace Statuses

/-- whether a block is recorded as started -/
def isStarted (s : Statuses) (name : String) : Bool :=
  (s.get? name).any (·.isStarted)

/-- record a status unless the block is recorded as started -/
def record (s : Statuses) (status : BlockStatus) : Option Statuses :=
  if s.isStarted status.name then none else some (s.insert status.name status)

/-! ## Explaining a missing entry -/

/-- why an entry is missing, with the name of its target block -/
inductive MissReason where
  /-- the block started without the service -/
  | notRegistered
  | blockFailed (cause : CapturedFailure)
  /-- nothing is known of any block -/
  | noBlocks
  /-- the context names of the blocks that are known -/
  | unknownBlock (known : List String)
deriving DecidableEq, Repr

/-- why an entry of a target block is missing -/
def missReason (s : Statuses) (block : String) : MissReason :=
  match s.values.find? fun status => status.contextName = block with
  | some status =>
    match status.outcome with
    | .started => .notRegistered
    | .failed f => .blockFailed f
  | none => if s.isEmpty then .noBlocks else .unknownBlock (s.values.map (·.contextName))

/-- the message about a missing entry -/
def MissReason.message (block entry : String) (reason : MissReason) : String :=
  s!"Unable to invoke '{entry}': " ++
    match reason with
    | notRegistered =>
      "service is not registered in the local service directory of deployment block '" ++ block ++
        "'. Check that the service implementation is registered when the block starts."
    | blockFailed f =>
      s!"deployment block '{block}' failed to start: " ++ f.message ++ ". See the error cause for details."
    | noBlocks =>
      s!"deployment block '{block}' is not registered. No deployment blocks are registered in this process. " ++
        "Possible causes:\nlocal service invocation enabled for a deployment that does not support it,\n" ++
        "or the target block is not deployed."
    | unknownBlock known =>
      s!"deployment block '{block}' is not registered. Registered deployment blocks are: " ++
        ", ".intercalate (known.map fun c => "'" ++ c ++ "'") ++
        ". Possible causes:\n'" ++ Properties.connectionUrlList ++
        "' property value not ending with the actual context name of the target block, e.g. '" ++
        Properties.connectionUrlList ++ " = http://localhost:8080/" ++ known.headD "" ++
        "',\nor incorrect context name configured for the target block."

/-- the failure that explains a missing entry -/
def MissReason.cause : MissReason → Option CapturedFailure
  | blockFailed f => some f
  | _ => none

/-- the error of a call to a missing entry of a target block -/
def accessError (s : Statuses) (block entry : String) : InvocationError :=
  let reason := s.missReason block
  .localAccess (reason.message block entry) reason.cause

end Statuses

end Loopback
