/-
The record of one call.

An `Invocation` names the method, lists each argument with its declared type, and carries the session attributes of
the caller. An argument is a payload, a value by reference, or null. The calling side builds the record; the receiving
side checks it against the signature of its method and reads or takes the arguments. A `Taker` keeps the record also
when it fails, so that what a failed attempt leaves behind can be stated.
-/
import Loopback.Codec
import Loopback.Session

namespace Loopback

/-! ## Model -/

/-- how an argument is passed -/
inductive Slot where
  | payload (bytes : Bytes)
  | reference (value : BypassValue)
  | null

/-- an argument with its declared type -/
structure Argument where
  typeName : String
  slot : Slot

/-- the record of one call -/
structure Invocation where
  method : String
  arguments : List Argument
  /-- whether the caller expects the result by reference -/
  resultByReference : Bool
  sessionId : Option Uuid
  attributes : Attributes

/-- how the receiving side answered -/
inductive InvocationResult where
  | value (bytes : Bytes)
  | reference (value : BypassValue)
  /-- an encoded failure envelope -/
  | failure (bytes : Bytes)

def InvocationResult.isFailure : InvocationResult → Bool
  | failure _ => true
  | _ => false

namespace Invocation

/-! ## Building -/

/-- an empty record -/
def start (method : String) : Invocation := ⟨method, [], false, none, .absent⟩

/-- add an argument -/
def push (inv : Invocation) (typeName : String) (slot : Slot) : Invocation :=
  { inv with arguments := inv.arguments ++ [⟨typeName, slot⟩] }

/-- ask for the result by reference or serialized -/
def expectResult (inv : Invocation) (byReference : Bool) : Invocation :=
  { inv with resultByReference := byReference }

/-- attach the context of a caller: always the id, the attributes only if they belong to the request -/
def attach (inv : Invocation) (context : SecurityContext) : Invocation :=
  { inv with
    sessionId := some context.sessionId
    attributes := context.travelling.getD inv.attributes }

/-! ## Looking -/

/-- the declared types -/
def parameterTypes (inv : Invocation) : List String := inv.arguments.map (·.typeName)

/-- the number of arguments -/
def arity (inv : Invocation) : Nat := inv.arguments.length

/-- the slot of an argument -/
def slot? (inv : Invocation) (index : Nat) : Option Slot := inv.arguments[index]?.map (·.slot)

/-- the payload of an argument -/
def payload? (inv : Invocation) (index : Nat) : Option Bytes :=
  match inv.slot? index with
  | some (.payload bs) => some bs
  | _ => none

/-- whether an argument is passed by reference -/
def isReference (inv : Invocation) (index : Nat) : Bool :=
  match inv.slot? index with
  | some (.reference _) => true
  | _ => false

/-- whether an argument is null -/
def isNull (inv : Invocation) (index : Nat) : Bool :=
  match inv.slot? index with
  | some .null => true
  | _ => false

/-! ## Checking -/

/-- the word for a way to pass a result -/
def wayName (byReference : Bool) : String :=
  if byReference then "by reference" else "serialized"

/-- check the record against the signature of a method -/
def expectSignature (inv : Invocation) (types : List String) (resultByReference : Bool) :
    Except InvocationError Unit :=
  if inv.parameterTypes ≠ types then
    .error (.protocol (s!"method '{inv.method}' expects parameters (" ++ ", ".intercalate types ++
      ") but the invocation carries (" ++ ", ".intercalate inv.parameterTypes ++ ")"))
  else if inv.resultByReference ≠ resultByReference then
    .error (.protocol (s!"method '{inv.method}' returns its result " ++ wayName resultByReference ++
      " but the caller expects it " ++ wayName inv.resultByReference))
  else .ok ()

/-! ## Reading and taking arguments -/

/-- there is no such argument -/
def noArgument (inv : Invocation) (index : Nat) : InvocationError :=
  .protocol s!"method '{inv.method}' has no argument {index} (arity {inv.arity})"

/-- an argument is null and must not be -/
def nullArgument (inv : Invocation) (index : Nat) : InvocationError :=
  .protocol s!"argument {index} of '{inv.method}' is null but the parameter is not optional"

/-- read a serialized argument; null is absent -/
def optionalArgument (inv : Invocation) (codec : Codec) (t : Ty) (index : Nat) :
    Except InvocationError (Option t.Val) :=
  match inv.slot? index with
  | none => .error (inv.noArgument index)
  | some (.reference _) => .error (.protocol
      s!"argument {index} of '{inv.method}' was passed by reference but the parameter is serialized")
  | some (.payload bs) =>
    match codec.decode t bs with
    | .ok v => .ok (some v)
    | .error e => .error e.toInvocationError
  | some .null => .ok none

/-- read a serialized argument -/
def argument (inv : Invocation) (codec : Codec) (t : Ty) (index : Nat) : Except InvocationError t.Val :=
  match inv.optionalArgument codec t index with
  | .ok (some v) => .ok v
  | .ok none => .error (inv.nullArgument index)
  | .error e => .error e

/-- a step that may take arguments out of the record -/
abbrev Taker := ExceptT InvocationError (StateM Invocation)

/-- replace the slot of an argument -/
def setSlot (inv : Invocation) (index : Nat) (slot : Slot) : Invocation :=
  { inv with arguments := inv.arguments.modify index ({ · with slot := slot }) }

/-- take an argument by reference; null is absent, and a value of another type stays -/
def takeOptional (t : AnyTy) (index : Nat) : Taker (Option t.Val) := fun inv =>
  match inv.slot? index with
  | none => (.error (inv.noArgument index), inv)
  | some (.payload _) => (.error (.protocol
      s!"argument {index} of '{inv.method}' was serialized but the parameter is passed by reference"), inv)
  | some .null => (.ok none, inv)
  | some (.reference b) =>
    match b.downcast t with
    | some v => (.ok (some v), inv.setSlot index .null)
    | none => (.error (.protocol s!"argument {index} of '{inv.method}' is not a {t.name}"), inv)

/-- take an argument by reference -/
def take (t : AnyTy) (index : Nat) : Taker t.Val := do
  match ← takeOptional t index with
  | some v => return v
  | none => throw ((← get).nullArgument index)

/-- read from the record without changing it -/
def reading {α : Type} (f : Invocation → Except InvocationError α) : Taker α := fun inv => (f inv, inv)

end Invocation

end Loopback
