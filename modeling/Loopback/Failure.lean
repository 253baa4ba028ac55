/-
What goes wrong, and how it is told.

- `Report`: what any error says of itself: the name of its type, its message, and the messages of its sources.
- `CapturedFailure`: a snapshot of a report, kept in the status of a block that failed to start.
- `RemoteFailure`: the envelope in which the receiving side reports a failure. When the service returned its declared
  error, the envelope is a remote exception and its first cause carries that error encoded.
- `InvocationError`: every failure of the invocation layer itself, with its kind, its message and its sources.
-/
import Loopback.Text.Utf8

namespace Loopback

/-! ## Reports -/

/-- what an error says of itself; the sources go from the nearest to the deepest -/
structure Report where
  typeName : String
  message : String
  sources : List String
deriving DecidableEq, Repr

/-- the type name of an error whose type is not known -/
def erasedTypeName : String := "dyn Error"

/-! ## Captured failures -/

/-- one link of a captured chain -/
structure Link where
  typeName : String
  message : String
deriving DecidableEq, Repr

/-- a snapshot of an error and its chain of sources -/
structure CapturedFailure where
  head : Link
  sources : List Link
deriving DecidableEq, Repr

namespace CapturedFailure

/-- a snapshot without sources -/
def new (typeName message : String) : CapturedFailure := ⟨⟨typeName, message⟩, []⟩

/-- the failure and its sources, outermost first -/
def chain (f : CapturedFailure) : List Link := f.head :: f.sources

def typeName (f : CapturedFailure) : String := f.head.typeName

def message (f : CapturedFailure) : String := f.head.message

/-- what a captured failure says of itself -/
def report (f : CapturedFailure) : Report :=
  ⟨"localrpc::error::CapturedFailure", f.message, f.sources.map Link.message⟩

/-- capture an error whose type is not known -/
def ofErased (e : Report) : CapturedFailure :=
  ⟨⟨erasedTypeName, e.message⟩, e.sources.map (Link.mk erasedTypeName)⟩

/-- capture an error under the name of its type; the types of its sources are not known -/
def capture (e : Report) : CapturedFailure :=
  { ofErased e with head := ⟨e.typeName, e.message⟩ }

end CapturedFailure

/-! ## Remote failures -/

/-- one cause of a remote failure; `declared` is the encoded declared error -/
structure RemoteCause where
  typeName : String
  message : String
  declared : Option Bytes
deriving DecidableEq, Repr

/-- the envelope of a failure of the receiving side -/
structure RemoteFailure where
  typeName : String
  message : String
  causes : List RemoteCause
deriving DecidableEq, Repr

/-- what a panicking computation was thrown with -/
inductive Panic where
  | text (message : String)
  | other
deriving DecidableEq, Repr

/-- the message of a panic -/
def Panic.message : Panic → String
  | .text m => m
  | .other => "Box<dyn Any>"

namespace RemoteFailure

/-- the type name of envelopes that wrap a declared error -/
def remoteException : String := "localrpc::RemoteException"

/-- the type name of failures of a panicking service -/
def panicType : String := "panic"

/-- the type name of failures of the receiving side's own checks -/
def rejectedType : String := "localrpc::InvocationError"

/-- a failure without causes -/
def new (typeName message : String) : RemoteFailure := ⟨typeName, message, []⟩

/-- wrap a declared error whose encoding is `payload`, if it has one -/
def ofDeclared (e : Report) (payload : Option Bytes) : RemoteFailure where
  typeName := remoteException
  message := e.typeName ++ ": " ++ e.message
  causes := ⟨e.typeName, e.message, payload⟩ :: e.sources.map fun m => ⟨erasedTypeName, m, none⟩

/-- the failure of a panic -/
def ofPanic (p : Panic) : RemoteFailure := new panicType p.message

/-- the failure without its causes -/
def plain (f : RemoteFailure) : RemoteFailure := new f.typeName f.message

/-- whether the envelope wraps a declared error -/
def isRemoteException (f : RemoteFailure) : Bool := f.typeName == remoteException

/-- the encoded declared error: only the first cause of a remote exception counts -/
def firstDeclaredCause (f : RemoteFailure) : Option Bytes :=
  if f.isRemoteException then f.causes.head?.bind RemoteCause.declared else none

/-- the text of a failure -/
def display (f : RemoteFailure) : String := f.typeName ++ ": " ++ f.message

end RemoteFailure

/-! ## Errors of the invocation layer -/

/-- an error of the invocation layer -/
inductive InvocationError where
  /-- a required property or name is missing or malformed -/
  | configuration (message : String)
  /-- the directory has no invoker for the entry; the cause is the start failure of the target block -/
  | localAccess (message : String) (cause : Option CapturedFailure)
  /-- the receiving side failed with something other than a declared error -/
  | remote (failure : RemoteFailure)
  /-- a value could not be encoded or decoded -/
  | codec (message : String)
  /-- the record does not fit the method -/
  | protocol (message : String)
deriving DecidableEq, Repr

/-- the kinds of invocation errors -/
inductive FailureKind where
  | configuration
  | localAccess
  | remoteTransport
  | codec
  | protocol
deriving DecidableEq, Repr

/-- the name of a kind -/
def FailureKind.name : FailureKind → String
  | configuration => "Configuration"
  | localAccess => "LocalAccess"
  | remoteTransport => "RemoteTransport"
  | codec => "Codec"
  | protocol => "Protocol"

namespace InvocationError

def kind : InvocationError → FailureKind
  | configuration _ => .configuration
  | localAccess .. => .localAccess
  | remote _ => .remoteTransport
  | codec _ => .codec
  | protocol _ => .protocol

/-- whether the failure happened before any invoker ran -/
def isLocal : InvocationError → Bool
  | configuration _ => true
  | localAccess .. => true
  | _ => false

/-- the text of an error -/
def message : InvocationError → String
  | configuration m => "configuration error: " ++ m
  | localAccess m _ => m
  | remote f => f.display
  | codec m => "codec error: " ++ m
  | protocol m => "protocol error: " ++ m

/-- the texts of its sources -/
def sources : InvocationError → List String
  | localAccess _ (some f) => f.chain.map Link.message
  | remote f => [f.display]
  | _ => []

/-- what an invocation error says of itself -/
def report (e : InvocationError) : Report :=
  ⟨"localrpc::error::InvocationError", e.message, e.sources⟩

end InvocationError

/-- the failure of a record that the receiving side rejects -/
def RemoteFailure.ofRejection (e : InvocationError) : RemoteFailure := new rejectedType e.message

end Loopback
