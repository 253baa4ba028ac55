/-
Types of declared errors.

The error type of a method can be sent, can tell of itself, and can hold an error of the invocation layer.
-/
import Loopback.Ty

namespace Loopback

open Sample

/-- a type of declared errors -/
structure ErrorType where
  ty : Ty
  report : ty.Val → Report
  ofInvocation : InvocationError → ty.Val
  /-- the error of the invocation layer that an error holds -/
  held : ty.Val → Option InvocationError

namespace ErrorType

/-- the errors of a type -/
@[reducible] def Val (E : ErrorType) : Type := E.ty.Val

/-- errors of the invocation layer themselves -/
def invocation : ErrorType where
  ty := .invocationError
  report := InvocationError.report
  ofInvocation := id
  held := some

def user : ErrorType where
  ty := .userError
  report := UserError.report
  ofInvocation := .invocation
  held
    | .invocation e => some e
    | _ => none

def buffer : ErrorType where
  ty := .bufferError
  report := BufferError.report
  ofInvocation := .invocation
  held
    | .invocation e => some e
    | .missing => none

def calculator : ErrorType where
  ty := .calcError
  report := CalcError.report
  ofInvocation := .invocation
  held
    | .invocation e => some e
    | .divisionByZero => none

end ErrorType

end Loopback
