/-
The sample value objects and the sample services' declared errors.

An account is kept with its chain of parents, the nearest first. Each declared error can carry an invocation error; it
then speaks with that error's voice.
-/
import Loopback.Dict
import Loopback.Failure

namespace Loopback.Sample

/-! ## Value objects -/

structure User where
  id : UInt64
  name : String
deriving DecidableEq, Repr

/-- the data of one account, without its parent -/
structure Holding where
  id : UInt64
  owner : String
  balance : Int64
  tags : List String
  limits : Dict String UInt32

/-- an account and its chain of parents -/
structure Account where
  own : Holding
  parents : List Holding

inductive Shape where
  | empty
  | circle (radius : UInt32)
  | rect (width height : Int32)
  | named (name : String) (sides : Option UInt8)
deriving DecidableEq, Repr

/-- numbers whose count is not announced when they are written -/
structure LazySeq where
  items : List UInt64
deriving DecidableEq, Repr

/-- a map whose keys are pairs -/
structure PairMap where
  entries : Dict (UInt8 × UInt8) UInt8

/-! ## Declared errors -/

inductive UserError where
  | notFound (id : UInt64)
  | rejected (name reason : String)
  | importFailed (file : String) (source : CapturedFailure)
  | invocation (error : InvocationError)
  /-- has no encoding -/
  | secret
deriving DecidableEq, Repr

inductive BufferError where
  | missing
  | invocation (error : InvocationError)
deriving DecidableEq, Repr

inductive CalcError where
  | divisionByZero
  | invocation (error : InvocationError)
deriving DecidableEq, Repr

/-- what a user error says of itself -/
def UserError.report (e : UserError) : Report where
  typeName := "driver::types::UserError"
  message := match e with
    | notFound id => s!"user {id} not found"
    | rejected name reason => s!"user name '{name}' rejected: {reason}"
    | importFailed file _ => s!"import of {file} failed"
    | invocation e => e.message
    | secret => "secret storage unavailable"
  sources := match e with
    | importFailed _ source => source.chain.map Link.message
    | invocation e => e.sources
    | _ => []

/-- what a buffer error says of itself -/
def BufferError.report (e : BufferError) : Report where
  typeName := "driver::types::BufferError"
  message := match e with
    | missing => "no buffer"
    | invocation e => e.message
  sources := match e with
    | missing => []
    | invocation e => e.sources

/-- what a calculator error says of itself -/
def CalcError.report (e : CalcError) : Report where
  typeName := "driver::types::CalcError"
  message := match e with
    | divisionByZero => "division by zero"
    | invocation e => e.message
  sources := match e with
    | divisionByZero => []
    | invocation e => e.sources

/-- an error made of a chain of messages, outermost first -/
def chainReport : List String → Report
  | [] => ⟨"driver::types::ChainError", "", []⟩
  | m :: sources => ⟨"driver::types::ChainError", m, sources⟩

end Loopback.Sample
