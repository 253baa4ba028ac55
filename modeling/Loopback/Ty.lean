/-
The types of values that travel.

`Ty` names every type that is sent as bytes and `Ty.Val` is the type of its values; `Ty.table` lists those that callers
name. `AnyTy` adds the shared objects, which only travel by reference; an object is known by its name.
-/
import Loopback.Sample.Records

namespace Loopback

open Sample

/-! ## Types sent as bytes -/

/-- a type that is sent as bytes -/
inductive Ty where
  | u8
  | u16
  | u32
  | u64
  | usize
  | i8
  | i16
  | i32
  | i64
  | bool
  | char
  | f32
  | f64
  | unit
  | text
  | list (elem : Ty)
  | option (elem : Ty)
  /-- a map from texts -/
  | map (elem : Ty)
  | pair (fst snd : Ty)
  | triple (fst snd thd : Ty)
  | user
  | account
  | shape
  | lazySeq
  | pairMap
  | userError
  | bufferError
  | calcError
  | capturedFailure
  | invocationError
  | remoteFailure
deriving DecidableEq, Repr

/-- the values of a type; floating-point numbers are their bits -/
@[reducible] def Ty.Val : Ty → Type
  | u8 => UInt8
  | u16 => UInt16
  | u32 => UInt32
  | u64 => UInt64
  | usize => UInt64
  | i8 => Int8
  | i16 => Int16
  | i32 => Int32
  | i64 => Int64
  | bool => Bool
  | char => Char
  | f32 => UInt32
  | f64 => UInt64
  | unit => Unit
  | text => String
  | list t => List t.Val
  | option t => Option t.Val
  | map t => Dict String t.Val
  | pair a b => a.Val × b.Val
  | triple a b c => a.Val × b.Val × c.Val
  | user => User
  | account => Account
  | shape => Shape
  | lazySeq => LazySeq
  | pairMap => PairMap
  | userError => UserError
  | bufferError => BufferError
  | calcError => CalcError
  | capturedFailure => CapturedFailure
  | invocationError => InvocationError
  | remoteFailure => RemoteFailure

/-- the name of a type, as records and messages show it -/
def Ty.name : Ty → String
  | u8 => "u8"
  | u16 => "u16"
  | u32 => "u32"
  | u64 => "u64"
  | usize => "usize"
  | i8 => "i8"
  | i16 => "i16"
  | i32 => "i32"
  | i64 => "i64"
  | bool => "bool"
  | char => "char"
  | f32 => "f32"
  | f64 => "f64"
  | unit => "()"
  | text => "alloc::string::String"
  | list t => "alloc::vec::Vec<" ++ t.name ++ ">"
  | option t => "core::option::Option<" ++ t.name ++ ">"
  | map t => "alloc::collections::btree::map::BTreeMap<alloc::string::String, " ++ t.name ++ ">"
  | pair a b => "(" ++ a.name ++ ", " ++ b.name ++ ")"
  | triple a b c => "(" ++ a.name ++ ", " ++ b.name ++ ", " ++ c.name ++ ")"
  | user => "driver::types::User"
  | account => "driver::types::Account"
  | shape => "driver::types::Shape"
  | lazySeq => "driver::types::LazySeq"
  | pairMap => "driver::types::PairMap"
  | userError => "driver::types::UserError"
  | bufferError => "driver::types::BufferError"
  | calcError => "driver::types::CalcError"
  | capturedFailure => "localrpc::error::CapturedFailure"
  | invocationError => "localrpc::error::InvocationError"
  | remoteFailure => "localrpc::failure::RemoteFailure"

/-- the types that callers name, by the names they give them; no value of another type comes in -/
def Ty.table : List (String × Ty) :=
  [("u8", .u8), ("u16", .u16), ("u32", .u32), ("u64", .u64), ("usize", .usize), ("i8", .i8), ("i16", .i16),
    ("i32", .i32), ("i64", .i64), ("bool", .bool), ("char", .char), ("f32", .f32), ("f64", .f64), ("()", .unit),
    ("String", .text), ("Vec<u8>", .list .u8), ("Vec<u64>", .list .u64), ("Vec<i64>", .list .i64),
    ("Vec<String>", .list .text), ("Vec<Vec<u8>>", .list (.list .u8)), ("Vec<Option<bool>>", .list (.option .bool)),
    ("Vec<User>", .list .user), ("Vec<Shape>", .list .shape), ("Option<u64>", .option .u64),
    ("Option<String>", .option .text), ("Option<Option<u8>>", .option (.option .u8)), ("Map", .map .i64),
    ("(u64, String)", .pair .u64 .text), ("(u8, i8, bool)", .triple .u8 .i8 .bool), ("User", .user),
    ("Account", .account), ("Shape", .shape), ("LazySeq", .lazySeq), ("PairMap", .pairMap), ("UserError", .userError),
    ("BufferError", .bufferError), ("CalcError", .calcError), ("CapturedFailure", .capturedFailure),
    ("InvocationError", .invocationError), ("RemoteFailure", .remoteFailure)]

/-- a type of arguments and results: sent as bytes, or a shared object -/
inductive AnyTy where
  | data (ty : Ty)
  | buffer
  | auditLog
deriving DecidableEq, Repr

/-- the values of a type; a shared object is its name -/
@[reducible] def AnyTy.Val : AnyTy → Type
  | data t => t.Val
  | buffer => String
  | auditLog => String

/-- the name of a type -/
def AnyTy.name : AnyTy → String
  | data t => t.name
  | buffer => "alloc::sync::Arc<driver::types::Buffer>"
  | auditLog => "alloc::sync::Arc<driver::types::AuditLog>"

/-- the name of the type of values that may be absent -/
def optionalName (inner : String) : String := "core::option::Option<" ++ inner ++ ">"

/-- a value that travels by reference, with its type -/
structure BypassValue where
  ty : AnyTy
  val : ty.Val

namespace BypassValue

/-- whether the value has a type -/
def isOf (b : BypassValue) (t : AnyTy) : Bool := b.ty = t

/-- the value as one of a type, if it is one -/
def downcast (b : BypassValue) (t : AnyTy) : Option t.Val :=
  if h : b.ty = t then some (h ▸ b.val) else none

/-- the text of any value that travels by reference -/
def display : String := "BypassValue(..)"

theorem downcast_self (t : AnyTy) (v : t.Val) : downcast ⟨t, v⟩ t = some v := by
  simp [downcast]

theorem downcast_eq_none_iff {b : BypassValue} {t : AnyTy} : b.downcast t = none ↔ b.ty ≠ t := by
  unfold downcast
  split <;> simp_all

end BypassValue

end Loopback
