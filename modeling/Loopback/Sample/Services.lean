/-
The sample services: users, buffers and a calculator.

Their methods take and return values of every kind, by reference too, and fail in every way: with a declared error,
with one that has no encoding, and by a panic.
-/
import Loopback.Sample.State

namespace Loopback.Sample

variable {ι ρ : Type}


/-! ## Users -/

namespace Users

def count : Signature := ⟨"count", [], .value .u32, .user⟩

def create : Signature := ⟨"create", [⟨"name", .value .text⟩], .value .user, .user⟩

def find : Signature := ⟨"find", [⟨"id", .value .u64⟩], .value .user, .user⟩

def rename : Signature := ⟨"rename", [⟨"user", .value .user⟩, ⟨"name", .optional .text⟩], .value .user, .user⟩

def audit : Signature :=
  ⟨"audit", [⟨"log", .reference .auditLog⟩, ⟨"action", .value .text⟩], .value .usize, .user⟩

def crash : Signature := ⟨"crash", [⟨"message", .value .text⟩], .value .unit, .user⟩

def fail : Signature := ⟨"fail", [⟨"error", .value .userError⟩], .value .unit, .user⟩

def secret : Signature := ⟨"secret", [⟨"code", .value .u8⟩], .value .u64, .user⟩

/-- the interface of user services -/
def interface : List Signature := [count, create, find, rename, audit, crash, fail, secret]

/-- the name of the interface -/
def interfaceName : String := "UserService"

/-- a user service by its number -/
def service (n : Nat) : Service ι (Store × ρ) where
  interface := interfaceName
  methods := [
    ⟨count, fun _ => return .ok (.ofNat (← Run.users n).length)⟩,
    ⟨create, fun (name, _) => do
      if name = "" then return .error (.rejected name "empty")
      let users ← Run.users n
      let user : User := ⟨.ofNat (users.length + 1), name⟩
      Run.setUsers n (users ++ [user])
      return .ok user⟩,
    ⟨find, fun (id, _) => do
      match (← Run.users n).find? (·.id = id) with
      | some user => return .ok user
      | none => return .error (.notFound id)⟩,
    ⟨rename, fun (user, name, _) => return .ok { user with name := name.getD user.name }⟩,
    ⟨audit, fun (log, action, _) => do
      let entries := (← Run.audit log) ++ [action]
      Run.setAudit log entries
      return .ok (.ofNat entries.length)⟩,
    ⟨crash, fun (message, _) => Act.panic (.text message)⟩,
    ⟨fail, fun (error, _) => return .error error⟩,
    ⟨secret, fun (code, _) =>
      if code = 0 then return .error .secret
      else if code = 1 then Act.panic (.text "static text")
      else if code = 2 then Act.panic .other
      else return .ok code.toUInt64⟩]

end Users

/-! ## Buffers -/

namespace Buffers

def append : Signature :=
  ⟨"append", [⟨"buffer", .reference .buffer⟩, ⟨"data", .value (.list .u8)⟩], .value .usize, .buffer⟩

def maybeAppend : Signature :=
  ⟨"maybe_append", [⟨"buffer", .optionalReference .buffer⟩, ⟨"data", .value (.list .u8)⟩], .value .bool, .buffer⟩

def shared : Signature := ⟨"shared", [], .reference .buffer, .buffer⟩

def «open» : Signature := ⟨"open", [⟨"buffer", .optionalReference .buffer⟩], .reference .buffer, .buffer⟩

/-- the interface of buffer services -/
def interface : List Signature := [append, maybeAppend, shared, «open»]

/-- the name of the interface -/
def interfaceName : String := "io.Buffers"

/-- add bytes to a buffer; its new bytes -/
def extend (name : String) (data : Bytes) : Run ι ρ Bytes := do
  let bs := (← Run.buffer name) ++ data
  Run.setBuffer name bs
  return bs

/-- a buffer service with its shared buffer -/
def service (sharedBuffer : String) : Service ι (Store × ρ) where
  interface := interfaceName
  methods := [
    ⟨append, fun (buffer, data, _) => return .ok (.ofNat (← extend buffer data).length)⟩,
    ⟨maybeAppend, fun (buffer, data, _) => do
      match buffer with
      | none => return .ok false
      | some buffer => do
        let _ ← extend buffer data
        return .ok true⟩,
    ⟨shared, fun _ => return .ok sharedBuffer⟩,
    ⟨«open», fun (buffer, _) => return match buffer with
      | none => .error .missing
      | some buffer => .ok buffer⟩]

end Buffers

/-! ## The calculator -/

namespace Calculator

def add : Signature := ⟨"add", [⟨"a", .value .i32⟩, ⟨"b", .value .i32⟩], .value .i32, .calculator⟩

def divide : Signature := ⟨"divide", [⟨"a", .value .i32⟩, ⟨"b", .value .i32⟩], .value .i32, .calculator⟩

def describe : Signature := ⟨"describe", [⟨"label", .optional .text⟩], .value .text, .calculator⟩

def reset : Signature := ⟨"reset", [], .value .unit, .calculator⟩

/-- the interface of calculators -/
def interface : List Signature := [add, divide, describe, reset]

/-- the name of the interface -/
def interfaceName : String := "Calculator"

/-- a calculator: sums wrap around, quotients go toward zero -/
def service : Service ι (Store × ρ) where
  interface := interfaceName
  methods := [
    ⟨add, fun (a, b, _) => return .ok (a + b)⟩,
    ⟨divide, fun (a, b, _) =>
      if b = 0 then return .error .divisionByZero
      else if a = Int32.minValue ∧ b = -1 then Act.panic (.text "attempt to divide with overflow")
      else return .ok (a / b)⟩,
    ⟨describe, fun (label, _) => return .ok (label.getD "unnamed")⟩,
    ⟨reset, fun _ => return .ok ()⟩]

end Calculator

end Loopback.Sample
