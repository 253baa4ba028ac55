/-
Values as Postcard bytes.

One byte for `u8`, `i8` and `bool`; variable-length words for the larger integers; little-endian bits for
floating-point numbers; a length and the items for texts, lists and maps; a byte 0 or 1 before an optional value;
fields in order; the number of the variant before its content.
-/
import Loopback.Number.Varint
import Loopback.Ty

namespace Loopback.Postcard

open Sample

/-! ## Failures -/

/-- why a value has no bytes -/
inductive WriteError where
  /-- a list whose length is not announced -/
  | lengthUnknown
  /-- a variant without an encoding -/
  | noEncoding
deriving DecidableEq, Repr

def WriteError.message : WriteError → String
  | lengthUnknown => "The length of a sequence must be known"
  | noEncoding => "Serde Serialization Error"

/-! ## Parts -/

/-- an unsigned word -/
def word (n : Nat) : Bytes := Varint.write n

/-- a signed word -/
def signed (i : Int) : Bytes := Varint.write (Varint.zigzag i)

/-- the lowest `k` bytes of a number, the lowest first -/
def littleEndian : (k n : Nat) → Bytes
  | 0, _ => []
  | k + 1, n => UInt8.ofNat n :: littleEndian k (n / 256)

def text (s : String) : Bytes :=
  let bs := Text.utf8 s
  word bs.length ++ bs

def option {α : Type} (f : α → Bytes) : Option α → Bytes
  | none => [0]
  | some a => 1 :: f a

def list {α : Type} (f : α → Bytes) (l : List α) : Bytes :=
  word l.length ++ l.flatMap f

def map {α : Type} (f : α → Bytes) (d : Dict String α) : Bytes :=
  list (fun e => text e.1 ++ f e.2) d.entries

/-- a chain: an item, and an optional rest -/
def chain {α : Type} (f : α → Bytes) : α → List α → Bytes
  | a, [] => f a ++ [0]
  | a, b :: r => f a ++ 1 :: chain f b r

/-! ## Records and errors -/

def user (u : User) : Bytes := word u.id.toNat ++ text u.name

def holding (h : Holding) : Bytes :=
  word h.id.toNat ++ text h.owner ++ signed h.balance.toInt ++ list text h.tags ++
    map (fun n => word n.toNat) h.limits

def shape : Shape → Bytes
  | .empty => word 0
  | .circle r => word 1 ++ word r.toNat
  | .rect w h => word 2 ++ signed w.toInt ++ signed h.toInt
  | .named name sides => word 3 ++ text name ++ option (fun n => [n]) sides

def link (l : Link) : Bytes := text l.typeName ++ text l.message

def capturedFailure (f : CapturedFailure) : Bytes := chain link f.head f.sources

def remoteCause (c : RemoteCause) : Bytes :=
  text c.typeName ++ text c.message ++ option (list fun b => [b]) c.declared

def remoteFailure (f : RemoteFailure) : Bytes :=
  text f.typeName ++ text f.message ++ list remoteCause f.causes

def invocationError : InvocationError → Bytes
  | .configuration m => word 0 ++ text m
  | .localAccess m cause => word 1 ++ text m ++ option capturedFailure cause
  | .remote f => word 2 ++ remoteFailure f
  | .codec m => word 3 ++ text m
  | .protocol m => word 4 ++ text m

def userError : UserError → Except WriteError Bytes
  | .notFound id => .ok (word 0 ++ word id.toNat)
  | .rejected name reason => .ok (word 1 ++ text name ++ text reason)
  | .importFailed file source => .ok (word 2 ++ text file ++ capturedFailure source)
  | .invocation e => .ok (word 3 ++ invocationError e)
  | .secret => .error .noEncoding

def bufferError : BufferError → Bytes
  | .missing => word 0
  | .invocation e => word 1 ++ invocationError e

def calcError : CalcError → Bytes
  | .divisionByZero => word 0
  | .invocation e => word 1 ++ invocationError e

/-! ## Values -/

/-- the bytes of items one after the other -/
def writeEach {α : Type} (f : α → Except WriteError Bytes) : List α → Except WriteError Bytes
  | [] => .ok []
  | a :: r => do
    let bs ← f a
    let rest ← writeEach f r
    return bs ++ rest

/-- the bytes of a value -/
def write : (t : Ty) → t.Val → Except WriteError Bytes
  | .u8, n => .ok [n]
  | .u16, n => .ok (word n.toNat)
  | .u32, n => .ok (word n.toNat)
  | .u64, n => .ok (word n.toNat)
  | .usize, n => .ok (word n.toNat)
  | .i8, i => .ok [i.toUInt8]
  | .i16, i => .ok (signed i.toInt)
  | .i32, i => .ok (signed i.toInt)
  | .i64, i => .ok (signed i.toInt)
  | .bool, b => .ok [if b then 1 else 0]
  | .char, c => .ok (text c.toString)
  | .f32, n => .ok (littleEndian 4 n.toNat)
  | .f64, n => .ok (littleEndian 8 n.toNat)
  | .unit, _ => .ok []
  | .text, s => .ok (text s)
  | .list t, l => do
    let bs ← writeEach (write t) l
    return word l.length ++ bs
  | .option _, none => .ok [0]
  | .option t, some a => do
    let bs ← write t a
    return 1 :: bs
  | .map t, d => do
    let bs ← writeEach (fun e => do
      let bs ← write t e.2
      return text e.1 ++ bs) d.entries
    return word d.size ++ bs
  | .pair a b, (x, y) => do
    let bs ← write a x
    let cs ← write b y
    return bs ++ cs
  | .triple a b c, (x, y, z) => do
    let bs ← write a x
    let cs ← write b y
    let ds ← write c z
    return bs ++ cs ++ ds
  | .user, u => .ok (user u)
  | .account, a => .ok (chain holding a.own a.parents)
  | .shape, s => .ok (shape s)
  | .lazySeq, _ => .error .lengthUnknown
  | .pairMap, m => .ok (list (fun e => [e.1.1, e.1.2, e.2]) m.entries.entries)
  | .userError, e => userError e
  | .bufferError, e => .ok (bufferError e)
  | .calcError, e => .ok (calcError e)
  | .capturedFailure, f => .ok (capturedFailure f)
  | .invocationError, e => .ok (invocationError e)
  | .remoteFailure, f => .ok (remoteFailure f)

end Loopback.Postcard
