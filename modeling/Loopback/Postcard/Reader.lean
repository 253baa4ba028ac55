/-
Values from Postcard bytes.

A reader takes bytes from the front and leaves the rest; what follows a value is ignored. Each fault is met at the
first byte that shows it. The bytes of a text are taken before they are examined, so a short input is reported as one.
-/
import Loopback.Postcard.Writer

namespace Loopback.Postcard

open Sample

/-! ## Faults -/

/-- why bytes are not a value -/
inductive ReadError where
  | endOfInput
  | badWord
  | badBool
  | badOption
  | badText
  | badChar
  | unknownVariant
deriving DecidableEq, Repr

def ReadError.message : ReadError → String
  | endOfInput => "Hit the end of buffer, expected more data"
  | badWord => "Found a varint that didn't terminate. Is the usize too big for this platform?"
  | badBool => "Found a bool that wasn't 0 or 1"
  | badOption => "Found an Option discriminant that wasn't 0 or 1"
  | badText => "Tried to parse invalid utf-8"
  | badChar => "Found an invalid unicode char"
  | unknownVariant => "Serde Deserialization Error"

/-- a reader of bytes -/
abbrev Reader := StateT Bytes (Except ReadError)

/-! ## Parts -/

/-- the next byte -/
def takeByte : Reader UInt8 := fun bs =>
  match bs with
  | [] => .error .endOfInput
  | b :: r => .ok (b, r)

/-- the next `n` bytes -/
def takeBytes (n : Nat) : Reader Bytes := fun bs =>
  if bs.length < n then .error .endOfInput else .ok (bs.take n, bs.drop n)

/-- an unsigned word of `bits` bits -/
def takeWord (bits : Nat) : Reader Nat := fun bs =>
  match Varint.read bits bs with
  | .ok r => .ok r
  | .error .endOfInput => .error .endOfInput
  | .error .tooLong => .error .badWord

/-- a signed word of `bits` bits -/
def takeSigned (bits : Nat) : Reader Int := return Varint.unzigzag (← takeWord bits)

/-- a length -/
def takeLength : Reader Nat := takeWord 64

/-- the number of bytes with the lowest first -/
def ofLittleEndian : Bytes → Nat
  | [] => 0
  | b :: r => b.toNat + 256 * ofLittleEndian r

def takeBool : Reader Bool := do
  match ← takeByte with
  | 0 => return false
  | 1 => return true
  | _ => throw .badBool

def takeText : Reader String := do
  let bs ← takeBytes (← takeLength)
  match Text.ofUtf8? bs with
  | some s => return s
  | none => throw .badText

/-- the first character of a text of at most four bytes -/
def takeChar : Reader Char := do
  let n ← takeLength
  if 4 < n then throw .badChar
  let bs ← takeBytes n
  match (Text.ofUtf8? bs).bind fun s => s.toList.head? with
  | some c => return c
  | none => throw .badChar

/-- whether an optional value follows -/
def takeFlag : Reader Bool := do
  match ← takeByte with
  | 0 => return false
  | 1 => return true
  | _ => throw .badOption

def takeOption {α : Type} (r : Reader α) : Reader (Option α) := do
  if ← takeFlag then return some (← r) else return none

/-- `n` items -/
def takeItems {α : Type} (r : Reader α) : Nat → Reader (List α)
  | 0 => return []
  | n + 1 => do
    let a ← r
    let rest ← takeItems r n
    return a :: rest

def takeList {α : Type} (r : Reader α) : Reader (List α) := do
  takeItems r (← takeLength)

/-- a map: a repeated key keeps its last value -/
def takeMap {α : Type} (r : Reader α) : Reader (Dict String α) :=
  return Dict.ofList (← takeList do
    let k ← takeText
    return (k, ← r))

/-- a chain of at most `fuel + 1` items -/
def takeLinks {α : Type} (r : Reader α) : Nat → Reader (α × List α)
  | 0 => throw .endOfInput
  | fuel + 1 => do
    let a ← r
    if ← takeFlag then
      let (b, rest) ← takeLinks r fuel
      return (a, b :: rest)
    else return (a, [])

/-- a chain; each item is followed by a byte, so there are no more items than bytes -/
def takeChain {α : Type} (r : Reader α) : Reader (α × List α) := fun bs =>
  takeLinks r (bs.length + 1) bs

/-- the number of a variant -/
def takeVariant : Reader Nat := takeWord 32

/-! ## Records and errors -/

def takeUser : Reader User := do
  let id ← takeWord 64
  let name ← takeText
  return ⟨.ofNat id, name⟩

def takeHolding : Reader Holding := do
  let id ← takeWord 64
  let owner ← takeText
  let balance ← takeSigned 64
  let tags ← takeList takeText
  let limits ← takeMap (return UInt32.ofNat (← takeWord 32))
  return ⟨.ofNat id, owner, .ofInt balance, tags, limits⟩

def takeAccount : Reader Account := do
  let (own, parents) ← takeChain takeHolding
  return ⟨own, parents⟩

def takeShape : Reader Shape := do
  match ← takeVariant with
  | 0 => return .empty
  | 1 => return .circle (.ofNat (← takeWord 32))
  | 2 => do
    let w ← takeSigned 32
    let h ← takeSigned 32
    return .rect (.ofInt w) (.ofInt h)
  | 3 => do
    let name ← takeText
    let sides ← takeOption takeByte
    return .named name sides
  | _ => throw .unknownVariant

def takeLink : Reader Link := do
  let typeName ← takeText
  let message ← takeText
  return ⟨typeName, message⟩

def takeCapturedFailure : Reader CapturedFailure := do
  let (head, sources) ← takeChain takeLink
  return ⟨head, sources⟩

def takeRemoteCause : Reader RemoteCause := do
  let typeName ← takeText
  let message ← takeText
  let declared ← takeOption (takeList takeByte)
  return ⟨typeName, message, declared⟩

def takeRemoteFailure : Reader RemoteFailure := do
  let typeName ← takeText
  let message ← takeText
  let causes ← takeList takeRemoteCause
  return ⟨typeName, message, causes⟩

def takeInvocationError : Reader InvocationError := do
  match ← takeVariant with
  | 0 => return .configuration (← takeText)
  | 1 => do
    let message ← takeText
    let cause ← takeOption takeCapturedFailure
    return .localAccess message cause
  | 2 => return .remote (← takeRemoteFailure)
  | 3 => return .codec (← takeText)
  | 4 => return .protocol (← takeText)
  | _ => throw .unknownVariant

def takeUserError : Reader UserError := do
  match ← takeVariant with
  | 0 => return .notFound (.ofNat (← takeWord 64))
  | 1 => do
    let name ← takeText
    let reason ← takeText
    return .rejected name reason
  | 2 => do
    let file ← takeText
    let source ← takeCapturedFailure
    return .importFailed file source
  | 3 => return .invocation (← takeInvocationError)
  | _ => throw .unknownVariant

def takeBufferError : Reader BufferError := do
  match ← takeVariant with
  | 0 => return .missing
  | 1 => return .invocation (← takeInvocationError)
  | _ => throw .unknownVariant

def takeCalcError : Reader CalcError := do
  match ← takeVariant with
  | 0 => return .divisionByZero
  | 1 => return .invocation (← takeInvocationError)
  | _ => throw .unknownVariant

/-! ## Values -/

/-- read a value and leave the bytes after it -/
def take : (t : Ty) → Reader t.Val
  | .u8 => takeByte
  | .u16 => return UInt16.ofNat (← takeWord 16)
  | .u32 => return UInt32.ofNat (← takeWord 32)
  | .u64 => return UInt64.ofNat (← takeWord 64)
  | .usize => return UInt64.ofNat (← takeWord 64)
  | .i8 => return (← takeByte).toInt8
  | .i16 => return Int16.ofInt (← takeSigned 16)
  | .i32 => return Int32.ofInt (← takeSigned 32)
  | .i64 => return Int64.ofInt (← takeSigned 64)
  | .bool => takeBool
  | .char => takeChar
  | .f32 => return UInt32.ofNat (ofLittleEndian (← takeBytes 4))
  | .f64 => return UInt64.ofNat (ofLittleEndian (← takeBytes 8))
  | .unit => return ()
  | .text => takeText
  | .list t => takeList (take t)
  | .option t => takeOption (take t)
  | .map t => takeMap (take t)
  | .pair a b => do
    let x ← take a
    let y ← take b
    return (x, y)
  | .triple a b c => do
    let x ← take a
    let y ← take b
    let z ← take c
    return (x, y, z)
  | .user => takeUser
  | .account => takeAccount
  | .shape => takeShape
  | .lazySeq => return ⟨← takeList (return UInt64.ofNat (← takeWord 64))⟩
  | .pairMap => return ⟨Dict.ofList (← takeList do
      let a ← takeByte
      let b ← takeByte
      let v ← takeByte
      return ((a, b), v))⟩
  | .userError => takeUserError
  | .bufferError => takeBufferError
  | .calcError => takeCalcError
  | .capturedFailure => takeCapturedFailure
  | .invocationError => takeInvocationError
  | .remoteFailure => takeRemoteFailure

/-- the value at the front of bytes -/
def read (t : Ty) (bs : Bytes) : Except ReadError t.Val :=
  (take t bs).map (·.1)

end Loopback.Postcard
