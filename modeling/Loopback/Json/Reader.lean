/-
Values from JSON text, read under the guidance of their type.

An integer must be written as one and lie in its range. A record is an object (members that are not its own are
skipped, an optional one may be missing) or an array of its fields in order. A variant is its name, or an object with
its name as the only key. Lists and objects nest at most `maxDepth` deep. What is met first from the left is reported.
-/
import Loopback.Json.Scan
import Loopback.Ty

namespace Loopback.Json

open Sample Scanner

/-- the deepest nesting of lists and objects -/
def maxDepth : Nat := 127

/-! ## Wrong types -/

/-- the text of a number in a message -/
def Numeral.display : Numeral → String
  | natural n => s!"integer `{n}`"
  | negative i => s!"integer `{i}`"
  | float x => "floating point `" ++ (Shortest.text? Shortest.double x.toBits.toNat).getD "null" ++ "`"

/-- refuse a value of another type -/
def wrongType {α : Type} (found expected : String) : Scanner α :=
  failMeaning s!"invalid type: {found}, expected {expected}"

/-- refuse a value outside of a type -/
def wrongValue {α : Type} (found expected : String) : Scanner α :=
  failMeaning s!"invalid value: {found}, expected {expected}"

/-- refuse the next value, which starts with the byte `b` -/
def refuse {α : Type} (b : UInt8) (expected : String) : Scanner α := located do
  match b with
  | 0x6e => do eat; expectRest [0x75, 0x6c, 0x6c]; wrongType "null" expected
  | 0x74 => do eat; expectRest [0x72, 0x75, 0x65]; wrongType "boolean `true`" expected
  | 0x66 => do eat; expectRest [0x61, 0x6c, 0x73, 0x65]; wrongType "boolean `false`" expected
  | 0x2d => do
    eat
    let n ← numeral false
    wrongType n.display expected
  | 0x22 => do
    eat
    let s ← textRest
    wrongType ("string " ++ Text.quoted s) expected
  | 0x5b => wrongType "sequence" expected
  | 0x7b => wrongType "map" expected
  | _ => do
    if isDigit b then
      let n ← numeral true
      wrongType n.display expected
    else failNext .expectedValue

/-- look at the first byte of a value -/
def firstByte : Scanner UInt8 := do
  match ← peekToken with
  | some b => return b
  | none => failNext .endOfValue

/-! ## Single values -/

/-- a number, as `visit` takes it -/
def takeNumber {α : Type} (expected : String) (visit : Numeral → Scanner α) : Scanner α := do
  let b ← firstByte
  if b == 0x2d then located do
    eat
    visit (← numeral false)
  else if isDigit b then located do
    visit (← numeral true)
  else refuse b expected

/-- a natural number of `bits` bits -/
def takeNatural (expected : String) (bits : Nat) : Scanner Nat :=
  takeNumber expected fun
    | .natural n => if n < Nat.pow 2 bits then return n else wrongValue (Numeral.natural n).display expected
    | .negative i => wrongValue (Numeral.negative i).display expected
    | .float x => wrongType (Numeral.float x).display expected

/-- an integer of `bits` bits -/
def takeInteger (expected : String) (bits : Nat) : Scanner Int :=
  takeNumber expected fun
    | .natural n => if n < Nat.pow 2 (bits - 1) then return n else wrongValue (Numeral.natural n).display expected
    | .negative i =>
      if -(Nat.pow 2 (bits - 1) : Int) ≤ i then return i else wrongValue (Numeral.negative i).display expected
    | .float x => wrongType (Numeral.float x).display expected

/-- the bits of a floating-point number of 64 bits -/
def takeDouble : Scanner UInt64 :=
  takeNumber "f64" fun
    | .natural n => return n.toUInt64.toFloat.toBits
    | .negative i => return (-i.natAbs.toUInt64.toFloat).toBits
    | .float x => return x.toBits

/-- the bits of a floating-point number of 32 bits -/
def takeSingle : Scanner UInt32 :=
  takeNumber "f32" fun
    | .natural n => return n.toUInt64.toFloat32.toBits
    | .negative i => return (-i.natAbs.toUInt64.toFloat32).toBits
    | .float x => return x.toFloat32.toBits

def takeBool : Scanner Bool := do
  match ← firstByte with
  | 0x74 => do eat; expectRest [0x72, 0x75, 0x65]; return true
  | 0x66 => do eat; expectRest [0x61, 0x6c, 0x73, 0x65]; return false
  | b => refuse b "a boolean"

def takeUnit : Scanner Unit := do
  match ← firstByte with
  | 0x6e => do eat; expectRest [0x75, 0x6c, 0x6c]
  | b => refuse b "unit"

/-- a text, as `visit` takes it -/
def takeTextAs {α : Type} (expected : String) (visit : String → Scanner α) : Scanner α := do
  match ← firstByte with
  | 0x22 => located do
    eat
    visit (← textRest)
  | b => refuse b expected

def takeText : Scanner String := takeTextAs "a string" fun s => return s

def takeChar : Scanner Char :=
  takeTextAs "a character" fun s =>
    match s.toList with
    | [c] => return c
    | _ => wrongValue ("string " ++ Text.quoted s) "a character"

def takeOption {α : Type} (s : Scanner α) : Scanner (Option α) := do
  match ← peekToken with
  | some 0x6e => do
    eat
    expectRest [0x75, 0x6c, 0x6c]
    return none
  | _ => return some (← s)

/-! ## Lists -/

/-- whether another item of a list follows -/
def nextItem (first : Bool) : Scanner Bool := do
  match ← peekToken with
  | none => failNext .endOfList
  | some 0x5d => return false
  | some b =>
    if first then return true
    else if b == 0x2c then do
      eat
      match ← peekToken with
      | some 0x5d => failNext .trailingComma
      | some _ => return true
      | none => failNext .endOfValue
    else failNext .expectedListEnd

/-- the end of a list -/
def endList : Scanner Unit := do
  match ← peekToken with
  | some 0x5d => eat
  | some 0x2c => do
    eat
    match ← peekToken with
    | some 0x5d => failNext .trailingComma
    | _ => failNext .trailingCharacters
  | some _ => failNext .trailingCharacters
  | none => failNext .endOfList

/-- something between delimiters, where `room` more levels may open -/
def enclosed {α : Type} (room : Nat) (body : Scanner α) (closing : Scanner Unit) : Scanner α := do
  if room = 0 then failNext .tooDeep
  located (andThen (do eat; body) closing)

/-- the items of a list; each takes a byte -/
def listItems {α : Type} (s : Scanner α) : (fuel : Nat) → (first : Bool) → Scanner (List α)
  | 0, _ => return []
  | fuel + 1, first => do
    if ← nextItem first then
      let a ← s
      let more ← listItems s fuel false
      return a :: more
    else return []

/-- a list in brackets, given the reader of what is inside -/
def takeArray {α : Type} (room : Nat) (expected : String) (body : Scanner α) : Scanner α := do
  match ← firstByte with
  | 0x5b => enclosed room body endList
  | b => refuse b expected

def takeList {α : Type} (room : Nat) (s : Scanner α) : Scanner (List α) :=
  takeArray room "a sequence" do listItems s ((← rest).length + 1) true

/-- the item at a place of a tuple of `expected` -/
def takePlace {α : Type} (place : Nat) (expected : String) (s : Scanner α) : Scanner α := do
  if ← nextItem (place == 0) then s
  else failMeaning s!"invalid length {place}, expected {expected}"

/-! ## Objects -/

/-- whether another member of an object follows -/
def nextMember (first : Bool) : Scanner Bool := do
  match ← peekToken with
  | none => failNext .endOfObject
  | some 0x7d => return false
  | some b =>
    if first then if b == 0x22 then return true else failNext .keyNotText
    else if b == 0x2c then do
      eat
      match ← peekToken with
      | some 0x22 => return true
      | some 0x7d => failNext .trailingComma
      | some _ => failNext .keyNotText
      | none => failNext .endOfValue
    else failNext .expectedObjectEnd

/-- the end of an object -/
def endObject : Scanner Unit := do
  match ← peekToken with
  | some 0x7d => eat
  | some 0x2c => failNext .trailingComma
  | some _ => failNext .trailingCharacters
  | none => failNext .endOfObject

/-- the colon after a key -/
def colon : Scanner Unit := do
  match ← peekToken with
  | some 0x3a => eat
  | some _ => failNext .expectedColon
  | none => failNext .endOfObject

/-- a key -/
def takeKey : Scanner String := do
  eat
  textRest

/-- the members of an object; each takes a byte -/
def mapMembers {κ α : Type} (key : Scanner κ) (s : Scanner α) :
    (fuel : Nat) → (first : Bool) → Scanner (List (κ × α))
  | 0, _ => return []
  | fuel + 1, first => do
    if ← nextMember first then
      let k ← key
      colon
      let a ← s
      let more ← mapMembers key s fuel false
      return (k, a) :: more
    else return []

/-- an object as a map: a repeated key keeps its last value -/
def takeMap {κ α : Type} [Key κ] (room : Nat) (key : Scanner κ) (s : Scanner α) : Scanner (Dict κ α) := do
  match ← firstByte with
  | 0x7b => enclosed room (do return Dict.ofList (← mapMembers key s ((← rest).length + 1) true)) endObject
  | b => refuse b "a map"

/-! ## Records -/

/-- the fields of a record in order, each with the value it has when it is missing, if it may be -/
inductive Fields : Type → Type 1 where
  | done : Fields Unit
  | field {α β : Type} (name : String) (read : Scanner α) (absent : Option α) (more : Fields β) : Fields (α × β)

namespace Fields

/-- what has been read of each field -/
def Slots : {α : Type} → Fields α → Type
  | _, done => Unit
  | _, @field α _ _ _ _ more => Option α × more.Slots

/-- nothing read -/
def unread : {α : Type} → (f : Fields α) → f.Slots
  | _, done => ()
  | _, field _ _ _ more => (none, more.unread)

/-- read the value of a key into its slot, or nothing if it is no field -/
def put : {α : Type} → (f : Fields α) → (key : String) → f.Slots → Scanner (Option f.Slots)
  | _, done, _, _ => return none
  | _, @field α _ name read _ more, key, s => do
    let (slot, slots) := (show Option α × more.Slots from s)
    if key = name then
      if slot.isSome then failMeaning s!"duplicate field `{name}`"
      colon
      let a ← read
      return some (some a, slots)
    else
      match ← put more key slots with
      | some slots => return some (slot, slots)
      | none => return none

/-- the record of its slots -/
def close : {α : Type} → (f : Fields α) → f.Slots → Scanner α
  | _, done, _ => return ()
  | _, @field α _ name _ absent more, s => do
    let (slot, slots) := (show Option α × more.Slots from s)
    match slot.or absent with
    | some a => return (a, ← more.close slots)
    | none => failMeaning s!"missing field `{name}`"

/-- the number of fields -/
def count : {α : Type} → Fields α → Nat
  | _, done => 0
  | _, field _ _ _ more => more.count + 1

/-- the fields as an array from a place on -/
def ofArray (expected : String) : {α : Type} → (f : Fields α) → (place : Nat) → Scanner α
  | _, done, _ => return ()
  | _, field _ read _ more, place => do
    let a ← takePlace place expected read
    let rest ← ofArray expected more (place + 1)
    return (a, rest)

/-- the fields as the members of an object; each takes a byte -/
def ofMembers {α : Type} (f : Fields α) : (fuel : Nat) → (first : Bool) → f.Slots → Scanner f.Slots
  | 0, _, slots => return slots
  | fuel + 1, first, slots => do
    if ← nextMember first then
      let key ← takeKey
      match ← f.put key slots with
      | some slots => ofMembers f fuel false slots
      | none => do
        colon
        skipValue
        ofMembers f fuel false slots
    else return slots

end Fields

/-- how many elements are expected -/
def elements (n : Nat) : String :=
  if n = 1 then "1 element" else s!"{n} elements"

/-- a record: an object or an array of its fields -/
def takeRecord {α : Type} (room : Nat) (expected : String) (f : Fields α) : Scanner α := do
  match ← firstByte with
  | 0x5b => enclosed room (f.ofArray (expected ++ " with " ++ elements f.count) 0) endList
  | 0x7b => enclosed room (do f.close (← f.ofMembers ((← rest).length + 1) true f.unread)) endObject
  | b => refuse b expected

/-! ## Variants -/

/-- names between quotes, as alternatives -/
def alternatives : List String → String
  | [] => "there are no variants"
  | [a] => s!"expected `{a}`"
  | [a, b] => s!"expected `{a}` or `{b}`"
  | l => "expected one of " ++ ", ".intercalate (l.map fun a => "`" ++ a ++ "`")

/-- the place of a name among the names of variants -/
def takeVariantName (names : List String) : Scanner Nat :=
  takeTextAs "variant identifier" fun s =>
    match names.findIdx? (· == s) with
    | some i => return i
    | none => failMeaning s!"unknown variant `{s}`, {alternatives names}"

/-- the content of a variant: the name stands alone, or the content is read where `room` more levels may open -/
inductive Content where
  | alone
  | keyed (room : Nat)

/-- a variant without content -/
def Content.unit : Content → Scanner Unit
  | alone => return ()
  | keyed _ => takeUnit

/-- a variant with content of a kind -/
def Content.take {α : Type} (kind : String) (s : Nat → Scanner α) : Content → Scanner α
  | alone => wrongType "unit variant" kind
  | keyed room => s room

/-- a variant: its name, or an object with its name as the only key -/
def takeVariant {α : Type} (room : Nat) (names : List String) (body : Nat → Content → Scanner α) : Scanner α := do
  match ← firstByte with
  | 0x22 => do
    let i ← takeVariantName names
    body i .alone
  | 0x7b => do
    if room = 0 then failNext .tooDeep
    eat
    let i ← takeVariantName names
    colon
    let a ← body i (.keyed (room - 1))
    match ← peekToken with
    | some 0x7d => do
      eat
      return a
    | some _ => failHere .expectedValue
    | none => failHere .endOfObject
  | _ => failNext .expectedValue

/-! ## Records and errors of the universe -/

def takeUser (room : Nat) : Scanner User := do
  let (id, name, _) ← takeRecord room "struct User"
    (.field "id" (takeNatural "u64" 64) none (.field "name" takeText none .done))
  return ⟨.ofNat id, name⟩

/-- the fields of an account, given the reader of its parent; `room` more levels may open inside -/
def accountFields (room : Nat) (parent : Scanner Account) :
    Fields (Nat × String × Int × List String × Dict String Nat × Option Account × Unit) :=
  .field "id" (takeNatural "u64" 64) none
    (.field "owner" takeText none
      (.field "balance" (takeInteger "i64" 64) none
        (.field "tags" (takeList room takeText) none
          (.field "limits" (takeMap room takeKey (takeNatural "u32" 32)) none
            (.field "parent" (takeOption parent) (some none) .done)))))

/-- a map with every value replaced -/
def mapValues {α β : Type} (f : α → β) (d : Dict String α) : Dict String β where
  entries := d.entries.map fun e => (e.1, f e.2)
  sorted := List.pairwise_map.2 d.sorted

/-- an account of what its fields hold -/
def toAccount : Nat × String × Int × List String × Dict String Nat × Option Account × Unit → Account
  | (id, owner, balance, tags, limits, parent, _) =>
    ⟨⟨.ofNat id, owner, .ofInt balance, tags, mapValues UInt32.ofNat limits⟩,
      match parent with
      | none => []
      | some a => a.own :: a.parents⟩

def takeAccount : (room : Nat) → Scanner Account
  | 0 => return toAccount (← takeRecord 0 "struct Account" (accountFields 0 (failNext .tooDeep)))
  | room + 1 => return toAccount (← takeRecord (room + 1) "struct Account" (accountFields room (takeAccount room)))

def takeShape (room : Nat) : Scanner Shape :=
  takeVariant room ["Empty", "Circle", "Rect", "Named"] fun i content =>
    match i with
    | 0 => do
      content.unit
      return .empty
    | 1 => return .circle (.ofNat (← content.take "newtype variant" fun _ => takeNatural "u32" 32))
    | 2 => content.take "tuple variant" fun room => takeArray room "tuple variant Shape::Rect" do
      let expected := "tuple variant Shape::Rect with 2 elements"
      let w ← takePlace 0 expected (takeInteger "i32" 32)
      let h ← takePlace 1 expected (takeInteger "i32" 32)
      return .rect (.ofInt w) (.ofInt h)
    | _ => do
      let (name, sides, _) ← content.take "struct variant" fun room =>
        takeRecord room "struct variant Shape::Named"
          (.field "name" takeText none
            (.field "sides" (takeOption (takeNatural "u8" 8)) (some none) .done))
      return .named name (sides.map UInt8.ofNat)

/-- the fields of a captured failure, given the reader of its source -/
def capturedFields (source : Scanner CapturedFailure) : Fields (String × String × Option CapturedFailure × Unit) :=
  .field "type_name" takeText none
    (.field "message" takeText none
      (.field "source" (takeOption source) (some none) .done))

/-- a captured failure of what its fields hold -/
def toCapturedFailure : String × String × Option CapturedFailure × Unit → CapturedFailure
  | (typeName, message, source, _) =>
    ⟨⟨typeName, message⟩, match source with
      | none => []
      | some f => f.chain⟩

def takeCapturedFailure : (room : Nat) → Scanner CapturedFailure
  | 0 => return toCapturedFailure (← takeRecord 0 "struct CapturedFailure" (capturedFields (failNext .tooDeep)))
  | room + 1 => do
    let fields ← takeRecord (room + 1) "struct CapturedFailure" (capturedFields (takeCapturedFailure room))
    return toCapturedFailure fields

def takeBytes (room : Nat) : Scanner Bytes := takeList room (return UInt8.ofNat (← takeNatural "u8" 8))

def takeRemoteCause (room : Nat) : Scanner RemoteCause := do
  let (typeName, message, declared, _) ← takeRecord room "struct RemoteCause"
    (.field "type_name" takeText none
      (.field "message" takeText none
        (.field "declared" (takeOption (takeBytes (room - 1))) (some none) .done)))
  return ⟨typeName, message, declared⟩

def takeRemoteFailure (room : Nat) : Scanner RemoteFailure := do
  let (typeName, message, causes, _) ← takeRecord room "struct RemoteFailure"
    (.field "type_name" takeText none
      (.field "message" takeText none
        (.field "causes" (takeList (room - 1) (takeRemoteCause (room - 2))) none .done)))
  return ⟨typeName, message, causes⟩

def takeInvocationError (room : Nat) : Scanner InvocationError :=
  takeVariant room ["Configuration", "LocalServiceAccess", "Remote", "Codec", "Protocol"] fun i content =>
    match i with
    | 0 => return .configuration (← message "Configuration" content)
    | 1 => do
      let (message, cause, _) ← content.take "struct variant" fun room =>
        takeRecord room "struct variant InvocationError::LocalServiceAccess"
          (.field "message" takeText none
            (.field "cause" (takeOption (takeCapturedFailure (room - 1))) (some none) .done))
      return .localAccess message cause
    | 2 => return .remote (← content.take "newtype variant" takeRemoteFailure)
    | 3 => return .codec (← message "Codec" content)
    | _ => return .protocol (← message "Protocol" content)
where
  /-- the only field of a variant -/
  message (name : String) (content : Content) : Scanner String := do
    let (message, _) ← content.take "struct variant" fun room =>
      takeRecord room ("struct variant InvocationError::" ++ name) (.field "message" takeText none .done)
    return message

def takeUserError (room : Nat) : Scanner UserError :=
  takeVariant room ["NotFound", "Rejected", "Import", "Invocation"] fun i content =>
    match i with
    | 0 => return .notFound (.ofNat (← content.take "newtype variant" fun _ => takeNatural "u64" 64))
    | 1 => do
      let (name, reason, _) ← content.take "struct variant" fun room =>
        takeRecord room "struct variant UserError::Rejected"
          (.field "name" takeText none (.field "reason" takeText none .done))
      return .rejected name reason
    | 2 => do
      let (file, source, _) ← content.take "struct variant" fun room =>
        takeRecord room "struct variant UserError::Import"
          (.field "file" takeText none (.field "source" (takeCapturedFailure (room - 1)) none .done))
      return .importFailed file source
    | _ => return .invocation (← content.take "newtype variant" takeInvocationError)

def takeBufferError (room : Nat) : Scanner BufferError :=
  takeVariant room ["Missing", "Invocation"] fun i content =>
    match i with
    | 0 => do
      content.unit
      return .missing
    | _ => return .invocation (← content.take "newtype variant" takeInvocationError)

def takeCalcError (room : Nat) : Scanner CalcError :=
  takeVariant room ["DivisionByZero", "Invocation"] fun i content =>
    match i with
    | 0 => do
      content.unit
      return .divisionByZero
    | _ => return .invocation (← content.take "newtype variant" takeInvocationError)

/-! ## Values -/

/-- a value of a type, where `room` more levels may open -/
def take (room : Nat) : (t : Ty) → Scanner t.Val
  | .u8 => return UInt8.ofNat (← takeNatural "u8" 8)
  | .u16 => return UInt16.ofNat (← takeNatural "u16" 16)
  | .u32 => return UInt32.ofNat (← takeNatural "u32" 32)
  | .u64 => return UInt64.ofNat (← takeNatural "u64" 64)
  | .usize => return UInt64.ofNat (← takeNatural "usize" 64)
  | .i8 => return Int8.ofInt (← takeInteger "i8" 8)
  | .i16 => return Int16.ofInt (← takeInteger "i16" 16)
  | .i32 => return Int32.ofInt (← takeInteger "i32" 32)
  | .i64 => return Int64.ofInt (← takeInteger "i64" 64)
  | .bool => takeBool
  | .char => takeChar
  | .f32 => takeSingle
  | .f64 => takeDouble
  | .unit => takeUnit
  | .text => takeText
  | .list t => takeList room (take (room - 1) t)
  | .option t => takeOption (take room t)
  | .map t => takeMap room takeKey (take (room - 1) t)
  | .pair a b => takeArray room "a tuple of size 2" do
    let x ← takePlace 0 "a tuple of size 2" (take (room - 1) a)
    let y ← takePlace 1 "a tuple of size 2" (take (room - 1) b)
    return (x, y)
  | .triple a b c => takeArray room "a tuple of size 3" do
    let x ← takePlace 0 "a tuple of size 3" (take (room - 1) a)
    let y ← takePlace 1 "a tuple of size 3" (take (room - 1) b)
    let z ← takePlace 2 "a tuple of size 3" (take (room - 1) c)
    return (x, y, z)
  | .user => takeUser room
  | .account => takeAccount room
  | .shape => takeShape room
  | .lazySeq => return ⟨← takeList room (return UInt64.ofNat (← takeNatural "u64" 64))⟩
  | .pairMap => return ⟨← takeMap room pairKey (return UInt8.ofNat (← takeNatural "u8" 8))⟩
  | .userError => takeUserError room
  | .bufferError => takeBufferError room
  | .calcError => takeCalcError room
  | .capturedFailure => takeCapturedFailure room
  | .invocationError => takeInvocationError room
  | .remoteFailure => takeRemoteFailure room
where
  /-- a key is a text and never a pair -/
  pairKey : Scanner (UInt8 × UInt8) := do
    let s ← takeKey
    wrongType ("string " ++ Text.quoted s) "a tuple of size 2"

/-- a value and nothing after it -/
def takeAll (t : Ty) : Scanner t.Val := do
  let v ← take maxDepth t
  match ← peekToken with
  | some _ => failNext .trailingCharacters
  | none => return v

/-- the value of a text -/
def read (t : Ty) (bs : Bytes) : Except Fault t.Val :=
  (takeAll t bs).1

end Loopback.Json
