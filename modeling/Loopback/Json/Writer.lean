/-
Values as JSON text, in one line or laid out.

Records are objects with their fields in order, tuples and lists are arrays, an absent value is `null`. A variant
without content is its name; any other is an object with the name as its only key. Floating-point numbers are written
by the shortest decimal that reads back, and `null` when they are not finite.
-/
import Loopback.Number.Shortest
import Loopback.Ty

namespace Loopback.Json

open Sample

/-! ## Failures -/

/-- why a value has no text -/
inductive WriteError where
  | keyNotText
  /-- a variant without an encoding -/
  | noEncoding
deriving DecidableEq, Repr

def WriteError.message : WriteError → String
  | keyNotText => "key must be a string"
  | noEncoding => "the enum variant UserError::Secret cannot be serialized"

/-! ## Layout -/

/-- one line, or one line for each item with two blanks for each level -/
inductive Layout where
  | compact
  | pretty
deriving DecidableEq, Repr

/-- the break before an item at a depth -/
def Layout.lineBreak : Layout → Nat → String
  | compact, _ => ""
  | pretty, depth => "\n" ++ String.ofList (List.replicate (2 * depth) ' ')

/-- what stands between a key and its value -/
def Layout.colon : Layout → String
  | compact => ":"
  | pretty => ": "

/-- items between delimiters; the delimiters are at `depth` -/
def Layout.block (ly : Layout) (depth : Nat) (opening closing : String) : List String → String
  | [] => opening ++ closing
  | items =>
    opening ++ ",".intercalate (items.map (ly.lineBreak (depth + 1) ++ ·)) ++ ly.lineBreak depth ++ closing

/-- the form of a character between quotes -/
def escape (c : Char) : List Char :=
  if c == '"' || c == '\\' then ['\\', c]
  else if c == '\x08' then ['\\', 'b']
  else if c == '\x0c' then ['\\', 'f']
  else if c == '\n' then ['\\', 'n']
  else if c == '\r' then ['\\', 'r']
  else if c == '\t' then ['\\', 't']
  else if c.toNat < 0x20 then
    ['\\', 'u', '0', '0', Text.hexDigit (c.toNat / 16), Text.hexDigit (c.toNat % 16)]
  else [c]

/-- a text between quotes -/
def text (s : String) : String :=
  String.ofList ('"' :: s.toList.flatMap escape ++ ['"'])

/-- an array -/
def Layout.array (ly : Layout) (depth : Nat) (items : List String) : String :=
  ly.block depth "[" "]" items

/-- an object -/
def Layout.object (ly : Layout) (depth : Nat) (members : List (String × String)) : String :=
  ly.block depth "\x7b" "\x7d" (members.map fun (k, v) => text k ++ ly.colon ++ v)

/-- an array whose items are written one level deeper -/
def Layout.list {α : Type} (ly : Layout) (depth : Nat) (f : Nat → α → String) (l : List α) : String :=
  ly.array depth (l.map (f (depth + 1)))

/-- an optional value -/
def option {α : Type} (f : α → String) : Option α → String
  | none => "null"
  | some a => f a

/-- a variant with content: an object with one member, whose content is one level deeper -/
def Layout.variant (ly : Layout) (depth : Nat) (name : String) (content : Nat → String) : String :=
  ly.object depth [(name, content (depth + 1))]

/-! ## Records and errors -/

section

variable (ly : Layout)

def number (n : Nat) : String := toString n

def integer (i : Int) : String := toString i

def user (d : Nat) (u : User) : String :=
  ly.object d [("id", number u.id.toNat), ("name", text u.name)]

def limits (d : Nat) (m : Dict String UInt32) : String :=
  ly.object d (m.entries.map fun (k, n) => (k, number n.toNat))

/-- an account: the parent is a member of the account -/
def account (d : Nat) (h : Holding) : List Holding → String
  | [] => ly.object d (own d h ++ [("parent", "null")])
  | p :: r => ly.object d (own d h ++ [("parent", account (d + 1) p r)])
where
  own (d : Nat) (h : Holding) : List (String × String) :=
    [("id", number h.id.toNat), ("owner", text h.owner), ("balance", integer h.balance.toInt),
      ("tags", ly.list (d + 1) (fun _ s => text s) h.tags), ("limits", limits ly (d + 1) h.limits)]

def shape (d : Nat) : Shape → String
  | .empty => text "Empty"
  | .circle r => ly.variant d "Circle" fun _ => number r.toNat
  | .rect w h => ly.variant d "Rect" fun d => ly.array d [integer w.toInt, integer h.toInt]
  | .named name sides => ly.variant d "Named" fun d =>
      ly.object d [("name", text name), ("sides", option (fun n => number n.toNat) sides)]

/-- a captured failure: the source is a member of the failure -/
def links (d : Nat) (l : Link) : List Link → String
  | [] => ly.object d (own l ++ [("source", "null")])
  | s :: r => ly.object d (own l ++ [("source", links (d + 1) s r)])
where
  own (l : Link) : List (String × String) :=
    [("type_name", text l.typeName), ("message", text l.message)]

def capturedFailure (d : Nat) (f : CapturedFailure) : String := links ly d f.head f.sources

def bytes (d : Nat) (bs : Bytes) : String := ly.list d (fun _ b => number b.toNat) bs

def remoteCause (d : Nat) (c : RemoteCause) : String :=
  ly.object d [("type_name", text c.typeName), ("message", text c.message),
    ("declared", option (bytes ly (d + 1)) c.declared)]

def remoteFailure (d : Nat) (f : RemoteFailure) : String :=
  ly.object d [("type_name", text f.typeName), ("message", text f.message),
    ("causes", ly.list (d + 1) (remoteCause ly) f.causes)]

def invocationError (d : Nat) : InvocationError → String
  | .configuration m => message d "Configuration" m
  | .localAccess m cause => ly.variant d "LocalServiceAccess" fun d =>
      ly.object d [("message", text m), ("cause", option (capturedFailure ly (d + 1)) cause)]
  | .remote f => ly.variant d "Remote" fun d => remoteFailure ly d f
  | .codec m => message d "Codec" m
  | .protocol m => message d "Protocol" m
where
  message (d : Nat) (name m : String) : String :=
    ly.variant d name fun d => ly.object d [("message", text m)]

def userError (d : Nat) : UserError → Except WriteError String
  | .notFound id => .ok (ly.variant d "NotFound" fun _ => number id.toNat)
  | .rejected name reason => .ok (ly.variant d "Rejected" fun d =>
      ly.object d [("name", text name), ("reason", text reason)])
  | .importFailed file source => .ok (ly.variant d "Import" fun d =>
      ly.object d [("file", text file), ("source", capturedFailure ly (d + 1) source)])
  | .invocation e => .ok (ly.variant d "Invocation" fun d => invocationError ly d e)
  | .secret => .error .noEncoding

def bufferError (d : Nat) : BufferError → String
  | .missing => text "Missing"
  | .invocation e => ly.variant d "Invocation" fun d => invocationError ly d e

def calcError (d : Nat) : CalcError → String
  | .divisionByZero => text "DivisionByZero"
  | .invocation e => ly.variant d "Invocation" fun d => invocationError ly d e

/-! ## Values -/

/-- the texts of items -/
def writeEach {α β : Type} (f : α → Except WriteError β) : List α → Except WriteError (List β)
  | [] => .ok []
  | a :: r => do
    let s ← f a
    let rest ← writeEach f r
    return s :: rest

/-- a floating-point number -/
def float (f : Shortest.Format) (bits : Nat) : String :=
  (Shortest.text? f bits).getD "null"

/-- the text of a value at a depth -/
def writeAt (d : Nat) : (t : Ty) → t.Val → Except WriteError String
  | .u8, n => .ok (number n.toNat)
  | .u16, n => .ok (number n.toNat)
  | .u32, n => .ok (number n.toNat)
  | .u64, n => .ok (number n.toNat)
  | .usize, n => .ok (number n.toNat)
  | .i8, i => .ok (integer i.toInt)
  | .i16, i => .ok (integer i.toInt)
  | .i32, i => .ok (integer i.toInt)
  | .i64, i => .ok (integer i.toInt)
  | .bool, b => .ok (if b then "true" else "false")
  | .char, c => .ok (text c.toString)
  | .f32, n => .ok (float Shortest.single n.toNat)
  | .f64, n => .ok (float Shortest.double n.toNat)
  | .unit, _ => .ok "null"
  | .text, s => .ok (text s)
  | .list t, l => do
    let items ← writeEach (writeAt (d + 1) t) l
    return ly.array d items
  | .option _, none => .ok "null"
  | .option t, some a => writeAt d t a
  | .map t, m => do
    let members ← writeEach (fun e => do
      let s ← writeAt (d + 1) t e.2
      return (e.1, s)) m.entries
    return ly.object d members
  | .pair a b, (x, y) => do
    let s ← writeAt (d + 1) a x
    let t ← writeAt (d + 1) b y
    return ly.array d [s, t]
  | .triple a b c, (x, y, z) => do
    let s ← writeAt (d + 1) a x
    let t ← writeAt (d + 1) b y
    let u ← writeAt (d + 1) c z
    return ly.array d [s, t, u]
  | .user, u => .ok (user ly d u)
  | .account, a => .ok (account ly d a.own a.parents)
  | .shape, s => .ok (shape ly d s)
  | .lazySeq, s => .ok (ly.list d (fun _ n => number n.toNat) s.items)
  | .pairMap, m => if m.entries.isEmpty then .ok (ly.object d []) else .error .keyNotText
  | .userError, e => userError ly d e
  | .bufferError, e => .ok (bufferError ly d e)
  | .calcError, e => .ok (calcError ly d e)
  | .capturedFailure, f => .ok (capturedFailure ly d f)
  | .invocationError, e => .ok (invocationError ly d e)
  | .remoteFailure, f => .ok (remoteFailure ly d f)

/-- the text of a value -/
def write (t : Ty) (v : t.Val) : Except WriteError String := writeAt ly 0 t v

end

end Loopback.Json
