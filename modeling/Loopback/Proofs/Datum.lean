/-
What a value is made of, whatever its format.

A `Datum` is a value without its type: numbers with their width, texts, lists, maps, records with the names of their
fields, variants with their number and their name. `Ty.datum` takes a value apart; a format then needs one rule for each
form. `Ty.Contains` tells of the values inside a value.
- `Datum.induct`: what holds of a datum when it holds of the data inside it holds of all.
-/
import Mathlib.Data.List.Basic
import Loopback.Ty

namespace Loopback

open Sample

/-! ## Data -/

/-- what a value is made of -/
inductive Datum where
  | natural (bits n : Nat)
  | integer (bits : Nat) (i : Int)
  | flag (b : Bool)
  | char (c : Char)
  /-- the bits of a floating-point number -/
  | single (bits : UInt32)
  | double (bits : UInt64)
  | unit
  | text (s : String)
  | absent
  | present (d : Datum)
  | list (items : List Datum)
  /-- a list whose length is not announced -/
  | stream (items : List Datum)
  | map (entries : List (Datum × Datum))
  | tuple (items : List Datum)
  | record (fields : List (String × Datum))
  /-- a variant without content -/
  | label (index : Nat) (name : String)
  | variant (index : Nat) (name : String) (content : Datum)
  /-- a variant that no format has -/
  | hidden

namespace Datum

/-- an optional datum -/
def optional {α : Type} (f : α → Datum) : Option α → Datum
  | none => absent
  | some a => present (f a)

/-- what holds of a datum when it holds of the data inside it -/
theorem induct {motive : Datum → Prop} (natural : ∀ bits n, motive (natural bits n))
    (integer : ∀ bits i, motive (integer bits i)) (flag : ∀ b, motive (flag b)) (char : ∀ c, motive (char c))
    (single : ∀ bits, motive (single bits)) (double : ∀ bits, motive (double bits)) (unit : motive unit)
    (text : ∀ s, motive (text s)) (absent : motive absent) (present : ∀ d, motive d → motive (present d))
    (list : ∀ l, (∀ d ∈ l, motive d) → motive (list l)) (stream : ∀ l, (∀ d ∈ l, motive d) → motive (stream l))
    (map : ∀ l, (∀ e ∈ l, motive e.1 ∧ motive e.2) → motive (map l))
    (tuple : ∀ l, (∀ d ∈ l, motive d) → motive (tuple l))
    (record : ∀ l, (∀ f ∈ l, motive f.2) → motive (record l)) (label : ∀ i name, motive (label i name))
    (variant : ∀ i name d, motive d → motive (variant i name d)) (hidden : motive hidden) (d : Datum) : motive d :=
  Datum.rec (motive_1 := motive) (motive_2 := fun l => ∀ d ∈ l, motive d)
    (motive_3 := fun l => ∀ e ∈ l, motive e.1 ∧ motive e.2) (motive_4 := fun l => ∀ f ∈ l, motive f.2)
    (motive_5 := fun e => motive e.1 ∧ motive e.2) (motive_6 := fun f => motive f.2)
    natural integer flag char single double unit text absent present list stream map tuple record label variant hidden
    nofun (fun _ _ hd hl => List.forall_mem_cons.2 ⟨hd, hl⟩)
    nofun (fun _ _ he hl => List.forall_mem_cons.2 ⟨he, hl⟩)
    nofun (fun _ _ hf hl => List.forall_mem_cons.2 ⟨hf, hl⟩)
    (fun _ _ h h' => ⟨h, h'⟩) (fun _ _ h => h) d

/-! ## Records and errors -/

def ofTexts (l : List String) : Datum := list (l.map text)

def ofBytes (bs : Bytes) : Datum := list (bs.map fun b => natural 8 b.toNat)

def ofUser (u : User) : Datum := record [("id", natural 64 u.id.toNat), ("name", text u.name)]

def ofLimits (m : Dict String UInt32) : Datum := map (m.entries.map fun e => (text e.1, natural 32 e.2.toNat))

/-- an account: the parent is its last field -/
def ofAccount (h : Holding) : List Holding → Datum
  | [] => record (own h ++ [("parent", absent)])
  | p :: r => record (own h ++ [("parent", present (ofAccount p r))])
where
  own (h : Holding) : List (String × Datum) :=
    [("id", natural 64 h.id.toNat), ("owner", text h.owner), ("balance", integer 64 h.balance.toInt),
      ("tags", ofTexts h.tags), ("limits", ofLimits h.limits)]

def ofShape : Shape → Datum
  | .empty => label 0 "Empty"
  | .circle r => variant 1 "Circle" (natural 32 r.toNat)
  | .rect w h => variant 2 "Rect" (tuple [integer 32 w.toInt, integer 32 h.toInt])
  | .named name sides => variant 3 "Named"
      (record [("name", text name), ("sides", optional (fun n => natural 8 n.toNat) sides)])

/-- a captured failure: the source is its last field -/
def ofLinks (l : Link) : List Link → Datum
  | [] => record (own l ++ [("source", absent)])
  | s :: r => record (own l ++ [("source", present (ofLinks s r))])
where
  own (l : Link) : List (String × Datum) := [("type_name", text l.typeName), ("message", text l.message)]

def ofCapturedFailure (f : CapturedFailure) : Datum := ofLinks f.head f.sources

def ofRemoteCause (c : RemoteCause) : Datum :=
  record [("type_name", text c.typeName), ("message", text c.message), ("declared", optional ofBytes c.declared)]

def ofRemoteFailure (f : RemoteFailure) : Datum :=
  record [("type_name", text f.typeName), ("message", text f.message), ("causes", list (f.causes.map ofRemoteCause))]

def ofInvocationError : InvocationError → Datum
  | .configuration m => variant 0 "Configuration" (record [("message", text m)])
  | .localAccess m cause => variant 1 "LocalServiceAccess"
      (record [("message", text m), ("cause", optional ofCapturedFailure cause)])
  | .remote f => variant 2 "Remote" (ofRemoteFailure f)
  | .codec m => variant 3 "Codec" (record [("message", text m)])
  | .protocol m => variant 4 "Protocol" (record [("message", text m)])

def ofUserError : UserError → Datum
  | .notFound id => variant 0 "NotFound" (natural 64 id.toNat)
  | .rejected name reason => variant 1 "Rejected" (record [("name", text name), ("reason", text reason)])
  | .importFailed file source => variant 2 "Import"
      (record [("file", text file), ("source", ofCapturedFailure source)])
  | .invocation e => variant 3 "Invocation" (ofInvocationError e)
  | .secret => hidden

def ofBufferError : BufferError → Datum
  | .missing => label 0 "Missing"
  | .invocation e => variant 1 "Invocation" (ofInvocationError e)

def ofCalcError : CalcError → Datum
  | .divisionByZero => label 0 "DivisionByZero"
  | .invocation e => variant 1 "Invocation" (ofInvocationError e)

end Datum

/-! ## Values -/

namespace Ty

/-- what a value of a type is made of -/
def datum : (t : Ty) → t.Val → Datum
  | .u8, n => .natural 8 n.toNat
  | .u16, n => .natural 16 n.toNat
  | .u32, n => .natural 32 n.toNat
  | .u64, n => .natural 64 n.toNat
  | .usize, n => .natural 64 n.toNat
  | .i8, i => .integer 8 i.toInt
  | .i16, i => .integer 16 i.toInt
  | .i32, i => .integer 32 i.toInt
  | .i64, i => .integer 64 i.toInt
  | .bool, b => .flag b
  | .char, c => .char c
  | .f32, n => .single n
  | .f64, n => .double n
  | .unit, _ => .unit
  | .text, s => .text s
  | .list t, l => .list (l.map t.datum)
  | .option t, o => .optional t.datum o
  | .map t, m => .map (m.entries.map fun e => (.text e.1, t.datum e.2))
  | .pair a b, v => .tuple [a.datum v.1, b.datum v.2]
  | .triple a b c, v => .tuple [a.datum v.1, b.datum v.2.1, c.datum v.2.2]
  | .user, u => .ofUser u
  | .account, a => .ofAccount a.own a.parents
  | .shape, s => .ofShape s
  | .lazySeq, s => .stream (s.items.map fun n => .natural 64 n.toNat)
  | .pairMap, m => .map (m.entries.entries.map fun e =>
      (.tuple [.natural 8 e.1.1.toNat, .natural 8 e.1.2.toNat], .natural 8 e.2.toNat))
  | .userError, e => .ofUserError e
  | .bufferError, e => .ofBufferError e
  | .calcError, e => .ofCalcError e
  | .capturedFailure, f => .ofCapturedFailure f
  | .invocationError, e => .ofInvocationError e
  | .remoteFailure, f => .ofRemoteFailure f

/-- a value that `p` tells of, or a list, an option, a map or a tuple that contains one -/
def Contains (p : (t : Ty) → t.Val → Prop) : (t : Ty) → t.Val → Prop
  | .list t, l => ∃ a ∈ l, t.Contains p a
  | .option t, o => ∃ a ∈ o, t.Contains p a
  | .map t, m => ∃ e ∈ m.entries, t.Contains p e.2
  | .pair a b, v => a.Contains p v.1 ∨ b.Contains p v.2
  | .triple a b c, v => a.Contains p v.1 ∨ b.Contains p v.2.1 ∨ c.Contains p v.2.2
  | t, v => p t v

end Ty

end Loopback
