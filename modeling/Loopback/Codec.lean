/-
Codecs: how values become bytes and come back.

Encoding and decoding are functions of the value and of the bytes alone. A codec may also have a schedule, which makes
some of its encodings fail by their number.
-/
import Loopback.Json.Reader
import Loopback.Json.Writer
import Loopback.Postcard.Reader

namespace Loopback

/-! ## Errors -/

/-- what a codec was doing -/
inductive Direction where
  | encode
  | decode
deriving DecidableEq, Repr

/-- why a codec failed; a place in a text is told after the summary and after each source -/
structure CodecError where
  direction : Direction
  summary : String
  sources : List String
  place : Option Json.Place
deriving DecidableEq, Repr

namespace CodecError

/-- an error with a summary only -/
def new (direction : Direction) (summary : String) : CodecError := ⟨direction, summary, [], none⟩

/-- the error of a named codec that comes from another error, given with its own sources -/
def ofSource (direction : Direction) (codec message : String) (sources : List String) : CodecError :=
  ⟨direction, codec ++ ": " ++ message, message :: sources, none⟩

/-- more bytes than a codec accepts -/
def tooLarge (direction : Direction) (size limit : Nat) : CodecError :=
  new direction s!"payload of {size} bytes exceeds maximum allowed size {limit}"

/-- a text followed by its place -/
def placed (place : Option Json.Place) (s : String) : String :=
  match place with
  | none => s
  | some p => s!"{s} at line {p.line} column {p.column}"

/-- the whole message -/
def message (e : CodecError) : String :=
  (match e.direction with
    | .encode => "Serialization error: "
    | .decode => "Deserialization error: ") ++ placed e.place e.summary

/-- the messages of the sources -/
def sourceMessages (e : CodecError) : List String :=
  e.sources.map (placed e.place)

/-- the error without its place -/
def unplaced (e : CodecError) : CodecError := { e with place := none }

/-- a codec error as a failure of the invocation layer -/
def toInvocationError (e : CodecError) : InvocationError := .codec e.message

end CodecError

/-! ## Codecs -/

/-- encodings of a codec that fail: the meter that counts its encodings, and the error of each number that fails -/
structure Schedule where
  meter : Nat
  fault : Nat → Option CodecError

/-- a way to encode values -/
structure Codec where
  name : String
  encode : (t : Ty) → t.Val → Except CodecError Bytes
  decode : (t : Ty) → Bytes → Except CodecError t.Val
  schedule : Option Schedule

namespace Codec

/-- Postcard, with a limit on the bytes to decode -/
def postcard (limit : Option Nat) : Codec where
  name := "postcard"
  encode t v := match Postcard.write t v with
    | .ok bs => .ok bs
    | .error e => .error (.ofSource .encode "postcard" e.message [])
  decode t bs :=
    match limit.filter (· < bs.length) with
    | some n => .error (.tooLarge .decode bs.length n)
    | none => match Postcard.read t bs with
      | .ok v => .ok v
      | .error e => .error (.ofSource .decode "postcard" e.message [])
  schedule := none

/-- JSON in a layout -/
def json (layout : Json.Layout) : Codec where
  name := "json"
  encode t v := match Json.write layout t v with
    | .ok s => .ok (Text.utf8 s)
    | .error e => .error (.ofSource .encode "json" e.message [])
  decode t bs := match Json.read t bs with
    | .ok v => .ok v
    | .error f => .error { CodecError.ofSource .decode "json" f.cause.message [] with place := f.place bs }
  schedule := none

/-- Postcard with its first `n` encodings failing -/
def flaky (meter n : Nat) : Codec :=
  { postcard none with
    name := "flaky"
    schedule := some ⟨meter, fun k => if k < n then some (.new .encode "flaky codec") else none⟩ }

end Codec

/-- a codec yet to be set up -/
inductive CodecKind where
  | postcard (limit : Option Nat)
  | json (layout : Json.Layout)
  | flaky (failures : Nat)
deriving DecidableEq, Repr

/-- whether the bytes of a codec are text -/
def CodecKind.isText : CodecKind → Bool
  | json _ => true
  | _ => false

/-- set up a codec whose encodings are counted by a meter -/
def CodecKind.codec (k : CodecKind) (meter : Nat) : Codec :=
  match k with
  | postcard limit => .postcard limit
  | json layout => .json layout
  | flaky n => .flaky meter n

end Loopback
