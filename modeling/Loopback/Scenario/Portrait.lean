/-
Records of calls as JSON text, for invokers that tell what they received.
-/
import Loopback.Invocation

namespace Loopback.Invocation

open Json (Layout)

/-- an optional text, or `null` -/
def portraitOption (s : Option String) : String := Json.option Json.text s

/-- the session attributes of a record -/
def sessionPortrait (inv : Invocation) : String :=
  Layout.compact.object 0 [
    ("address", portraitOption inv.attributes.address),
    ("client_info", portraitOption inv.attributes.clientInfo),
    ("locale", portraitOption inv.attributes.locale),
    ("session_id", portraitOption (inv.sessionId.map Uuid.text)),
    ("time_zone", portraitOption inv.attributes.timeZone)]

/-- a slot: its bytes, the word `bypass`, or `null` -/
def slotPortrait : Slot → String
  | .payload bs => Json.text (Text.hex bs)
  | .reference _ => Json.text "bypass"
  | .null => "null"

/-- a record -/
def portrait (inv : Invocation) : String :=
  Layout.compact.object 0 [
    ("arity", Json.number inv.arity),
    ("method", Json.text inv.method),
    ("parameter_types", Layout.compact.array 0 (inv.parameterTypes.map Json.text)),
    ("result_bypass", if inv.resultByReference then "true" else "false"),
    ("session", inv.sessionPortrait),
    ("slots", Layout.compact.array 0 (inv.arguments.map fun a => slotPortrait a.slot))]

end Loopback.Invocation
