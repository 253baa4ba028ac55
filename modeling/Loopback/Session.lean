/-
Who calls.

A `SecurityContext` always has a session id; the session itself may be unknown. The attributes of a session travel with
a call only when they belong to the current request.
-/
import Loopback.Text.Quoted

namespace Loopback

/-! ## Model -/

/-- a universally unique identifier: lower-case digits with hyphens -/
structure Uuid where
  text : String
deriving DecidableEq, Repr

/-- what is known of the client besides its session id -/
structure Attributes where
  locale : Option String
  timeZone : Option String
  address : Option String
  clientInfo : Option String
deriving DecidableEq, Repr

/-- nothing known -/
def Attributes.absent : Attributes := ⟨none, none, none, none⟩

/-- a session of a user -/
structure UserSession where
  id : Uuid
  attributes : Attributes
  /-- whether the attributes belong to the current request -/
  requestScoped : Bool
deriving DecidableEq, Repr

/-- the context of a caller: the session with its id, or an id alone -/
inductive SecurityContext where
  | ofId (id : Uuid)
  | ofSession (session : UserSession)
deriving DecidableEq, Repr

namespace SecurityContext

def sessionId : SecurityContext → Uuid
  | ofId id => id
  | ofSession s => s.id

def session : SecurityContext → Option UserSession
  | ofId _ => none
  | ofSession s => some s

/-- the attributes that travel with a call -/
def travelling : SecurityContext → Option Attributes
  | ofId _ => none
  | ofSession s => if s.requestScoped then some s.attributes else none

end SecurityContext

/-! ## Diagnostics -/

/-- the form of a session in diagnostics -/
def UserSession.debug (s : UserSession) : String :=
  "UserSession \x7b id: " ++ s.id.text ++
    ", locale: " ++ Text.optional Text.quoted s.attributes.locale ++
    ", time_zone: " ++ Text.optional Text.quoted s.attributes.timeZone ++
    ", address: " ++ Text.optional Text.quoted s.attributes.address ++
    ", client_info: " ++ Text.optional Text.quoted s.attributes.clientInfo ++
    ", request_scoped: " ++ (if s.requestScoped then "true" else "false") ++ " \x7d"

/-- the form of a context in diagnostics -/
def SecurityContext.debug (c : SecurityContext) : String :=
  "SecurityContext \x7b session_id: " ++ c.sessionId.text ++
    ", session: " ++ Text.optional UserSession.debug c.session ++ " \x7d"

end Loopback
