/-
The state of the sample services: named buffers and logs, and the users of each user service.
-/
import Loopback.Service

namespace Loopback.Sample

/-- shared objects by name, and the users of each service by its number -/
structure Store where
  buffers : Dict String Bytes
  audits : Dict String (List String)
  users : Cells (List User)

/-- a store in which nothing was used yet -/
def Store.empty : Store := ⟨.empty, .empty, .empty⟩

/-- a computation of a sample service; `ρ` is the state of others -/
abbrev Run (ι ρ : Type) := Act ι (Store × ρ)

namespace Run

variable {ι ρ : Type}

/-- the bytes of a buffer; one not used yet is empty -/
def buffer (name : String) : Run ι ρ Bytes := return ((← Act.app).1.buffers.get? name).getD []

/-- set the bytes of a buffer -/
def setBuffer (name : String) (bs : Bytes) : Run ι ρ Unit :=
  Act.modifyApp fun (s, r) => ({ s with buffers := s.buffers.insert name bs }, r)

/-- the entries of a log; one not used yet is empty -/
def audit (name : String) : Run ι ρ (List String) := return ((← Act.app).1.audits.get? name).getD []

/-- set the entries of a log -/
def setAudit (name : String) (entries : List String) : Run ι ρ Unit :=
  Act.modifyApp fun (s, r) => ({ s with audits := s.audits.insert name entries }, r)

/-- the users of a service, by their ids from 1 on -/
def users (service : Nat) : Run ι ρ (List User) := return (← Act.app).1.users.get service

/-- set the users of a service -/
def setUsers (service : Nat) (users : List User) : Run ι ρ Unit :=
  Act.modifyApp fun (s, r) => ({ s with users := s.users.set service users }, r)

/-- a new service without users -/
def newUsers : Run ι ρ Nat := do
  let n := (← Act.app).1.users.next
  setUsers n []
  return n

end Run

end Loopback.Sample
