/-
The state that calls run in, and what they do to it.

Environments share hubs: a hub holds a directory, the statuses of the blocks and the counters. Properties and meters
have cells of their own, so that an environment can share the hub of another one and keep its own properties, and the
copies of a codec share one meter. An `Act` may change the state and may panic; a panic keeps the changes. `ι` is the
type of invokers and `σ` the state of the services.
-/
import Loopback.Directory
import Loopback.Invocation
import Loopback.Log
import Loopback.Metrics
import Loopback.Status

namespace Loopback

/-! ## Cells -/

/-- values by number; a cell never set holds the default -/
structure Cells (α : Type) where
  items : List α

namespace Cells

variable {α : Type}

def empty : Cells α := ⟨[]⟩

/-- the value of a cell -/
def get [Inhabited α] (c : Cells α) (i : Nat) : α := c.items.getD i default

/-- set the value of a cell -/
def set [Inhabited α] (c : Cells α) (i : Nat) (a : α) : Cells α :=
  ⟨(c.items ++ List.replicate (i + 1 - c.items.length) default).set i a⟩

/-- the number of a cell that was never set -/
def next (c : Cells α) : Nat := c.items.length

theorem get_set [Inhabited α] (c : Cells α) (i j : Nat) (a : α) :
    (c.set i a).get j = if j = i then a else c.get j := by
  have hi : i < (c.items ++ List.replicate (i + 1 - c.items.length) default).length := by
    simp only [List.length_append, List.length_replicate]
    omega
  unfold get set
  simp only [List.getD_eq_getElem?_getD, List.getElem?_set, hi, if_true]
  split
  · next h =>
    rw [if_pos h.symm]
    subst h
    rfl
  · next h =>
    rw [if_neg (fun e => h e.symm), List.getElem?_append]
    split
    · rfl
    · next hj =>
      rw [List.getElem?_eq_none (l := c.items) (by omega), List.getElem?_replicate]
      split <;> rfl

theorem get_set_self [Inhabited α] (c : Cells α) (i : Nat) (a : α) : (c.set i a).get i = a := by
  rw [get_set, if_pos rfl]

theorem get_set_ne [Inhabited α] (c : Cells α) {i j : Nat} (a : α) (h : j ≠ i) : (c.set i a).get j = c.get j := by
  rw [get_set, if_neg h]

end Cells

/-! ## The state -/

/-- what environments share -/
structure Hub (ι : Type) where
  directory : Directory ι
  statuses : Statuses
  metrics : Metrics

/-- a hub without entries, statuses and calls -/
def Hub.empty {ι : Type} : Hub ι := ⟨.empty, .empty, .zero⟩

instance {ι : Type} : Inhabited (Hub ι) := ⟨.empty⟩

/-- the state that calls run in -/
structure World (ι σ : Type) where
  hubs : Cells (Hub ι)
  properties : Cells Properties
  /-- the number of encodings each meter has counted -/
  meters : Cells Nat
  /-- the counters of all environments together -/
  exported : Metrics
  /-- what was logged, the newest first -/
  log : List LogEntry
  /-- the state of the services -/
  app : σ

/-- a state in which nothing has happened -/
def World.initial {ι σ : Type} (app : σ) : World ι σ := ⟨.empty, .empty, .empty, .zero, [], app⟩

/-- a computation that may change the state and may panic -/
abbrev Act (ι σ : Type) := ExceptT Panic (StateM (World ι σ))

/-- what each invoker does with a record -/
abbrev Behaviour (ι σ : Type) := ι → Invocation → Act ι σ InvocationResult

namespace Act

variable {ι σ : Type}

/-- panic; what was done stays done -/
def panic {α : Type} (p : Panic) : Act ι σ α := throw p

/-- run a computation and catch its panic -/
def caught {α : Type} (act : Act ι σ α) : Act ι σ (Except Panic α) := fun w =>
  match act w with
  | (r, w') => (.ok r, w')

/-- log an event -/
def event (level : Level) (message : String) (fields : List (String × Field)) : Act ι σ Unit :=
  modify fun w => { w with log := .event level message fields :: w.log }

/-- log the start of a span -/
def span (level : Level) (name : String) (fields : List (String × Field)) : Act ι σ Unit :=
  modify fun w => { w with log := .span level name fields :: w.log }

/-- forget what was logged -/
def clearLog : Act ι σ Unit := modify fun w => { w with log := [] }

/-- what was logged since the last time, the oldest first -/
def takeLog : Act ι σ (List LogEntry) := do
  let log := (← get).log
  clearLog
  return log.reverse

/-- the state of the services -/
def app : Act ι σ σ := return (← get).app

/-- change the state of the services -/
def modifyApp (f : σ → σ) : Act ι σ Unit := modify fun w => { w with app := f w.app }

/-- set up a codec with a meter of its own -/
def openCodec (k : CodecKind) : Act ι σ Codec := do
  let n := (← get).meters.next
  modify fun w => { w with meters := w.meters.set n 0 }
  return k.codec n

end Act

/-! ## Encoding -/

namespace Codec

variable {ι σ : Type}

/-- encode a value; a codec with a schedule counts the attempt first and may refuse it -/
def serialize (c : Codec) (t : Ty) (v : t.Val) : Act ι σ (Except CodecError Bytes) :=
  match c.schedule with
  | none => return c.encode t v
  | some s => do
    let n := (← get).meters.get s.meter
    modify fun w => { w with meters := w.meters.set s.meter (n + 1) }
    match s.fault n with
    | some e => return .error e
    | none => return c.encode t v

end Codec

end Loopback
