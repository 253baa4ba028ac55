/-
The record of a call in three columns, and what accesses do to it.

An argument has a place in three columns: the declared types, the payloads, and the values by reference. A value by
reference is taken out of its column before its type is known, and is put back if it has another type; both need the
place to be inside the column, which only the column of the types is asked for.
- `Columns`: the columns, with the steps of a builder and the accessors; a place outside a column gives no result;
- `columns_apply`, `Passing.unmarshal_columns`: steps and accessors do to the columns what they do to the record;
- `Passing.unmarshal_ends`: an access gives out the value by reference that was in its slot, or leaves the record alone;
- `Invocation.accessAll_delivers`: over any accesses, each value by reference is handed over once at most;
- `accesses_deliver_once`: all of it, for every record that is built and all accesses to it.
-/
import Loopback.Proofs.Building

namespace Loopback

/-! ## Columns -/

/-- the record of one call, with a column for the types, the payloads and the values by reference -/
structure Columns where
  method : String
  types : List String
  payloads : List (Option Bytes)
  references : List (Option BypassValue)
  resultByReference : Bool
  sessionId : Option Uuid
  attributes : Attributes

namespace Columns

/-! ### Building -/

/-- no columns -/
def start (method : String) : Columns := ⟨method, [], [], [], false, none, .absent⟩

/-- add a place to each column -/
def push (c : Columns) (typeName : String) (payload : Option Bytes) (reference : Option BypassValue) : Columns :=
  { c with
    types := c.types ++ [typeName]
    payloads := c.payloads ++ [payload]
    references := c.references ++ [reference] }

/-- what a step of a builder does -/
def apply (c : Columns) : BuildStep → Columns
  | .argument typeName bytes => c.push typeName (some bytes) none
  | .reference typeName value => c.push typeName none (some value)
  | .null typeName => c.push typeName none none
  | .expectResult byReference => { c with resultByReference := byReference }
  | .attach context =>
    match context.session.filter (·.requestScoped) with
    | some session => { c with sessionId := some context.sessionId, attributes := session.attributes }
    | none => { c with sessionId := some context.sessionId }

/-- the columns that steps build -/
def built (method : String) (steps : List BuildStep) : Columns := steps.foldl apply (.start method)

/-! ### Looking -/

/-- the number of arguments -/
def arity (c : Columns) : Nat := c.types.length

/-- the payload of an argument -/
def payload? (c : Columns) (index : Nat) : Option Bytes := c.payloads[index]?.join

/-- whether an argument is passed by reference -/
def isReference (c : Columns) (index : Nat) : Bool := c.references[index]?.join.isSome

/-- whether an argument is null -/
def isNull (c : Columns) (index : Nat) : Bool :=
  decide (index < c.arity) && (c.payload? index).isNone && !c.isReference index

/-- the columns have equal lengths, and an argument is a payload, a value by reference or null, and only one of them -/
structure Aligned (c : Columns) : Prop where
  payloads : c.payloads.length = c.types.length
  references : c.references.length = c.types.length
  one : ∀ index < c.arity, [(c.payload? index).isSome, c.isReference index, c.isNull index].count true = 1

/-! ### Reading and taking arguments -/

/-- there is no such argument -/
def noArgument (c : Columns) (index : Nat) : InvocationError :=
  .protocol s!"method '{c.method}' has no argument {index} (arity {c.arity})"

/-- an argument is null and must not be -/
def nullArgument (c : Columns) (index : Nat) : InvocationError :=
  .protocol s!"argument {index} of '{c.method}' is null but the parameter is not optional"

/-- read a serialized argument; null is absent -/
def optionalArgument (c : Columns) (codec : Codec) (t : Ty) (index : Nat) : Except InvocationError (Option t.Val) :=
  if c.arity ≤ index then .error (c.noArgument index)
  else if c.isReference index then .error (.protocol
    s!"argument {index} of '{c.method}' was passed by reference but the parameter is serialized")
  else
    match c.payload? index with
    | none => .ok none
    | some bs =>
      match codec.decode t bs with
      | .ok v => .ok (some v)
      | .error e => .error e.toInvocationError

/-- read a serialized argument -/
def argument (c : Columns) (codec : Codec) (t : Ty) (index : Nat) : Except InvocationError t.Val :=
  match c.optionalArgument codec t index with
  | .ok (some v) => .ok v
  | .ok none => .error (c.nullArgument index)
  | .error e => .error e

/-- a step that may take values out of the columns; it fails to give a result at a place outside a column -/
abbrev Taker (α : Type) := Columns → Option (Except InvocationError α × Columns)

/-- take what is at a place by reference, if there is something -/
def clear (c : Columns) (index : Nat) : Columns := { c with references := c.references.set index none }

/-- put a value back to a place -/
def putBack (c : Columns) (index : Nat) (b : BypassValue) : Option Columns :=
  if index < c.references.length then some { c with references := c.references.set index (some b) } else none

/-- take an argument by reference; null is absent, and a value of another type is put back -/
def takeOptional (t : AnyTy) (index : Nat) : Taker (Option t.Val) := fun c =>
  if c.arity ≤ index then some (.error (c.noArgument index), c)
  else if (c.payload? index).isSome then some (.error (.protocol
    s!"argument {index} of '{c.method}' was serialized but the parameter is passed by reference"), c)
  else do
    let found ← c.references[index]?
    match found with
    | none => return (.ok none, c.clear index)
    | some b =>
      match b.downcast t with
      | some v => return (.ok (some v), c.clear index)
      | none =>
        let restored ← (c.clear index).putBack index b
        return (.error (.protocol s!"argument {index} of '{c.method}' is not a {t.name}"), restored)

/-- take an argument by reference -/
def take (t : AnyTy) (index : Nat) : Taker t.Val := fun c => do
  match ← takeOptional t index c with
  | (.ok (some v), left) => return (.ok v, left)
  | (.ok none, left) => return (.error (left.nullArgument index), left)
  | (.error e, left) => return (.error e, left)

/-- read or take the argument of a parameter -/
def unmarshal (codec : Codec) (index : Nat) : (p : Passing) → Taker p.Val
  | .value t => fun c => some (c.argument codec t index, c)
  | .optional t => fun c => some (c.optionalArgument codec t index, c)
  | .reference t => take t index
  | .optionalReference t => takeOptional t index

section Clearing

variable {c : Columns} {index : Nat}

/-- a place that is written with what it holds -/
theorem set_of_getElem? {α : Type} {l : List α} {place : Nat} {a : α} (h : l[place]? = some a) : l.set place a = l := by
  obtain ⟨hlt, rfl⟩ := List.getElem?_eq_some_iff.1 h
  exact List.set_getElem_self hlt

theorem clear_of_none (h : c.references[index]? = some none) : c.clear index = c := by
  rw [clear, set_of_getElem? h]

theorem putBack_clear {b : BypassValue} (h : c.references[index]? = some (some b)) :
    (c.clear index).putBack index b = some c := by
  have inside : index < c.references.length := (List.getElem?_eq_some_iff.1 h).1
  simp [putBack, clear, inside, set_of_getElem? h]

end Clearing

end Columns

/-! ## The columns of a record -/

/-- the payload in a slot -/
def Slot.payload? : Slot → Option Bytes
  | payload bytes => some bytes
  | _ => none

/-- the value by reference in a slot -/
def Slot.reference? : Slot → Option BypassValue
  | reference value => some value
  | _ => none

namespace Invocation

/-- the columns of a record -/
def columns (inv : Invocation) : Columns where
  method := inv.method
  types := inv.arguments.map (·.typeName)
  payloads := inv.arguments.map (·.slot.payload?)
  references := inv.arguments.map (·.slot.reference?)
  resultByReference := inv.resultByReference
  sessionId := inv.sessionId
  attributes := inv.attributes

variable {inv : Invocation} {index : Nat} {s : Slot}

theorem columns_method (inv : Invocation) : inv.columns.method = inv.method := rfl

theorem columns_arity (inv : Invocation) : inv.columns.arity = inv.arity := List.length_map _

theorem columns_payloads (inv : Invocation) (index : Nat) :
    inv.columns.payloads[index]? = (inv.slot? index).map Slot.payload? := by
  simp only [columns, slot?, List.getElem?_map, Option.map_map]
  rfl

theorem columns_references (inv : Invocation) (index : Nat) :
    inv.columns.references[index]? = (inv.slot? index).map Slot.reference? := by
  simp only [columns, slot?, List.getElem?_map, Option.map_map]
  rfl

theorem columns_payload? (inv : Invocation) (index : Nat) :
    inv.columns.payload? index = (inv.slot? index).bind Slot.payload? := by
  rw [Columns.payload?, columns_payloads]
  cases inv.slot? index <;> rfl

theorem columns_isReference (inv : Invocation) (index : Nat) :
    inv.columns.isReference index = ((inv.slot? index).bind Slot.reference?).isSome := by
  rw [Columns.isReference, columns_references]
  cases inv.slot? index <;> rfl

/-- a place has a slot exactly when it is below the arity -/
theorem slot?_eq_none_iff : inv.slot? index = none ↔ inv.arity ≤ index := by
  simp [slot?, arity]

theorem lt_arity_of_slot? (h : inv.slot? index = some s) : index < inv.arity := by
  by_contra outside
  rw [slot?_eq_none_iff.2 (by omega)] at h
  cases h

/-- the columns of a record are aligned -/
theorem columns_aligned (inv : Invocation) : inv.columns.Aligned where
  payloads := by simp [columns]
  references := by simp [columns]
  one index h := by
    rw [columns_arity] at h
    simp only [Columns.isNull, columns_arity, columns_payload?, columns_isReference]
    cases hs : inv.slot? index with
    | none => exact absurd (slot?_eq_none_iff.1 hs) (by omega)
    | some s => cases s <;> simp [Slot.payload?, Slot.reference?, h]

theorem slot?_setSlot (inv : Invocation) (index place : Nat) (s : Slot) :
    (inv.setSlot index s).slot? place =
      if index = place then (inv.slot? place).map fun _ => s else inv.slot? place := by
  simp only [setSlot, slot?, List.getElem?_modify]
  split <;> cases inv.arguments[place]? <;> rfl

/-- emptying a slot by reference clears its place; neither what was there nor the null that is left has a payload -/
theorem columns_setSlot {b : BypassValue} (h : inv.slot? index = some (.reference b)) :
    (inv.setSlot index .null).columns = inv.columns.clear index := by
  have types : (inv.setSlot index .null).columns.types = inv.columns.types := by
    refine List.ext_getElem? fun place => ?_
    simp only [columns, setSlot, List.getElem?_map, List.getElem?_modify]
    split <;> cases inv.arguments[place]? <;> rfl
  have payloads : (inv.setSlot index .null).columns.payloads = inv.columns.payloads := by
    refine List.ext_getElem? fun place => ?_
    rw [columns_payloads, columns_payloads, slot?_setSlot]
    by_cases same : index = place
    · subst same
      simp [h, Slot.payload?]
    · simp [same]
  have references : (inv.setSlot index .null).columns.references = inv.columns.references.set index none := by
    have inside : index < inv.columns.references.length := by
      simpa [columns, arity] using lt_arity_of_slot? h
    refine List.ext_getElem? fun place => ?_
    rw [columns_references, slot?_setSlot, List.getElem?_set]
    by_cases same : index = place
    · subst same
      simp [h, inside, Slot.reference?]
    · simp [same, columns_references]
  rw [Columns.clear, ← types, ← payloads, ← references]
  rfl

end Invocation

/-! ## The columns do what the record does -/

theorem Invocation.columns_push (inv : Invocation) (typeName : String) (s : Slot) :
    (inv.push typeName s).columns = inv.columns.push typeName s.payload? s.reference? := by
  simp [columns, push, Columns.push]

/-- **Building.** A step does to the columns what it does to the record. -/
theorem columns_apply (step : BuildStep) (inv : Invocation) : (step.apply inv).columns = inv.columns.apply step := by
  cases step with
  | argument typeName bytes => exact inv.columns_push typeName (.payload bytes)
  | reference typeName value => exact inv.columns_push typeName (.reference value)
  | null typeName => exact inv.columns_push typeName .null
  | expectResult byReference => rfl
  | attach context =>
    rcases context with id | ⟨id, attributes, own⟩
    · rfl
    · cases own <;> rfl

theorem columns_built (method : String) (steps : List BuildStep) :
    (Invocation.built method steps).columns = Columns.built method steps := by
  induction steps using List.reverseRecOn with
  | nil => rfl
  | append_singleton steps step ih =>
    rw [Invocation.built_concat, columns_apply, ih]
    simp [Columns.built]

theorem Invocation.columns_optionalArgument (inv : Invocation) (codec : Codec) (t : Ty) (index : Nat) :
    inv.columns.optionalArgument codec t index = inv.optionalArgument codec t index := by
  unfold Columns.optionalArgument Invocation.optionalArgument
  rw [columns_arity, columns_isReference, columns_payload?]
  cases hs : inv.slot? index with
  | none =>
    rw [if_pos (slot?_eq_none_iff.1 hs)]
    simp [Columns.noArgument, noArgument, columns_method, columns_arity]
  | some s =>
    have inside : index < inv.arity := lt_arity_of_slot? hs
    rw [if_neg (Nat.not_le.2 inside)]
    cases s with
    | payload bs => cases hd : codec.decode t bs <;> simp [Slot.reference?, Slot.payload?, hd]
    | reference b => simp [Slot.reference?, columns_method]
    | null => simp [Slot.reference?, Slot.payload?]

theorem Invocation.columns_argument (inv : Invocation) (codec : Codec) (t : Ty) (index : Nat) :
    inv.columns.argument codec t index = inv.argument codec t index := by
  unfold Columns.argument Invocation.argument
  rw [columns_optionalArgument]
  rfl

theorem Invocation.columns_takeOptional (inv : Invocation) (t : AnyTy) (index : Nat) :
    Columns.takeOptional t index inv.columns =
      some ((takeOptional t index inv).1, (takeOptional t index inv).2.columns) := by
  unfold Columns.takeOptional takeOptional
  rw [columns_arity, columns_payload?, columns_references]
  cases hs : inv.slot? index with
  | none =>
    rw [if_pos (slot?_eq_none_iff.1 hs)]
    simp [Columns.noArgument, noArgument, columns_method, columns_arity]
  | some s =>
    have inside : index < inv.arity := lt_arity_of_slot? hs
    rw [if_neg (Nat.not_le.2 inside)]
    cases s with
    | payload bs => simp [Slot.payload?, columns_method]
    | null =>
      have found : inv.columns.references[index]? = some none := by
        rw [inv.columns_references, hs]
        rfl
      simp [Slot.payload?, Slot.reference?, Columns.clear_of_none found]
    | reference b =>
      have found : inv.columns.references[index]? = some (some b) := by
        rw [inv.columns_references, hs]
        rfl
      cases hb : b.downcast t with
      | some v => simp [Slot.payload?, Slot.reference?, hb, columns_setSlot hs]
      | none => simp [Slot.payload?, Slot.reference?, hb, Columns.putBack_clear found, columns_method]

theorem Invocation.columns_take (inv : Invocation) (t : AnyTy) (index : Nat) :
    Columns.take t index inv.columns = some ((take t index inv).1, (take t index inv).2.columns) := by
  rw [take_eq]
  unfold Columns.take
  rw [columns_takeOptional]
  rcases takeOptional t index inv with ⟨e | v, left⟩
  · rfl
  · cases v <;> rfl

/-- **Accessing.** An accessor gives on the columns what it gives on the record, at a place inside every column, and
leaves the columns of the record that it leaves. -/
theorem Passing.unmarshal_columns (codec : Codec) (index : Nat) (p : Passing) (inv : Invocation) :
    Columns.unmarshal codec index p inv.columns =
      some ((p.unmarshal codec index inv).1, (p.unmarshal codec index inv).2.columns) := by
  cases p with
  | value t => exact congrArg (fun r => some (r, inv.columns)) (inv.columns_argument codec t index)
  | optional t => exact congrArg (fun r => some (r, inv.columns)) (inv.columns_optionalArgument codec t index)
  | reference t => exact inv.columns_take t index
  | optionalReference t => exact inv.columns_takeOptional t index

/-! ## Accesses -/

/-- the value by reference that an access gives out, with the type that it was asked for -/
def Passing.given? : (p : Passing) → Except InvocationError p.Val → Option BypassValue
  | .reference t, .ok v => some ⟨t, v⟩
  | .optionalReference t, .ok (some v) => some ⟨t, v⟩
  | _, _ => none

theorem BypassValue.eq_of_downcast {b : BypassValue} {t : AnyTy} {v : t.Val} (h : b.downcast t = some v) :
    b = ⟨t, v⟩ := by
  unfold downcast at h
  split at h
  · next same =>
    subst same
    cases h
    rfl
  · cases h

namespace Passing

theorem byReference_of_given? {p : Passing} {answer : Except InvocationError p.Val} {b : BypassValue}
    (h : p.given? answer = some b) : p.byReference = true := by
  cases p with
  | value t => cases h
  | optional t => cases h
  | reference t => rfl
  | optionalReference t => rfl

theorem given?_error (p : Passing) (e : InvocationError) : p.given? (.error e) = none := by
  cases p <;> rfl

/-- how an access to an argument ends, with its answer and the record that it leaves -/
inductive Ends (p : Passing) (index : Nat) (inv : Invocation) : Except InvocationError p.Val → Invocation → Prop
  | failed (e : InvocationError) : Ends p index inv (.error e) inv
  /-- the argument was serialized or null -/
  | read {v : p.Val} (hnone : p.given? (.ok v) = none)
    (hnull : p.byReference = true → inv.slot? index = some .null) : Ends p index inv (.ok v) inv
  /-- a value by reference was taken -/
  | taken {v : p.Val} {b : BypassValue} (hs : inv.slot? index = some (.reference b))
    (hb : p.given? (.ok v) = some b) : Ends p index inv (.ok v) (inv.setSlot index .null)

theorem takeOptional_ends (t : AnyTy) (index : Nat) (inv : Invocation) :
    (optionalReference t).Ends index inv (Invocation.takeOptional t index inv).1
      (Invocation.takeOptional t index inv).2 := by
  unfold Invocation.takeOptional
  cases hs : inv.slot? index with
  | none => exact .failed _
  | some s =>
    cases s with
    | payload bs => exact .failed _
    | null => exact .read rfl fun _ => hs
    | reference b =>
      dsimp only
      cases hb : b.downcast t with
      | none => exact .failed _
      | some v =>
        have own := BypassValue.eq_of_downcast hb
        subst own
        exact .taken hs rfl

/-- **One access.** It fails, or it reads, or it takes the value by reference that is in its slot. -/
theorem unmarshal_ends (codec : Codec) (index : Nat) (p : Passing) (inv : Invocation) :
    p.Ends index inv (p.unmarshal codec index inv).1 (p.unmarshal codec index inv).2 := by
  cases p with
  | value t =>
    show (value t).Ends index inv (inv.argument codec t index) inv
    cases inv.argument codec t index with
    | error e => exact .failed e
    | ok v => exact .read rfl nofun
  | optional t =>
    show (optional t).Ends index inv (inv.optionalArgument codec t index) inv
    cases inv.optionalArgument codec t index with
    | error e => exact .failed e
    | ok v => exact .read rfl nofun
  | reference t =>
    show (reference t).Ends index inv (Invocation.take t index inv).1 (Invocation.take t index inv).2
    have ends := takeOptional_ends t index inv
    rw [Invocation.take_eq]
    generalize Invocation.takeOptional t index inv = result at ends ⊢
    obtain ⟨answer, left⟩ : Except InvocationError (optionalReference t).Val × Invocation := result
    dsimp only at ends ⊢
    -- what may be absent is required here, so a null fails and a value is taken
    cases ends with
    | failed e => exact .failed e
    | @read v hnone hnull =>
      cases v with
      | none => exact .failed _
      | some v => cases hnone
    | @taken v b hs hb =>
      cases v with
      | none => cases hb
      | some v => exact .taken hs hb
  | optionalReference t => exact takeOptional_ends t index inv

end Passing

/-- an access to an argument, in any of the four ways, at any place and as any type -/
structure Access where
  codec : Codec
  index : Nat
  passing : Passing

namespace Access

/-- an access to a record -/
def run (a : Access) : Invocation.Taker a.passing.Val := a.passing.unmarshal a.codec a.index

/-- an access to columns -/
def onColumns (a : Access) : Columns.Taker a.passing.Val := Columns.unmarshal a.codec a.index a.passing

/-- what an access leaves of columns: they are as before when it fails or reads, and a taken value leaves a gap -/
structure Leaves (a : Access) (c : Columns) (answer : Except InvocationError a.passing.Val) (left : Columns) :
    Prop where
  failed : ∀ e, answer = .error e → left = c
  read : a.passing.byReference = false → left = c
  taken : a.passing.byReference = true → ∀ v, answer = .ok v → left = c.clear a.index

theorem run_leaves (a : Access) (inv : Invocation) :
    a.Leaves inv.columns (a.run inv).1 (a.run inv).2.columns := by
  have ends := a.passing.unmarshal_ends a.codec a.index inv
  rw [run]
  generalize a.passing.unmarshal a.codec a.index inv = result at ends ⊢
  obtain ⟨answer, left⟩ := result
  cases ends with
  | failed e => exact ⟨fun _ _ => rfl, fun _ => rfl, nofun⟩
  | read hnone hnull =>
    refine ⟨nofun, fun _ => rfl, fun byReference _ _ => ?_⟩
    -- there was nothing to take, so the gap was there before
    have gap : left.columns.references[a.index]? = some none := by
      rw [Invocation.columns_references, hnull byReference]
      rfl
    exact (Columns.clear_of_none gap).symm
  | taken hs hb =>
    refine ⟨nofun, fun serialized => ?_, fun _ _ _ => Invocation.columns_setSlot hs⟩
    rw [Passing.byReference_of_given? hb] at serialized
    cases serialized

end Access

/-! ## Runs of accesses -/

/-- an access with its answer -/
structure Accessed where
  access : Access
  answer : Except InvocationError access.passing.Val

/-- the value by reference that was given out, with its place -/
def Accessed.delivery? (x : Accessed) : Option (Nat × BypassValue) :=
  (x.access.passing.given? x.answer).map fun b => (x.access.index, b)

/-- the values by reference that were given out, with their places -/
def deliveries (answers : List Accessed) : List (Nat × BypassValue) := answers.filterMap Accessed.delivery?

/-- accesses to a record, one after the other -/
def Invocation.accessAll (inv : Invocation) : List Access → List Accessed × Invocation
  | [] => ([], inv)
  | a :: rest =>
    let next := (a.run inv).2.accessAll rest
    (⟨a, (a.run inv).1⟩ :: next.1, next.2)

/-- accesses to columns, one after the other -/
def Columns.accessAll (c : Columns) : List Access → Option (List Accessed × Columns)
  | [] => some ([], c)
  | a :: rest => do
    let (answer, left) ← a.onColumns c
    let (answers, last) ← left.accessAll rest
    return (⟨a, answer⟩ :: answers, last)

theorem Access.onColumns_columns (a : Access) (inv : Invocation) :
    a.onColumns inv.columns = some ((a.run inv).1, (a.run inv).2.columns) :=
  a.passing.unmarshal_columns a.codec a.index inv

theorem Invocation.columns_accessAll (inv : Invocation) (accesses : List Access) :
    inv.columns.accessAll accesses = some ((inv.accessAll accesses).1, (inv.accessAll accesses).2.columns) := by
  induction accesses generalizing inv with
  | nil => rfl
  | cons a rest ih => simp [Columns.accessAll, accessAll, a.onColumns_columns, ih]

/-- values by reference go from their slots to whoever asked for them, each once at most -/
structure Delivers (inv : Invocation) (given : List (Nat × BypassValue)) (left : Invocation) : Prop where
  once : (given.map (·.1)).Nodup
  placed : ∀ index b, (index, b) ∈ given → inv.slot? index = some (.reference b)
  left : ∀ index, left.slot? index = if index ∈ given.map (·.1) then some .null else inv.slot? index

/-- a value is taken out of its slot, and then others out of the record that is left -/
theorem Delivers.cons {inv left : Invocation} {given : List (Nat × BypassValue)} {index : Nat} {b : BypassValue}
    (hs : inv.slot? index = some (.reference b)) (h : Delivers (inv.setSlot index .null) given left) :
    Delivers inv ((index, b) :: given) left := by
  have emptied : (inv.setSlot index .null).slot? index = some .null := by
    rw [Invocation.slot?_setSlot, if_pos rfl, hs]
    rfl
  have others {place : Nat} (hne : index ≠ place) : (inv.setSlot index .null).slot? place = inv.slot? place := by
    rw [Invocation.slot?_setSlot, if_neg hne]
  -- an emptied slot has no value to give out
  have fresh : index ∉ given.map (·.1) := by
    intro hmem
    obtain ⟨⟨_, b'⟩, hgiven, rfl⟩ := List.mem_map.1 hmem
    cases emptied.symm.trans (h.placed _ b' hgiven)
  refine ⟨List.nodup_cons.2 ⟨fresh, h.once⟩, ?_, ?_⟩
  · intro place b' hmem
    rcases List.mem_cons.1 hmem with same | hgiven
    · cases same
      exact hs
    · have hne : index ≠ place := by
        rintro rfl
        exact fresh (List.mem_map.2 ⟨_, hgiven, rfl⟩)
      rw [← others hne]
      exact h.placed place b' hgiven
  · intro place
    rw [h.left, List.map_cons]
    by_cases hne : index = place
    · subst hne
      rw [if_neg fresh, if_pos List.mem_cons_self, emptied]
    · rw [others hne]
      simp only [List.mem_cons, Ne.symm hne, false_or]

/-- **Accesses.** Over any accesses, each value by reference is given out once at most, out of its own slot. -/
theorem Invocation.accessAll_delivers (inv : Invocation) (accesses : List Access) :
    Delivers inv (deliveries (inv.accessAll accesses).1) (inv.accessAll accesses).2 := by
  induction accesses generalizing inv with
  | nil => exact ⟨List.nodup_nil, nofun, fun _ => rfl⟩
  | cons a rest ih =>
    have ends := a.passing.unmarshal_ends a.codec a.index inv
    have rest := ih (a.run inv).2
    simp only [accessAll, deliveries, List.filterMap_cons, Accessed.delivery?] at rest ⊢
    rw [Access.run] at rest ⊢
    generalize a.passing.unmarshal a.codec a.index inv = result at ends rest ⊢
    obtain ⟨answer, next⟩ := result
    cases ends with
    | failed e =>
      rw [Passing.given?_error]
      exact rest
    | read hnone hnull =>
      rw [hnone]
      exact rest
    | taken hs hb =>
      rw [hb]
      exact .cons hs rest

/-! ## Records that are built and accessed -/

/-- **Slots and deliveries.** For every record that a builder makes, and every run of accesses to it, with whatever
places and types:
- the run on the columns finds every place inside them, and does what the run on the record does;
- the columns have equal lengths, and each argument is a payload, a value by reference or null, and only one of them;
- any further access gives an answer, leaves the columns alone if it fails or reads, and clears its own place if it
  takes;
- the values by reference that were given out come from different places, and each is the value that a step of the
  builder put to its place, with the type that it was asked for;
- the record that is left is the one that was built, with null in the places that were given out. -/
theorem accesses_deliver_once (method : String) (steps : List BuildStep) (accesses : List Access) :
    ∃ answers left, (Invocation.built method steps).accessAll accesses = (answers, left) ∧
      (Columns.built method steps).accessAll accesses = some (answers, left.columns) ∧
      left.columns.Aligned ∧
      (∀ a : Access, ∃ answer next, a.onColumns left.columns = some (answer, next) ∧ (a.run left).1 = answer ∧
        (a.run left).2.columns = next ∧ a.Leaves left.columns answer next) ∧
      ((deliveries answers).map (·.1)).Nodup ∧
      (∀ index b, (index, b) ∈ deliveries answers →
        ∃ typeName, (steps.filterMap BuildStep.argument?)[index]? = some ⟨typeName, .reference b⟩) ∧
      ∀ index, left.slot? index = if index ∈ (deliveries answers).map (·.1) then some .null
        else (Invocation.built method steps).slot? index := by
  have delivers := (Invocation.built method steps).accessAll_delivers accesses
  have columns := (Invocation.built method steps).columns_accessAll accesses
  rw [columns_built] at columns
  refine ⟨_, _, rfl, columns, Invocation.columns_aligned _, fun a => ?_, delivers.once, fun index b hmem => ?_,
    delivers.left⟩
  · exact ⟨_, _, a.onColumns_columns _, rfl, rfl, a.run_leaves _⟩
  · obtain ⟨⟨typeName, s⟩, hargument, hslot⟩ := Option.map_eq_some_iff.1 (delivers.placed index b hmem)
    rw [Invocation.built_arguments] at hargument
    cases hslot
    exact ⟨typeName, hargument⟩

/-- a value asked for as another type stays; it is given out once, and then its slot is null -/
example :
    deliveries ((Invocation.built "store" [.reference "buffer" ⟨.buffer, "pages"⟩]).accessAll
      [⟨.postcard none, 0, .reference .auditLog⟩, ⟨.postcard none, 0, .reference .buffer⟩,
        ⟨.postcard none, 0, .optionalReference .buffer⟩]).1 = [(0, ⟨.buffer, "pages"⟩)] := by
  rfl

end Loopback
