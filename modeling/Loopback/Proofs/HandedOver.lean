/-
The records that calls hand over to invokers.

`Behaviour.noting` lets the invokers do what they do and notes each record that one is handed. Everything on the calling
side mirrors itself but the run of the invoker, so a call with notes is the call without them.
- `SecurityContext.told`: what a record tells of the caller, as a table;
- `Returning.complete_mirrors`: completing a call hands over its record, once;
- `Signature.handsOver`: a call hands over one record, or none when it is refused; the record names the method, has the
  declared types, and tells of the caller what is in the table.
-/
import Loopback.Proofs.Recording
import Loopback.Proofs.Routing

namespace Loopback

variable {ι σ τ : Type}

/-! ## What a record tells of the caller -/

/-- what a record tells of the caller: the id of the session, and its attributes if they belong to the request -/
def SecurityContext.told : Option SecurityContext → Option Uuid × Attributes
  | none => (none, .absent)
  | some (.ofId id) => (some id, .absent)
  | some (.ofSession ⟨id, _, false⟩) => (some id, .absent)
  | some (.ofSession ⟨id, attributes, true⟩) => (some id, attributes)

/-- the record that a call begins with tells what is in the table -/
theorem Dispatcher.firstRecord_told (d : Dispatcher) (method : String) :
    ((d.firstRecord method).sessionId, (d.firstRecord method).attributes) = SecurityContext.told d.securityContext := by
  unfold firstRecord
  rcases d.securityContext with _ | id | ⟨id, a, own⟩
  · rfl
  · rfl
  · cases own <;> rfl

/-! ## Noting what is handed over -/

/-- the invokers do what they do, and each record that one is handed is noted beside the state, the newest first -/
def Behaviour.noting (behave : Behaviour ι σ) : Behaviour ι (σ × List (ι × Invocation)) := fun i inv => do
  Act.modifyApp fun (app, handed) => (app, (i, inv) :: handed)
  (behave i inv).beside

section Books

variable {t : τ} {α : Type}

theorem Environment.count_mirrors (env : Environment) (c : Counter) :
    (env.count c : Act ι σ Unit).Mirrors (env.count c) t t := fun _ => rfl

theorem logError_mirrors (entry method : String) (e : InvocationError) :
    (logError entry method e : Act ι σ Unit).Mirrors (logError entry method e) t t := by
  cases e <;> exact .event _ _ _

theorem Dispatcher.reject_mirrors (d : Dispatcher) (entry method : String) (e : InvocationError) :
    (d.reject entry method e : Act ι σ InvocationError).Mirrors (d.reject entry method e) t t :=
  .bind (d.environment.count_mirrors _) fun _ => .bind (logError_mirrors _ _ _) fun _ => .pure _

theorem Dispatcher.resolve_mirrors (d : Dispatcher) :
    (d.resolve : Act ι σ (Except InvocationError (String × ι))).Mirrors d.resolve t t := by
  have target : (d.environment.targetBlock : Act ι σ (Except InvocationError String)).Mirrors
      d.environment.targetBlock t t := fun _ => rfl
  refine target.bind fun r => ?_
  cases r with
  | error e => exact .pure _
  | ok block =>
    have found : (d.environment.lookup (block ++ d.serviceName) : Act ι σ (Option ι)).Mirrors
        (d.environment.lookup (block ++ d.serviceName)) t t := fun _ => rfl
    refine found.bind fun i => ?_
    cases i with
    | some i => exact .pure _
    | none =>
      have known : (d.environment.statuses : Act ι σ Statuses).Mirrors d.environment.statuses t t := fun _ => rfl
      exact known.bind fun _ => .pure _

theorem Dispatcher.call_mirrors (d : Dispatcher) (method : String) :
    (d.call method : Act ι σ (Except InvocationError (Call ι))).Mirrors (d.call method) t t := by
  refine (d.environment.count_mirrors _).bind fun _ => d.resolve_mirrors.bind fun r => ?_
  cases r with
  | error e => exact (d.reject_mirrors _ _ _).bind fun _ => .pure _
  | ok found => exact .pure _

theorem Call.pushEncoded_mirrors (c : Call ι) (name : String) (u : Ty) (v : u.Val) :
    (c.pushEncoded name u v : Act ι σ (Except InvocationError (Call ι))).Mirrors (c.pushEncoded name u v) t t := by
  refine (c.dispatcher.codec.serialize_mirrors u v).bind fun r => ?_
  cases r with
  | ok bs => exact .pure _
  | error e => exact (c.dispatcher.reject_mirrors _ _ _).bind fun _ => .pure _

theorem Passing.marshal_mirrors (c : Call ι) (p : Passing) (v : p.Val) :
    (p.marshal c v : Act ι σ (Except InvocationError (Call ι))).Mirrors (p.marshal c v) t t := by
  cases p with
  | value u => exact c.pushEncoded_mirrors _ u v
  | optional u =>
    cases v with
    | none => exact .pure _
    | some v => exact c.pushEncoded_mirrors _ u v
  | reference u => exact .pure _
  | optionalReference u => exact .pure _

theorem marshal_mirrors (ps : List Param) (vs : Args ps) (c : Call ι) :
    (marshal ps vs c : Act ι σ (Except InvocationError (Call ι))).Mirrors (marshal ps vs c) t t := by
  induction ps generalizing c with
  | nil => exact .pure _
  | cons p ps ih =>
    obtain ⟨v, vs⟩ := vs
    refine (p.passing.marshal_mirrors c v).bind fun r => ?_
    cases r with
    | ok c => exact ih vs c
    | error e => exact .pure _

theorem Call.fail_mirrors (c : Call ι) (E : ErrorType) (e : InvocationError) :
    (c.fail E e : Act ι σ (Except E.Val α)).Mirrors (c.fail E e) t t :=
  (c.dispatcher.reject_mirrors _ _ _).bind fun _ => .pure _

theorem Call.succeed_mirrors (c : Call ι) (E : ErrorType) (a : α) :
    (c.succeed E a : Act ι σ (Except E.Val α)).Mirrors (c.succeed E a) t t :=
  (c.dispatcher.environment.count_mirrors _).bind fun _ => .pure _

theorem Call.unpack_mirrors (c : Call ι) (E : ErrorType) (bs : Bytes) :
    (c.unpack E bs : Act ι σ (Except E.Val α)).Mirrors (c.unpack E bs) t t := by
  unfold unpack
  cases c.dispatcher.codec.decode .remoteFailure bs with
  | error e => exact c.fail_mirrors E _
  | ok f =>
    dsimp only
    cases f.firstDeclaredCause with
    | none => exact c.fail_mirrors E _
    | some payload =>
      dsimp only
      cases c.dispatcher.codec.decode E.ty payload with
      | ok e => exact (c.dispatcher.environment.count_mirrors _).bind fun _ => .bind (.event _ _ _) fun _ => .pure _
      | error e => exact .bind (.event _ _ _) fun _ => c.fail_mirrors E _

theorem Returning.finish_mirrors (c : Call ι) (E : ErrorType) (r : Returning) (res : InvocationResult) :
    (r.finish c E res : Act ι σ (Except E.Val r.Val)).Mirrors (r.finish c E res) t t := by
  cases r with
  | value u =>
    cases res with
    | value bs =>
      dsimp only [finish]
      cases c.dispatcher.codec.decode u bs with
      | ok v => exact c.succeed_mirrors E v
      | error e => exact c.fail_mirrors E _
    | reference b => exact c.fail_mirrors E _
    | failure bs => exact c.unpack_mirrors E bs
  | reference u =>
    cases res with
    | value bs => exact c.fail_mirrors E _
    | reference b =>
      dsimp only [finish]
      cases b.downcast u with
      | some v => exact c.succeed_mirrors E v
      | none => exact c.fail_mirrors E _
    | failure bs => exact c.unpack_mirrors E bs

end Books

/-- completing a call hands over the record of the call, once -/
theorem Returning.complete_mirrors (behave : Behaviour ι σ) (c : Call ι) (E : ErrorType) (r : Returning)
    (t : List (ι × Invocation)) :
    (r.complete behave c E).Mirrors (r.complete (Behaviour.noting behave) c E) t ((c.invoker, c.sent r) :: t) := by
  rw [complete_eq_finish, complete_eq_finish]
  have run : (c.run behave r.byReference).Mirrors (c.run (Behaviour.noting behave) r.byReference) t
      ((c.invoker, c.sent r) :: t) := fun _ => rfl
  exact run.bind fun res => r.finish_mirrors c E res

/-! ## One call -/

/-- what a call of a method hands over in a state -/
structure Signature.HandsOver (sig : Signature) (behave : Behaviour ι σ) (d : Dispatcher) (args : Args sig.params)
    (w : World ι σ) (handed : List (ι × Invocation)) : Prop where
  /-- with notes the call does what it does without, and `handed` is noted -/
  noted : ∀ notes, sig.call (Behaviour.noting behave) d args (w.beside notes) =
    ((sig.call behave d args w).1, (sig.call behave d args w).2.beside (handed ++ notes))
  once : handed = [] ∨ ∃ i inv, handed = [(i, inv)]
  /-- without a record the caller is told why: there is no invoker, or an argument is not encoded -/
  refused : handed = [] →
    (∃ e, (sig.call behave d args w).1 = .ok (.error (sig.error.ofInvocation e))) ∧
      ((∃ e, d.outcome sig.name w = .error e) ∨
        ∃ t x, .encoded t x ∈ contents sig.params args ∧ ¬d.codec.AlwaysEncodes t x)
  tells : ∀ i inv, (i, inv) ∈ handed → inv.method = sig.name ∧ inv.parameterTypes = sig.types ∧
    (inv.sessionId, inv.attributes) = SecurityContext.told d.securityContext

/-- **Handing over.** A call hands over one record, or none when it is refused. -/
theorem Signature.handsOver (sig : Signature) (behave : Behaviour ι σ) (d : Dispatcher) (args : Args sig.params)
    (w : World ι σ) : ∃ handed, sig.HandsOver behave d args w handed := by
  obtain ⟨w₁, hcall, -⟩ := d.call_eq sig.name w
  have started (notes : List (ι × Invocation)) :
      d.call sig.name (w.beside notes) = (.ok (d.outcome sig.name w), w₁.beside notes) := by
    have mirrored := d.call_mirrors sig.name (t := notes) w
    rw [hcall] at mirrored
    exact mirrored
  cases ho : d.outcome sig.name w with
  | error e =>
    rw [ho] at hcall started
    have plain : sig.call behave d args w = (.ok (.error (sig.error.ofInvocation e)), w₁) := call_of_refused hcall
    refine ⟨[], fun notes => ?_, .inl rfl, fun _ => ⟨⟨e, ?_⟩, .inl ⟨e, ho⟩⟩, nofun⟩
    · rw [plain]
      exact call_of_refused (started notes)
    · rw [plain]
  | ok call =>
    rw [ho] at hcall started
    obtain ⟨-, hd, hrecord⟩ := Dispatcher.call_ok hcall
    -- an argument may fail to be encoded, unless the codec encodes all of them
    have encodes (t : Ty) (x : t.Val) (hx : .encoded t x ∈ contents sig.params args) :
        (∃ t x, .encoded t x ∈ contents sig.params args ∧ ¬d.codec.AlwaysEncodes t x) ∨
          call.dispatcher.codec.AlwaysEncodes t x := by
      rw [hd]
      exact (Classical.em (d.codec.AlwaysEncodes t x)).symm.imp_left fun h => ⟨t, x, hx, h⟩
    obtain ⟨r, w₂, hm, -, hr⟩ := marshal_keeps sig.params args call encodes w₁
    have marshalled (notes : List (ι × Invocation)) :
        marshal sig.params args call (w₁.beside notes) = (.ok r, w₂.beside notes) := by
      have mirrored := marshal_mirrors sig.params args call (t := notes) w₁
      rw [hm] at mirrored
      exact mirrored
    rcases hr with ⟨l, hl, rfl⟩ | ⟨lost, m, rfl⟩
    · have plain : sig.call behave d args w = sig.result.complete behave (call.append l) sig.error w₂ :=
        call_of_marshal hcall hm
      refine ⟨[(call.invoker, (call.append l).sent sig.result)], fun notes => ?_, .inr ⟨_, _, rfl⟩, nofun, ?_⟩
      · rw [plain, call_of_marshal (started notes) (marshalled notes)]
        exact sig.result.complete_mirrors behave (call.append l) sig.error notes w₂
      · intro i inv hmem
        cases List.mem_singleton.1 hmem
        obtain ⟨hmethod, harguments⟩ := Call.sent_append hrecord l sig.result
        refine ⟨hmethod, ?_, ?_⟩
        · rw [Invocation.parameterTypes, harguments]
          exact hl.parameterTypes
        · show (call.record.sessionId, call.record.attributes) = _
          rw [hrecord]
          exact d.firstRecord_told sig.name
    · have plain : sig.call behave d args w = (.ok (.error (sig.error.ofInvocation (.codec m))), w₂) :=
        call_of_marshal_error hcall hm
      refine ⟨[], fun notes => ?_, .inl rfl, fun _ => ⟨⟨.codec m, ?_⟩, .inr lost⟩, nofun⟩
      · rw [plain]
        exact call_of_marshal_error (started notes) (marshalled notes)
      · rw [plain]

end Loopback
