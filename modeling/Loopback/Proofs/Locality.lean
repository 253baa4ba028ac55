/-
What an error says of the invoker of its call.

An error of the invocation layer is local by its form: it is about the configuration or about a missing entry. A call ends
in such an error when it finds no invoker. An argument that is not encoded also ends a call before an invoker runs, but in
an error of the codec; and an invoker may answer with a local error of its own, which it declares.
- `Dispatcher.Opens`, `Dispatcher.Fails`: the steps of one call, each in any state, and the three ways in which it ends in
  an error, with the records that it has handed over by then;
- `Returning.receive_error`: the caller makes no local error out of an answer, it only unwraps the declared one;
- `Signature.fails_of_call`: a call of a method ends in an error in one of the three ways;
- `isLocal_iff_not_run`: a local error says that no invoker ran, unless an argument was not encoded or the error that was
  declared is local;
- `isLocal_misleads`: an error that is not local although no invoker ran, and a local one although an invoker ran.
-/
import Loopback.Proofs.CodecChoice
import Loopback.Proofs.Counting
import Loopback.Proofs.HandedOver

namespace Loopback

variable {ι σ τ α : Type}

/-! ## Errors of calls -/

/-- where the error of a call comes from -/
inductive Origin where
  /-- the call has found no invoker -/
  | resolution
  /-- an argument is not encoded -/
  | encoding
  /-- the invoker has answered -/
  | answer (res : InvocationResult)

/-- the error tells wrong: it cannot be local, or it is one that the invoker has declared, and local -/
def Origin.Misleads (codec : Codec) (e : InvocationError) : Origin → Prop
  | resolution => False
  | encoding => True
  | answer res => codec.Unwraps .invocation res e ∧ e.isLocal = true

/-- a call of a dispatcher that gets its arguments; in between anything may happen. `handed` is what the steps hand over
when the invokers take notes -/
inductive Dispatcher.Opens (σ : Type) (d : Dispatcher) : Call ι → List (ι × Invocation) → Prop
  | call {method : String} {c : Call ι} {w w' : World ι σ} {handed : List (ι × Invocation)}
    (h : d.call method w = (.ok (.ok c), w'))
    (hnoted : d.call method (w.beside []) = (.ok (.ok c), w'.beside handed)) : Opens σ d c handed
  | add {p : Passing} {v : p.Val} {c c' : Call ι} {w w' : World ι σ} {before handed : List (ι × Invocation)}
    (hc : Opens σ d c before) (h : p.marshal c v w = (.ok (.ok c'), w'))
    (hnoted : p.marshal c v (w.beside before) = (.ok (.ok c'), w'.beside handed)) : Opens σ d c' handed

/-- a call of a dispatcher ends in an error of the invocation layer, and has handed over some records by then -/
inductive Dispatcher.Fails (behave : Behaviour ι σ) (d : Dispatcher) :
    Origin → InvocationError → List (ι × Invocation) → Prop
  /-- the call is refused -/
  | refused {method : String} {w w' : World ι σ} {e : InvocationError} {handed : List (ι × Invocation)}
    (h : d.call method w = (.ok (.error e), w'))
    (hnoted : d.call method (w.beside []) = (.ok (.error e), w'.beside handed)) : Fails behave d .resolution e handed
  /-- an argument is added and not encoded -/
  | spoiled {c : Call ι} {p : Passing} {v : p.Val} {w w' : World ι σ} {e : InvocationError}
    {before handed : List (ι × Invocation)} (hc : d.Opens σ c before) (h : p.marshal c v w = (.ok (.error e), w'))
    (hnoted : p.marshal c v (w.beside before) = (.ok (.error e), w'.beside handed)) : Fails behave d .encoding e handed
  /-- the call is completed, and the invoker answers -/
  | answered {c : Call ι} {r : Returning} {res : InvocationResult} {w w₁ w' : World ι σ} {e : InvocationError}
    {before handed : List (ι × Invocation)} (hc : d.Opens σ c before)
    (hrun : c.run behave r.byReference w = (.ok res, w₁)) (h : r.complete behave c .invocation w = (.ok (.error e), w'))
    (hnoted : r.complete (Behaviour.noting behave) c .invocation (w.beside before) =
      (.ok (.error e), w'.beside handed)) : Fails behave d (.answer res) e handed

/-! ## Steps -/

/-- what is beside the state in the end is known -/
theorem Act.Mirrors.noted {x : Act ι σ α} {y : Act ι (σ × τ) α} {t t' t'' : τ} {r : Except Panic α} {w w' : World ι σ}
    (hxy : x.Mirrors y t t') (h : x w = (r, w')) (hy : y (w.beside t) = (r, w'.beside t'')) : t'' = t' := by
  have mirrored : (r, w'.beside t'') = (r, w'.beside t') := hy.symm.trans (hxy.of_eq h)
  exact congrArg (fun result => result.2.app.2) mirrored

theorem Passing.marshal_dispatcher {p : Passing} {v : p.Val} {c c' : Call ι} {w w' : World ι σ}
    (h : p.marshal c v w = (.ok (.ok c'), w')) : c'.dispatcher = c.dispatcher := by
  obtain ⟨_, -, ⟨c'', hc, hd, -⟩ | ⟨e, he, -⟩⟩ := (p.marshal_counts c v rfl).of_eq h
  · cases hc
    exact hd
  · cases he

theorem Dispatcher.Opens.dispatcher {d : Dispatcher} {c : Call ι} {handed : List (ι × Invocation)}
    (h : d.Opens σ c handed) : c.dispatcher = d := by
  induction h with
  | call h _ => exact (Dispatcher.call_ok h).2.1
  | add hc h _ ih => exact (Passing.marshal_dispatcher h).trans ih

/-- a call that is not completed hands over nothing -/
theorem Dispatcher.Opens.nothing {d : Dispatcher} {c : Call ι} {handed : List (ι × Invocation)}
    (h : d.Opens σ c handed) : handed = [] := by
  induction h with
  | call h hnoted => exact (d.call_mirrors _).noted h hnoted
  | add hc h hnoted ih => exact ((Passing.marshal_mirrors _ _ _).noted h hnoted).trans ih

/-- a call that finds no invoker ends in a local error -/
theorem Dispatcher.isLocal_of_call_error {d : Dispatcher} {method : String} {w w' : World ι σ} {e : InvocationError}
    (h : d.call method w = (.ok (.error e), w')) : e.isLocal = true := by
  obtain ⟨_, hcall, -⟩ := d.call_eq method w
  have outcome : d.outcome method w = .error e := Except.ok.inj (Prod.mk.inj (hcall.symm.trans h)).1
  cases ht : w.target? d.environment with
  | none =>
    obtain ⟨e', he, hkind⟩ := d.outcome_of_no_target method ht
    cases he.symm.trans outcome
    cases e <;> first | rfl | cases hkind
  | some block =>
    rw [outcome_of_target ht] at outcome
    split at outcome
    · cases outcome
    · cases outcome
      rfl

/-- an argument that is not encoded ends its call in an error that is not local -/
theorem Passing.not_isLocal_of_marshal_error {p : Passing} {v : p.Val} {c : Call ι} {w w' : World ι σ}
    {e : InvocationError} (h : p.marshal c v w = (.ok (.error e), w')) : e.isLocal = false := by
  obtain ⟨_, _, hmarshal, -, ⟨s, -, rfl⟩ | ⟨-, m, rfl⟩⟩ :=
    (p.marshal_keeps c v fun _ _ _ => .inl trivial) w
  · cases h.symm.trans hmarshal
  · cases h.symm.trans hmarshal
    rfl

/-- a failure comes to the declared error that it wraps, or to an error that is not local -/
theorem Codec.receivedError_cases (c : Codec) (bs : Bytes) :
    c.Unwraps .invocation (.failure bs) (c.receivedError .invocation bs) ∨
      InvocationError.isLocal (c.receivedError .invocation bs) = false := by
  unfold receivedError
  cases hf : c.decode .remoteFailure bs with
  | error e => exact .inr rfl
  | ok f =>
    dsimp only [unwrapped]
    cases hcause : f.firstDeclaredCause with
    | none => exact .inr rfl
    | some payload =>
      dsimp only
      cases hdeclared : c.decode ErrorType.invocation.ty payload with
      | ok declared => exact .inl ⟨bs, f, payload, rfl, hf, hcause, hdeclared⟩
      | error e => exact .inr rfl

/-- **At the caller.** An error that an answer comes to is the declared one that it wraps, or it is not local. -/
theorem Returning.receive_error {c : Codec} {method : String} {r : Returning} {res : InvocationResult}
    {e : InvocationError} (h : r.receive c .invocation method res = .error e) :
    c.Unwraps .invocation res e ∨ e.isLocal = false := by
  cases res with
  | failure bs =>
    rw [r.receive_failure] at h
    cases h
    exact c.receivedError_cases bs
  | value bs =>
    cases r with
    | value t =>
      dsimp only [receive] at h
      cases hd : c.decode t bs with
      | ok v =>
        rw [hd] at h
        cases h
      | error err =>
        rw [hd] at h
        cases h
        exact .inr rfl
    | reference t =>
      cases h
      exact .inr rfl
  | reference b =>
    cases r with
    | value t =>
      cases h
      exact .inr rfl
    | reference t =>
      dsimp only [receive] at h
      cases hb : b.downcast t with
      | some v =>
        rw [hb] at h
        cases h
      | none =>
        rw [hb] at h
        cases h
        exact .inr rfl

/-! ## Calls of methods -/

section Failures

variable {behave : Behaviour ι σ} {d : Dispatcher}

/-- a call that is started in a state is started with notes, too -/
theorem Dispatcher.opens_of_call {method : String} {c : Call ι} {w w' : World ι σ}
    (h : d.call method w = (.ok (.ok c), w')) : d.Opens σ c [] :=
  .call h ((d.call_mirrors method).of_eq h)

variable (behave) in
/-- arguments that are added leave the call open, or one of them is not encoded -/
theorem marshal_cases {ps : List Param} {args : Args ps} {c : Call ι} {w w' : World ι σ}
    {r : Except InvocationError (Call ι)} (hc : d.Opens σ c []) (h : marshal ps args c w = (.ok r, w')) :
    (∃ c', r = .ok c' ∧ d.Opens σ c' []) ∨ ∃ e, r = .error e ∧ d.Fails behave .encoding e [] := by
  induction ps generalizing c w with
  | nil =>
    cases h
    exact .inl ⟨c, rfl, hc⟩
  | cons p ps ih =>
    obtain ⟨v, vs⟩ := args
    obtain ⟨first, w₁, hfirst, -⟩ := (p.passing.marshal_keeps c v fun _ _ _ => .inl trivial) w
    have noted := (p.passing.marshal_mirrors c v (t := ([] : List (ι × Invocation)))).of_eq hfirst
    rw [marshal, bind_of_ok hfirst] at h
    cases first with
    | ok c' => exact ih (.add hc hfirst noted) h
    | error e =>
      cases h
      exact .inr ⟨e, rfl, .spoiled hc hfirst noted⟩

/-- the record of a call that is completed is handed over, and the error is the one that the answer comes to -/
theorem Dispatcher.fails_of_answer {c : Call ι} {r : Returning} {res : InvocationResult} {e : InvocationError}
    {w w₁ : World ι σ} (hc : d.Opens σ c []) (hrun : c.run behave r.byReference w = (.ok res, w₁))
    (he : r.receive d.codec .invocation c.method res = .error e) :
    d.Fails behave (.answer res) e [(c.invoker, c.sent r)] := by
  obtain ⟨_, w₂, hfinish, -, rfl⟩ := r.finish_keeps c .invocation res w₁
  rw [hc.dispatcher, he] at hfinish
  have completed : r.complete behave c .invocation w = (.ok (.error e), w₂) := by
    rw [Returning.complete_eq_finish, bind_of_ok hrun, hfinish]
  exact .answered hc hrun completed ((r.complete_mirrors behave c .invocation []).of_eq completed)

/-- a call that is completed and comes back has run its invoker -/
theorem Returning.run_of_complete {c : Call ι} {E : ErrorType} {r : Returning} {got : Except E.Val r.Val}
    {w w' : World ι σ} (h : r.complete behave c E w = (.ok got, w')) :
    ∃ res w₁, c.run behave r.byReference w = (.ok res, w₁) := by
  rw [complete_eq_finish] at h
  rcases hrun : c.run behave r.byReference w with ⟨p | res, w₁⟩
  · rw [bind_of_error hrun] at h
    cases h
  · exact ⟨res, w₁, rfl⟩

/-- a call with notes ends as the call without them, and its records are noted -/
theorem Signature.HandsOver.noted_eq {sig : Signature} {args : Args sig.params} {w w' : World ι σ}
    {r : Except Panic sig.Answer} {handed : List (ι × Invocation)} (hh : sig.HandsOver behave d args w handed)
    (h : sig.call behave d args w = (r, w')) :
    sig.call (Behaviour.noting behave) d args (w.beside []) = (r, w'.beside handed) := by
  have noted := hh.noted []
  rw [h, List.append_nil] at noted
  exact noted

/-- **Failing.** A call of a method that ends in an error ends in one of the three ways, with the records that it hands
over. -/
theorem Signature.fails_of_call {method : String} {ps : List Param} {r : Returning} {args : Args ps} {w w' : World ι σ}
    {e : InvocationError} {handed : List (ι × Invocation)}
    (h : Signature.call behave d ⟨method, ps, r, .invocation⟩ args w = (.ok (.error e), w'))
    (hh : Signature.HandsOver ⟨method, ps, r, .invocation⟩ behave d args w handed) :
    ∃ origin, d.Fails behave origin e handed := by
  have noted := hh.noted_eq h
  obtain ⟨w₁, hcall, -⟩ := d.call_eq (Signature.mk method ps r .invocation).name w
  have started := (d.call_mirrors (Signature.mk method ps r .invocation).name
    (t := ([] : List (ι × Invocation)))).of_eq hcall
  cases ho : d.outcome (Signature.mk method ps r .invocation).name w with
  | error e' =>
    rw [ho] at hcall started
    rw [call_of_refused hcall] at h
    rw [call_of_refused started] at noted
    cases h
    rw [(Prod.mk.inj noted).2] at started
    exact ⟨.resolution, .refused hcall started⟩
  | ok c =>
    rw [ho] at hcall started
    obtain ⟨added, w₂, hm, -⟩ := marshal_keeps ps args c (fun _ _ _ => .inl trivial) w₁
    have marshalled := (marshal_mirrors ps args c (t := ([] : List (ι × Invocation)))).of_eq hm
    rcases marshal_cases behave (Dispatcher.opens_of_call hcall) hm with ⟨c', rfl, hc'⟩ | ⟨e', rfl, hspoiled⟩
    · rw [call_of_marshal hcall hm] at h
      rw [call_of_marshal started marshalled] at noted
      obtain ⟨res, w₃, hrun⟩ := Returning.run_of_complete h
      exact ⟨.answer res, .answered hc' hrun h noted⟩
    · rw [call_of_marshal_error hcall hm] at h
      rw [call_of_marshal_error started marshalled] at noted
      cases h
      have nothing : [] = handed := congrArg (fun v => v.app.2) (Prod.mk.inj noted).2
      rw [← nothing]
      exact ⟨.encoding, hspoiled⟩

/-! ## Whether an invoker ran -/

/-- **Local errors.** A call that ends in an error has run no invoker, exactly when the error does not come from an
answer. That the error is local says so, exactly when no argument was left unencoded and the invoker has not declared a
local error. -/
theorem isLocal_iff_not_run {origin : Origin} {e : InvocationError} {handed : List (ι × Invocation)}
    (h : d.Fails behave origin e handed) :
    (handed = [] ↔ ∀ res, origin ≠ .answer res) ∧
      ((e.isLocal = true ↔ handed = []) ↔ ¬origin.Misleads d.codec e) := by
  cases h with
  | refused h hnoted =>
    have nothing := (d.call_mirrors _).noted h hnoted
    simp [nothing, Dispatcher.isLocal_of_call_error h, Origin.Misleads]
  | spoiled hc h hnoted =>
    have nothing := ((Passing.marshal_mirrors _ _ _).noted h hnoted).trans hc.nothing
    simp [nothing, Passing.not_isLocal_of_marshal_error h, Origin.Misleads]
  | @answered c r res w w₁ w' e before handed hc hrun h hnoted =>
    have once := (r.complete_mirrors behave c .invocation before).noted h hnoted
    obtain ⟨_, _, hfinish, -, hgot⟩ := r.finish_keeps c .invocation res w₁
    rw [Returning.complete_eq_finish, bind_of_ok hrun, hfinish] at h
    cases h
    have error := Returning.receive_error hgot.symm
    rw [hc.dispatcher] at error
    simp only [once, Origin.Misleads]
    rcases error with hdeclared | hremote
    · simp [hdeclared]
    · simp [hremote]

end Failures

/-- what calls the service of the shelf -/
def shelfDispatcher : Dispatcher := ⟨"/shelf", ⟨0, 0⟩, .json .compact, none⟩

/-- an invoker that answers by reference -/
def crossing : Behaviour Unit Unit := fun _ _ => return .reference ⟨.buffer, "pages"⟩

/-- a call for a value, answered by reference: the invoker ran, and the error is not local -/
theorem isLocal_iff_not_run_crossed :
    ∃ e handed, shelfDispatcher.Fails crossing (.answer (.reference ⟨.buffer, "pages"⟩)) e handed ∧
      handed ≠ [] ∧ e.isLocal = false := by
  obtain ⟨w, hcall⟩ := shelfDispatcher.exists_call_hosting "count" () () rfl
  let c : Call Unit := shelfDispatcher.firstCall "main" "count" ()
  have opened : shelfDispatcher.Opens Unit c [] := Dispatcher.opens_of_call hcall
  obtain ⟨w₁, hrun⟩ : ∃ w₁, c.run crossing false w = (.ok (.reference ⟨.buffer, "pages"⟩), w₁) := ⟨_, rfl⟩
  obtain ⟨e, he⟩ : ∃ e, (Returning.value .u8).receive shelfDispatcher.codec .invocation c.method
      (.reference ⟨.buffer, "pages"⟩) = .error e := ⟨_, rfl⟩
  have fails := Dispatcher.fails_of_answer (r := .value .u8) opened hrun he
  obtain ⟨ran, truthful⟩ := isLocal_iff_not_run fails
  have handed : [(c.invoker, c.sent (.value .u8))] ≠ [] := List.cons_ne_nil _ _
  have plain : ¬Origin.Misleads shelfDispatcher.codec e (.answer (.reference ⟨.buffer, "pages"⟩)) := by
    rintro ⟨⟨_, _, _, hres, -⟩, -⟩
    cases hres
  exact ⟨e, _, fails, handed, Bool.eq_false_iff.2 fun h => handed ((truthful.2 plain).1 h)⟩

/-! ## A service that asks another one -/

/-- what calls a service that no block declares -/
def stockDispatcher : Dispatcher := ⟨"/stock", ⟨0, 0⟩, .json .compact, none⟩

/-- count what is on the shelf: ask the other service, and pass on the error of that call -/
def countShelf : Method Unit Unit where
  signature := ⟨"count", [], .value .u8, .invocation⟩
  body _ := do
    match ← stockDispatcher.call "count" with
    | .error e => return .error e
    | .ok _ => return .ok 0

/-- label places of the shelf -/
def labelShelf : Method Unit Unit where
  signature := ⟨"label", [⟨"labels", .value .pairMap⟩], .value .u8, .invocation⟩
  body _ := return .ok 0

/-- labels for a place: a map whose keys are not text -/
def labels : Args labelShelf.signature.params := (⟨Dict.empty.insert (1, 2) 3⟩, ())

/-- the service of the shelf -/
def shelfService : Service Unit Unit := ⟨"Shelf", [countShelf, labelShelf]⟩

/-- its invoker -/
def shelf : Behaviour Unit Unit := fun _ => shelfService.respond (.json .compact)

/-- the state in which the shelf is called -/
def shelfWorld : World Unit Unit := .hosting "/shelf" () ()

/-- no block declares the other service, so a call of it is refused -/
theorem stockDispatcher_call {w : World Unit Unit} (h : shelfWorld.Alike w) :
    ∃ m w', stockDispatcher.call "count" w = (.ok (.error (.localAccess m none)), w') := by
  obtain ⟨w', hcall, -⟩ := stockDispatcher.call_eq "count" w
  have target : w.target? stockDispatcher.environment = some "main" := by
    rw [World.target?, h.properties]
    rfl
  rw [Dispatcher.outcome_of_target target, World.directory, World.statuses, h.directory, h.statuses] at hcall
  exact ⟨_, w', hcall⟩

/-- an error about a missing entry is given back by JSON, and so is its envelope -/
theorem inverts_localAccess (m : String) :
    (Codec.json .compact).InvertsAnswer .invocation (.value .u8) (.error (.localAccess m none)) := by
  have shallow (f : RemoteFailure) : (Json.document .remoteFailure f).depth ≤ Json.maxDepth :=
    Nat.le_trans (depth_remoteFailure f) (by decide)
  have flat : (Json.document .invocationError (.localAccess m none)).depth ≤ Json.maxDepth :=
    show 2 ≤ Json.maxDepth by decide
  exact ⟨Codec.json_inverts .compact rfl id flat, fun bs _ => Codec.json_inverts .compact rfl id (shallow _)⟩

/-- the error of the other call comes back to the caller of the shelf -/
theorem countShelf_call :
    ∃ m w', countShelf.signature.call shelf shelfDispatcher () shelfWorld = (.ok (.error (.localAccess m none)), w') := by
  obtain ⟨w₀, hcall⟩ := shelfDispatcher.exists_call_hosting countShelf.signature.name () () rfl
  let call : Call Unit := shelfDispatcher.firstCall "main" countShelf.signature.name ()
  have announced : w₀.Alike (call.announced countShelf.signature w₀) := .log w₀ _
  obtain ⟨m, w₁, hstock⟩ := stockDispatcher_call ((Dispatcher.call_ok hcall).1.trans announced)
  have body : countShelf.body () (call.announced countShelf.signature w₀) = (.ok (.error (.localAccess m none)), w₁) :=
    bind_of_ok hstock
  have hm : shelfService.method? countShelf.signature.name = some countShelf := by rfl
  have settled : countShelf.signature.call shelf shelfDispatcher () shelfWorld =
      countShelf.signature.settle shelfDispatcher call.entry (.ok (.error (.localAccess m none))) w₁ :=
    Signature.call_of_inverts rfl hm hcall rfl nofun body (inverts_localAccess m)
  obtain ⟨_, w₂, hsettle, -, rfl⟩ :=
    countShelf.signature.settle_keeps shelfDispatcher call.entry (.ok (.error (.localAccess m none))) w₁
  exact ⟨m, w₂, settled.trans hsettle⟩

/-- **Misleading errors.** The map of the labels is not encoded, and the caller gets an error that is not local although
no invoker ran. The shelf passes on the error of its own call, and the caller gets a local error although the invoker of
the shelf ran. -/
theorem isLocal_misleads :
    (∃ e w', labelShelf.signature.call shelf shelfDispatcher labels shelfWorld = (.ok (.error e), w') ∧
      labelShelf.signature.HandsOver shelf shelfDispatcher labels shelfWorld [] ∧
      InvocationError.isLocal e = false) ∧
    ∃ e w' i inv, countShelf.signature.call shelf shelfDispatcher () shelfWorld = (.ok (.error e), w') ∧
      countShelf.signature.HandsOver shelf shelfDispatcher () shelfWorld [(i, inv)] ∧
      InvocationError.isLocal e = true := by
  constructor
  · obtain ⟨handed, hh⟩ := labelShelf.signature.handsOver shelf shelfDispatcher labels shelfWorld
    obtain ⟨e, w', hcall, hlocal⟩ : ∃ e w', labelShelf.signature.call shelf shelfDispatcher labels shelfWorld =
        (.ok (.error e), w') ∧ InvocationError.isLocal e = false := ⟨_, _, rfl, rfl⟩
    have noted := hh.noted_eq hcall
    have nothing : handed = [] := congrArg (fun result => result.2.app.2) noted.symm
    rw [nothing] at hh
    exact ⟨e, w', hcall, hh, hlocal⟩
  · obtain ⟨m, w', hcall⟩ := countShelf_call
    obtain ⟨handed, hh⟩ := countShelf.signature.handsOver shelf shelfDispatcher () shelfWorld
    rcases hh.once with rfl | ⟨i, inv, rfl⟩
    · obtain ⟨-, ⟨e, refused⟩ | ⟨t, x, hx, -⟩⟩ := hh.refused rfl
      · cases refused
      · cases hx
    · exact ⟨_, w', i, inv, hcall, hh, rfl⟩

end Loopback
