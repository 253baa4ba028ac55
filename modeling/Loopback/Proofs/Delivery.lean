/-
What becomes of a record: on the receiving side, on the way back, and at the caller.

`Service.Handles` says what the receiving side does with a record: it rejects it, or it runs the method on the
arguments once, and the method panics or answers. `Reports` says what is sent for each of these fates, `Tolerable` what
the caller gets. `lossy` says whether encodings may fail and bytes may not be accepted; without it the caller gets
exactly the fate.
- `Service.respond_reports`: the receiving side reports the fate of the record;
- `Returning.complete_eq`: the caller runs the invoker once and reads its answer by `Returning.receive`;
- `tolerable_of_reports`: what the caller reads is tolerable for the fate.
-/
import Loopback.Proofs.Arguments

namespace Loopback

variable {ι σ : Type}

/-! ## Fates -/

/-- what the receiving side did with a record; `α` is the type of answers -/
inductive Fate (α : Type) where
  | rejected (e : InvocationError)
  | panicked (p : Panic)
  | answered (a : α)

/-- the receiving side handles a record in a state: it leaves the services alone and rejects the record, or it runs the
method on the arguments of the record, once -/
inductive Service.Handles (s : Service ι σ) (codec : Codec) (inv : Invocation) {result : Returning} {error : ErrorType}
    (w : World ι σ) : Fate (Except error.Val result.Val) → World ι σ → Prop
  | unknown (hm : s.method? inv.method = none) :
    Handles s codec inv w (.rejected (Invoker.unknownMethod s.interface inv.method)) w
  | rejected {m : Method ι σ} {e : InvocationError} (hm : s.method? inv.method = some m)
    (he : m.signature.receive codec inv = .error e) : Handles s codec inv w (.rejected e) w
  | panicked {m : Method ι σ} {args : Args m.signature.params} {p : Panic} {w' : World ι σ}
    (hm : s.method? inv.method = some m) (ha : m.signature.receive codec inv = .ok args)
    (hb : m.body args w = (.error p, w')) : Handles s codec inv w (.panicked p) w'
  | answered {name : String} {ps : List Param} {body : Args ps → Act ι σ (Except error.Val result.Val)} {args : Args ps}
    {a : Except error.Val result.Val} {w' : World ι σ}
    (hm : s.method? inv.method = some ⟨⟨name, ps, result, error⟩, body⟩)
    (ha : Signature.receive ⟨name, ps, result, error⟩ codec inv = .ok args) (hb : body args w = (.ok a, w')) :
    Handles s codec inv w (.answered a) w'

/-! ## What is sent -/

/-- bytes that are sent for a failure: its envelope, or, where `lossy` allows it, the one without causes or nothing -/
def Codec.Sends (c : Codec) (lossy : Prop) (f : RemoteFailure) (bs : Bytes) : Prop :=
  c.Encodes .remoteFailure f bs ∨ lossy ∧ (c.Encodes .remoteFailure f.plain bs ∨ bs = [])

/-- the envelope of a declared error: with its encoding, or, where `lossy` allows it, without -/
def Codec.Declares (c : Codec) (lossy : Prop) (E : ErrorType) (e : E.Val) (f : RemoteFailure) : Prop :=
  (∃ bs, c.Encodes E.ty e bs ∧ f = .ofDeclared (E.report e) (some bs)) ∨ lossy ∧ f = .ofDeclared (E.report e) none

/-- a result that sends a failure -/
def Codec.SendsFailure (c : Codec) (lossy : Prop) (f : RemoteFailure) (r : InvocationResult) : Prop :=
  ∃ bs, c.Sends lossy f bs ∧ r = .failure bs

/-- a result that sends an answer -/
def Codec.SendsAnswer (c : Codec) (lossy : Prop) (E : ErrorType) :
    (r : Returning) → Except E.Val r.Val → InvocationResult → Prop
  | .value t, .ok v, r =>
    (∃ bs, c.Encodes t v bs ∧ r = .value bs) ∨ lossy ∧ ∃ m, c.SendsFailure lossy (.ofRejection (.codec m)) r
  | .reference t, .ok v, r => r = .reference ⟨t, v⟩
  | _, .error e, r => ∃ f, c.Declares lossy E e f ∧ c.SendsFailure lossy f r

/-- a result that reports the fate of a record -/
def Codec.Reports (c : Codec) (lossy : Prop) (E : ErrorType) (ret : Returning) :
    Fate (Except E.Val ret.Val) → InvocationResult → Prop
  | .rejected e, r => c.SendsFailure lossy (.ofRejection e) r
  | .panicked p, r => c.SendsFailure lossy (.ofPanic p) r
  | .answered a, r => c.SendsAnswer lossy E ret a r

/-! ## What the codec must carry -/

/-- the codec carries a value: it encodes it, and the bytes decode to it; where `lossy` allows it either may fail -/
structure Codec.Carries (c : Codec) (lossy : Prop) (t : Ty) (v : t.Val) : Prop where
  encodes : lossy ∨ c.AlwaysEncodes t v
  decodes : ∀ bs, c.Encodes t v bs → c.Decodes t v bs ∨ lossy ∧ ∃ e, c.decode t bs = .error e

/-- the codec carries a failure: its envelope and, where that may fail, the one without causes; no bytes are no
envelope -/
structure Codec.CarriesFailure (c : Codec) (lossy : Prop) (f : RemoteFailure) : Prop where
  whole : c.Carries lossy .remoteFailure f
  plain : lossy → c.Carries lossy .remoteFailure f.plain
  nothing : lossy → ∃ e, c.decode .remoteFailure [] = .error e

/-- the codec carries an answer -/
def Codec.CarriesAnswer (c : Codec) (lossy : Prop) (E : ErrorType) : (r : Returning) → Except E.Val r.Val → Prop
  | .value t, .ok v => c.Carries lossy t v ∧ (lossy → ∀ m, c.CarriesFailure lossy (.ofRejection (.codec m)))
  | .reference _, .ok _ => True
  | _, .error e => c.Carries lossy E.ty e ∧ ∀ f, c.Declares lossy E e f → c.CarriesFailure lossy f

/-- the codec carries what a fate makes it carry -/
def Codec.CarriesFate (c : Codec) (lossy : Prop) (E : ErrorType) (ret : Returning) : Fate (Except E.Val ret.Val) → Prop
  | .rejected e => c.CarriesFailure lossy (.ofRejection e)
  | .panicked p => c.CarriesFailure lossy (.ofPanic p)
  | .answered a => c.CarriesAnswer lossy E ret a

variable {c : Codec} {lossy : Prop} {E : ErrorType}

/-! ## The receiving side -/

theorem Invoker.failure_keeps {f : RemoteFailure} (h : lossy ∨ c.AlwaysEncodes .remoteFailure f) :
    (Invoker.failure c f : Act ι σ InvocationResult).Keeps (c.SendsFailure lossy f) := by
  refine .bind (c.serialize_keeps h) fun r hr => ?_
  rcases hr with ⟨bs, hbs, rfl⟩ | ⟨hl, e, rfl⟩
  · exact .pure ⟨bs, .inl hbs, rfl⟩
  · refine .bind (.event _ _ _) fun _ _ => .bind (c.serialize_keeps (.inl hl)) fun r hr => ?_
    rcases hr with ⟨bs, hbs, rfl⟩ | ⟨-, e, rfl⟩
    · exact .pure ⟨bs, .inr ⟨hl, .inl hbs⟩, rfl⟩
    · exact .pure ⟨[], .inr ⟨hl, .inr rfl⟩, rfl⟩

theorem Invoker.declaredFailure_keeps {e : E.Val} (h : c.Carries lossy E.ty e) :
    (Invoker.declaredFailure c E e : Act ι σ RemoteFailure).Keeps (c.Declares lossy E e) := by
  refine .bind (c.serialize_keeps h.encodes) fun r hr => ?_
  rcases hr with ⟨bs, hbs, rfl⟩ | ⟨hl, err, rfl⟩
  · exact .pure (.inl ⟨bs, hbs, rfl⟩)
  · exact .bind (.event _ _ _) fun _ _ => .pure (.inr ⟨hl, rfl⟩)

theorem Invoker.declared_keeps {e : E.Val} (h : c.Carries lossy E.ty e)
    (hf : ∀ f, c.Declares lossy E e f → c.CarriesFailure lossy f) :
    (Invoker.declared c E e : Act ι σ InvocationResult).Keeps fun r =>
      ∃ f, c.Declares lossy E e f ∧ c.SendsFailure lossy f r :=
  .bind (Invoker.declaredFailure_keeps h) fun f hd => (Invoker.failure_keeps (hf f hd).whole.encodes).mono fun _ hr => ⟨f, hd, hr⟩

/-- **Sending an answer.** It is sent, or the codec refuses it, and the report of that refusal is sent for it. -/
theorem Returning.encode_keeps (ret : Returning) {a : Except E.Val ret.Val} (h : c.CarriesAnswer lossy E ret a) :
    (ret.encode c E a : Act ι σ (Except InvocationError InvocationResult)).Keeps fun r =>
      (∃ res, c.SendsAnswer lossy E ret a res ∧ r = .ok res) ∨
        ∃ m, c.CarriesFailure lossy (.ofRejection (.codec m)) ∧
          (∀ res, c.SendsFailure lossy (.ofRejection (.codec m)) res → c.SendsAnswer lossy E ret a res) ∧
            r = .error (.codec m) := by
  cases a with
  | ok v =>
    cases ret with
    | value t =>
      refine .bind (c.serialize_keeps h.1.encodes) fun r hr => ?_
      rcases hr with ⟨bs, hbs, rfl⟩ | ⟨hl, e, rfl⟩
      · exact .pure (.inl ⟨_, .inl ⟨bs, hbs, rfl⟩, rfl⟩)
      · exact .pure (.inr ⟨e.message, h.2 hl _, fun res hres => .inr ⟨hl, _, hres⟩, rfl⟩)
    | reference t => exact .pure (.inl ⟨_, rfl, rfl⟩)
  | error e =>
    have sent : (Invoker.declared c E e : Act ι σ InvocationResult).Keeps fun r =>
        c.SendsAnswer lossy E ret (.error e) r := by
      cases ret <;> exact Invoker.declared_keeps h.1 h.2
    cases ret <;> exact .bind sent fun r hr => .pure (.inl ⟨r, hr, rfl⟩)

section Execution

variable {inv : Invocation} {w w' : World ι σ} {body : Invocation → Act ι σ (Except InvocationError InvocationResult)}

theorem Invoker.execute_returns {r : InvocationResult} (h : body inv w = (.ok (.ok r), w')) :
    Invoker.execute c inv body w = (.ok r, w') := by
  unfold Invoker.execute
  rw [bind_of_ok (Act.caught_eq h)]
  rfl

theorem Invoker.execute_rejects {e : InvocationError} (h : body inv w = (.ok (.error e), w'))
    (hc : lossy ∨ c.AlwaysEncodes .remoteFailure (.ofRejection e)) :
    ∃ r w'', Invoker.execute c inv body w = (.ok r, w'') ∧ w'.Alike w'' ∧ c.SendsFailure lossy (.ofRejection e) r := by
  unfold Invoker.execute
  rw [bind_of_ok (Act.caught_eq h)]
  exact Act.Keeps.bind (.event _ _ _) (fun _ _ => Invoker.failure_keeps hc) w'

theorem Invoker.execute_panics {p : Panic} (h : body inv w = (.error p, w'))
    (hc : lossy ∨ c.AlwaysEncodes .remoteFailure (.ofPanic p)) :
    ∃ r w'', Invoker.execute c inv body w = (.ok r, w'') ∧ w'.Alike w'' ∧ c.SendsFailure lossy (.ofPanic p) r := by
  unfold Invoker.execute
  rw [bind_of_ok (Act.caught_eq h)]
  exact Act.Keeps.bind (.event _ _ _) (fun _ _ => Invoker.failure_keeps hc) w'

end Execution

/-- what the invoker of a service executes on a record -/
def Service.dispatch (s : Service ι σ) (codec : Codec) (inv : Invocation) :
    Act ι σ (Except InvocationError InvocationResult) :=
  match s.method? inv.method with
  | some m => m.serve codec inv
  | none => return .error (Invoker.unknownMethod s.interface inv.method)

theorem Service.dispatch_of_some {s : Service ι σ} {inv : Invocation} {m : Method ι σ}
    (h : s.method? inv.method = some m) : s.dispatch c inv = m.serve c inv := by
  rw [dispatch, h]

theorem Method.serve_of_ok {m : Method ι σ} {inv : Invocation} {args : Args m.signature.params}
    (h : m.signature.receive c inv = .ok args) :
    m.serve c inv = m.body args >>= m.signature.result.encode c m.signature.error := by
  rw [serve, h]

theorem Method.serve_of_error {m : Method ι σ} {inv : Invocation} {e : InvocationError}
    (h : m.signature.receive c inv = .error e) : m.serve c inv = pure (.error e) := by
  rw [serve, h]

/-- **The receiving side** reports the fate of a record, and only keeps books after it. -/
theorem Service.respond_reports {s : Service ι σ} {inv : Invocation} {ret : Returning} {w w' : World ι σ}
    {fate : Fate (Except E.Val ret.Val)} (h : s.Handles c inv w fate w') (hc : c.CarriesFate lossy E ret fate) :
    ∃ r w'', s.respond c inv w = (.ok r, w'') ∧ w'.Alike w'' ∧ c.Reports lossy E ret fate r := by
  show ∃ r w'', Invoker.execute c inv (s.dispatch c) w = (.ok r, w'') ∧ w'.Alike w'' ∧ c.Reports lossy E ret fate r
  cases h with
  | unknown hm =>
    refine Invoker.execute_rejects ?_ hc.whole.encodes
    rw [dispatch, hm]
    rfl
  | rejected hm he =>
    refine Invoker.execute_rejects ?_ hc.whole.encodes
    rw [dispatch_of_some hm, Method.serve_of_error he]
    rfl
  | panicked hm ha hb =>
    refine Invoker.execute_panics ?_ hc.whole.encodes
    rw [dispatch_of_some hm, Method.serve_of_ok ha]
    exact bind_of_error hb
  | @answered _ _ _ _ a _ hm ha hb =>
    obtain ⟨r, w₁, hr, hl, hsent⟩ := ret.encode_keeps hc w'
    have served : s.dispatch c inv w = (.ok r, w₁) := by
      rw [dispatch_of_some hm, Method.serve_of_ok ha]
      exact (bind_of_ok hb).trans hr
    rcases hsent with ⟨res, hres, rfl⟩ | ⟨m, hm, hres, rfl⟩
    · exact ⟨res, w₁, Invoker.execute_returns served, hl, hres⟩
    · obtain ⟨res, w₂, hex, hl', hf⟩ := Invoker.execute_rejects served hm.whole.encodes
      exact ⟨res, w₂, hex, hl.trans hl', hres res hf⟩

/-- a record is handled in some way, when a method that it could fit answers with the expected types -/
theorem Service.exists_handles (s : Service ι σ) {inv : Invocation} {ret : Returning} (w : World ι σ)
    (h : ∀ m, s.method? inv.method = some m → m.signature.result.byReference = inv.resultByReference →
      m.signature.result = ret ∧ m.signature.error = E) :
    ∃ (fate : Fate (Except E.Val ret.Val)) (w' : World ι σ), s.Handles c inv w fate w' := by
  cases hm : s.method? inv.method with
  | none => exact ⟨_, w, .unknown hm⟩
  | some m =>
    cases ha : m.signature.receive c inv with
    | error e => exact ⟨_, w, .rejected hm ha⟩
    | ok args =>
      obtain ⟨hret, hE⟩ := h m hm (Signature.receive_eq_ok_iff.1 ha).1.symm
      obtain ⟨⟨name, ps, r, e⟩, body⟩ := m
      subst hret hE
      cases hb : body args w with
      | mk r w' =>
        cases r with
        | error p => exact ⟨_, w', .panicked hm ha hb⟩
        | ok a => exact ⟨_, w', .answered hm ha hb⟩

/-! ## The calling side -/

/-- the error that a failure comes to at the caller: the declared one that it holds, if that decodes -/
def Codec.unwrapped (c : Codec) (E : ErrorType) (f : RemoteFailure) : E.Val :=
  match f.firstDeclaredCause with
  | none => E.ofInvocation (.remote f)
  | some payload =>
    match c.decode E.ty payload with
    | .ok e => e
    | .error _ => E.ofInvocation (.remote f)

/-- the error that the bytes of a failure come to at the caller -/
def Codec.receivedError (c : Codec) (E : ErrorType) (bs : Bytes) : E.Val :=
  match c.decode .remoteFailure bs with
  | .error e => E.ofInvocation e.toInvocationError
  | .ok f => c.unwrapped E f

/-- what a result comes to at the caller of a method -/
def Returning.receive (c : Codec) (E : ErrorType) (method : String) :
    (r : Returning) → InvocationResult → Except E.Val r.Val
  | .value t, .value bs =>
    match c.decode t bs with
    | .ok v => .ok v
    | .error e => .error (E.ofInvocation e.toInvocationError)
  | .value _, .reference _ => .error (E.ofInvocation (.protocol
      s!"'{method}' returned its result by reference but the caller expects it serialized"))
  | .reference t, .reference b =>
    match b.downcast t with
    | some v => .ok v
    | none => .error (E.ofInvocation (.protocol s!"result of '{method}' is not a {t.name}"))
  | .reference _, .value _ => .error (E.ofInvocation (.protocol
      s!"'{method}' returned its result serialized but the caller expects it by reference"))
  | .value _, .failure bs => .error (c.receivedError E bs)
  | .reference _, .failure bs => .error (c.receivedError E bs)

theorem Call.fail_keeps {α : Type} (call : Call ι) (E : ErrorType) (e : InvocationError) :
    (call.fail E e : Act ι σ (Except E.Val α)).Keeps (· = .error (E.ofInvocation e)) :=
  .bind (call.dispatcher.reject_keeps _ _ _) fun _ he => .pure (by rw [he])

theorem Call.succeed_keeps {α : Type} (call : Call ι) (E : ErrorType) (a : α) :
    (call.succeed E a : Act ι σ (Except E.Val α)).Keeps (· = .ok a) :=
  .bind (call.dispatcher.environment.count_keeps _) fun _ _ => .pure rfl

theorem Call.unpack_keeps {α : Type} (call : Call ι) (E : ErrorType) (bs : Bytes) :
    (call.unpack E bs : Act ι σ (Except E.Val α)).Keeps (· = .error (call.dispatcher.codec.receivedError E bs)) := by
  unfold unpack Codec.receivedError
  cases call.dispatcher.codec.decode .remoteFailure bs with
  | error e => exact call.fail_keeps E _
  | ok f =>
    dsimp only [Codec.unwrapped]
    cases f.firstDeclaredCause with
    | none => exact call.fail_keeps E _
    | some payload =>
      dsimp only
      cases call.dispatcher.codec.decode E.ty payload with
      | ok e =>
        refine .bind (call.dispatcher.environment.count_keeps _) fun _ _ => ?_
        exact .bind (.event _ _ _) fun _ _ => .pure rfl
      | error e => exact .bind (.event _ _ _) fun _ _ => call.fail_keeps E _

/-- the record that the caller sends -/
def Call.sent (call : Call ι) (r : Returning) : Invocation := call.record.expectResult r.byReference

/-- the record carries the arguments that were added and no others -/
theorem Call.sent_append {d : Dispatcher} {method : String} {call : Call ι} (h : call.record = d.firstRecord method)
    (l : List Argument) (r : Returning) :
    ((call.append l).sent r).method = method ∧ ((call.append l).sent r).arguments = l := by
  constructor
  · show call.record.method = method
    rw [h, d.firstRecord_method]
  · show call.record.arguments ++ l = l
    rw [h, d.firstRecord_arguments, List.nil_append]

/-- the invoker runs once, and until then there are only log entries -/
theorem Call.run_eq (behave : Behaviour ι σ) (call : Call ι) (byReference : Bool) (w : World ι σ) :
    ∃ log, call.run behave byReference w =
      behave call.invoker (call.record.expectResult byReference) { w with log := log } := ⟨_, rfl⟩

/-- what the caller does with the result of the invoker -/
def Returning.finish (call : Call ι) (E : ErrorType) :
    (r : Returning) → InvocationResult → Act ι σ (Except E.Val r.Val)
  | .value t, .value bs =>
    match call.dispatcher.codec.decode t bs with
    | .ok v => call.succeed E v
    | .error e => call.fail E e.toInvocationError
  | .value _, .reference _ => call.fail E (.protocol
      s!"'{call.method}' returned its result by reference but the caller expects it serialized")
  | .reference t, .reference b =>
    match b.downcast t with
    | some v => call.succeed E v
    | none => call.fail E (.protocol s!"result of '{call.method}' is not a {t.name}")
  | .reference _, .value _ => call.fail E (.protocol
      s!"'{call.method}' returned its result serialized but the caller expects it by reference")
  | .value _, .failure bs => call.unpack E bs
  | .reference _, .failure bs => call.unpack E bs

/-- a call is completed by running the invoker and finishing with its result -/
theorem Returning.complete_eq_finish (behave : Behaviour ι σ) (call : Call ι) (E : ErrorType) (r : Returning) :
    r.complete behave call E = call.run behave r.byReference >>= r.finish call E := by
  cases r with
  | value t =>
    refine bind_congr fun res => ?_
    cases res <;> rfl
  | reference t =>
    refine bind_congr fun res => ?_
    cases res <;> rfl

theorem Returning.finish_keeps (call : Call ι) (E : ErrorType) (r : Returning) (res : InvocationResult) :
    (r.finish call E res : Act ι σ _).Keeps (· = r.receive call.dispatcher.codec E call.method res) := by
  cases r with
  | value t =>
    cases res with
    | value bs =>
      dsimp only [finish, receive]
      cases call.dispatcher.codec.decode t bs with
      | ok v => exact call.succeed_keeps E v
      | error e => exact call.fail_keeps E _
    | reference b => exact call.fail_keeps E _
    | failure bs => exact call.unpack_keeps E bs
  | reference t =>
    cases res with
    | value bs => exact call.fail_keeps E _
    | reference b =>
      dsimp only [finish, receive]
      cases b.downcast t with
      | some v => exact call.succeed_keeps E v
      | none => exact call.fail_keeps E _
    | failure bs => exact call.unpack_keeps E bs

/-- **Completing a call.** The invoker runs once on the record of the call; then the caller reads its result, and only
keeps books. -/
theorem Returning.complete_eq (behave : Behaviour ι σ) (call : Call ι) (E : ErrorType) (r : Returning) (w : World ι σ) :
    ∃ w₁, w.Alike w₁ ∧ ∀ res w₂, behave call.invoker (call.sent r) w₁ = (.ok res, w₂) →
      ∃ w₃, w₂.Alike w₃ ∧
        r.complete behave call E w = (.ok (r.receive call.dispatcher.codec E call.method res), w₃) := by
  obtain ⟨log, hrun⟩ := call.run_eq behave r.byReference w
  refine ⟨{ w with log := log }, .log w log, fun res w₂ hres => ?_⟩
  obtain ⟨_, w₃, hfinish, hl', rfl⟩ := r.finish_keeps call E res w₂
  refine ⟨w₃, hl', ?_⟩
  rw [complete_eq_finish, bind_of_ok (hrun.trans hres), hfinish]

/-! ## What the caller gets -/

/-- the caller is told that a codec failed -/
def CodecFailed {α : Type} (E : ErrorType) (got : Except E.Val α) : Prop :=
  ∃ m, got = .error (E.ofInvocation (.codec m))

/-- the caller is told of a failure of the receiving side -/
def RemotelyFailed {α : Type} (E : ErrorType) (f : RemoteFailure) (got : Except E.Val α) : Prop :=
  got = .error (E.ofInvocation (.remote f))

/-- what a caller may get for the fate of its record: the fate itself, or, where `lossy` allows it, a failure that does
not tell it wrong -/
def Tolerable (lossy : Prop) (E : ErrorType) (ret : Returning) :
    Fate (Except E.Val ret.Val) → Except E.Val ret.Val → Prop
  | .rejected e, got => RemotelyFailed E (.ofRejection e) got ∨ lossy ∧ CodecFailed E got
  | .panicked p, got => RemotelyFailed E (.ofPanic p) got ∨ lossy ∧ CodecFailed E got
  | .answered (.ok v), got =>
    got = .ok v ∨ (lossy ∧ ret.byReference = false) ∧
      ((∃ m, RemotelyFailed E (.ofRejection (.codec m)) got) ∨ CodecFailed E got)
  | .answered (.error e), got =>
    got = .error e ∨ lossy ∧
      ((∃ f, f.typeName = RemoteFailure.remoteException ∧
          f.message = (E.report e).typeName ++ ": " ++ (E.report e).message ∧ RemotelyFailed E f got) ∨
        CodecFailed E got)

theorem RemoteFailure.firstDeclaredCause_new (typeName message : String) :
    (RemoteFailure.new typeName message).firstDeclaredCause = none := by
  unfold firstDeclaredCause
  split <;> rfl

theorem RemoteFailure.firstDeclaredCause_ofDeclared (e : Report) (payload : Option Bytes) :
    (RemoteFailure.ofDeclared e payload).firstDeclaredCause = payload := rfl

theorem Codec.unwrapped_new (typeName message : String) :
    c.unwrapped E (.new typeName message) = E.ofInvocation (.remote (.new typeName message)) := by
  unfold unwrapped
  rw [RemoteFailure.firstDeclaredCause_new]

theorem Codec.Declares.telling {e : E.Val} {f : RemoteFailure} (h : c.Declares lossy E e f) :
    f.typeName = RemoteFailure.remoteException ∧ f.message = (E.report e).typeName ++ ": " ++ (E.report e).message := by
  rcases h with ⟨_, -, rfl⟩ | ⟨-, rfl⟩
  · exact ⟨rfl, rfl⟩
  · exact ⟨rfl, rfl⟩

theorem Codec.unwrapped_of_declares {e : E.Val} {f : RemoteFailure} (h : c.Declares lossy E e f)
    (he : c.Carries lossy E.ty e) :
    c.unwrapped E f = e ∨ lossy ∧ c.unwrapped E f = E.ofInvocation (.remote f) := by
  unfold unwrapped
  rcases h with ⟨payload, hp, rfl⟩ | ⟨hl, rfl⟩
  · rw [RemoteFailure.firstDeclaredCause_ofDeclared]
    dsimp only
    rcases he.decodes payload hp with hd | ⟨hl, err, herr⟩
    · left
      rw [show c.decode E.ty payload = .ok e from hd]
    · right
      refine ⟨hl, ?_⟩
      rw [herr]
  · exact .inr ⟨hl, rfl⟩

/-- **Reading a failure.** The caller gets the error that the failure comes to, or, where that is allowed, the failure
without its causes or an error of the codec. -/
theorem Codec.receivedError_of_sends {f : RemoteFailure} {bs : Bytes} (h : c.Sends lossy f bs)
    (hc : c.CarriesFailure lossy f) :
    c.receivedError E bs = c.unwrapped E f ∨ lossy ∧
      (c.receivedError E bs = E.ofInvocation (.remote f.plain) ∨
        ∃ m, c.receivedError E bs = E.ofInvocation (.codec m)) := by
  have refused {e : CodecError} (he : c.decode .remoteFailure bs = .error e) :
      c.receivedError E bs = E.ofInvocation (.codec e.message) := by
    rw [receivedError, he]
    rfl
  have read {g : RemoteFailure} (hg : c.Decodes .remoteFailure g bs) : c.receivedError E bs = c.unwrapped E g := by
    rw [receivedError, show c.decode .remoteFailure bs = .ok g from hg]
  rcases h with hw | ⟨hl, hp | rfl⟩
  · rcases hc.whole.decodes bs hw with hd | ⟨hl, e, he⟩
    · exact .inl (read hd)
    · exact .inr ⟨hl, .inr ⟨_, refused he⟩⟩
  · rcases (hc.plain hl).decodes bs hp with hd | ⟨-, e, he⟩
    · exact .inr ⟨hl, .inl ((read hd).trans (c.unwrapped_new _ _))⟩
    · exact .inr ⟨hl, .inr ⟨_, refused he⟩⟩
  · obtain ⟨e, he⟩ := hc.nothing hl
    exact .inr ⟨hl, .inr ⟨_, refused he⟩⟩

theorem Returning.receive_failure (ret : Returning) (method : String) (bs : Bytes) :
    ret.receive c E method (.failure bs) = .error (c.receivedError E bs) := by
  cases ret <;> rfl

/-- a failure without causes comes to itself -/
theorem Returning.receive_plain {typeName message : String} {r : InvocationResult} (ret : Returning) (method : String)
    (h : c.SendsFailure lossy (.new typeName message) r) (hc : c.CarriesFailure lossy (.new typeName message)) :
    RemotelyFailed E (.new typeName message) (ret.receive c E method r) ∨
      lossy ∧ CodecFailed E (ret.receive c E method r) := by
  obtain ⟨bs, hs, rfl⟩ := h
  rw [ret.receive_failure]
  unfold RemotelyFailed CodecFailed
  rcases c.receivedError_of_sends (E := E) hs hc with h | ⟨hl, h | ⟨m, h⟩⟩
  · exact .inl (congrArg _ (h.trans (c.unwrapped_new _ _)))
  · exact .inl (congrArg _ h)
  · exact .inr ⟨hl, m, congrArg _ h⟩

/-- a declared error comes to itself, or to the failure that tells of it -/
theorem Returning.receive_declared {e : E.Val} {f : RemoteFailure} {r : InvocationResult} (ret : Returning)
    (method : String) (hd : c.Declares lossy E e f) (h : c.SendsFailure lossy f r) (he : c.Carries lossy E.ty e)
    (hc : c.CarriesFailure lossy f) : Tolerable lossy E ret (.answered (.error e)) (ret.receive c E method r) := by
  obtain ⟨bs, hs, rfl⟩ := h
  rw [ret.receive_failure]
  have unwrapped := c.unwrapped_of_declares hd he
  have telling := hd.telling
  rcases c.receivedError_of_sends (E := E) hs hc with h | ⟨hl, h | ⟨m, h⟩⟩
  · rcases unwrapped with hu | ⟨hl, hu⟩
    · exact .inl (congrArg _ (h.trans hu))
    · exact .inr ⟨hl, .inl ⟨f, telling.1, telling.2, congrArg _ (h.trans hu)⟩⟩
  · exact .inr ⟨hl, .inl ⟨f.plain, telling.1, telling.2, congrArg _ h⟩⟩
  · exact .inr ⟨hl, .inr ⟨m, congrArg _ h⟩⟩

/-- **At the caller.** What a caller reads from a report is tolerable for the fate that it reports. -/
theorem tolerable_of_reports {ret : Returning} {fate : Fate (Except E.Val ret.Val)} {r : InvocationResult}
    (method : String) (h : c.Reports lossy E ret fate r) (hc : c.CarriesFate lossy E ret fate) :
    Tolerable lossy E ret fate (ret.receive c E method r) := by
  cases fate with
  | rejected e => exact ret.receive_plain method h hc
  | panicked p => exact ret.receive_plain method h hc
  | answered a =>
    cases a with
    | error e =>
      have declared : ∃ f, c.Declares lossy E e f ∧ c.SendsFailure lossy f r := by cases ret <;> exact h
      have carried : c.Carries lossy E.ty e ∧ ∀ f, c.Declares lossy E e f → c.CarriesFailure lossy f := by
        cases ret <;> exact hc
      obtain ⟨f, hd, hf⟩ := declared
      exact ret.receive_declared method hd hf carried.1 (carried.2 f hd)
    | ok v =>
      cases ret with
      | value t =>
        rcases h with ⟨bs, hbs, rfl⟩ | ⟨hl, m, hf⟩
        · rcases hc.1.decodes bs hbs with hd | ⟨hl, e, he⟩
          · have hd : c.decode t bs = .ok v := hd
            exact .inl (by rw [Returning.receive, hd])
          · exact .inr ⟨⟨hl, rfl⟩, .inr ⟨e.message, by rw [Returning.receive, he]; rfl⟩⟩
        · rcases (Returning.value t).receive_plain (E := E) method hf (hc.2 hl m) with hr | ⟨-, hr⟩
          · exact .inr ⟨⟨hl, rfl⟩, .inl ⟨m, hr⟩⟩
          · exact .inr ⟨⟨hl, rfl⟩, .inr hr⟩
      | reference t =>
        have h : r = .reference ⟨t, v⟩ := h
        refine .inl ?_
        rw [h, Returning.receive, BypassValue.downcast_self]

/-- a value at the caller is the value that the method returned -/
theorem Tolerable.of_ok {ret : Returning} {fate : Fate (Except E.Val ret.Val)} {v : ret.Val}
    (h : Tolerable lossy E ret fate (.ok v)) : fate = .answered (.ok v) := by
  unfold Tolerable RemotelyFailed CodecFailed at h
  cases fate with
  | rejected e => simp at h
  | panicked p => simp at h
  | answered a => cases a <;> simp_all

/-- an error at the caller is the one that the method returned, or one of the invocation layer -/
theorem Tolerable.of_error {ret : Returning} {fate : Fate (Except E.Val ret.Val)} {e : E.Val}
    (h : Tolerable lossy E ret fate (.error e)) : fate = .answered (.error e) ∨ ∃ i, e = E.ofInvocation i := by
  unfold Tolerable RemotelyFailed CodecFailed at h
  cases fate with
  | rejected e' =>
    rcases h with h | ⟨-, m, h⟩
    · exact .inr ⟨_, Except.error.inj h⟩
    · exact .inr ⟨_, Except.error.inj h⟩
  | panicked p =>
    rcases h with h | ⟨-, m, h⟩
    · exact .inr ⟨_, Except.error.inj h⟩
    · exact .inr ⟨_, Except.error.inj h⟩
  | answered a =>
    cases a with
    | ok v =>
      rcases h with h | ⟨-, ⟨m, h⟩ | ⟨m, h⟩⟩
      · cases h
      · exact .inr ⟨_, Except.error.inj h⟩
      · exact .inr ⟨_, Except.error.inj h⟩
    | error e' =>
      rcases h with h | ⟨-, ⟨f, -, -, h⟩ | ⟨m, h⟩⟩
      · exact .inl (by rw [Except.error.inj h])
      · exact .inr ⟨_, Except.error.inj h⟩
      · exact .inr ⟨_, Except.error.inj h⟩

/-! ## Whole calls -/

section Calls

variable {behave : Behaviour ι σ} {d : Dispatcher} {sig : Signature} {args : Args sig.params} {w w₀ w₁ : World ι σ}
  {call : Call ι}

theorem Signature.call_of_marshal_error {e : InvocationError} (hcall : d.call sig.name w = (.ok (.ok call), w₀))
    (hm : marshal sig.params args call w₀ = (.ok (.error e), w₁)) :
    sig.call behave d args w = (.ok (.error (sig.error.ofInvocation e)), w₁) := by
  unfold Signature.call
  rw [bind_of_ok hcall]
  dsimp only
  rw [bind_of_ok hm]
  rfl

theorem Signature.call_of_marshal {call' : Call ι} (hcall : d.call sig.name w = (.ok (.ok call), w₀))
    (hm : marshal sig.params args call w₀ = (.ok (.ok call'), w₁)) :
    sig.call behave d args w = sig.result.complete behave call' sig.error w₁ := by
  unfold Signature.call
  rw [bind_of_ok hcall]
  dsimp only
  rw [bind_of_ok hm]

/-- **A whole call.** When the arguments are packed, the receiving side handles their record once, and what the caller
gets is tolerable for the fate of the record. -/
theorem Signature.call_tolerable (lossy : Prop) {l : List Argument} {s : Service ι σ}
    (hcall : d.call sig.name w = (.ok (.ok call), w₀))
    (hinvoker : behave call.invoker = s.respond d.codec)
    (hm : marshal sig.params args call w₀ = (.ok (.ok (call.append l)), w₁)) :
    ∃ w₂, w₁.Alike w₂ ∧ ∀ fate w₃, s.Handles d.codec ((call.append l).sent sig.result) w₂ fate w₃ →
      d.codec.CarriesFate lossy sig.error sig.result fate →
        ∃ got w₄, w₃.Alike w₄ ∧ sig.call behave d args w = (.ok got, w₄) ∧
          Tolerable lossy sig.error sig.result fate got := by
  obtain ⟨-, hd, hrecord⟩ := Dispatcher.call_ok hcall
  obtain ⟨w₂, hl, hcomplete⟩ := Returning.complete_eq behave (call.append l) sig.error sig.result w₁
  refine ⟨w₂, hl, fun fate w₃ hh hc => ?_⟩
  obtain ⟨r, w₄, hr, hl', hreports⟩ := Service.respond_reports hh hc
  obtain ⟨w₅, hl'', hgot⟩ := hcomplete r w₄ ((congrFun (congrFun hinvoker _) w₂).trans hr)
  refine ⟨_, w₅, hl'.trans hl'', (Signature.call_of_marshal hcall hm).trans hgot, ?_⟩
  rw [show (call.append l).dispatcher = d from hd]
  exact tolerable_of_reports _ hreports hc

end Calls

/-! ## A service that takes notes -/

/-- a method that notes its arguments in the state and always answers the same -/
def Method.noting (sig : Signature) (answer : sig.Answer) : Method ι (List (Args sig.params)) where
  signature := sig
  body args := do
    Act.modifyApp (args :: ·)
    return answer

/-- a method with a parameter of every kind -/
def noteSignature : Signature where
  name := "note"
  params := [⟨"title", .value .text⟩, ⟨"tag", .optional .text⟩, ⟨"buffer", .reference .buffer⟩,
    ⟨"log", .optionalReference .auditLog⟩]
  result := .value .u8
  error := .calculator

/-- a service whose one method notes its arguments and answers with a declared error -/
def noteService : Service Unit (List (Args noteSignature.params)) :=
  ⟨"Notes", [.noting noteSignature (.error .divisionByZero)]⟩

end Loopback
