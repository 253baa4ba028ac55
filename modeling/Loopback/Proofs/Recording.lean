/-
A service that keeps a record of its runs.

`Service.recorded` is a service in which each method first notes its own run beside the state, with the arguments that it
is given. `Act.Mirrors` relates a computation to the same one with something beside the state; what keeps books mirrors
itself.
- `Service.respond_mirrors_run`: on arguments that are received, the service does what it does without the record, and
  notes one run;
- `Service.respond_mirrors_rejection`: on any other record it does what it does without, and notes nothing.
-/
import Loopback.Proofs.Delivery

namespace Loopback

variable {ι σ τ α β : Type}

/-! ## Something beside the state -/

/-- a state with something beside that of the services -/
def World.beside (w : World ι σ) (t : τ) : World ι (σ × τ) :=
  ⟨w.hubs, w.properties, w.meters, w.exported, w.log, (w.app, t)⟩

/-- the state without what is beside it -/
def World.alone (w : World ι (σ × τ)) : World ι σ :=
  ⟨w.hubs, w.properties, w.meters, w.exported, w.log, w.app.1⟩

/-- a computation that leaves what is beside the state as it is -/
def Act.beside (act : Act ι σ α) : Act ι (σ × τ) α := fun w =>
  match act w.alone with
  | (r, w') => (r, w'.beside w.app.2)

/-- one computation does what the other does, and `t` beside the state becomes `t'` -/
def Act.Mirrors (x : Act ι σ α) (y : Act ι (σ × τ) α) (t t' : τ) : Prop :=
  ∀ w : World ι σ, y (w.beside t) = ((x w).1, (x w).2.beside t')

namespace Act.Mirrors

variable {t t' : τ}

/-- what a computation comes to, the other one comes to -/
theorem of_eq {x : Act ι σ α} {y : Act ι (σ × τ) α} {r : Except Panic α} {w w' : World ι σ} (hx : x.Mirrors y t t')
    (h : x w = (r, w')) : y (w.beside t) = (r, w'.beside t') := by
  rw [hx w, h]

theorem pure (a : α) : (Pure.pure a : Act ι σ α).Mirrors (Pure.pure a) t t := fun _ => rfl

theorem event (level : Level) (message : String) (fields : List (String × Field)) :
    (Act.event level message fields : Act ι σ Unit).Mirrors (Act.event level message fields) t t := fun _ => rfl

/-- what comes after must leave `t'` alone, since it need not come -/
theorem bind {x : Act ι σ α} {y : Act ι (σ × τ) α} {k : α → Act ι σ β} {l : α → Act ι (σ × τ) β}
    (hx : x.Mirrors y t t') (hk : ∀ a, (k a).Mirrors (l a) t' t') : (x >>= k).Mirrors (y >>= l) t t' := by
  intro w
  have hy := hx w
  cases hw : x w with
  | mk r w' =>
    rw [hw] at hy
    cases r with
    | error p => rw [bind_of_error hw, bind_of_error hy]
    | ok a =>
      rw [bind_of_ok hw, bind_of_ok hy]
      exact hk a w'

theorem caught {x : Act ι σ α} {y : Act ι (σ × τ) α} (hx : x.Mirrors y t t') : x.caught.Mirrors y.caught t t' := by
  intro w
  show (match y (w.beside t) with | (r, w') => (Except.ok r, w')) = _
  rw [hx w]
  rfl

end Act.Mirrors

section Books

variable {t : τ} (codec : Codec)

theorem Codec.serialize_mirrors (u : Ty) (v : u.Val) :
    (codec.serialize u v : Act ι σ (Except CodecError Bytes)).Mirrors (codec.serialize u v) t t := by
  intro w
  rw [codec.serialize_eq, codec.serialize_eq]
  cases codec.schedule <;> rfl

theorem Invoker.failure_mirrors (f : RemoteFailure) :
    (Invoker.failure codec f : Act ι σ InvocationResult).Mirrors (Invoker.failure codec f) t t := by
  refine .bind (codec.serialize_mirrors .remoteFailure f) fun r => ?_
  cases r with
  | ok bs => exact .pure _
  | error e =>
    refine .bind (.event _ _ _) fun _ => .bind (codec.serialize_mirrors .remoteFailure f.plain) fun r => ?_
    cases r <;> exact .pure _

theorem Invoker.declared_mirrors (E : ErrorType) (e : E.Val) :
    (Invoker.declared codec E e : Act ι σ InvocationResult).Mirrors (Invoker.declared codec E e) t t := by
  have wrapped : (Invoker.declaredFailure codec E e : Act ι σ RemoteFailure).Mirrors
      (Invoker.declaredFailure codec E e) t t := by
    refine .bind (codec.serialize_mirrors E.ty e) fun r => ?_
    cases r with
    | ok bs => exact .pure _
    | error err => exact .bind (.event _ _ _) fun _ => .pure _
  exact wrapped.bind fun f => Invoker.failure_mirrors codec f

theorem Returning.encode_mirrors (E : ErrorType) (ret : Returning) (a : Except E.Val ret.Val) :
    (ret.encode codec E a : Act ι σ (Except InvocationError InvocationResult)).Mirrors (ret.encode codec E a) t t := by
  cases a with
  | error e => cases ret <;> exact (Invoker.declared_mirrors codec E e).bind fun _ => .pure _
  | ok v =>
    cases ret with
    | reference u => exact .pure _
    | value u =>
      refine .bind (codec.serialize_mirrors u v) fun r => ?_
      cases r <;> exact .pure _

end Books

/-! ## Recorded services -/

/-- one run of a method, with the arguments that it was given -/
structure MethodRun where
  signature : Signature
  args : Args signature.params

/-- the method, which first notes that it runs -/
def Method.recorded (m : Method ι σ) : Method ι (σ × List MethodRun) where
  signature := m.signature
  body args := do
    Act.modifyApp fun (app, runs) => (app, ⟨m.signature, args⟩ :: runs)
    (m.body args).beside

/-- the service, whose methods note each of their runs -/
def Service.recorded (s : Service ι σ) : Service ι (σ × List MethodRun) :=
  ⟨s.interface, s.methods.map Method.recorded⟩

theorem Service.recorded_method? (s : Service ι σ) (name : String) :
    s.recorded.method? name = (s.method? name).map Method.recorded :=
  List.find?_map

/-- a record that a service rejects: it names no method, or it does not fit the one it names -/
inductive Service.Rejects (s : Service ι σ) (codec : Codec) (inv : Invocation) : InvocationError → Prop
  | unknown (hm : s.method? inv.method = none) :
    Rejects s codec inv (Invoker.unknownMethod s.interface inv.method)
  | unfit {m : Method ι σ} {e : InvocationError} (hm : s.method? inv.method = some m)
    (he : m.signature.receive codec inv = .error e) : Rejects s codec inv e

section Responding

variable {s : Service ι σ} {codec : Codec} {inv : Invocation} {t t' : τ} (runs : List MethodRun)

theorem Service.respond_mirrors {s' : Service ι (σ × τ)} (h : (s.dispatch codec inv).Mirrors (s'.dispatch codec inv) t t') :
    (s.respond codec inv).Mirrors (s'.respond codec inv) t t' := by
  refine h.caught.bind fun r => ?_
  rcases r with p | e | r
  · exact .bind (.event _ _ _) fun _ => Invoker.failure_mirrors codec _
  · exact .bind (.event _ _ _) fun _ => Invoker.failure_mirrors codec _
  · exact .pure r

/-- **A run.** On arguments that are received, the service does what it does without the record, and notes one run. -/
theorem Service.respond_mirrors_run {m : Method ι σ} {args : Args m.signature.params}
    (hm : s.method? inv.method = some m) (ha : m.signature.receive codec inv = .ok args) :
    (s.respond codec inv).Mirrors (s.recorded.respond codec inv) runs (⟨m.signature, args⟩ :: runs) := by
  have hm' : s.recorded.method? inv.method = some m.recorded := by rw [recorded_method?, hm, Option.map_some]
  refine respond_mirrors ?_
  have ha' : m.recorded.signature.receive codec inv = .ok args := ha
  rw [dispatch_of_some hm, dispatch_of_some hm', Method.serve_of_ok ha, Method.serve_of_ok ha']
  have noted : (m.body args).Mirrors (m.recorded.body args) runs (⟨m.signature, args⟩ :: runs) := fun _ => rfl
  exact noted.bind fun a => m.signature.result.encode_mirrors codec m.signature.error a

/-- **A rejection.** On any other record the service does what it does without the record, and notes nothing. -/
theorem Service.respond_mirrors_rejection {e : InvocationError} (h : s.Rejects codec inv e) :
    (s.respond codec inv).Mirrors (s.recorded.respond codec inv) runs runs := by
  refine respond_mirrors ?_
  cases h with
  | unknown hm =>
    have hm' : s.recorded.method? inv.method = none := by rw [recorded_method?, hm, Option.map_none]
    rw [dispatch, dispatch, hm, hm']
    exact .pure _
  | @unfit m e hm he =>
    have hm' : s.recorded.method? inv.method = some m.recorded := by rw [recorded_method?, hm, Option.map_some]
    have he' : m.recorded.signature.receive codec inv = .error e := he
    rw [dispatch_of_some hm, dispatch_of_some hm', Method.serve_of_error he, Method.serve_of_error he']
    exact .pure _

end Responding

end Loopback
