/-
What each operation of a caller counts.

`Act.Counts` says which counters of an environment a computation counts, in order, and that it counts no others. It is
closed under sequencing, so that an operation counts what its parts count.
- `Dispatcher.call_counts`: a call that is started is counted, and the kind of its error, too, if it is refused;
- `Passing.marshal_counts`: an argument counts nothing, or the kind of the error if it cannot be encoded;
- `Returning.finish_counts`: the end of a call counts one counter, and `Codec.Tells` says which.
-/
import Loopback.Proofs.Delivery

namespace Loopback

variable {ι σ α β : Type}

/-! ## Counters in order -/

/-- whether a counter is one of failures -/
def Counter.isFailure : Counter → Bool
  | .calls | .successes => false
  | .declared | .remote | .localAccess | .configuration | .codec | .protocol => true

namespace Metrics

/-- count some counters, in order -/
def bumpAll (m : Metrics) (cs : List Counter) : Metrics := cs.foldl bump m

theorem bumpAll_append (m : Metrics) (cs cs' : List Counter) : m.bumpAll (cs ++ cs') = (m.bumpAll cs).bumpAll cs' :=
  List.foldl_append

/-- a counter holds how often it was counted -/
theorem get_bumpAll (m : Metrics) (cs : List Counter) (c : Counter) :
    (m.bumpAll cs).get c = m.get c + UInt64.ofNat (cs.count c) := by
  induction cs generalizing m with
  | nil => exact (UInt64.add_zero _).symm
  | cons c' cs ih =>
    show ((m.bump c').bumpAll cs).get c = _
    rw [ih, get_bump, List.count_cons]
    by_cases h : c = c'
    · subst h
      rw [if_pos rfl, if_pos (beq_self_eq_true c), UInt64.ofNat_add]
      grind
    · rw [if_neg h, if_neg (by simpa using Ne.symm h), Nat.add_zero]

theorem failures_bump (m : Metrics) (c : Counter) :
    (m.bump c).failures = m.failures + if c.isFailure then 1 else 0 := by
  cases c <;> simp only [failures, bump, Counter.isFailure] <;> grind

/-- the failures are those of any kind -/
theorem failures_bumpAll (m : Metrics) (cs : List Counter) :
    (m.bumpAll cs).failures = m.failures + UInt64.ofNat (cs.countP Counter.isFailure) := by
  induction cs generalizing m with
  | nil => exact (UInt64.add_zero _).symm
  | cons c cs ih =>
    show ((m.bump c).bumpAll cs).failures = _
    rw [ih, failures_bump, List.countP_cons, UInt64.ofNat_add]
    cases c.isFailure <;> grind

end Metrics

/-! ## Computations that count -/

/-- the counters of an environment -/
def World.metrics (w : World ι σ) (env : Environment) : Metrics := (w.hubs.get env.hub).metrics

/-- a new environment has counted nothing -/
theorem Environment.new_metrics {properties : Properties} {w w' : World ι σ} {env : Environment}
    (h : Environment.new properties w = (.ok env, w')) : w'.metrics env = .zero := by
  rw [World.metrics, new_hub h]
  rfl

/-- the computation always returns, and counts some counters in order, of which and of its value `Q` holds -/
def Act.Counts (env : Environment) (act : Act ι σ α) (Q : α → List Counter → Prop) : Prop :=
  ∀ w, ∃ a cs w', act w = (.ok a, w') ∧ w'.metrics env = (w.metrics env).bumpAll cs ∧ Q a cs

namespace Act.Counts

variable {env : Environment} {Q : α → List Counter → Prop} {R : β → List Counter → Prop}

theorem pure {a : α} (h : Q a []) : (Pure.pure a : Act ι σ α).Counts env Q := fun w => ⟨a, [], w, rfl, rfl, h⟩

theorem bind {x : Act ι σ α} {k : α → Act ι σ β} (hx : x.Counts env Q)
    (hk : ∀ a cs, Q a cs → (k a).Counts env fun b cs' => R b (cs ++ cs')) : (x >>= k).Counts env R := by
  intro w
  obtain ⟨a, cs, w₁, hxw, h₁, ha⟩ := hx w
  obtain ⟨b, cs', w₂, hkw, h₂, hb⟩ := hk a cs ha w₁
  refine ⟨b, cs ++ cs', w₂, (bind_of_ok hxw).trans hkw, ?_, hb⟩
  rw [h₂, h₁, Metrics.bumpAll_append]

theorem mono {Q' : α → List Counter → Prop} {x : Act ι σ α} (hx : x.Counts env Q) (h : ∀ a cs, Q a cs → Q' a cs) :
    x.Counts env Q' := by
  intro w
  obtain ⟨a, cs, w', hw, hm, ha⟩ := hx w
  exact ⟨a, cs, w', hw, hm, h a cs ha⟩

theorem event (level : Level) (message : String) (fields : List (String × Field)) :
    (Act.event level message fields : Act ι σ Unit).Counts env fun _ cs => cs = [] :=
  fun _ => ⟨(), [], _, rfl, rfl, rfl⟩

/-- what a computation counted -/
theorem of_eq {x : Act ι σ α} {a : α} {w w' : World ι σ} (hx : x.Counts env Q) (h : x w = (.ok a, w')) :
    ∃ cs, w'.metrics env = (w.metrics env).bumpAll cs ∧ Q a cs := by
  obtain ⟨a', cs, w'', hx, hm, ha⟩ := hx w
  cases h.symm.trans hx
  exact ⟨cs, hm, ha⟩

/-- what counts nothing can come first -/
theorem after {x : Act ι σ α} {k : α → Act ι σ β} (hx : x.Counts env fun _ cs => cs = [])
    (hk : ∀ a, (k a).Counts env R) : (x >>= k).Counts env R :=
  hx.bind fun a cs h => by
    rw [h]
    exact hk a

end Act.Counts

section Steps

variable {env env' : Environment}

theorem Environment.count_counts (c : Counter) (he : env'.hub = env.hub) :
    (env'.count c : Act ι σ Unit).Counts env fun _ cs => cs = [c] := by
  intro w
  refine ⟨(), [c], _, rfl, ?_, rfl⟩
  show ((w.hubs.set env'.hub _).get env.hub).metrics = _
  rw [← he, Cells.get_set_self]
  show (w.metrics env').bump c = (w.metrics env).bump c
  rw [World.metrics, World.metrics, he]

/-- one counter comes first -/
theorem Act.Counts.counting {k : Unit → Act ι σ α} {Q : α → List Counter → Prop} (c : Counter)
    (he : env'.hub = env.hub) (hk : (k ()).Counts env fun a cs => Q a (c :: cs)) :
    (env'.count c >>= k).Counts env Q :=
  (Environment.count_counts c he).bind fun _ _ h => by
    rw [h]
    exact hk

theorem logError_counts (entry method : String) (e : InvocationError) :
    (logError entry method e : Act ι σ Unit).Counts env fun _ cs => cs = [] := by
  cases e <;> exact .event _ _ _

theorem Codec.serialize_counts (c : Codec) (t : Ty) (v : t.Val) :
    (c.serialize t v : Act ι σ (Except CodecError Bytes)).Counts env fun _ cs => cs = [] := by
  intro w
  rw [c.serialize_eq]
  cases c.schedule with
  | none => exact ⟨_, [], w, rfl, rfl, rfl⟩
  | some s => exact ⟨_, [], _, rfl, rfl, rfl⟩

/-- an error is counted by its kind and returned -/
theorem Dispatcher.reject_counts {d : Dispatcher} (entry method : String) (e : InvocationError)
    (hd : d.environment.hub = env.hub) :
    (d.reject entry method e : Act ι σ InvocationError).Counts env fun e' cs => e' = e ∧ cs = [.ofKind e.kind] :=
  .counting _ hd ((logError_counts _ _ _).after fun _ => .pure ⟨rfl, rfl⟩)

/-! ## Starting a call -/

/-- **Starting a call** counts it, and the kind of its error, too, if it is refused. -/
theorem Dispatcher.call_counts {d : Dispatcher} (method : String) (hd : d.environment.hub = env.hub) :
    (d.call method : Act ι σ (Except InvocationError (Call ι))).Counts env fun r cs =>
      (∃ c, r = .ok c ∧ c.dispatcher = d ∧ cs = [.calls]) ∨ ∃ e, r = .error e ∧ cs = [.calls, .ofKind e.kind] := by
  have resolved : (d.resolve : Act ι σ _).Counts env fun _ cs => cs = [] := by
    intro w
    obtain ⟨r, hr⟩ := d.resolve_state w
    exact ⟨r, [], w, hr, rfl, rfl⟩
  refine .counting _ hd (resolved.after fun r => ?_)
  cases r with
  | error e =>
    refine (reject_counts _ _ e hd).bind fun e' cs he => .pure (.inr ⟨e', rfl, ?_⟩)
    rw [he.1, he.2]
    rfl
  | ok found => exact .pure (.inl ⟨_, rfl, rfl, rfl⟩)

/-! ## Arguments -/

theorem Call.pushEncoded_counts (c : Call ι) (typeName : String) (t : Ty) (v : t.Val)
    (hc : c.dispatcher.environment.hub = env.hub) :
    (c.pushEncoded typeName t v : Act ι σ (Except InvocationError (Call ι))).Counts env fun r cs =>
      (∃ c', r = .ok c' ∧ c'.dispatcher = c.dispatcher ∧ cs = []) ∨ ∃ e, r = .error e ∧ cs = [.ofKind e.kind] := by
  refine (Codec.serialize_counts _ t v).after fun r => ?_
  cases r with
  | ok bs => exact .pure (.inl ⟨_, rfl, rfl, rfl⟩)
  | error e =>
    refine (Dispatcher.reject_counts _ _ _ hc).bind fun e' cs he => .pure (.inr ⟨e', rfl, ?_⟩)
    rw [he.1, he.2]
    rfl

/-- **Adding an argument** counts nothing, or the kind of the error if it cannot be encoded. -/
theorem Passing.marshal_counts (c : Call ι) (p : Passing) (v : p.Val) (hc : c.dispatcher.environment.hub = env.hub) :
    (p.marshal c v : Act ι σ (Except InvocationError (Call ι))).Counts env fun r cs =>
      (∃ c', r = .ok c' ∧ c'.dispatcher = c.dispatcher ∧ cs = []) ∨ ∃ e, r = .error e ∧ cs = [.ofKind e.kind] := by
  cases p with
  | value t => exact c.pushEncoded_counts _ t v hc
  | optional t =>
    cases v with
    | none => exact .pure (.inl ⟨_, rfl, rfl, rfl⟩)
    | some v => exact c.pushEncoded_counts _ t v hc
  | reference t => exact .pure (.inl ⟨_, rfl, rfl, rfl⟩)
  | optionalReference t => exact .pure (.inl ⟨_, rfl, rfl, rfl⟩)

/-! ## Completing a call -/

/-- the error that is decoded from the first declared cause of a failure -/
def Codec.Unwraps (c : Codec) (E : ErrorType) (res : InvocationResult) (e : E.Val) : Prop :=
  ∃ bs f payload, res = .failure bs ∧ c.decode .remoteFailure bs = .ok f ∧ f.firstDeclaredCause = some payload ∧
    c.decode E.ty payload = .ok e

/-- the counter that tells how a call ended: with a value, with the declared error, or else with an error that was made
from one of the invocation layer, of which it is the kind -/
structure Codec.Tells (c : Codec) (E : ErrorType) (res : InvocationResult) (got : Except E.Val α) (counter : Counter) :
    Prop where
  success : counter = .successes ↔ ∃ a, got = .ok a
  declared : counter = .declared ↔ ∃ e, c.Unwraps E res e ∧ got = .error e
  kind : counter ≠ .successes → counter ≠ .declared →
    ∃ e : InvocationError, got = .error (E.ofInvocation e) ∧ counter = .ofKind e.kind

namespace Codec.Tells

variable {c : Codec} {E : ErrorType} {res : InvocationResult}

theorem value {a : α} : c.Tells E res (.ok a) .successes where
  success := ⟨fun _ => ⟨a, rfl⟩, fun _ => rfl⟩
  declared := ⟨nofun, nofun⟩
  kind h := absurd rfl h

theorem error {e : E.Val} (h : c.Unwraps E res e) : c.Tells E res (.error e : Except E.Val α) .declared where
  success := ⟨nofun, nofun⟩
  declared := ⟨fun _ => ⟨e, h, rfl⟩, fun _ => rfl⟩
  kind _ h := absurd rfl h

theorem failed {e : InvocationError} (h : ∀ e', ¬c.Unwraps E res e') :
    c.Tells E res (.error (E.ofInvocation e) : Except E.Val α) (.ofKind e.kind) where
  success := ⟨by cases e <;> nofun, nofun⟩
  declared := ⟨by cases e <;> nofun, fun ⟨e', he', _⟩ => absurd he' (h e')⟩
  kind _ _ := ⟨e, rfl, rfl⟩

end Codec.Tells

section Completion

variable {c : Call ι} (E : ErrorType) {res : InvocationResult} (hc : c.dispatcher.environment.hub = env.hub)
include hc

theorem Call.succeed_counts (a : α) :
    (c.succeed E a : Act ι σ (Except E.Val α)).Counts env fun got cs =>
      ∃ counter, cs = [counter] ∧ c.dispatcher.codec.Tells E res got counter :=
  .counting _ hc (.pure ⟨.successes, rfl, .value⟩)

theorem Call.fail_counts (e : InvocationError) (h : ∀ e', ¬c.dispatcher.codec.Unwraps E res e') :
    (c.fail E e : Act ι σ (Except E.Val α)).Counts env fun got cs =>
      ∃ counter, cs = [counter] ∧ c.dispatcher.codec.Tells E res got counter := by
  refine (Dispatcher.reject_counts _ _ e hc).bind fun e' cs he => .pure ⟨.ofKind e.kind, ?_, ?_⟩
  · rw [he.2]
    rfl
  · rw [he.1]
    exact .failed h

/-- a failure that is unpacked tells of the declared error that it holds, if that decodes, or else of itself -/
theorem Call.unpack_counts (bs : Bytes) :
    (c.unpack E bs : Act ι σ (Except E.Val α)).Counts env fun got cs =>
      ∃ counter, cs = [counter] ∧ c.dispatcher.codec.Tells E (.failure bs) got counter := by
  unfold unpack
  cases hf : c.dispatcher.codec.decode .remoteFailure bs with
  | error e =>
    refine fail_counts E hc _ fun e' => ?_
    rintro ⟨_, f, -, hbs, hf', -, -⟩
    cases hbs
    cases hf.symm.trans hf'
  | ok f =>
    dsimp only
    cases hcause : f.firstDeclaredCause with
    | none =>
      refine fail_counts E hc _ fun e' => ?_
      rintro ⟨_, f, payload, hbs, hf', hcause', -⟩
      cases hbs
      cases hf.symm.trans hf'
      cases hcause.symm.trans hcause'
    | some payload =>
      dsimp only
      cases hd : c.dispatcher.codec.decode E.ty payload with
      | ok e => exact .counting _ hc ((Act.Counts.event _ _ _).after fun _ =>
          .pure ⟨.declared, rfl, .error ⟨bs, f, payload, rfl, hf, hcause, hd⟩⟩)
      | error err =>
        refine (Act.Counts.event _ _ _).after fun _ => fail_counts E hc _ fun e' => ?_
        rintro ⟨_, f, payload, hbs, hf', hcause', hd'⟩
        cases hbs
        cases hf.symm.trans hf'
        cases hcause.symm.trans hcause'
        cases hd.symm.trans hd'

/-- **The end of a call** counts one counter, which tells how it ended. -/
theorem Returning.finish_counts (r : Returning) (res : InvocationResult) :
    (r.finish c E res : Act ι σ (Except E.Val r.Val)).Counts env fun got cs =>
      ∃ counter, cs = [counter] ∧ c.dispatcher.codec.Tells E res got counter := by
  have answered {res : InvocationResult} (h : ∀ bs, res ≠ .failure bs) (e : E.Val) :
      ¬c.dispatcher.codec.Unwraps E res e := fun ⟨bs, _, _, hres, _⟩ => h bs hres
  cases r with
  | value t =>
    cases res with
    | value bs =>
      dsimp only [finish]
      cases c.dispatcher.codec.decode t bs with
      | ok v => exact Call.succeed_counts E hc v
      | error e => exact Call.fail_counts E hc _ (answered nofun)
    | reference b => exact Call.fail_counts E hc _ (answered nofun)
    | failure bs => exact Call.unpack_counts E hc bs
  | reference t =>
    cases res with
    | value bs => exact Call.fail_counts E hc _ (answered nofun)
    | reference b =>
      dsimp only [finish]
      cases b.downcast t with
      | some v => exact Call.succeed_counts E hc v
      | none => exact Call.fail_counts E hc _ (answered nofun)
    | failure bs => exact Call.unpack_counts E hc bs

end Completion

end Steps

end Loopback
