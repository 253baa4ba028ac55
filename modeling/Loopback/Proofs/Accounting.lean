/-
The counters of an environment over whole runs of calls.

An `Exchange` is a state with the calls that have not ended in it. Calls are made, get their arguments, are dropped, are
sent to their invokers and end, in any order and any number of them at once; the invokers may make calls themselves, and
may panic. Everything but the counters of the environment may change at any time. `Exchange.Balanced` is the invariant: the
counters hold what was counted, each call was counted once, and each call that has ended once more.
- `Exchange.Balanced.step`, `balanced_of_runs`: each step keeps the balance, and so does a run;
- `Exchange.complete_runs`: completing a call, with all that its invoker does, is such a run;
- `call_accounting`: the calls are those that succeeded, those that failed and those that have not ended or never will, and
  each operation counts just what it should.
-/
import Mathlib.Logic.Relation
import Loopback.Proofs.Counting

namespace Loopback

variable {ι σ : Type}

/-! ## Books -/

/-- whether a counter tells of the end of a call -/
def Counter.ends (c : Counter) : Bool := c != .calls

theorem Counter.ends_ofKind (k : FailureKind) : (Counter.ofKind k).ends = true := by
  cases k <;> rfl

theorem Codec.Tells.ends {α : Type} {c : Codec} {E : ErrorType} {res : InvocationResult} {got : Except E.Val α}
    {counter : Counter} (h : c.Tells E res got counter) : counter.ends = true := by
  by_cases hs : counter = .successes
  · rw [hs]
    rfl
  by_cases hd : counter = .declared
  · rw [hd]
    rfl
  obtain ⟨e, -, he⟩ := h.kind hs hd
  rw [he]
  exact Counter.ends_ofKind e.kind

theorem Counter.count_calls_of_ends {c : Counter} (h : c.ends = true) : [c].count .calls = 0 := by
  cases c <;> first | rfl | cases h

/-- the counters were counted for calls of which some have not ended: each call once, and once more if it has ended -/
def Metrics.Books (m : Metrics) (made pending : Nat) : Prop :=
  ∃ cs : List Counter, m = Metrics.zero.bumpAll cs ∧ cs.count .calls = made ∧ made = cs.countP Counter.ends + pending

namespace Metrics.Books

variable {m : Metrics} {made pending pending' : Nat}

theorem new : Metrics.zero.Books 0 0 := ⟨[], rfl, rfl, rfl⟩

/-- a call is made -/
theorem call (h : m.Books made pending) (hp : pending' = pending + 1) :
    (m.bumpAll [.calls]).Books (made + 1) pending' := by
  obtain ⟨cs, rfl, hmade, hbalance⟩ := h
  refine ⟨cs ++ [.calls], (bumpAll_append _ _ _).symm, ?_, ?_⟩
  · rw [List.count_append, hmade]
    rfl
  · rw [List.countP_append, hp, hbalance]
    rfl

theorem of_pending (h : m.Books made pending) (hp : pending' = pending) : m.Books made pending' := hp ▸ h

/-- a call ends -/
theorem close {c : Counter} (h : m.Books made pending) (hc : c.ends = true) (hp : pending = pending' + 1) :
    (m.bumpAll [c]).Books made pending' := by
  obtain ⟨cs, rfl, hmade, hbalance⟩ := h
  refine ⟨cs ++ [c], (bumpAll_append _ _ _).symm, ?_, ?_⟩
  · rw [List.count_append, hmade, Counter.count_calls_of_ends hc, Nat.add_zero]
  · rw [List.countP_append, List.countP_singleton, if_pos hc]
    omega

/-- a counter that ends calls is that of successes or one of failures -/
theorem countP_ends (cs : List Counter) :
    cs.countP Counter.ends = cs.count .successes + cs.countP Counter.isFailure := by
  induction cs with
  | nil => rfl
  | cons c cs ih =>
    rw [List.countP_cons, List.countP_cons, List.count_cons, ih]
    cases c <;> simp [Counter.ends, Counter.isFailure] <;> omega

/-- **The balance** of books about few enough calls. -/
theorem balance (h : m.Books made pending) (hfew : made < UInt64.size) :
    m.calls.toNat = made ∧ m.calls.toNat = m.successes.toNat + m.failures.toNat + pending := by
  obtain ⟨cs, rfl, hmade, hbalance⟩ := h
  rw [countP_ends] at hbalance
  have calls : (zero.bumpAll cs).calls = 0 + UInt64.ofNat (cs.count .calls) := get_bumpAll zero cs .calls
  have successes : (zero.bumpAll cs).successes = 0 + UInt64.ofNat (cs.count .successes) :=
    get_bumpAll zero cs .successes
  have failures : (zero.bumpAll cs).failures = 0 + UInt64.ofNat (cs.countP Counter.isFailure) :=
    failures_bumpAll zero cs
  rw [calls, successes, failures]
  simp only [UInt64.zero_add, UInt64.toNat_ofNat']
  unfold UInt64.size at hfew
  omega

end Metrics.Books

/-! ## Exchanges -/

/-- a state, and the calls that have not ended in it -/
structure Exchange (ι σ : Type) where
  world : World ι σ
  /-- calls that still get their arguments -/
  opened : List (Call ι)
  /-- calls whose invoker runs -/
  sent : List (Call ι)
  /-- how many calls were dropped, or lost in a panic of their invoker -/
  lost : Nat
  /-- how many calls were made -/
  made : Nat

/-- how many calls have not ended or never will -/
def Exchange.pending (x : Exchange ι σ) : Nat := x.opened.length + x.sent.length + x.lost

/-- what may happen at any time -/
inductive Exchange.Step (env : Environment) : Exchange ι σ → Exchange ι σ → Prop
  /-- anything that leaves the counters alone -/
  | elsewhere {x : Exchange ι σ} {w : World ι σ} (h : w.metrics env = x.world.metrics env) :
    Step env x { x with world := w }
  /-- a call is made, through any dispatcher of this environment or of one that shares its hub -/
  | call {x : Exchange ι σ} {w : World ι σ} {d : Dispatcher} {method : String} {c : Call ι}
    (hd : d.environment.hub = env.hub) (h : d.call method x.world = (.ok (.ok c), w)) :
    Step env x { x with world := w, opened := c :: x.opened, made := x.made + 1 }
  /-- a call is made and refused -/
  | refuse {x : Exchange ι σ} {w : World ι σ} {d : Dispatcher} {method : String} {e : InvocationError}
    (hd : d.environment.hub = env.hub) (h : d.call method x.world = (.ok (.error e), w)) :
    Step env x { x with world := w, made := x.made + 1 }
  /-- an argument is added -/
  | add {x : Exchange ι σ} {w : World ι σ} {before after : List (Call ι)} {c c' : Call ι} {p : Passing} {v : p.Val}
    (hx : x.opened = before ++ c :: after) (h : p.marshal c v x.world = (.ok (.ok c'), w)) :
    Step env x { x with world := w, opened := before ++ c' :: after }
  /-- an argument cannot be encoded, which ends the call -/
  | spoil {x : Exchange ι σ} {w : World ι σ} {before after : List (Call ι)} {c : Call ι} {p : Passing} {v : p.Val}
    {e : InvocationError} (hx : x.opened = before ++ c :: after)
    (h : p.marshal c v x.world = (.ok (.error e), w)) : Step env x { x with world := w, opened := before ++ after }
  /-- a call is dropped -/
  | drop {x : Exchange ι σ} {before after : List (Call ι)} {c : Call ι} (hx : x.opened = before ++ c :: after) :
    Step env x { x with opened := before ++ after, lost := x.lost + 1 }
  /-- the record of a call is sent, and its invoker begins to run -/
  | send {x : Exchange ι σ} {before after : List (Call ι)} {c : Call ι} (hx : x.opened = before ++ c :: after) :
    Step env x { x with opened := before ++ after, sent := c :: x.sent }
  /-- the invoker returns a result, and the caller ends the call with it -/
  | finish {x : Exchange ι σ} {w : World ι σ} {before after : List (Call ι)} {c : Call ι} {ret : Returning}
    {E : ErrorType} {res : InvocationResult} {got : Except E.Val ret.Val} (hx : x.sent = before ++ c :: after)
    (h : ret.finish c E res x.world = (.ok got, w)) : Step env x { x with world := w, sent := before ++ after }
  /-- the invoker panics -/
  | panic {x : Exchange ι σ} {before after : List (Call ι)} {c : Call ι} (hx : x.sent = before ++ c :: after) :
    Step env x { x with sent := before ++ after, lost := x.lost + 1 }

/-- runs of calls -/
abbrev Exchange.Runs (env : Environment) : Exchange ι σ → Exchange ι σ → Prop :=
  Relation.ReflTransGen (Exchange.Step env)

/-- the books of an exchange are in order, and its calls go through the environment -/
structure Exchange.Balanced (env : Environment) (x : Exchange ι σ) : Prop where
  opened : ∀ c ∈ x.opened, c.dispatcher.environment.hub = env.hub
  sent : ∀ c ∈ x.sent, c.dispatcher.environment.hub = env.hub
  books : (x.world.metrics env).Books x.made x.pending

section Runs

variable {env : Environment} {x y : Exchange ι σ}

/-- **A step** keeps the balance. -/
theorem Exchange.Balanced.step (hx : x.Balanced env) (h : x.Step env y) : y.Balanced env := by
  have opened := hx.opened
  have sent := hx.sent
  have books := hx.books
  cases h with
  | elsewhere h =>
    refine ⟨opened, sent, ?_⟩
    rw [h]
    exact books
  | call hd h =>
    obtain ⟨cs, hm, ⟨c, hc, rfl, rfl⟩ | ⟨e, he, -⟩⟩ := (Dispatcher.call_counts _ hd).of_eq h
    · cases hc
      refine ⟨List.forall_mem_cons.2 ⟨hd, opened⟩, sent, ?_⟩
      rw [hm]
      refine books.call ?_
      simp only [pending, List.length_cons]
      omega
    · cases he
  | refuse hd h =>
    obtain ⟨cs, hm, ⟨c, hc, -, -⟩ | ⟨e, he, rfl⟩⟩ := (Dispatcher.call_counts _ hd).of_eq h
    · cases hc
    · refine ⟨opened, sent, ?_⟩
      rw [hm]
      exact (books.call rfl).close (Counter.ends_ofKind e.kind) rfl
  | @add w before after c c' p v ho h =>
    simp only [ho, List.forall_mem_append, List.forall_mem_cons] at opened
    obtain ⟨cs, hm, ⟨c'', hc, hd, rfl⟩ | ⟨e, he, -⟩⟩ := (p.marshal_counts c v opened.2.1).of_eq h
    · cases hc
      refine ⟨?_, sent, ?_⟩
      · simp only [List.forall_mem_append, List.forall_mem_cons, hd]
        exact opened
      · rw [hm]
        simp only [pending, ho, List.length_append, List.length_cons] at books ⊢
        exact books
    · cases he
  | @spoil w before after c p v e ho h =>
    simp only [ho, List.forall_mem_append, List.forall_mem_cons] at opened
    obtain ⟨cs, hm, ⟨c'', hc, -, -⟩ | ⟨e, he, rfl⟩⟩ := (p.marshal_counts c v opened.2.1).of_eq h
    · cases hc
    · refine ⟨List.forall_mem_append.2 ⟨opened.1, opened.2.2⟩, sent, ?_⟩
      rw [hm]
      refine books.close (Counter.ends_ofKind e.kind) ?_
      simp only [pending, ho, List.length_append, List.length_cons]
      omega
  | drop ho =>
    simp only [ho, List.forall_mem_append, List.forall_mem_cons] at opened
    refine ⟨List.forall_mem_append.2 ⟨opened.1, opened.2.2⟩, sent, books.of_pending ?_⟩
    simp only [pending, ho, List.length_append, List.length_cons]
    omega
  | send ho =>
    simp only [ho, List.forall_mem_append, List.forall_mem_cons] at opened
    refine ⟨List.forall_mem_append.2 ⟨opened.1, opened.2.2⟩, List.forall_mem_cons.2 ⟨opened.2.1, sent⟩,
      books.of_pending ?_⟩
    simp only [pending, ho, List.length_append, List.length_cons]
    omega
  | @finish w before after c ret E res got hs h =>
    simp only [hs, List.forall_mem_append, List.forall_mem_cons] at sent
    obtain ⟨cs, hm, counter, rfl, htells⟩ := (Returning.finish_counts E sent.2.1 ret res).of_eq h
    refine ⟨opened, List.forall_mem_append.2 ⟨sent.1, sent.2.2⟩, ?_⟩
    rw [hm]
    refine books.close htells.ends ?_
    simp only [pending, hs, List.length_append, List.length_cons]
    omega
  | panic hs =>
    simp only [hs, List.forall_mem_append, List.forall_mem_cons] at sent
    refine ⟨opened, List.forall_mem_append.2 ⟨sent.1, sent.2.2⟩, books.of_pending ?_⟩
    simp only [pending, hs, List.length_append, List.length_cons]
    omega

/-- **A run** keeps the balance. -/
theorem balanced_of_runs (h : Exchange.Runs env x y) (hx : x.Balanced env) : y.Balanced env := by
  induction h with
  | refl => exact hx
  | tail _ hstep ih => exact ih.step hstep

end Runs

/-! ## Completing a call -/

/-- completing a call is a run: it is sent, its invoker does what it does, and the caller ends it with the result -/
theorem Exchange.complete_runs (env : Environment) (behave : Behaviour ι σ) {x : Exchange ι σ} {before after : List (Call ι)}
    {c : Call ι} (hx : x.opened = before ++ c :: after) (ret : Returning) (E : ErrorType) :
    ∃ log, ∀ (y : Exchange ι σ) (before' after' : List (Call ι)) (res : InvocationResult),
      behave c.invoker (c.sent ret) { x.world with log := log } = (.ok res, y.world) →
      Exchange.Runs env ⟨{ x.world with log := log }, before ++ after, c :: x.sent, x.lost, x.made⟩ y →
      y.sent = before' ++ c :: after' →
        ∃ got w, ret.complete behave c E x.world = (.ok got, w) ∧
          Exchange.Runs env x { y with world := w, sent := before' ++ after' } := by
  obtain ⟨log, hrun⟩ := c.run_eq behave ret.byReference x.world
  refine ⟨log, fun y before' after' res hres hy hsent => ?_⟩
  obtain ⟨got, w, hfinish, -, -⟩ := ret.finish_keeps c E res y.world
  refine ⟨got, w, ?_, ?_⟩
  · rw [Returning.complete_eq_finish, bind_of_ok (hrun.trans hres), hfinish]
  · have sent : x.Step env { x with opened := before ++ after, sent := c :: x.sent } := .send hx
    have logged : Exchange.Step env { x with opened := before ++ after, sent := c :: x.sent }
        ⟨{ x.world with log := log }, before ++ after, c :: x.sent, x.lost, x.made⟩ := .elsewhere rfl
    exact (((Relation.ReflTransGen.single sent).tail logged).trans hy).tail (.finish hsent hfinish)

/-! ## Accounting -/

/-- what the counters tell, and what each operation counts -/
structure Exchange.Accounted (env : Environment) (x : Exchange ι σ) : Prop where
  /-- the calls are those that succeeded, those that failed, and those that have not ended or never will -/
  balance : (x.world.metrics env).calls.toNat =
    (x.world.metrics env).successes.toNat + (x.world.metrics env).failures.toNat + x.pending
  /-- a call is counted, and the kind of its error, too, if it is refused -/
  call : ∀ (d : Dispatcher) (method : String), d.environment.hub = env.hub →
    ∃ r w, d.call method x.world = (.ok r, w) ∧ w.metrics env =
      match r with
      | .ok _ => (x.world.metrics env).bump .calls
      | .error e => ((x.world.metrics env).bump .calls).bump (.ofKind e.kind)
  /-- an argument counts nothing, or the kind of the error if it cannot be encoded -/
  argument : ∀ c ∈ x.opened, ∀ (p : Passing) (v : p.Val),
    ∃ r w, p.marshal c v x.world = (.ok r, w) ∧ w.metrics env =
      match r with
      | .ok _ => x.world.metrics env
      | .error e => (x.world.metrics env).bump (.ofKind e.kind)
  /-- when the invoker returns, one counter is counted, which tells how the call ended; when it panics, none is -/
  completion : ∀ c ∈ x.opened, ∀ (behave : Behaviour ι σ) (ret : Returning) (E : ErrorType), ∃ log,
    (∀ res w, behave c.invoker (c.sent ret) { x.world with log := log } = (.ok res, w) →
      ∃ got counter w', ret.complete behave c E x.world = (.ok got, w') ∧
        w'.metrics env = (w.metrics env).bump counter ∧ c.dispatcher.codec.Tells E res got counter) ∧
    ∀ p w, behave c.invoker (c.sent ret) { x.world with log := log } = (.error p, w) →
      ret.complete behave c E x.world = (.error p, w)

/-- **Accounting.** An exchange with balanced books of few enough calls is accounted for. -/
theorem Exchange.Balanced.accounted {env : Environment} {x : Exchange ι σ} (hx : x.Balanced env)
    (hfew : x.made < UInt64.size) : x.Accounted env where
  balance := (hx.books.balance hfew).2
  call d method hd := by
    obtain ⟨r, cs, w, hcall, hm, ⟨c, rfl, -, rfl⟩ | ⟨e, rfl, rfl⟩⟩ := Dispatcher.call_counts method hd x.world
    · exact ⟨_, w, hcall, hm⟩
    · exact ⟨_, w, hcall, hm⟩
  argument c hc p v := by
    obtain ⟨r, cs, w, hmarshal, hm, ⟨c', rfl, -, rfl⟩ | ⟨e, rfl, rfl⟩⟩ := p.marshal_counts c v (hx.opened c hc) x.world
    · exact ⟨_, w, hmarshal, hm⟩
    · exact ⟨_, w, hmarshal, hm⟩
  completion c hc behave ret E := by
    obtain ⟨log, hrun⟩ := c.run_eq behave ret.byReference x.world
    refine ⟨log, fun res w hres => ?_, fun p w hp => ?_⟩
    · obtain ⟨got, cs, w', hfinish, hm, counter, rfl, htells⟩ :=
        Returning.finish_counts E (hx.opened c hc) ret res w
      refine ⟨got, counter, w', ?_, hm, htells⟩
      rw [Returning.complete_eq_finish, bind_of_ok (hrun.trans hres), hfinish]
    · rw [Returning.complete_eq_finish, bind_of_error (hrun.trans hp)]

/-- **Call accounting.** Whatever calls are made in a new environment, fewer than 2^64, the state between any two steps is
accounted for. -/
theorem call_accounting {properties : Properties} {w w₀ : World ι σ} {env : Environment}
    (hnew : Environment.new properties w = (.ok env, w₀)) {x : Exchange ι σ}
    (hrun : Exchange.Runs env ⟨w₀, [], [], 0, 0⟩ x) (hfew : x.made < UInt64.size) : x.Accounted env := by
  have hx : Exchange.Balanced env ⟨w₀, [], [], 0, 0⟩ := by
    refine ⟨fun _ h => absurd h List.not_mem_nil, fun _ h => absurd h List.not_mem_nil, ?_⟩
    rw [Environment.new_metrics hnew]
    exact .new
  exact (balanced_of_runs hrun hx).accounted hfew

/-- what makes the calls to a service that relays them -/
def relayDispatcher : Dispatcher := ⟨"/relay", ⟨0, 0⟩, .postcard none, none⟩

/-- the invoker of the service: it makes a call of its own, drops it and answers -/
def relay : Behaviour Unit Unit := fun _ _ => do
  let _ ← relayDispatcher.call "inner"
  return .value [7]

theorem call_accounting_relay :
    ∃ (env : Environment) (w₀ : World Unit Unit) (x : Exchange Unit Unit),
      Environment.new .empty (.initial ()) = (.ok env, w₀) ∧ Exchange.Runs env ⟨w₀, [], [], 0, 0⟩ x ∧
        x.made = 2 ∧ x.opened = [] ∧ x.sent = [] ∧ x.lost = 1 ∧ x.Accounted env := by
  let env : Environment := ⟨0, 0⟩
  obtain ⟨w₀, hnew⟩ : ∃ w₀, (Environment.new .empty : Act Unit Unit Environment) (.initial ()) = (.ok env, w₀) :=
    ⟨_, rfl⟩
  -- the relay is set up
  have hosted : Exchange.Step env ⟨w₀, [], [], 0, 0⟩ ⟨.hosting "/relay" () (), [], [], 0, 0⟩ :=
    .elsewhere (Environment.new_metrics hnew).symm
  -- and called
  obtain ⟨w₁, hcall⟩ := relayDispatcher.exists_call_hosting "outer" () () rfl
  let outer : Call Unit := relayDispatcher.firstCall "main" "outer" ()
  have called : Exchange.Step env ⟨.hosting "/relay" () (), [], [], 0, 0⟩ ⟨w₁, [outer], [], 0, 1⟩ := .call rfl hcall
  -- its invoker makes a call and drops it
  have opened : Exchange.opened ⟨w₁, [outer], [], 0, 1⟩ = [] ++ outer :: [] := rfl
  obtain ⟨log, hcomplete⟩ := Exchange.complete_runs env relay opened (.value .u8) .invocation
  obtain ⟨w₂, hcall'⟩ := relayDispatcher.exists_call_alike_hosting "inner" rfl
    ((Dispatcher.call_ok hcall).1.trans (.log w₁ log))
  let inner : Call Unit := relayDispatcher.firstCall "main" "inner" ()
  have called' : Exchange.Step env ⟨{ w₁ with log := log }, [], [outer], 0, 1⟩ ⟨w₂, [inner], [outer], 0, 2⟩ :=
    .call rfl hcall'
  have waiting : Exchange.opened ⟨w₂, [inner], [outer], 0, 2⟩ = [] ++ inner :: [] := rfl
  have dropped : Exchange.Step env ⟨w₂, [inner], [outer], 0, 2⟩ ⟨w₂, [], [outer], 1, 2⟩ := .drop waiting
  have answered : relay () (outer.sent (.value .u8)) { w₁ with log := log } = (.ok (.value [7]), w₂) := bind_of_ok hcall'
  have nested : Exchange.Runs env ⟨{ w₁ with log := log }, [], [outer], 0, 1⟩ ⟨w₂, [], [outer], 1, 2⟩ :=
    (Relation.ReflTransGen.single called').tail dropped
  obtain ⟨got, w₃, -, completed⟩ := hcomplete ⟨w₂, [], [outer], 1, 2⟩ [] [] (.value [7]) answered nested rfl
  have run : Exchange.Runs env ⟨w₀, [], [], 0, 0⟩ ⟨w₃, [], [], 1, 2⟩ :=
    ((Relation.ReflTransGen.single hosted).tail called).trans completed
  have few : 2 < UInt64.size := by decide
  exact ⟨env, w₀, _, hnew, run, rfl, rfl, rfl, rfl, call_accounting hnew run few⟩

end Loopback
