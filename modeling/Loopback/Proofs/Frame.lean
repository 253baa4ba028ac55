/-
What computations do to the state, and what they leave alone.

- `bind_of_ok`, `bind_of_error`: a computation and what follows it, on a state;
- `World.Alike`: two states that differ in counters, meters and the log only;
- `Act.Keeps`: a computation that always returns, leaves a state alike to the one it began in, and returns a value of
  which a condition holds. Counting, logging and encoding are such computations.
-/
import Loopback.Service

namespace Loopback

variable {ι σ α β : Type}

/-! ## Sequencing -/

section Sequencing

variable {ε τ : Type} {x : ExceptT ε (StateM τ) α} {k : α → ExceptT ε (StateM τ) β} {s s' : τ}

theorem bind_of_ok {a : α} (h : x s = (.ok a, s')) : (x >>= k) s = k a s' := by
  show (match x s with | (r, s) => ExceptT.bindCont k r s) = k a s'
  rw [h]
  rfl

theorem bind_of_error {e : ε} (h : x s = (.error e, s')) : (x >>= k) s = (.error e, s') := by
  show (match x s with | (r, s) => ExceptT.bindCont k r s) = (.error e, s')
  rw [h]
  rfl

end Sequencing

theorem Act.caught_eq {x : Act ι σ α} {w w' : World ι σ} {r : Except Panic α} (h : x w = (r, w')) :
    x.caught w = (.ok r, w') := by
  unfold caught
  rw [h]

/-! ## States that differ in bookkeeping -/

/-- two states that differ in counters, meters and the log only -/
structure World.Alike (w w' : World ι σ) : Prop where
  directory : ∀ h, (w'.hubs.get h).directory = (w.hubs.get h).directory
  statuses : ∀ h, (w'.hubs.get h).statuses = (w.hubs.get h).statuses
  properties : w'.properties = w.properties
  app : w'.app = w.app

namespace World.Alike

theorem refl (w : World ι σ) : w.Alike w := ⟨fun _ => rfl, fun _ => rfl, rfl, rfl⟩

theorem trans {w w' w'' : World ι σ} (h : w.Alike w') (h' : w'.Alike w'') : w.Alike w'' :=
  ⟨fun n => (h'.directory n).trans (h.directory n), fun n => (h'.statuses n).trans (h.statuses n),
    h'.properties.trans h.properties, h'.app.trans h.app⟩

theorem log (w : World ι σ) (log : List LogEntry) : w.Alike { w with log := log } :=
  ⟨fun _ => rfl, fun _ => rfl, rfl, rfl⟩

end World.Alike

/-! ## Computations that only keep books -/

/-- the computation always returns, leaves a state alike, and `Q` holds of its value -/
def Act.Keeps (act : Act ι σ α) (Q : α → Prop) : Prop :=
  ∀ w, ∃ a w', act w = (.ok a, w') ∧ w.Alike w' ∧ Q a

namespace Act.Keeps

variable {Q : α → Prop} {R : β → Prop}

theorem pure {a : α} (h : Q a) : (Pure.pure a : Act ι σ α).Keeps Q := fun w => ⟨a, w, rfl, .refl w, h⟩

theorem bind {x : Act ι σ α} {k : α → Act ι σ β} (hx : x.Keeps Q) (hk : ∀ a, Q a → (k a).Keeps R) :
    (x >>= k).Keeps R := by
  intro w
  obtain ⟨a, w₁, hxw, h₁, ha⟩ := hx w
  obtain ⟨b, w₂, hkw, h₂, hb⟩ := hk a ha w₁
  exact ⟨b, w₂, (bind_of_ok hxw).trans hkw, h₁.trans h₂, hb⟩

theorem mono {Q' : α → Prop} {x : Act ι σ α} (hx : x.Keeps Q) (h : ∀ a, Q a → Q' a) : x.Keeps Q' := by
  intro w
  obtain ⟨a, w', hw, hl, ha⟩ := hx w
  exact ⟨a, w', hw, hl, h a ha⟩

theorem changing {f : World ι σ → World ι σ} (h : ∀ w : World ι σ, w.Alike (f w)) :
    (modify f : Act ι σ Unit).Keeps fun _ => True := fun w => ⟨(), f w, rfl, h w, trivial⟩

theorem event (level : Level) (message : String) (fields : List (String × Field)) :
    (Act.event level message fields : Act ι σ Unit).Keeps fun _ => True :=
  changing fun _ => ⟨fun _ => rfl, fun _ => rfl, rfl, rfl⟩

theorem span (level : Level) (name : String) (fields : List (String × Field)) :
    (Act.span level name fields : Act ι σ Unit).Keeps fun _ => True :=
  changing fun _ => ⟨fun _ => rfl, fun _ => rfl, rfl, rfl⟩

end Act.Keeps

/-! ## A new environment -/

/-- a new environment has an empty hub -/
theorem Environment.new_hub {properties : Properties} {w w' : World ι σ} {env : Environment}
    (h : Environment.new properties w = (.ok env, w')) : w'.hubs.get env.hub = .empty := by
  cases h
  exact Cells.get_set_self _ _ _

/-! ## Counting and logging -/

/-- a hub that is published again with other counters -/
theorem World.alike_of_metrics (w : World ι σ) (n : Nat) (m e : Metrics) :
    w.Alike { w with hubs := w.hubs.set n { w.hubs.get n with metrics := m }, exported := e } := by
  refine ⟨fun h => ?_, fun h => ?_, rfl, rfl⟩
  · rw [Cells.get_set]
    split
    · next e => rw [e]
    · rfl
  · rw [Cells.get_set]
    split
    · next e => rw [e]
    · rfl

theorem Environment.count_keeps (env : Environment) (c : Counter) :
    (env.count c : Act ι σ Unit).Keeps fun _ => True :=
  fun w => ⟨(), _, rfl, w.alike_of_metrics env.hub _ _, trivial⟩

theorem logError_keeps (entry method : String) (e : InvocationError) :
    (logError entry method e : Act ι σ Unit).Keeps fun _ => True := by
  cases e <;> exact .event _ _ _

theorem Dispatcher.reject_keeps (d : Dispatcher) (entry method : String) (e : InvocationError) :
    (d.reject entry method e : Act ι σ InvocationError).Keeps (· = e) :=
  .bind (d.environment.count_keeps _) fun _ _ => .bind (logError_keeps _ _ _) fun _ _ => .pure rfl

/-- looking up the target of a call changes nothing -/
theorem Dispatcher.resolve_state (d : Dispatcher) (w : World ι σ) : ∃ r, d.resolve w = (.ok r, w) := by
  have target : ∃ r, (d.environment.targetBlock : Act ι σ _) w = (.ok r, w) := ⟨_, rfl⟩
  obtain ⟨r, hr⟩ := target
  unfold resolve
  rw [bind_of_ok hr]
  cases r with
  | error e => exact ⟨_, rfl⟩
  | ok block =>
    have found : ∃ i, (d.environment.lookup (block ++ d.serviceName) : Act ι σ (Option ι)) w = (.ok i, w) := ⟨_, rfl⟩
    obtain ⟨i, hi⟩ := found
    dsimp only
    rw [bind_of_ok hi]
    cases i with
    | none => exact ⟨_, rfl⟩
    | some i => exact ⟨_, rfl⟩

/-- the record that a call begins with -/
def Dispatcher.firstRecord (d : Dispatcher) (method : String) : Invocation :=
  d.securityContext.elim (.start method) (Invocation.start method).attach

theorem Dispatcher.firstRecord_method (d : Dispatcher) (method : String) : (d.firstRecord method).method = method := by
  unfold firstRecord
  cases d.securityContext <;> rfl

theorem Dispatcher.firstRecord_arguments (d : Dispatcher) (method : String) :
    (d.firstRecord method).arguments = [] := by
  unfold firstRecord
  cases d.securityContext <;> rfl

/-- a call that has found its invoker in a block -/
def Dispatcher.firstCall (d : Dispatcher) (block method : String) (i : ι) : Call ι :=
  ⟨d, block ++ d.serviceName, i, d.firstRecord method⟩

/-- **Starting a call.** A call that finds its invoker begins with a record without arguments, and has only been
counted. -/
theorem Dispatcher.call_ok {d : Dispatcher} {method : String} {w w' : World ι σ} {c : Call ι}
    (h : d.call method w = (.ok (.ok c), w')) :
    w.Alike w' ∧ c.dispatcher = d ∧ c.record = d.firstRecord method := by
  obtain ⟨_, w₁, hcount, hl, -⟩ := d.environment.count_keeps .calls w
  unfold call at h
  rw [bind_of_ok hcount] at h
  obtain ⟨r, hr⟩ := d.resolve_state w₁
  rw [bind_of_ok hr] at h
  cases r with
  | error e =>
    obtain ⟨_, w₂, hrej, -, -⟩ := d.reject_keeps d.serviceName method e w₁
    dsimp only at h
    rw [bind_of_ok hrej] at h
    cases h
  | ok found =>
    cases h
    exact ⟨hl, rfl, rfl⟩

/-- a call whose target block has an entry for the service finds the invoker of that entry -/
theorem Dispatcher.exists_call (d : Dispatcher) (method urls block : String) {w : World ι σ} {i : ι}
    (hurls : (w.properties.get d.environment.properties).get? Properties.connectionUrlList = some urls)
    (hblock : Properties.blockName? urls = some block)
    (hentry : (w.hubs.get d.environment.hub).directory.get? (block ++ d.serviceName) = some i) :
    ∃ w', d.call method w = (.ok (.ok (d.firstCall block method i)), w') := by
  obtain ⟨_, w₁, hcount, hl, -⟩ := d.environment.count_keeps .calls w
  have target : (d.environment.targetBlock : Act ι σ _) w₁ = (.ok (.ok block), w₁) := by
    show (Except.ok (Properties.targetBlockName (w₁.properties.get d.environment.properties).get?), w₁) = _
    rw [hl.properties, Properties.targetBlockName, hurls]
    dsimp only
    rw [Properties.blockName, hblock]
  have found : (d.environment.lookup (block ++ d.serviceName) : Act ι σ (Option ι)) w₁ = (.ok (some i), w₁) := by
    rw [← hentry, ← hl.directory]
    rfl
  have resolved : d.resolve w₁ = (.ok (.ok (block ++ d.serviceName, i)), w₁) := by
    unfold resolve
    rw [bind_of_ok target]
    dsimp only
    rw [bind_of_ok found]
    rfl
  refine ⟨w₁, ?_⟩
  unfold call
  rw [bind_of_ok hcount, bind_of_ok resolved]
  rfl

/-- a state in which calls go to the block `main`, which has one service -/
def World.hosting (service : String) (invoker : ι) (app : σ) : World ι σ where
  hubs := ⟨[⟨Dict.empty.insert ("main" ++ service) invoker, .empty, .zero⟩]⟩
  properties := ⟨[Dict.empty.insert Properties.connectionUrlList "http://localhost/main"]⟩
  meters := .empty
  exported := .zero
  log := []
  app := app

/-- a call in such a state, or in one that differs in bookkeeping -/
theorem Dispatcher.exists_call_alike_hosting (d : Dispatcher) (method : String) {invoker : ι} {app : σ} {w : World ι σ}
    (h : d.environment = ⟨0, 0⟩) (hw : (World.hosting d.serviceName invoker app).Alike w) :
    ∃ w', d.call method w = (.ok (.ok (d.firstCall "main" method invoker)), w') := by
  refine d.exists_call method "http://localhost/main" "main" ?_ (by decide) ?_
  · rw [h, hw.properties]
    exact Dict.get?_insert_self _ _ _
  · rw [h, hw.directory]
    exact Dict.get?_insert_self _ _ _

theorem Dispatcher.exists_call_hosting (d : Dispatcher) (method : String) (invoker : ι) (app : σ)
    (h : d.environment = ⟨0, 0⟩) :
    ∃ w', d.call method (World.hosting d.serviceName invoker app) =
      (.ok (.ok (d.firstCall "main" method invoker)), w') :=
  d.exists_call_alike_hosting method h (.refl _)

end Loopback
