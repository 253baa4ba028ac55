/-
What callers are told of a block that failed to start.

A call to a missing entry is explained by one status, the first one by block name that has the targeted context name.
Nothing keeps blocks from sharing a context name, so the status may be that of another block than the one that failed.
- `Chronicle`: a run of starts and stops with all the statuses that it records, in the runs inside initializations too;
- `Chronicle.get?_of_failed`: a failure that is the last record of a block stays on record, whatever else starts and
  stops;
- `failure_reported_iff`: a call to a missing entry of the context name of that block carries the failure exactly when
  the first block on record with this context name has it; so it does if no block with a smaller name shares the name;
- `failure_hidden`: a run in which a block of a smaller name hides the failure.
-/
import Loopback.Proofs.FailedStart
import Loopback.Proofs.Isolation

namespace Loopback

variable {ι σ : Type}

/-! ## Records -/

/-- what the end of a start records -/
def recordsOf (contextName : String) : Except StartError RunningBlock → List BlockStatus
  | .ok block => [⟨block.name, block.contextName, .started⟩]
  | .error (.failed name cause) => [⟨name, contextName, .failed cause⟩]
  | .error (.alreadyRunning _) | .error (.duplicateService _ _) | .error (.unnamedService _) => []

/-- the last record of a block, the newest records first -/
def latest? (records : List BlockStatus) (name : String) : Option BlockStatus :=
  records.find? (·.name = name)

theorem latest?_append (records records' : List BlockStatus) (name : String) :
    latest? (records ++ records') name = (latest? records name).or (latest? records' name) :=
  List.find?_append

/-- a status is looked up as it was just recorded, or as before -/
theorem Statuses.get?_insert_name (s : Statuses) (status : BlockStatus) (name : String) :
    (s.insert status.name status).get? name = (latest? [status] name).or (s.get? name) := by
  rw [latest?, List.find?_singleton, Dict.get?_insert]
  by_cases h : status.name = name
  · rw [if_pos h.symm, if_pos (decide_eq_true h)]
    rfl
  · rw [if_neg (Ne.symm h), if_neg (by simpa using h)]
    rfl

/-- a start changes the statuses by what it records -/
theorem DeploymentBlock.Settles.get?_statuses {b : DeploymentBlock ι} {env : Environment} {contextName : String}
    {d d' : Directory ι} {s s' : Statuses} {outcome : Except Report Unit} {r : Except StartError RunningBlock}
    (h : b.Settles env contextName d s outcome r d' s') (name : String) :
    s'.get? name = (latest? (recordsOf contextName r) name).or (s.get? name) := by
  cases h with
  | failed hs => exact s.get?_insert_name ⟨b.name, contextName, _⟩ name
  | failedLate hs => rfl
  | malformed he =>
    rcases entries_error he with rfl | ⟨path, rfl⟩
    · rfl
    · rfl
  | taken he hd => rfl
  | rolledBack he hd hs => rfl
  | published he hd hs => exact s.get?_insert_name ⟨b.name, contextName, .started⟩ name

/-! ## Chronicles -/

/-- a run with the statuses that it records, the newest first -/
inductive Chronicle (env : Environment) : Deployment ι σ → List BlockStatus → Deployment ι σ → Prop
  | refl (x : Deployment ι σ) : Chronicle env x [] x
  /-- anything happens that leaves the directory and the statuses alone -/
  | elsewhere {w w' : World ι σ} {L : List (Live ι)} {l : List BlockStatus} {y : Deployment ι σ}
    (hd : w'.directory env = w.directory env) (hs : w'.statuses env = w.statuses env)
    (next : Chronicle env ⟨w', L⟩ l y) : Chronicle env ⟨w, L⟩ l y
  /-- a live block is stopped, or dropped -/
  | stop {w w' : World ι σ} {before after : List (Live ι)} {b : Live ι} {l : List BlockStatus} {y : Deployment ι σ}
    (h : b.block.stop w = (.ok (), w')) (next : Chronicle env ⟨w', before ++ after⟩ l y) :
    Chronicle env ⟨w, before ++ b :: after⟩ l y
  /-- a block that is recorded as started is started again -/
  | restart {b : DeploymentBlock ι} {init : DeploymentBlock.Init ι σ} {w w' : World ι σ} {L : List (Live ι)}
    {r : Except Panic (Except StartError RunningBlock)} {l : List BlockStatus} {y : Deployment ι σ}
    (hs : (w.statuses env).isStarted b.name = true) (h : b.startWith env init w = (r, w'))
    (next : Chronicle env ⟨w', L⟩ l y) : Chronicle env ⟨w, L⟩ l y
  /-- a block is started; what its initialization records comes first -/
  | start {b b' : DeploymentBlock ι} {init : DeploymentBlock.Init ι σ} {outcome : Except Report Unit}
    {w w₁ w₂ : World ι σ} {L L₁ : List (Live ι)} {r : Except StartError RunningBlock} {l l₁ : List BlockStatus}
    {y : Deployment ι σ} (hs : (w.statuses env).isStarted b.name = false)
    (hinit : init b w = (.ok (b', outcome), w₁)) (nested : Chronicle env ⟨w, L⟩ l₁ ⟨w₁, L₁⟩)
    (h : b.startWith env init w = (.ok r, w₂)) (next : Chronicle env ⟨w₂, liveAfter b' L₁ r⟩ l y) :
    Chronicle env ⟨w, L⟩ (l ++ recordsOf b.context r ++ l₁) y
  /-- the initialization of a block panics -/
  | panicked {b : DeploymentBlock ι} {init : DeploymentBlock.Init ι σ} {p : Panic} {w w₁ w₂ : World ι σ}
    {L L₁ : List (Live ι)} {r : Except Panic (Except StartError RunningBlock)} {l l₁ : List BlockStatus}
    {y : Deployment ι σ} (hs : (w.statuses env).isStarted b.name = false) (hinit : init b w = (.error p, w₁))
    (nested : Chronicle env ⟨w, L⟩ l₁ ⟨w₁, L₁⟩) (h : b.startWith env init w = (r, w₂))
    (next : Chronicle env ⟨w₂, L₁⟩ l y) : Chronicle env ⟨w, L⟩ (l ++ l₁) y

namespace Chronicle

variable {env : Environment} {x y : Deployment ι σ} {l : List BlockStatus}

theorem runs (h : Chronicle env x l y) : Runs env x y := by
  induction h with
  | refl x => exact .refl x
  | elsewhere hd hs next ih => exact .elsewhere hd hs ih
  | stop h next ih => exact .stop h ih
  | restart hs h next ih => exact .restart hs h ih
  | start hs hinit nested h next ihnested ih => exact .start hs hinit ihnested h ih
  | panicked hs hinit nested h next ihnested ih => exact .panicked hs hinit ihnested h ih

/-- every run has a chronicle -/
theorem exists_of_runs (h : Runs env x y) : ∃ l, Chronicle env x l y := by
  induction h with
  | refl x => exact ⟨[], .refl x⟩
  | elsewhere hd hs next ih =>
    obtain ⟨l, ih⟩ := ih
    exact ⟨l, .elsewhere hd hs ih⟩
  | stop h next ih =>
    obtain ⟨l, ih⟩ := ih
    exact ⟨l, .stop h ih⟩
  | restart hs h next ih =>
    obtain ⟨l, ih⟩ := ih
    exact ⟨l, .restart hs h ih⟩
  | start hs hinit nested h next ihnested ih =>
    obtain ⟨l₁, ihnested⟩ := ihnested
    obtain ⟨l, ih⟩ := ih
    exact ⟨_, .start hs hinit ihnested h ih⟩
  | panicked hs hinit nested h next ihnested ih =>
    obtain ⟨l₁, ihnested⟩ := ihnested
    obtain ⟨l, ih⟩ := ih
    exact ⟨_, .panicked hs hinit ihnested h ih⟩

/-- **The last word.** A failure that is the last record of a block, or was on record before all of them, is its status
in the end. -/
theorem get?_of_failed (h : Chronicle env x l y) (hx : x.Coherent env) {name : String} {status : BlockStatus}
    (hstatus : status.isStarted = false)
    (hlatest : (latest? l name).or ((x.world.statuses env).get? name) = some status) :
    (y.world.statuses env).get? name = some status := by
  induction h with
  | refl x => exact hlatest
  | @elsewhere w w' L l y hd hs next ih =>
    refine ih ?_ ?_
    · unfold Deployment.Coherent at hx ⊢
      rw [hd, hs]
      exact hx
    · rw [hs]
      exact hlatest
  | @stop w w' before after b l y h next ih =>
    have placed : b.block.environment = env := hx.placed b (List.mem_append_right _ List.mem_cons_self)
    have recorded := hx.recorded b (List.mem_append_right _ List.mem_cons_self)
    obtain ⟨w'', hstop, hp⟩ := b.block.stop_publishes w
    rw [placed] at hp
    cases h.symm.trans hstop
    refine ih ?_ ?_
    · unfold Deployment.Coherent
      rw [hp.directory, hp.statuses]
      exact hx.stop
    · rw [hp.statuses]
      cases hl : latest? l name with
      | some status' =>
        rw [hl] at hlatest
        exact hlatest
      | none =>
        rw [hl, Option.none_or] at hlatest
        -- the status that is removed is that of a started block
        have other : name ≠ b.block.name := by
          rintro rfl
          cases hlatest.symm.trans recorded
          cases hstatus
        rw [Option.none_or, Dict.get?_erase_ne _ other]
        exact hlatest
  | restart hs h next ih =>
    cases h.symm.trans (DeploymentBlock.startWith_of_started hs)
    exact ih hx hlatest
  | @start b b' init outcome w w₁ w₂ L L₁ r l l₁ y hs hinit nested h next ihnested ih =>
    have hx₁ : Deployment.Coherent env ⟨w₁, L₁⟩ := coherent_of_runs nested.runs hx
    obtain ⟨r', w₃, d, s, hsettle, hr, hp⟩ := b'.settle_settles env b.context outcome w₁
    cases h.symm.trans ((DeploymentBlock.startWith_of_init hs hinit).trans hsettle)
    refine ih ?_ ?_
    · unfold Deployment.Coherent
      rw [hp.directory, hp.statuses]
      exact hx₁.settle hr
    · rw [hp.statuses, hr.get?_statuses, ← Option.or_assoc]
      rw [latest?_append, latest?_append, Option.or_assoc] at hlatest
      cases hlate : (latest? l name).or (latest? (recordsOf b.context r) name) with
      | some status' =>
        rw [hlate] at hlatest
        exact hlatest
      | none =>
        rw [hlate, Option.none_or] at hlatest
        exact ihnested hx hlatest
  | @panicked b init p w w₁ w₂ L L₁ r l l₁ y hs hinit nested h next ihnested ih =>
    cases h.symm.trans (DeploymentBlock.startWith_of_panic hs hinit)
    refine ih (coherent_of_runs nested.runs hx) ?_
    rw [latest?_append, Option.or_assoc] at hlatest
    cases hlate : latest? l name with
    | some status' =>
      rw [hlate] at hlatest
      exact hlatest
    | none =>
      rw [hlate, Option.none_or] at hlatest
      exact ihnested hx hlatest

end Chronicle

/-! ## The status that explains -/

/-- the first status on record, by block name, that has a context name -/
structure Statuses.FirstOf (s : Statuses) (contextName name : String) (status : BlockStatus) : Prop where
  recorded : s.get? name = some status
  context : status.contextName = contextName
  least : ∀ name' status', name' < name → s.get? name' = some status' → status'.contextName ≠ contextName

namespace Statuses

variable {s : Statuses} {contextName name : String} {status : BlockStatus}

theorem find?_iff_firstOf :
    s.values.find? (fun status => status.contextName = contextName) = some status ↔
      ∃ name, s.FirstOf contextName name status := by
  rw [Dict.find?_values_eq_some_iff]
  constructor
  · rintro ⟨name, hget, hcontext, hleast⟩
    refine ⟨name, hget, of_decide_eq_true hcontext, fun name' status' hlt hget' => ?_⟩
    exact of_decide_eq_false (hleast name' status' (decide_eq_true hlt) hget')
  · rintro ⟨name, h⟩
    refine ⟨name, h.recorded, decide_eq_true h.context, fun name' status' hlt hget' => ?_⟩
    exact decide_eq_false (h.least name' status' (of_decide_eq_true hlt) hget')

/-- the cause of a missing entry is the failure of the first status with the context name of its target -/
theorem cause_missReason (s : Statuses) (block : String) :
    (s.missReason block).cause = (s.values.find? fun status => status.contextName = block).bind BlockStatus.failure := by
  unfold missReason
  cases s.values.find? fun status => status.contextName = block with
  | some status =>
    rw [Option.bind_some, BlockStatus.failure]
    dsimp only
    cases status.outcome with
    | started => rfl
    | failed f => rfl
  | none =>
    dsimp only
    cases s.isEmpty <;> rfl

/-- the cause is a failure exactly when the first status with the context name has it -/
theorem cause_missReason_eq_some_iff {f : CapturedFailure} :
    (s.missReason contextName).cause = some f ↔
      ∃ name status, s.FirstOf contextName name status ∧ status.failure = some f := by
  rw [cause_missReason, Option.bind_eq_some_iff]
  constructor
  · rintro ⟨status, hfind, hf⟩
    obtain ⟨name, hfirst⟩ := find?_iff_firstOf.1 hfind
    exact ⟨name, status, hfirst, hf⟩
  · rintro ⟨name, status, hfirst, hf⟩
    exact ⟨status, find?_iff_firstOf.2 ⟨name, hfirst⟩, hf⟩

end Statuses

/-- **What a caller is told.** In every state that is reached from a new environment by starts and stops of any blocks,
with any initializations: if the last record of a block is a failure under a context name, then a call to a missing
entry of this context name is refused as a local access. Its cause, and what it names as its sources, is that failure
exactly when the first block on record with the context name failed with it. That is so when no block of a smaller name
is on record with the context name, and in particular when no other block is. -/
theorem failure_reported_iff {properties : Properties} {w w₀ : World ι σ} {env : Environment}
    (hnew : Environment.new properties w = (.ok env, w₀)) {records : List BlockStatus} {y : Deployment ι σ}
    (hrun : Chronicle env ⟨w₀, []⟩ records y) {name contextName : String} {f : CapturedFailure}
    (hlatest : latest? records name = some ⟨name, contextName, .failed f⟩) {d : Dispatcher}
    (henv : d.environment.hub = env.hub) (htarget : y.world.target? d.environment = some contextName)
    (hmissing : (y.world.directory env).get? (contextName ++ d.serviceName) = none) (method : String) :
    (y.world.statuses env).get? name = some ⟨name, contextName, .failed f⟩ ∧
    ∃ message cause w', d.call method y.world = (.ok (.error (.localAccess message cause)), w') ∧
      y.world.Alike w' ∧
      (InvocationError.localAccess message cause).sources = cause.elim [] (·.chain.map Link.message) ∧
      (cause = some f ↔ ∃ first status, (y.world.statuses env).FirstOf contextName first status ∧
        status.failure = some f) ∧
      ((∀ other status, other < name → (y.world.statuses env).get? other = some status →
        status.contextName ≠ contextName) → cause = some f) := by
  have fresh : Deployment.Coherent env ⟨w₀, []⟩ := coherent_of_runs_new hnew (.refl _)
  have recorded : (y.world.statuses env).get? name = some ⟨name, contextName, .failed f⟩ := by
    refine hrun.get?_of_failed fresh rfl ?_
    rw [hlatest]
    rfl
  -- the dispatcher sees the directory and the statuses of the environment
  have directory : y.world.directory d.environment = y.world.directory env := by
    unfold World.directory
    rw [henv]
  have statuses : y.world.statuses d.environment = y.world.statuses env := by
    unfold World.statuses
    rw [henv]
  obtain ⟨w', hcall, hl⟩ := d.call_eq method y.world
  rw [Dispatcher.outcome_of_target htarget, directory, hmissing, statuses] at hcall
  refine ⟨recorded, _, _, w', hcall, hl, ?_, Statuses.cause_missReason_eq_some_iff, fun hleast => ?_⟩
  · cases ((y.world.statuses env).missReason contextName).cause with
    | none => rfl
    | some f => rfl
  · exact Statuses.cause_missReason_eq_some_iff.2 ⟨name, _, ⟨recorded, rfl, hleast⟩, rfl⟩

/-! ## Blocks that share a context name -/

/-- a block that is started under the context name `shop`, without the service that is called -/
def sharingBlock (name : String) : DeploymentBlock Nat := ⟨name, some "shop", [("/log", 1)]⟩

/-- an initialization that fails -/
def refusingInit : DeploymentBlock.Init Nat Unit := fun b =>
  return (b, .error ⟨"std::io::Error", "port in use", []⟩)

/-- the failure that is captured of it -/
def refusal : CapturedFailure := .new "std::io::Error" "port in use"

/-- what calls the service of the block that failed -/
def cartDispatcher : Dispatcher := ⟨"/cart", ⟨0, 0⟩, .postcard none, none⟩

/-- a block is started under `shop`, then the start of the block `orders` fails under the same context name -/
theorem exists_failed_beside (other : String) (hother : other ≠ "orders") :
    ∃ (w₀ : World Nat Unit) (y : Deployment Nat Unit),
      (Environment.new .empty : Act Nat Unit Environment) (.initial ()) = (.ok ⟨0, 0⟩, w₀) ∧
        Chronicle ⟨0, 0⟩ ⟨w₀, []⟩ [⟨"orders", "shop", .failed refusal⟩, ⟨other, "shop", .started⟩] y ∧
        y.world.target? cartDispatcher.environment = some "shop" ∧
        (y.world.directory ⟨0, 0⟩).get? ("shop" ++ cartDispatcher.serviceName) = none ∧
        y.world.statuses ⟨0, 0⟩ = ((Dict.empty.insert other ⟨other, "shop", .started⟩ : Statuses).insert "orders"
          ⟨"orders", "shop", .failed refusal⟩) := by
  obtain ⟨w₀, hnew⟩ : ∃ w₀, (Environment.new .empty : Act Nat Unit Environment) (.initial ()) = (.ok ⟨0, 0⟩, w₀) :=
    ⟨_, rfl⟩
  obtain ⟨hd, hs⟩ := Environment.new_empty hnew
  -- the other block is started
  have entries : (sharingBlock other).entries = .ok [("shop/log", 1)] := rfl
  have free : (w₀.directory ⟨0, 0⟩).conflict? [("shop/log", 1)] = none := by
    rw [hd]
    rfl
  have unstarted : (w₀.statuses ⟨0, 0⟩).isStarted other = false := by
    rw [hs]
    rfl
  obtain ⟨w₁, hsettle₁, hp₁⟩ := (sharingBlock other).settle_published ⟨0, 0⟩ "shop" entries free unstarted
  have started : (sharingBlock other).startWith ⟨0, 0⟩ .nothing w₀ =
      (.ok (.ok ⟨other, "shop", ["shop/log"], ⟨0, 0⟩⟩), w₁) :=
    (DeploymentBlock.startWith_of_init unstarted rfl).trans hsettle₁
  have hs₁ : w₁.statuses ⟨0, 0⟩ = (Dict.empty.insert other ⟨other, "shop", .started⟩ : Statuses) := by
    rw [hp₁.statuses, hs]
    rfl
  -- the start of the block fails
  have unstarted₁ : (w₁.statuses ⟨0, 0⟩).isStarted "orders" = false := by
    rw [Statuses.isStarted, hs₁, Dict.get?_insert_ne _ _ (Ne.symm hother)]
    rfl
  obtain ⟨r, w₂, d, s, hsettle₂, hr, hp₂⟩ :=
    shopBlock.settle_settles ⟨0, 0⟩ "shop" (.error ⟨"std::io::Error", "port in use", []⟩) w₁
  have failed : shopBlock.startWith ⟨0, 0⟩ refusingInit w₁ = (.ok r, w₂) :=
    (DeploymentBlock.startWith_of_init unstarted₁ rfl).trans hsettle₂
  cases hr with
  | failedLate hlate => cases unstarted₁.symm.trans hlate
  | failed _ =>
    obtain ⟨w₃, -, hd₃, hs₃, target⟩ :=
      (⟨0, 0⟩ : Environment).setProperty_target "http://localhost:8080/shop" w₂
    have second : Chronicle ⟨0, 0⟩ ⟨w₁, [⟨⟨other, "shop", ["shop/log"], ⟨0, 0⟩⟩, sharingBlock other⟩]⟩
        [⟨"orders", "shop", .failed refusal⟩] ⟨w₃, [⟨⟨other, "shop", ["shop/log"], ⟨0, 0⟩⟩, sharingBlock other⟩]⟩ :=
      .start unstarted₁ rfl (.refl _) failed (.elsewhere hd₃ hs₃ (.refl _))
    have first : Chronicle ⟨0, 0⟩ ⟨w₀, []⟩
        ([⟨"orders", "shop", .failed refusal⟩] ++ [⟨other, "shop", .started⟩] ++ []) _ :=
      .start unstarted rfl (.refl _) started second
    refine ⟨w₀, _, hnew, first, target.trans (by decide), ?_, ?_⟩
    · rw [hd₃, hp₂.directory, hp₁.directory, hd]
      decide
    · rw [hs₃, hp₂.statuses, hs₁]
      rfl

theorem failure_reported_iff_tracking :
    ∃ (w₀ : World Nat Unit) (records : List BlockStatus) (y : Deployment Nat Unit) (message : String)
      (w' : World Nat Unit),
      (Environment.new .empty : Act Nat Unit Environment) (.initial ()) = (.ok ⟨0, 0⟩, w₀) ∧
        Chronicle ⟨0, 0⟩ ⟨w₀, []⟩ records y ∧ latest? records "tracking" = some ⟨"tracking", "shop", .started⟩ ∧
          latest? records "orders" = some ⟨"orders", "shop", .failed refusal⟩ ∧
            cartDispatcher.call "describe" y.world = (.ok (.error (.localAccess message (some refusal))), w') := by
  obtain ⟨w₀, y, hnew, hrun, htarget, hmissing, hstatuses⟩ := exists_failed_beside "tracking" (by decide)
  have hlatest : latest? [⟨"orders", "shop", .failed refusal⟩, ⟨"tracking", "shop", .started⟩] "orders" =
      some ⟨"orders", "shop", .failed refusal⟩ := rfl
  obtain ⟨-, message, cause, w', hcall, -, -, -, hleast⟩ :=
    failure_reported_iff hnew hrun hlatest rfl htarget hmissing "describe"
  refine ⟨w₀, _, y, message, w', hnew, hrun, rfl, hlatest, ?_⟩
  rw [hcall, hleast ?_]
  -- the other name on record is greater
  intro other status hlt hget
  have smaller : other ≠ "orders" := by
    rintro rfl
    exact String.lt_irrefl _ hlt
  rw [hstatuses, Dict.get?_insert_ne _ _ smaller] at hget
  by_cases h : other = "tracking"
  · subst h
    exact absurd hlt (by decide)
  · rw [Dict.get?_insert_ne _ _ h] at hget
    cases hget

/-- **A hidden failure.** The block `orders` failed to start under the context name `shop` and nothing was started under
its name since, but a call to the missing entry of `shop` tells nothing of it: the block `audit` was started with the
same context name, and its name is smaller. -/
theorem failure_hidden :
    ∃ (w₀ : World Nat Unit) (records : List BlockStatus) (y : Deployment Nat Unit) (message : String)
      (w' : World Nat Unit),
      (Environment.new .empty : Act Nat Unit Environment) (.initial ()) = (.ok ⟨0, 0⟩, w₀) ∧
        Chronicle ⟨0, 0⟩ ⟨w₀, []⟩ records y ∧
          latest? records "orders" = some ⟨"orders", "shop", .failed refusal⟩ ∧
            y.world.target? cartDispatcher.environment = some "shop" ∧
              (y.world.directory ⟨0, 0⟩).get? ("shop" ++ cartDispatcher.serviceName) = none ∧
                cartDispatcher.call "describe" y.world = (.ok (.error (.localAccess message none)), w') := by
  obtain ⟨w₀, y, hnew, hrun, htarget, hmissing, hstatuses⟩ := exists_failed_beside "audit" (by decide)
  obtain ⟨w', hcall, -⟩ := cartDispatcher.call_eq "describe" y.world
  have environment : cartDispatcher.environment = ⟨0, 0⟩ := rfl
  rw [Dispatcher.outcome_of_target htarget, environment, hmissing, hstatuses] at hcall
  exact ⟨w₀, _, y, _, w', hnew, hrun, rfl, htarget, hmissing, hcall⟩

end Loopback
