/-
Starts and shutdowns with their steps in any order.

A start reads a status, initializes its block, registers the entries and records the status, and removes the entries again
if the status is refused; a shutdown removes the status, then the entries. Each publish and each read of a status is one
step, and nothing holds between two steps of an operation. A `Task` is an operation with its next step, `Interleaves` lets
any number of tasks take their steps in any order. `Divided` is the invariant: each task owns a share of the directory and
of the statuses, the shares do not overlap, and there is nothing else.
- `startWith_eq_steps`, `stop_eq_steps`: starting and stopping a block are the steps of a task, one after the other;
- `Task.act_changes`: all that a step can do to the share of its task, and to the directory and the statuses;
- `Divided.step`, `divided_of_interleaves`: a step keeps the shares apart, and so does a run;
- `publication_order`: the entries of a block that is recorded as started are in place, the entries of any block are there
  together or there is none that no other task owns, and no step touches the entries of another task;
- `entries_partly_shared`: of a block that shares an invoker with a running block, one entry is in place and one is not.
-/
import Mathlib.Logic.Relation
import Loopback.Proofs.Ownership
import Loopback.Proofs.ServiceList

namespace Loopback

variable {ι σ : Type}

/-! ## Tasks -/

/-- the entries of a block, which are valid -/
structure DeploymentBlock.Batch (b : DeploymentBlock ι) where
  entries : List (String × ι)
  valid : b.entries = .ok entries

/-- the names of the entries -/
def DeploymentBlock.Batch.names {b : DeploymentBlock ι} (batch : b.Batch) : List String := batch.entries.map (·.1)

/-- what a start or a shutdown of a block does next -/
inductive Phase (b : DeploymentBlock ι) where
  /-- read the status -/
  | checking
  /-- run the initialization -/
  | initializing
  /-- record that the initialization failed -/
  | failing (cause : CapturedFailure)
  /-- register the entries -/
  | registering (batch : b.Batch)
  /-- record the block as started -/
  | recording (batch : b.Batch)
  /-- remove the entries because the status was refused -/
  | rollingBack (batch : b.Batch)
  /-- nothing, until the block is shut down -/
  | running (batch : b.Batch)
  /-- remove the status -/
  | closing (batch : b.Batch)
  /-- remove the entries -/
  | stopping (batch : b.Batch)
  /-- nothing: the block did not start -/
  | refused (e : StartError)
  /-- nothing: the initialization panicked -/
  | panicked
  /-- nothing: the block was shut down -/
  | stopped

/-- a start, and later the shutdown, of a block in an environment -/
structure Task (ι : Type) where
  block : DeploymentBlock ι
  environment : Environment
  /-- the context name from before the initialization -/
  contextName : String
  phase : Phase block

namespace Task

/-- a start that has done nothing yet -/
def start (b : DeploymentBlock ι) (env : Environment) : Task ι := ⟨b, env, b.context, .checking⟩

/-- go on with another phase -/
def enter (t : Task ι) (phase : Phase t.block) : Task ι := { t with phase := phase }

/-- refuse to start the block because it runs already -/
def refuse (t : Task ι) : Task ι := t.enter (.refused (.alreadyRunning t.block.name))

/-- the handle of the block once it runs -/
def handle (t : Task ι) (batch : t.block.Batch) : RunningBlock :=
  ⟨t.block.name, t.contextName, batch.names, t.environment⟩

/-- one step: at most one publish, or one read of a status -/
def act (t : Task ι) : Act ι σ (Task ι) :=
  match t.phase with
  | .checking => do
    if (← t.environment.statuses).isStarted t.block.name then return t.refuse
    else return t.enter .initializing
  | .failing cause => do
    if ← t.environment.recordFailed t.block.name t.contextName cause then
      return t.enter (.refused (.failed t.block.name cause))
    else return t.refuse
  | .registering batch => do
    match ← t.environment.tryRegisterAll batch.entries with
    | some _ => return t.refuse
    | none => return t.enter (.recording batch)
  | .recording batch => do
    if ← t.environment.tryRecordStarted t.block.name t.contextName then
      Act.event .info "Started deployment block" [("block", .text t.block.name), ("context", .text t.contextName),
        ("services", .count batch.names.length)]
      return t.enter (.running batch)
    else return t.enter (.rollingBack batch)
  | .rollingBack batch => do
    t.environment.unregisterAll batch.names
    return t.refuse
  | .closing batch => do
    let _ ← t.environment.removeStatus t.block.name
    return t.enter (.stopping batch)
  | .stopping batch => do
    t.environment.unregisterAll batch.names
    Act.event .info "Stopped deployment block" [("block", .text t.block.name)]
    return t.enter .stopped
  | _ => return t

/-- go on with the entries of a block, if they are valid -/
def validated (t : Task ι) (b : DeploymentBlock ι) : Task ι :=
  match h : b.entries with
  | .error e => ⟨b, t.environment, t.contextName, .refused e⟩
  | .ok es => ⟨b, t.environment, t.contextName, .registering ⟨es, h⟩⟩

/-- the initialization ends: it may have changed the block, and may have failed -/
def initialized (t : Task ι) (b : DeploymentBlock ι) : Except Report Unit → Task ι
  | .error e => ⟨b, t.environment, t.contextName, .failing (.capture e)⟩
  | .ok () => t.validated b

/-! ## Operations as steps -/

/-- run the initialization if it is time -/
def runInit (t : Task ι) (init : DeploymentBlock.Init ι σ) : Act ι σ (Task ι) :=
  match t.phase with
  | .initializing => do
    let (b, outcome) ← init t.block
    return t.initialized b outcome
  | _ => return t

/-- how a start ended -/
def result (t : Task ι) : Except StartError RunningBlock :=
  match t.phase with
  | .refused e => .error e
  | .running batch => .ok (t.handle batch)
  | _ => .error (.alreadyRunning t.block.name)

end Task

section Steps

variable {t : Task ι} {b : DeploymentBlock ι} {env : Environment} {contextName : String}

theorem Task.validated_of_entries {es : List (String × ι)} (h : b.entries = .ok es) :
    t.validated b = ⟨b, t.environment, t.contextName, .registering ⟨es, h⟩⟩ := by
  unfold validated
  split
  · next he => cases h.symm.trans he
  · next he =>
    cases h.symm.trans he
    rfl

theorem Task.validated_of_error {e : StartError} (h : b.entries = .error e) :
    t.validated b = ⟨b, t.environment, t.contextName, .refused e⟩ := by
  unfold validated
  split
  · next he =>
    cases h.symm.trans he
    rfl
  · next he => cases h.symm.trans he

/-- the steps of a start that has its entries -/
theorem DeploymentBlock.publish_eq_steps (batch : b.Batch) :
    (b.publish env contextName batch.entries : Act ι σ _) = (do
      let t ← Task.act ⟨b, env, contextName, .registering batch⟩
      let t ← t.act
      let t ← t.act
      return t.result) := by
  show _ = (env.tryRegisterAll batch.entries >>= _) >>= _
  rw [publish, bind_assoc]
  refine bind_congr fun conflict => ?_
  cases conflict with
  | some name => rfl
  | none =>
    show _ = (env.tryRecordStarted b.name contextName >>= _) >>= _
    rw [bind_assoc]
    refine bind_congr fun recorded => ?_
    cases recorded with
    | true => rfl
    | false =>
      show env.unregisterAll batch.names >>= _ = (env.unregisterAll batch.names >>= _) >>= _
      rw [bind_assoc]
      rfl

/-- the steps of a start after its initialization -/
theorem Task.settle_eq_steps (outcome : Except Report Unit) :
    (b.settle t.environment t.contextName outcome : Act ι σ _) = (do
      let t ← (t.initialized b outcome).act
      let t ← t.act
      let t ← t.act
      return t.result) := by
  cases outcome with
  | error e =>
    show _ = (t.environment.recordFailed b.name t.contextName (.capture e) >>= _) >>= _
    rw [bind_assoc]
    refine bind_congr fun recorded => ?_
    cases recorded <;> rfl
  | ok _ =>
    cases he : b.entries with
    | error e =>
      rw [initialized, validated_of_error he, DeploymentBlock.settle, he]
      rfl
    | ok es =>
      have steps : (b.settle t.environment t.contextName (.ok ()) : Act ι σ _) =
          b.publish t.environment t.contextName es := by rw [DeploymentBlock.settle, he]
      rw [steps, initialized, validated_of_entries he]
      exact DeploymentBlock.publish_eq_steps ⟨es, he⟩

/-- **A start** is the steps of its task, one after the other. -/
theorem DeploymentBlock.startWith_eq_steps (init : DeploymentBlock.Init ι σ) :
    b.startWith env init = (do
      let t ← (Task.start b env).act
      let t ← t.runInit init
      let t ← t.act
      let t ← t.act
      let t ← t.act
      return t.result) := by
  show _ = (env.statuses >>= _) >>= _
  rw [startWith, bind_assoc]
  refine bind_congr fun s => ?_
  show _ = (if s.isStarted b.name = true then _ else _) >>= _
  split
  · rfl
  · show _ = (init b >>= _) >>= _
    rw [bind_assoc]
    exact bind_congr fun r => Task.settle_eq_steps (t := Task.start b env) r.2

/-- **A shutdown** is the last two steps of a task. -/
theorem Task.stop_eq_steps (batch : t.block.Batch) :
    ((t.handle batch).stop : Act ι σ Unit) = (do
      let t ← (t.enter (.closing batch)).act
      let _ ← t.act
      return ()) := by
  show _ = (t.environment.removeStatus t.block.name >>= _) >>= _
  rw [bind_assoc]
  refine bind_congr fun status => ?_
  show t.environment.unregisterAll batch.names >>= _ = (t.environment.unregisterAll batch.names >>= _) >>= _
  rw [bind_assoc]
  rfl

end Steps

/-! ## Shares -/

/-- what a task owns: entries of the directory, and a name with its context name that is recorded as started -/
structure Share (ι : Type) where
  entries : List (String × ι)
  record : Option (String × String)

/-- what a task owns: its entries from their registration until they are removed, its record while the block runs -/
def Task.share (t : Task ι) : Share ι :=
  match t.phase with
  | .recording batch | .rollingBack batch | .stopping batch => ⟨batch.entries, none⟩
  | .running batch | .closing batch => ⟨batch.entries, some (t.block.name, t.contextName)⟩
  | _ => ⟨[], none⟩

/-- what a step does to the share of its task, to a directory and to statuses -/
inductive Share.Changes (d : Directory ι) (s : Statuses) : Share ι → Share ι → Directory ι → Statuses → Prop
  | idle {x : Share ι} : Changes d s x x d s
  | register {es : List (String × ι)} (hes : (es.map (·.1)).Nodup) (hd : d.conflict? es = none) :
    Changes d s ⟨[], none⟩ ⟨es, none⟩ (d.insertAll es) s
  | unregister {es : List (String × ι)} : Changes d s ⟨es, none⟩ ⟨[], none⟩ (d.eraseAll (es.map (·.1))) s
  | start {es : List (String × ι)} {name contextName : String} (hs : s.isStarted name = false) :
    Changes d s ⟨es, none⟩ ⟨es, some (name, contextName)⟩ d (s.insert name ⟨name, contextName, .started⟩)
  | fail {x : Share ι} {name contextName : String} {cause : CapturedFailure} (hs : s.isStarted name = false) :
    Changes d s x x d (s.insert name ⟨name, contextName, .failed cause⟩)
  | remove {es : List (String × ι)} {name contextName : String} :
    Changes d s ⟨es, some (name, contextName)⟩ ⟨es, none⟩ d (s.erase name)

/-- the directory and the statuses are divided among shares; there is nothing else in the directory, and nothing else is
recorded as started -/
structure Divided (d : Directory ι) (s : Statuses) (shares : List (Share ι)) : Prop where
  entries : d.MadeOf (shares.map Share.entries)
  records : s.Tells (shares.filterMap Share.record)

namespace Divided

variable {d d' : Directory ι} {s s' : Statuses} {x x' : Share ι} {shares shares' : List (Share ι)}

theorem empty : Divided (.empty : Directory ι) .empty [] := ⟨.empty, .empty⟩

/-- the order of the shares does not matter -/
theorem perm (h : Divided d s shares) (hp : shares.Perm shares') : Divided d s shares' :=
  ⟨h.entries.perm (hp.map _), h.records.perm (hp.filterMap _)⟩

/-- a task that owns nothing joins -/
theorem join (h : Divided d s shares) : Divided d s (⟨[], none⟩ :: shares) :=
  ⟨Directory.MadeOf.cons_nil_iff.2 h.entries, h.records⟩

/-- an entry of a share is in the directory -/
theorem get? (h : Divided d s shares) (hx : x ∈ shares) {e : String} {i : ι} (he : (e, i) ∈ x.entries) :
    d.get? e = some i :=
  (h.entries.get? e i).2 ⟨x.entries, List.mem_map.2 ⟨x, hx, rfl⟩, he⟩

/-- an entry of the directory is in a share -/
theorem exists_share (h : Divided d s shares) {e : String} {i : ι} (he : d.get? e = some i) :
    ∃ x ∈ shares, (e, i) ∈ x.entries := by
  obtain ⟨es, hes, he⟩ := (h.entries.get? e i).1 he
  obtain ⟨x, hx, rfl⟩ := List.mem_map.1 hes
  exact ⟨x, hx, he⟩

/-- **A step** changes one share and leaves the others as they are. -/
theorem step (h : Divided d s (x :: shares)) (hx : x.Changes d s x' d' s') : Divided d' s' (x' :: shares) := by
  cases hx with
  | idle => exact h
  | register hes hd => exact ⟨(Directory.MadeOf.cons_nil_iff.1 h.entries).insertAll hes hd, h.records⟩
  | unregister => exact ⟨Directory.MadeOf.cons_nil_iff.2 h.entries.eraseAll, h.records⟩
  | start hs => exact ⟨h.entries, h.records.start hs⟩
  | fail hs => exact ⟨h.entries, h.records.fail hs _⟩
  | remove => exact ⟨h.entries, h.records.stop⟩

/-- a step of any one of the tasks -/
theorem stepAt {before after : List (Share ι)} (h : Divided d s (before ++ x :: after)) (hx : x.Changes d s x' d' s') :
    Divided d' s' (before ++ x' :: after) :=
  ((h.perm List.perm_middle).step hx).perm List.perm_middle.symm

end Divided

/-! ## Steps and shares -/

/-- publishing concerns the hub of an environment only -/
theorem World.Publishes.of_hub {env env' : Environment} {w w' : World ι σ} {d : Directory ι} {s : Statuses}
    (h : World.Publishes env w w' d s) (he : env.hub = env'.hub) : World.Publishes env' w w' d s := by
  obtain ⟨hub, properties⟩ := env
  cases he
  exact ⟨h.hub, h.others, h.properties, h.meters, h.exported, h.app⟩

namespace Task

variable {env : Environment}

/-- **A step** changes the share of its task, and publishes what goes with that. -/
theorem act_changes (t : Task ι) (w : World ι σ) :
    ∃ t' w' d s, t.act w = (.ok t', w') ∧ t'.environment = t.environment ∧
      t.share.Changes (w.directory t.environment) (w.statuses t.environment) t'.share d s ∧
      World.Publishes t.environment w w' d s := by
  obtain ⟨b, env, contextName, phase⟩ := t
  have idle : World.Publishes env w w (w.directory env) (w.statuses env) := .refl env w
  cases phase with
  | checking =>
    show ∃ t' w' d s, (env.statuses >>= _) w = (.ok t', w') ∧ _
    rw [bind_of_ok (env.statuses_eq w)]
    cases (w.statuses env).isStarted b.name with
    | true => exact ⟨_, w, _, _, rfl, rfl, .idle, idle⟩
    | false => exact ⟨_, w, _, _, rfl, rfl, .idle, idle⟩
  | failing cause =>
    show ∃ t' w' d s, (env.recordFailed b.name contextName cause >>= _) w = (.ok t', w') ∧ _
    rcases env.recordFailed_publishes w b.name contextName cause with ⟨hs, hr⟩ | ⟨hs, w', hr, hp⟩
    · rw [bind_of_ok hr]
      exact ⟨_, w, _, _, rfl, rfl, .idle, idle⟩
    · rw [bind_of_ok hr]
      exact ⟨_, w', _, _, rfl, rfl, .fail hs, hp⟩
  | registering batch =>
    show ∃ t' w' d s, (env.tryRegisterAll batch.entries >>= _) w = (.ok t', w') ∧ _
    rcases env.tryRegisterAll_publishes w batch.entries with ⟨name, hd, hr⟩ | ⟨hd, w', hr, hp⟩
    · rw [bind_of_ok hr]
      exact ⟨_, w, _, _, rfl, rfl, .idle, idle⟩
    · rw [bind_of_ok hr]
      exact ⟨_, w', _, _, rfl, rfl, .register (DeploymentBlock.entries_nodup batch.valid) hd, hp⟩
  | recording batch =>
    show ∃ t' w' d s, (env.tryRecordStarted b.name contextName >>= _) w = (.ok t', w') ∧ _
    rcases env.tryRecordStarted_publishes w b.name contextName with ⟨hs, hr⟩ | ⟨hs, w', hr, hp⟩
    · rw [bind_of_ok hr]
      exact ⟨_, w, _, _, rfl, rfl, .idle, idle⟩
    · rw [bind_of_ok hr]
      obtain ⟨w'', hlog, hp'⟩ := hp.event .info "Started deployment block"
        [("block", .text b.name), ("context", .text contextName), ("services", .count batch.names.length)]
      exact ⟨_, w'', _, _, bind_of_ok hlog, rfl, .start hs, hp'⟩
  | rollingBack batch =>
    obtain ⟨w', hr, hp⟩ := env.unregisterAll_publishes w batch.names
    exact ⟨_, w', _, _, bind_of_ok hr, rfl, .unregister, hp⟩
  | closing batch =>
    obtain ⟨w', hr, hp⟩ := env.removeStatus_publishes w b.name
    exact ⟨_, w', _, _, bind_of_ok hr, rfl, .remove, hp⟩
  | stopping batch =>
    obtain ⟨w', hr, hp⟩ := env.unregisterAll_publishes w batch.names
    obtain ⟨w'', hlog, hp'⟩ := hp.event .info "Stopped deployment block" [("block", .text b.name)]
    exact ⟨_, w'', _, _, (bind_of_ok hr).trans (bind_of_ok hlog), rfl, .unregister, hp'⟩
  | initializing | running | refused | panicked | stopped => exact ⟨_, w, _, _, rfl, rfl, .idle, idle⟩

/-- a move of a task: a step, or the end of an initialization, or the decision to shut the block down -/
inductive Moves : Task ι → World ι σ → Task ι → World ι σ → Prop
  | step {t t' : Task ι} {w w' : World ι σ} (h : t.act w = (.ok t', w')) : Moves t w t' w'
  | initialized {t : Task ι} {w : World ι σ} {b : DeploymentBlock ι} {outcome : Except Report Unit}
    (h : t.phase = .initializing) : Moves t w (t.initialized b outcome) w
  | panicked {t : Task ι} {w : World ι σ} (h : t.phase = .initializing) : Moves t w (t.enter .panicked) w
  | shutdown {t : Task ι} {w : World ι σ} {batch : t.block.Batch} (h : t.phase = .running batch) :
    Moves t w (t.enter (.closing batch)) w

theorem validated_idle (t : Task ι) (b : DeploymentBlock ι) :
    (t.validated b).environment = t.environment ∧ (t.validated b).share = ⟨[], none⟩ := by
  unfold validated
  split <;> exact ⟨rfl, rfl⟩

theorem initialized_idle (t : Task ι) (b : DeploymentBlock ι) (outcome : Except Report Unit) :
    (t.initialized b outcome).environment = t.environment ∧ (t.initialized b outcome).share = ⟨[], none⟩ := by
  cases outcome with
  | error e => exact ⟨rfl, rfl⟩
  | ok _ => exact t.validated_idle b

/-- **A move** changes the share of its task, and publishes what goes with that. -/
theorem Moves.changes {t t' : Task ι} {w w' : World ι σ} (h : t.Moves w t' w') (he : t.environment.hub = env.hub) :
    ∃ d s, t'.environment = t.environment ∧ t.share.Changes (w.directory env) (w.statuses env) t'.share d s ∧
      World.Publishes env w w' d s := by
  have idle : World.Publishes env w w (w.directory env) (w.statuses env) := .refl env w
  cases h with
  | step h =>
    obtain ⟨t'', w'', d, s, hact, henv, hshare, hp⟩ := t.act_changes w
    cases h.symm.trans hact
    have same : w.directory t.environment = w.directory env ∧ w.statuses t.environment = w.statuses env := by
      simp only [World.directory, World.statuses, he, and_self]
    rw [same.1, same.2] at hshare
    exact ⟨d, s, henv, hshare, hp.of_hub he⟩
  | @initialized _ b outcome h =>
    obtain ⟨henv, hshare⟩ := t.initialized_idle b outcome
    refine ⟨_, _, henv, ?_, idle⟩
    rw [hshare, share, h]
    exact .idle
  | panicked h =>
    refine ⟨_, _, rfl, ?_, idle⟩
    rw [share, h]
    exact .idle
  | shutdown h =>
    refine ⟨_, _, rfl, ?_, idle⟩
    rw [share, h]
    exact .idle

end Task

/-! ## Interleavings -/

/-- a state, and the starts and shutdowns that are under way or over in it -/
structure System (ι σ : Type) where
  world : World ι σ
  tasks : List (Task ι)

/-- what may happen at any time -/
inductive System.Step (env : Environment) : System ι σ → System ι σ → Prop
  /-- anything that leaves the directory and the statuses alone -/
  | elsewhere {w w' : World ι σ} {tasks : List (Task ι)} (hd : w'.directory env = w.directory env)
    (hs : w'.statuses env = w.statuses env) : Step env ⟨w, tasks⟩ ⟨w', tasks⟩
  /-- the start of a block begins, in this environment or in one that shares its hub -/
  | begin {w : World ι σ} {tasks : List (Task ι)} {b : DeploymentBlock ι} {env' : Environment}
    (he : env'.hub = env.hub) : Step env ⟨w, tasks⟩ ⟨w, .start b env' :: tasks⟩
  /-- one of the tasks moves -/
  | move {w w' : World ι σ} {before after : List (Task ι)} {t t' : Task ι} (h : t.Moves w t' w') :
    Step env ⟨w, before ++ t :: after⟩ ⟨w', before ++ t' :: after⟩

/-- runs in which tasks begin and move in any order -/
abbrev Interleaves (env : Environment) : System ι σ → System ι σ → Prop := Relation.ReflTransGen (System.Step env)

/-- the directory and the statuses are divided among the tasks, which share a hub -/
structure System.Divided (env : Environment) (x : System ι σ) : Prop where
  placed : ∀ t ∈ x.tasks, t.environment.hub = env.hub
  shares : Loopback.Divided (x.world.directory env) (x.world.statuses env) (x.tasks.map Task.share)

section Interleavings

variable {env : Environment} {x y z : System ι σ}

/-- the first of the tasks moves -/
theorem System.Step.head {w w' : World ι σ} {tasks : List (Task ι)} {t t' : Task ι} (h : t.Moves w t' w') :
    System.Step env ⟨w, t :: tasks⟩ ⟨w', t' :: tasks⟩ :=
  show System.Step env ⟨w, [] ++ t :: tasks⟩ ⟨w', [] ++ t' :: tasks⟩ from .move h

/-- a start whose initialization leaves the block as it is, up to the registration of the entries -/
theorem Interleaves.registering {w : World ι σ} {b : DeploymentBlock ι} (tasks : List (Task ι)) (batch : b.Batch)
    (hs : (w.statuses env).isStarted b.name = false) :
    Interleaves env ⟨w, tasks⟩ ⟨w, ⟨b, env, b.context, .registering batch⟩ :: tasks⟩ := by
  have checked : (Task.start b env).act w = (.ok ⟨b, env, b.context, .initializing⟩, w) := by
    show (env.statuses >>= _) w = _
    rw [bind_of_ok (env.statuses_eq w)]
    show (if (w.statuses env).isStarted b.name = true then (_ : Act ι σ (Task ι)) else _) w = _
    rw [hs]
    rfl
  have initialized : (⟨b, env, b.context, .initializing⟩ : Task ι).Moves w ⟨b, env, b.context, .registering batch⟩ w := by
    have valid : (⟨b, env, b.context, .initializing⟩ : Task ι).initialized b (.ok ()) =
        ⟨b, env, b.context, .registering batch⟩ := Task.validated_of_entries batch.valid
    rw [← valid]
    exact .initialized rfl
  have begun : Interleaves env ⟨w, tasks⟩ ⟨w, .start b env :: tasks⟩ := .single (.begin rfl)
  exact (begun.tail (.head (.step checked))).tail (.head initialized)

/-- a start that nothing comes between, of a block with new names -/
theorem Interleaves.start {w : World ι σ} {b : DeploymentBlock ι} (tasks : List (Task ι)) (batch : b.Batch)
    (hd : (w.directory env).conflict? batch.entries = none) (hs : (w.statuses env).isStarted b.name = false) :
    ∃ w', Interleaves env ⟨w, tasks⟩ ⟨w', ⟨b, env, b.context, .running batch⟩ :: tasks⟩ ∧
      World.Publishes env w w' ((w.directory env).insertAll batch.entries)
        ((w.statuses env).insert b.name ⟨b.name, b.context, .started⟩) := by
  have begun := Interleaves.registering tasks batch hs
  rcases env.tryRegisterAll_publishes w batch.entries with ⟨name, hd', -⟩ | ⟨-, w₁, hr, hp⟩
  · cases hd.symm.trans hd'
  have registered : (⟨b, env, b.context, .registering batch⟩ : Task ι).Moves w ⟨b, env, b.context, .recording batch⟩ w₁ :=
    .step (bind_of_ok hr)
  rw [← hp.statuses] at hs
  rcases env.tryRecordStarted_publishes w₁ b.name b.context with ⟨hs', -⟩ | ⟨-, w₂, hr', hp'⟩
  · cases hs.symm.trans hs'
  rw [hp.directory, hp.statuses] at hp'
  obtain ⟨w₃, hlog, hp''⟩ := (hp.trans hp').event .info "Started deployment block"
    [("block", .text b.name), ("context", .text b.context), ("services", .count batch.names.length)]
  have recorded : (⟨b, env, b.context, .recording batch⟩ : Task ι).Moves w₁ ⟨b, env, b.context, .running batch⟩ w₃ :=
    .step ((bind_of_ok hr').trans (bind_of_ok hlog))
  exact ⟨w₃, (begun.tail (.head registered)).tail (.head recorded), hp''⟩

/-- the first start in a new environment -/
theorem Interleaves.start_first {properties : Properties} {w w₀ : World ι σ} {b : DeploymentBlock ι}
    (hnew : Environment.new properties w = (.ok env, w₀)) (batch : b.Batch) :
    ∃ w₁, Interleaves env ⟨w₀, []⟩ ⟨w₁, [⟨b, env, b.context, .running batch⟩]⟩ ∧
      w₁.directory env = Dict.empty.insertAll batch.entries ∧
      w₁.statuses env = Dict.empty.insert b.name ⟨b.name, b.context, .started⟩ := by
  obtain ⟨hd, hs⟩ := Environment.new_empty hnew
  have free : (w₀.directory env).conflict? batch.entries = none := by
    have untaken : ∀ e ∈ batch.entries, ¬Dict.contains (Dict.empty : Directory ι) e.1 = true := fun e _ => nofun
    rw [hd, Directory.conflict?, List.find?_eq_none.2 untaken]
    rfl
  have unstarted : (w₀.statuses env).isStarted b.name = false := by
    rw [hs]
    rfl
  obtain ⟨w₁, run, hp⟩ := Interleaves.start [] batch free unstarted
  rw [hd, hs] at hp
  exact ⟨w₁, run, hp.directory, hp.statuses⟩

/-- a start that nothing comes between, of a block with a new name but some entry that is taken -/
theorem Interleaves.refused {w : World ι σ} {b : DeploymentBlock ι} (tasks : List (Task ι)) (batch : b.Batch)
    {entry : String} (hd : (w.directory env).conflict? batch.entries = some entry)
    (hs : (w.statuses env).isStarted b.name = false) :
    Interleaves env ⟨w, tasks⟩ ⟨w, ⟨b, env, b.context, .refused (.alreadyRunning b.name)⟩ :: tasks⟩ := by
  have begun := Interleaves.registering tasks batch hs
  rcases env.tryRegisterAll_publishes w batch.entries with ⟨name, -, hr⟩ | ⟨hd', -⟩
  · have refused : (⟨b, env, b.context, .registering batch⟩ : Task ι).Moves w
        ⟨b, env, b.context, .refused (.alreadyRunning b.name)⟩ w := .step (bind_of_ok hr)
    exact begun.tail (.head refused)
  · cases hd.symm.trans hd'

/-- a move of any one of the tasks keeps the shares apart -/
theorem System.Divided.move {w w' : World ι σ} {before after : List (Task ι)} {t t' : Task ι}
    (h : System.Divided env ⟨w, before ++ t :: after⟩) (ht : t.Moves w t' w') :
    System.Divided env ⟨w', before ++ t' :: after⟩ := by
  have placed := h.placed
  have shares := h.shares
  simp only [List.forall_mem_append, List.forall_mem_cons] at placed
  simp only [List.map_append, List.map_cons] at shares
  obtain ⟨d, s, henv, hshare, hp⟩ := ht.changes placed.2.1
  constructor
  case placed =>
    simp only [List.forall_mem_append, List.forall_mem_cons, henv]
    exact placed
  case shares =>
    simp only [List.map_append, List.map_cons, hp.directory, hp.statuses]
    exact shares.stepAt hshare

/-- **A step** keeps the shares apart. -/
theorem System.Divided.step (h : x.Divided env) (hxy : x.Step env y) : y.Divided env := by
  cases hxy with
  | elsewhere hd hs =>
    refine ⟨h.placed, ?_⟩
    rw [hd, hs]
    exact h.shares
  | begin he => exact ⟨List.forall_mem_cons.2 ⟨he, h.placed⟩, h.shares.join⟩
  | move ht => exact h.move ht

/-- **A run** keeps the shares apart. -/
theorem divided_of_interleaves (h : Interleaves env x y) (hx : x.Divided env) : y.Divided env := by
  induction h with
  | refl => exact hx
  | tail _ hstep ih => exact ih.step hstep

end Interleavings

/-! ## Publication order -/

/-- the block of a task runs: it was recorded as started, and its record was not removed yet -/
def Task.Runs (t : Task ι) (batch : t.block.Batch) : Prop := t.phase = .running batch ∨ t.phase = .closing batch

/-- what anyone can rely on between any two steps -/
structure System.Ordered (env : Environment) (x : System ι σ) : Prop where
  /-- a name that is recorded as started is that of a block that runs -/
  started : ∀ name, (x.world.statuses env).isStarted name = true →
    ∃ t ∈ x.tasks, t.block.name = name ∧ ∃ batch, t.Runs batch
  /-- a block that runs is recorded as started, and all its entries are in place -/
  running : ∀ t ∈ x.tasks, ∀ batch, t.Runs batch →
    (x.world.statuses env).get? t.block.name = some ⟨t.block.name, t.contextName, .started⟩ ∧
      ∀ e i, (e, i) ∈ batch.entries → (x.world.directory env).get? e = some i
  /-- the entries of a block are all in place, or none is there as its own: any that is there belongs to another task,
  which has the same invoker for it -/
  together : ∀ before t after, x.tasks = before ++ t :: after → ∀ batch : t.block.Batch,
    (∀ e i, (e, i) ∈ batch.entries → (x.world.directory env).get? e = some i) ∨
      ∀ e i, (e, i) ∈ batch.entries → (x.world.directory env).get? e = some i →
        ∃ u ∈ before ++ after, (e, i) ∈ u.share.entries
  /-- an entry of one task is in place before and after each move of another task -/
  apart : ∀ before t after, x.tasks = before ++ t :: after → ∀ t' w', t.Moves x.world t' w' →
    ∀ u ∈ before ++ after, ∀ e i, (e, i) ∈ u.share.entries →
      (x.world.directory env).get? e = some i ∧ (w'.directory env).get? e = some i

section Order

variable {env : Environment} {x : System ι σ}

theorem Task.Runs.share {t : Task ι} {batch : t.block.Batch} (h : t.Runs batch) :
    t.share = ⟨batch.entries, some (t.block.name, t.contextName)⟩ := by
  rcases h with h | h
  · rw [Task.share, h]
  · rw [Task.share, h]

/-- a task with a record runs its block -/
theorem Task.exists_runs {t : Task ι} {r : String × String} (h : t.share.record = some r) :
    t.block.name = r.1 ∧ ∃ batch, t.Runs batch := by
  obtain ⟨b, e, contextName, phase⟩ := t
  cases phase with
  | running batch =>
    cases h
    exact ⟨rfl, batch, .inl rfl⟩
  | closing batch =>
    cases h
    exact ⟨rfl, batch, .inr rfl⟩
  | checking | initializing | failing | registering | recording | rollingBack | stopping | refused | panicked | stopped =>
    cases h

/-- a task owns all entries of its block or none -/
theorem Task.share_entries (t : Task ι) (batch : t.block.Batch) :
    t.share.entries = batch.entries ∨ t.share.entries = [] := by
  have same (batch' : t.block.Batch) : batch'.entries = batch.entries :=
    Except.ok.inj (batch'.valid.symm.trans batch.valid)
  unfold Task.share
  cases t.phase with
  | recording batch' | rollingBack batch' | stopping batch' | running batch' | closing batch' => exact .inl (same batch')
  | checking | initializing | failing | registering | refused | panicked | stopped => exact .inr rfl

/-- **Order.** Shares that are kept apart are all that is needed. -/
theorem System.Divided.ordered (h : x.Divided env) : x.Ordered env := by
  have owned {t : Task ι} (ht : t ∈ x.tasks) {e : String} {i : ι} (he : (e, i) ∈ t.share.entries) :
      (x.world.directory env).get? e = some i := h.shares.get? (List.mem_map.2 ⟨t, ht, rfl⟩) he
  constructor
  case started =>
    intro name hs
    obtain ⟨r, hr, rfl⟩ := List.mem_map.1 ((h.shares.records.isStarted_iff name).1 hs)
    obtain ⟨share, hshare, hr⟩ := List.mem_filterMap.1 hr
    obtain ⟨t, ht, rfl⟩ := List.mem_map.1 hshare
    exact ⟨t, ht, Task.exists_runs hr⟩
  case running =>
    intro t ht batch hruns
    have recorded : (t.block.name, t.contextName) ∈ (x.tasks.map Task.share).filterMap Share.record :=
      List.mem_filterMap.2 ⟨t.share, List.mem_map.2 ⟨t, ht, rfl⟩, by rw [hruns.share]⟩
    refine ⟨h.shares.records.recorded _ _ recorded, fun e i he => owned ht ?_⟩
    rw [hruns.share]
    exact he
  case together =>
    intro before t after htasks batch
    have ht : t ∈ x.tasks := htasks ▸ List.mem_append_right _ List.mem_cons_self
    rcases t.share_entries batch with hall | hnone
    · refine .inl fun e i he => owned ht ?_
      rw [hall]
      exact he
    · refine .inr fun e i he hi => ?_
      obtain ⟨share, hshare, he'⟩ := h.shares.exists_share hi
      obtain ⟨u, hu, rfl⟩ := List.mem_map.1 hshare
      rw [htasks, List.mem_append, List.mem_cons] at hu
      rcases hu with hu | rfl | hu
      · exact ⟨u, List.mem_append_left _ hu, he'⟩
      · rw [hnone] at he'
        cases he'
      · exact ⟨u, List.mem_append_right _ hu, he'⟩
  case apart =>
    intro before t after htasks t' w' hmove u hu e i he
    obtain ⟨w, tasks⟩ := x
    cases htasks
    have after_move := (h.move hmove).shares
    have hu' : u ∈ before ++ t :: after ∧ u ∈ before ++ t' :: after := by
      simp only [List.mem_append, List.mem_cons] at hu ⊢
      tauto
    exact ⟨owned hu'.1 he, after_move.get? (List.mem_map.2 ⟨u, hu'.2, rfl⟩) he⟩

end Order

/-- **Publication order.** Whatever tasks begin in a new environment, and in whatever order they move, the state between
any two moves is ordered. -/
theorem publication_order {properties : Properties} {w w₀ : World ι σ} {env : Environment}
    (hnew : Environment.new properties w = (.ok env, w₀)) {x : System ι σ} (hrun : Interleaves env ⟨w₀, []⟩ x) :
    x.Ordered env := by
  obtain ⟨hd, hs⟩ := Environment.new_empty hnew
  have hx : System.Divided env ⟨w₀, []⟩ := by
    refine ⟨nofun, ?_⟩
    rw [hd, hs]
    exact .empty
  exact (divided_of_interleaves hrun hx).ordered

/-- a block that comes under two context names, with another invoker each time -/
def restartedBlock (contextName : String) (invoker : Nat) : DeploymentBlock Nat := ⟨"shop", some contextName, [("/s", invoker)]⟩

def oldBatch : (restartedBlock "old" 1).Batch := ⟨[("old/s", 1)], rfl⟩

def newBatch : (restartedBlock "new" 2).Batch := ⟨[("new/s", 2)], rfl⟩

/-- a block is started again while the one that ran before is shut down: its status is gone, its entries are not -/
theorem publication_order_restarted :
    ∃ (env : Environment) (w₀ : World Nat Unit) (x : System Nat Unit),
      Environment.new .empty (.initial ()) = (.ok env, w₀) ∧ Interleaves env ⟨w₀, []⟩ x ∧
        x.tasks = [⟨_, env, "new", .running newBatch⟩, ⟨_, env, "old", .stopping oldBatch⟩] ∧ x.Ordered env := by
  let env : Environment := ⟨0, 0⟩
  obtain ⟨w₀, hnew⟩ : ∃ w₀, (Environment.new .empty : Act Nat Unit Environment) (.initial ()) = (.ok env, w₀) :=
    ⟨_, rfl⟩
  -- the old block runs
  obtain ⟨w₁, first, hd₁, hs₁⟩ := Interleaves.start_first hnew oldBatch
  -- and is shut down, but keeps its entries
  let running : Task Nat := ⟨_, env, "old", .running oldBatch⟩
  let closing : Task Nat := ⟨_, env, "old", .closing oldBatch⟩
  let stopping : Task Nat := ⟨_, env, "old", .stopping oldBatch⟩
  obtain ⟨w₂, hremove, hp₂⟩ := env.removeStatus_publishes w₁ "shop"
  have closed : closing.Moves w₁ stopping w₂ := .step (bind_of_ok hremove)
  have asked : System.Step env ⟨w₁, [running]⟩ ⟨w₁, [closing]⟩ := .head (.shutdown rfl)
  have second : System.Step env ⟨w₁, [closing]⟩ ⟨w₂, [stopping]⟩ := .head closed
  -- the new block starts
  have free : (w₂.directory env).conflict? newBatch.entries = none := by
    rw [hp₂.directory, hd₁]
    decide
  have unstarted : (w₂.statuses env).isStarted "shop" = false := by
    rw [hp₂.statuses, hs₁]
    decide
  obtain ⟨w₃, third, -⟩ := Interleaves.start [stopping] newBatch free unstarted
  have run := ((first.tail asked).tail second).trans third
  exact ⟨env, w₀, _, hnew, run, rfl, publication_order hnew run⟩

/-- a block of one service -/
def auditBlock : DeploymentBlock Nat := ⟨"audit", some "shop", [("/a", 1)]⟩

/-- a block with the same service, which the same invoker serves, and another one -/
def ordersBlock : DeploymentBlock Nat := ⟨"orders", some "shop", [("/a", 1), ("/b", 2)]⟩

def auditBatch : auditBlock.Batch := ⟨[("shop/a", 1)], rfl⟩

def ordersBatch : ordersBlock.Batch := ⟨[("shop/a", 1), ("shop/b", 2)], rfl⟩

/-- the entries of a block are neither all in place under its invokers nor all missing when another block runs that
shares an invoker with it -/
theorem entries_partly_shared :
    ∃ (env : Environment) (w₀ : World Nat Unit) (x : System Nat Unit),
      Environment.new .empty (.initial ()) = (.ok env, w₀) ∧ Interleaves env ⟨w₀, []⟩ x ∧
        x.tasks = [⟨ordersBlock, env, "shop", .refused (.alreadyRunning "orders")⟩,
          ⟨auditBlock, env, "shop", .running auditBatch⟩] ∧
        (x.world.directory env).get? "shop/a" = some 1 ∧ (x.world.directory env).get? "shop/b" = none ∧
        ¬((∀ e i, (e, i) ∈ ordersBatch.entries → (x.world.directory env).get? e = some i) ∨
          ∀ e i, (e, i) ∈ ordersBatch.entries → (x.world.directory env).get? e ≠ some i) := by
  let env : Environment := ⟨0, 0⟩
  obtain ⟨w₀, hnew⟩ : ∃ w₀, (Environment.new .empty : Act Nat Unit Environment) (.initial ()) = (.ok env, w₀) :=
    ⟨_, rfl⟩
  -- the block of one service runs
  obtain ⟨w₁, first, hd, hs⟩ := Interleaves.start_first hnew auditBatch
  -- the other block finds an entry of its own there and is refused
  have taken : (w₁.directory env).conflict? ordersBatch.entries = some "shop/a" := by
    rw [hd]
    decide
  have unstarted : (w₁.statuses env).isStarted "orders" = false := by
    rw [hs]
    decide
  have second := Interleaves.refused [⟨auditBlock, env, "shop", .running auditBatch⟩] ordersBatch taken unstarted
  have shared : (w₁.directory env).get? "shop/a" = some 1 := by
    rw [hd]
    decide
  have missing : (w₁.directory env).get? "shop/b" = none := by
    rw [hd]
    decide
  refine ⟨env, w₀, _, hnew, first.trans second, rfl, shared, missing, ?_⟩
  rintro (all | nothing)
  · cases missing.symm.trans (all "shop/b" 2 (.tail _ (.head _)))
  · exact nothing "shop/a" 1 (.head _) shared

end Loopback
