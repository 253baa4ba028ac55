/-
Directory and statuses over whole runs of starts and stops.

A `Deployment` is a state with the blocks that are live in it. `Runs` lets blocks be started and stopped in any order;
the initialization of a start is itself such a run, to any depth, and may end in an error or a panic. Everything but the
directory and the statuses of the environment may change at any time. `Coherent` is the invariant: the directory holds
the entries of the live blocks and nothing else, and exactly the live blocks are recorded as started.
- `Coherent.madeOf`, `Coherent.tells`: a coherent directory is made of what the live blocks declare, and coherent statuses
  tell of them;
- `Coherent.settle`, `Coherent.stop`: each way in which a start ends keeps the invariant, and so does a stop;
- `coherent_of_runs`: a run keeps the invariant;
- `lifecycle_coherent`: every run from a new environment ends in a coherent deployment, and stopping its live blocks in
  any order leaves nothing behind.
-/
import Loopback.Proofs.Ownership
import Loopback.Proofs.ServiceList

namespace Loopback

variable {ι σ : Type}

/-! ## Live blocks -/

/-- a block that was started and not stopped yet, with the block as it was published -/
structure Live (ι : Type) where
  block : RunningBlock
  source : DeploymentBlock ι

/-- the entries that the block declares, with their invokers -/
def Live.declared (l : Live ι) : List (String × ι) :=
  match l.source.entries with
  | .ok es => es
  | .error _ => []

/-- the name and the context name under which the block is recorded -/
def Live.record (l : Live ι) : String × String := (l.block.name, l.block.contextName)

theorem Live.entries_of_declares {l : Live ι} (h : ∃ es, l.source.entries = .ok es ∧ l.block.entries = es.map (·.1)) :
    l.block.entries = l.declared.map (·.1) := by
  obtain ⟨es, he, hb⟩ := h
  rw [hb, declared, he]

/-- a state, and the blocks that are live in it -/
structure Deployment (ι σ : Type) where
  world : World ι σ
  live : List (Live ι)

/-- the live blocks after a start of a block -/
def liveAfter (b : DeploymentBlock ι) (L : List (Live ι)) : Except StartError RunningBlock → List (Live ι)
  | .ok block => ⟨block, b⟩ :: L
  | .error _ => L

/-- runs of starts and stops in an environment -/
inductive Runs (env : Environment) : Deployment ι σ → Deployment ι σ → Prop
  | refl (x : Deployment ι σ) : Runs env x x
  /-- anything happens that leaves the directory and the statuses alone -/
  | elsewhere {w w' : World ι σ} {L : List (Live ι)} {y : Deployment ι σ} (hd : w'.directory env = w.directory env)
    (hs : w'.statuses env = w.statuses env) (next : Runs env ⟨w', L⟩ y) : Runs env ⟨w, L⟩ y
  /-- a live block is stopped, or dropped -/
  | stop {w w' : World ι σ} {before after : List (Live ι)} {l : Live ι} {y : Deployment ι σ}
    (h : l.block.stop w = (.ok (), w')) (next : Runs env ⟨w', before ++ after⟩ y) :
    Runs env ⟨w, before ++ l :: after⟩ y
  /-- a block that is recorded as started is started again -/
  | restart {b : DeploymentBlock ι} {init : DeploymentBlock.Init ι σ} {w w' : World ι σ} {L : List (Live ι)}
    {r : Except Panic (Except StartError RunningBlock)} {y : Deployment ι σ}
    (hs : (w.statuses env).isStarted b.name = true) (h : b.startWith env init w = (r, w'))
    (next : Runs env ⟨w', L⟩ y) : Runs env ⟨w, L⟩ y
  /-- a block is started; its initialization is a run, and may change the block -/
  | start {b b' : DeploymentBlock ι} {init : DeploymentBlock.Init ι σ} {outcome : Except Report Unit}
    {w w₁ w₂ : World ι σ} {L L₁ : List (Live ι)} {r : Except StartError RunningBlock} {y : Deployment ι σ}
    (hs : (w.statuses env).isStarted b.name = false) (hinit : init b w = (.ok (b', outcome), w₁))
    (nested : Runs env ⟨w, L⟩ ⟨w₁, L₁⟩) (h : b.startWith env init w = (.ok r, w₂))
    (next : Runs env ⟨w₂, liveAfter b' L₁ r⟩ y) : Runs env ⟨w, L⟩ y
  /-- the initialization of a block panics -/
  | panicked {b : DeploymentBlock ι} {init : DeploymentBlock.Init ι σ} {p : Panic} {w w₁ w₂ : World ι σ}
    {L L₁ : List (Live ι)} {r : Except Panic (Except StartError RunningBlock)} {y : Deployment ι σ}
    (hs : (w.statuses env).isStarted b.name = false) (hinit : init b w = (.error p, w₁))
    (nested : Runs env ⟨w, L⟩ ⟨w₁, L₁⟩) (h : b.startWith env init w = (r, w₂)) (next : Runs env ⟨w₂, L₁⟩ y) :
    Runs env ⟨w, L⟩ y

/-! ## The invariant -/

/-- the directory and the statuses are those of the live blocks -/
structure Coherent (env : Environment) (d : Directory ι) (s : Statuses) (L : List (Live ι)) : Prop where
  placed : ∀ l ∈ L, l.block.environment = env
  /-- a live block runs with the entries that it declares -/
  declares : ∀ l ∈ L, ∃ es, l.source.entries = .ok es ∧ l.block.entries = es.map (·.1)
  /-- no name is an entry twice -/
  disjoint : (L.flatMap (·.block.entries)).Nodup
  directory : ∀ e i, d.get? e = some i ↔ ∃ l ∈ L, (e, i) ∈ l.declared
  /-- no two live blocks share a name -/
  names : (L.map (·.block.name)).Nodup
  recorded : ∀ l ∈ L, s.get? l.block.name = some ⟨l.block.name, l.block.contextName, .started⟩
  started : ∀ name, s.isStarted name = true ↔ ∃ l ∈ L, l.block.name = name

namespace Coherent

variable {env : Environment} {d : Directory ι} {s : Statuses} {L : List (Live ι)} {l : Live ι}

theorem entries (h : Coherent env d s L) (hl : l ∈ L) : l.block.entries = l.declared.map (·.1) :=
  Live.entries_of_declares (h.declares l hl)

/-- an entry of a live block has the name that the block runs with -/
theorem mem_entries (h : Coherent env d s L) (hl : l ∈ L) {e : String} {i : ι} (he : (e, i) ∈ l.declared) :
    e ∈ l.block.entries := by
  rw [h.entries hl]
  exact List.mem_map.2 ⟨(e, i), he, rfl⟩

theorem flatMap_entries (h : ∀ l ∈ L, l.block.entries = l.declared.map (·.1)) :
    L.flatMap (·.block.entries) = (L.map Live.declared).flatMap (·.map (·.1)) := by
  rw [List.flatMap_map]
  exact List.flatMap_congr h

/-- the directory is made of what the live blocks declare -/
theorem madeOf (h : Coherent env d s L) : Directory.MadeOf d (L.map Live.declared) where
  disjoint := by
    rw [← flatMap_entries fun _ => h.entries]
    exact h.disjoint
  get? e i := by
    rw [h.directory]
    simp

/-- the statuses tell of the live blocks -/
theorem tells (h : Coherent env d s L) : Statuses.Tells s (L.map Live.record) where
  names := by
    rw [List.map_map]
    exact h.names
  recorded name contextName hmem := by
    obtain ⟨l, hl, hr⟩ := List.mem_map.1 hmem
    cases hr
    exact h.recorded l hl
  isStarted_iff name := by
    rw [h.started]
    simp [Live.record]

/-- a directory made of what live blocks declare and statuses that tell of them are coherent -/
theorem of (placed : ∀ l ∈ L, l.block.environment = env)
    (declares : ∀ l ∈ L, ∃ es, l.source.entries = .ok es ∧ l.block.entries = es.map (·.1))
    (hd : Directory.MadeOf d (L.map Live.declared)) (hs : Statuses.Tells s (L.map Live.record)) :
    Coherent env d s L where
  placed := placed
  declares := declares
  disjoint := by
    rw [flatMap_entries fun l hl => Live.entries_of_declares (declares l hl)]
    exact hd.disjoint
  directory e i := by
    rw [hd.get?]
    simp
  names := by
    have names := hs.names
    rw [List.map_map] at names
    exact names
  recorded l hl := hs.recorded _ _ (List.mem_map.2 ⟨l, hl, rfl⟩)
  started name := by
    rw [hs.isStarted_iff]
    simp [Live.record]

theorem empty (env : Environment) : Coherent env (.empty : Directory ι) .empty [] :=
  of nofun nofun .empty .empty

/-- the order of the live blocks does not matter -/
theorem perm {L' : List (Live ι)} (h : Coherent env d s L) (hL : L.Perm L') : Coherent env d s L' :=
  of (fun l hl => h.placed l (hL.mem_iff.2 hl)) (fun l hl => h.declares l (hL.mem_iff.2 hl))
    (h.madeOf.perm (hL.map _)) (h.tells.perm (hL.map _))

/-- the names in the directory are the disjoint union of the entries of the live blocks -/
theorem keys_perm (h : Coherent env d s L) : d.keys.Perm (L.flatMap (·.block.entries)) := by
  have distinct : d.keys.Nodup := d.keys_sorted.imp fun {a b} hab e => by
    rw [e, Key.irrefl] at hab
    cases hab
  refine (List.perm_ext_iff_of_nodup distinct h.disjoint).2 fun e => ?_
  rw [Dict.mem_keys_iff, Dict.contains, Option.isSome_iff_exists, List.mem_flatMap]
  constructor
  · rintro ⟨i, hi⟩
    obtain ⟨l, hl, hl'⟩ := (h.directory e i).1 hi
    exact ⟨l, hl, h.mem_entries hl hl'⟩
  · rintro ⟨l, hl, he⟩
    rw [h.entries hl] at he
    obtain ⟨⟨e, i⟩, hi, rfl⟩ := List.mem_map.1 he
    exact ⟨i, (h.directory e i).2 ⟨l, hl, hi⟩⟩

/-- a block is published: its names were free, and no block of its name was live -/
theorem publish {b : DeploymentBlock ι} {es : List (String × ι)} {contextName : String} (h : Coherent env d s L)
    (he : b.entries = .ok es) (hd : d.conflict? es = none) (hs : s.isStarted b.name = false) :
    Coherent env (d.insertAll es) (s.insert b.name ⟨b.name, contextName, .started⟩)
      (⟨⟨b.name, contextName, es.map (·.1), env⟩, b⟩ :: L) := by
  have declared : Live.declared ⟨⟨b.name, contextName, es.map (·.1), env⟩, b⟩ = es := by
    rw [Live.declared]
    dsimp only
    rw [he]
  have joined := h.madeOf.insertAll (DeploymentBlock.entries_nodup he) hd
  refine of (List.forall_mem_cons.2 ⟨rfl, h.placed⟩) (List.forall_mem_cons.2 ⟨⟨es, he, rfl⟩, h.declares⟩) ?_
    (h.tells.start hs)
  rw [List.map_cons, declared]
  exact joined

/-- **A start** keeps the deployment coherent, in whatever way it ends. -/
theorem settle {b : DeploymentBlock ι} {contextName : String} {outcome : Except Report Unit}
    {r : Except StartError RunningBlock} {d' : Directory ι} {s' : Statuses} (h : Coherent env d s L)
    (hr : b.Settles env contextName d s outcome r d' s') : Coherent env d' s' (liveAfter b L r) := by
  cases hr with
  | failed hs => exact of h.placed h.declares h.madeOf (h.tells.fail hs _)
  | failedLate hs => exact h
  | malformed he => exact h
  | taken he hd => exact h
  | rolledBack he hd hs => exact h
  | published he hd hs => exact h.publish he hd hs

/-- the first of the live blocks is stopped -/
theorem tail (h : Coherent env d s (l :: L)) :
    Coherent env (d.eraseAll l.block.entries) (s.erase l.block.name) L := by
  rw [h.entries List.mem_cons_self]
  exact of (fun l' hl' => h.placed l' (List.mem_cons_of_mem _ hl')) (fun l' hl' =>
    h.declares l' (List.mem_cons_of_mem _ hl')) h.madeOf.eraseAll h.tells.stop

/-- **A stop** keeps the deployment coherent. -/
theorem stop {before after : List (Live ι)} (h : Coherent env d s (before ++ l :: after)) :
    Coherent env (d.eraseAll l.block.entries) (s.erase l.block.name) (before ++ after) :=
  (h.perm List.perm_middle).tail

end Coherent

/-! ## Runs -/

section Runs

variable {env : Environment}

/-- the deployment is coherent for its environment -/
def Deployment.Coherent (env : Environment) (x : Deployment ι σ) : Prop :=
  Loopback.Coherent env (x.world.directory env) (x.world.statuses env) x.live

/-- runs one after the other; so each state inside an initialization is one that a run reaches, too -/
theorem Runs.trans {x y z : Deployment ι σ} (h : Runs env x y) (h' : Runs env y z) : Runs env x z := by
  induction h with
  | refl x => exact h'
  | elsewhere hd hs next ih => exact .elsewhere hd hs (ih h')
  | stop h next ih => exact .stop h (ih h')
  | restart hs h next ih => exact .restart hs h (ih h')
  | start hs hinit nested h next ihnested ih => exact .start hs hinit nested h (ih h')
  | panicked hs hinit nested h next ihnested ih => exact .panicked hs hinit nested h (ih h')

/-- **A run** keeps the deployment coherent. The induction also covers the runs inside initializations. -/
theorem coherent_of_runs {x y : Deployment ι σ} (h : Runs env x y) (hx : x.Coherent env) : y.Coherent env := by
  induction h with
  | refl x => exact hx
  | elsewhere hd hs next ih =>
    refine ih ?_
    unfold Deployment.Coherent at hx ⊢
    rw [hd, hs]
    exact hx
  | @stop w w' before after l y h next ih =>
    refine ih ?_
    have placed : l.block.environment = env := hx.placed l (List.mem_append_right _ List.mem_cons_self)
    obtain ⟨w'', hstop, hp⟩ := l.block.stop_publishes w
    rw [placed] at hp
    cases h.symm.trans hstop
    unfold Deployment.Coherent
    rw [hp.directory, hp.statuses]
    exact hx.stop
  | restart hs h next ih =>
    refine ih ?_
    cases h.symm.trans (DeploymentBlock.startWith_of_started hs)
    exact hx
  | @start b b' init outcome w w₁ w₂ L L₁ r y hs hinit nested h next ihnested ih =>
    refine ih ?_
    have hx₁ : Deployment.Coherent env ⟨w₁, L₁⟩ := ihnested hx
    obtain ⟨r', w₃, d, s, hsettle, hr, hp⟩ := b'.settle_settles env b.context outcome w₁
    cases h.symm.trans ((DeploymentBlock.startWith_of_init hs hinit).trans hsettle)
    unfold Deployment.Coherent
    rw [hp.directory, hp.statuses]
    exact hx₁.settle hr
  | panicked hs hinit nested h next ihnested ih =>
    refine ih ?_
    cases h.symm.trans (DeploymentBlock.startWith_of_panic hs hinit)
    exact ihnested hx

end Runs

/-- stop blocks one after the other -/
def stopAll : List RunningBlock → Act ι σ Unit
  | [] => return ()
  | b :: r => do
    b.stop
    stopAll r

/-- stopping the live blocks of a coherent deployment in any order leaves no entry and no started block -/
theorem Coherent.stopAll {env : Environment} {w : World ι σ} {L : List (Live ι)}
    (h : Coherent env (w.directory env) (w.statuses env) L) {order : List RunningBlock}
    (ho : order.Perm (L.map (·.block))) :
    ∃ w', Loopback.stopAll order w = (.ok (), w') ∧ w'.directory env = .empty ∧
      ∀ name, (w'.statuses env).isStarted name = false := by
  induction order generalizing w L with
  | nil =>
    have none_live : L = [] := List.map_eq_nil_iff.1 ho.nil_eq.symm
    subst none_live
    refine ⟨w, rfl, Dict.ext_get? fun e => ?_, fun name => ?_⟩
    · cases hi : (w.directory env).get? e with
      | none => rfl
      | some i =>
        obtain ⟨l, hl, -⟩ := (h.directory e i).1 hi
        cases hl
    · cases hs : (w.statuses env).isStarted name with
      | false => rfl
      | true =>
        obtain ⟨l, hl, -⟩ := (h.started name).1 hs
        cases hl
  | cons b order ih =>
    obtain ⟨l, hl, rfl⟩ := List.mem_map.1 (ho.mem_iff.1 List.mem_cons_self)
    obtain ⟨before, after, rfl⟩ := List.append_of_mem hl
    have others : order.Perm ((before ++ after).map (·.block)) :=
      (ho.trans (List.perm_middle.map _)).cons_inv
    obtain ⟨w₁, hstop, hp⟩ := l.block.stop_publishes w
    rw [h.placed l hl] at hp
    have h₁ : Coherent env (w₁.directory env) (w₁.statuses env) (before ++ after) := by
      rw [hp.directory, hp.statuses]
      exact h.stop
    obtain ⟨w₂, hall, hd, hs⟩ := ih h₁ others
    exact ⟨w₂, (bind_of_ok hstop).trans hall, hd, hs⟩

/-- **The lifecycle.** Every run from a new environment, with runs inside initializations to any depth, ends in a
coherent deployment, and stopping its live blocks in any order leaves no entry and no started block. -/
theorem lifecycle_coherent {properties : Properties} {w w₀ : World ι σ} {env : Environment}
    (hnew : Environment.new properties w = (.ok env, w₀)) {y : Deployment ι σ} (hrun : Runs env ⟨w₀, []⟩ y) :
    y.Coherent env ∧ (y.world.directory env).keys.Perm (y.live.flatMap (·.block.entries)) ∧
      ∀ order : List RunningBlock, order.Perm (y.live.map (·.block)) →
        ∃ w', stopAll order y.world = (.ok (), w') ∧ w'.directory env = .empty ∧
          ∀ name, (w'.statuses env).isStarted name = false := by
  obtain ⟨hd, hs⟩ := Environment.new_empty hnew
  have hx : Deployment.Coherent env ⟨w₀, []⟩ := by
    unfold Deployment.Coherent
    rw [hd, hs]
    exact .empty env
  have hy : y.Coherent env := coherent_of_runs hrun hx
  exact ⟨hy, hy.keys_perm, fun order ho => hy.stopAll ho⟩

/-- a block with one service -/
def innerBlock : DeploymentBlock Nat := ⟨"inner", none, [("t", 1)]⟩

/-- a block that gets a second service while it is initialized -/
def outerBlock : DeploymentBlock Nat := ⟨"outer", some "app", [("/s", 2)]⟩

/-- an initialization that starts another block and adds a service -/
def outerInit (env : Environment) : DeploymentBlock.Init Nat Unit := fun b => do
  let _ ← innerBlock.start env
  return (b.addService " /u " 3, .ok ())

theorem lifecycle_coherent_nested :
    ∃ (env : Environment) (w₀ : World Nat Unit) (y : Deployment Nat Unit),
      Environment.new .empty (.initial ()) = (.ok env, w₀) ∧ Runs env ⟨w₀, []⟩ y ∧
        y.live.map (·.block.name) = ["outer"] ∧ (y.world.directory env).keys.Perm ["app/s", "app/u"] := by
  -- a new environment
  let env : Environment := ⟨0, 0⟩
  obtain ⟨w₀, hnew⟩ : ∃ w₀, (Environment.new .empty : Act Nat Unit Environment) (.initial ()) = (.ok env, w₀) :=
    ⟨_, rfl⟩
  obtain ⟨hd₀, hs₀⟩ := Environment.new_empty hnew
  -- the inner block, started by the initialization of the outer one
  have entries : innerBlock.entries = .ok [("inner/t", 1)] := rfl
  have unstarted : (w₀.statuses env).isStarted "inner" = false := by
    rw [hs₀]
    rfl
  have unstarted' : (w₀.statuses env).isStarted "outer" = false := by
    rw [hs₀]
    rfl
  have free : (w₀.directory env).conflict? [("inner/t", 1)] = none := by
    rw [hd₀]
    rfl
  obtain ⟨w₁, hsettle₁, hp₁⟩ := innerBlock.settle_published env "inner" entries free unstarted
  have inner : innerBlock.startWith env .nothing w₀ = (.ok (.ok ⟨"inner", "inner", ["inner/t"], env⟩), w₁) :=
    (DeploymentBlock.startWith_of_init unstarted rfl).trans hsettle₁
  have hinit : outerInit env outerBlock w₀ = (.ok (outerBlock.addService " /u " 3, .ok ()), w₁) := bind_of_ok inner
  -- the outer block
  have entries' : (outerBlock.addService " /u " 3).entries = .ok [("app/s", 2), ("app/u", 3)] := rfl
  have free' : (w₁.directory env).conflict? [("app/s", 2), ("app/u", 3)] = none := by
    rw [hp₁.directory, hd₀]
    decide
  have unstarted₁ : (w₁.statuses env).isStarted "outer" = false := by
    rw [hp₁.statuses, hs₀]
    decide
  obtain ⟨w₂, hsettle₂, hp₂⟩ :=
    (outerBlock.addService " /u " 3).settle_published env "app" entries' free' unstarted₁
  have outer : outerBlock.startWith env (outerInit env) w₀ =
      (.ok (.ok ⟨"outer", "app", ["app/s", "app/u"], env⟩), w₂) :=
    (DeploymentBlock.startWith_of_init unstarted' hinit).trans hsettle₂
  -- the inner block is stopped again
  let innerLive : Live Nat := ⟨⟨"inner", "inner", ["inner/t"], env⟩, innerBlock⟩
  let outerLive : Live Nat := ⟨⟨"outer", "app", ["app/s", "app/u"], env⟩, outerBlock.addService " /u " 3⟩
  obtain ⟨w₃, hstop, -⟩ := innerLive.block.stop_publishes w₂
  have nested : Runs env ⟨w₀, []⟩ ⟨w₁, [innerLive]⟩ := .start unstarted rfl (.refl _) inner (.refl _)
  have stopped : Runs env ⟨w₂, [outerLive] ++ innerLive :: []⟩ ⟨w₃, [outerLive] ++ []⟩ := .stop hstop (.refl _)
  have run : Runs env ⟨w₀, []⟩ ⟨w₃, [outerLive]⟩ := .start unstarted' hinit nested outer stopped
  exact ⟨env, w₀, _, hnew, run, rfl, (lifecycle_coherent hnew run).2.1⟩

end Loopback
