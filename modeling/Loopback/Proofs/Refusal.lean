/-
When a start says that its block is already running.

A start says so when the status of its name is taken, before its initialization or after it, and also when the name of
one of its entries is taken. Entries are taken by context name and path, so their owner may be a live block of any name.
- `Starts`: one start in a deployment, whose initialization is a run, with the name and the entries that it ends with;
- `Coherent.contains_iff`: a name is taken in the directory exactly when it is an entry of a live block;
- `Coherent.refusal_of_settles`: each way in which a start settles, and whether its refusal is true;
- `alreadyRunning_true_iff`: in every reachable deployment, a start that says that a block is running tells the truth,
  unless a live block of another name has one of the entries;
- `start_refused_for_other`: a start that is refused although no block of its name is live.
-/
import Loopback.Proofs.Diagnosis

namespace Loopback

variable {ι σ : Type}

/-! ## Starts -/

/-- a live block has a name -/
def Deployment.HasBlock (x : Deployment ι σ) (name : String) : Prop := ∃ l ∈ x.live, l.block.name = name

/-- a live block has an entry -/
def Deployment.HasEntry (x : Deployment ι σ) (entry : String) : Prop := ∃ l ∈ x.live, entry ∈ l.block.entries

/-- the names of the entries that a block comes to publish after its initialization; a failed one publishes nothing -/
def DeploymentBlock.offered (b : DeploymentBlock ι) : Except Report Unit → List String
  | .error _ => []
  | .ok () =>
    match b.entries with
    | .ok es => es.map (·.1)
    | .error _ => []

/-- a start of a block in a deployment, with the name and the entries that it ends with, its result, and the deployment
that it leaves -/
inductive Starts (env : Environment) (b : DeploymentBlock ι) (x : Deployment ι σ) :
    String → List String → Except StartError RunningBlock → Deployment ι σ → Prop
  /-- the block is recorded as started, so its initialization is not run -/
  | unprepared {init : DeploymentBlock.Init ι σ} {w' : World ι σ} {r : Except StartError RunningBlock}
    (hs : (x.world.statuses env).isStarted b.name = true) (h : b.startWith env init x.world = (.ok r, w')) :
    Starts env b x b.name [] r ⟨w', x.live⟩
  /-- the initialization is a run, and may change the block -/
  | prepared {b' : DeploymentBlock ι} {init : DeploymentBlock.Init ι σ} {outcome : Except Report Unit}
    {w₁ w₂ : World ι σ} {L₁ : List (Live ι)} {r : Except StartError RunningBlock}
    (hs : (x.world.statuses env).isStarted b.name = false) (hinit : init b x.world = (.ok (b', outcome), w₁))
    (nested : Runs env x ⟨w₁, L₁⟩) (h : b.startWith env init x.world = (.ok r, w₂)) :
    Starts env b x b'.name (b'.offered outcome) r ⟨w₂, liveAfter b' L₁ r⟩

/-- a start is a step of a run, so the deployment that it leaves is reached, too -/
theorem Starts.runs {env : Environment} {b : DeploymentBlock ι} {x y : Deployment ι σ} {name : String}
    {offered : List String} {r : Except StartError RunningBlock} (h : Starts env b x name offered r y) :
    Runs env x y := by
  cases h with
  | unprepared hs h => exact .restart hs h (.refl _)
  | prepared hs hinit nested h => exact .start hs hinit nested h (.refl _)

/-! ## Settling -/

/-- the name for which a batch is refused is in the batch, and taken -/
theorem Directory.of_conflict?_some {d : Directory ι} {es : List (String × ι)} {entry : String}
    (h : d.conflict? es = some entry) : entry ∈ es.map (·.1) ∧ d.contains entry = true := by
  obtain ⟨before, i, after, rfl, -, taken⟩ := conflict?_eq_some_iff.1 h
  exact ⟨by simp, Option.isSome_iff_exists.2 taken⟩

namespace Coherent

variable {env : Environment} {d d' : Directory ι} {s s' : Statuses} {L : List (Live ι)}

theorem contains_iff (h : Coherent env d s L) (entry : String) :
    d.contains entry = true ↔ ∃ l ∈ L, entry ∈ l.block.entries := by
  rw [← Dict.mem_keys_iff, h.keys_perm.mem_iff, List.mem_flatMap]

/-- a start that settles says that its own block is running; that is true exactly when a live block has its name, or
when no live block has an entry that it comes to publish -/
theorem refusal_of_settles {b : DeploymentBlock ι} {contextName : String} {outcome : Except Report Unit}
    {r : Except StartError RunningBlock} (h : Coherent env d s L)
    (hr : b.Settles env contextName d s outcome r d' s') :
    (∀ n, r = .error (.alreadyRunning n) → n = b.name) ∧
      ((∀ n, r = .error (.alreadyRunning n) → ∃ l ∈ liveAfter b L r, l.block.name = n) ↔
        (∃ l ∈ liveAfter b L r, l.block.name = b.name) ∨
          ∀ entry ∈ b.offered outcome, ¬∃ l ∈ liveAfter b L r, entry ∈ l.block.entries) := by
  cases hr with
  | failed hs => simp [DeploymentBlock.offered]
  | failedLate hs =>
    have live := (h.started b.name).1 hs
    simpa [liveAfter, DeploymentBlock.offered] using live
  | malformed he =>
    rcases DeploymentBlock.entries_error he with rfl | ⟨path, rfl⟩
    · simp [DeploymentBlock.offered, he]
    · simp [DeploymentBlock.offered, he]
  | @taken es entry he hd =>
    -- the owner of the name that is taken is a live block, but it may have any name
    obtain ⟨hmem, htaken⟩ := Directory.of_conflict?_some hd
    have offered : entry ∈ b.offered (.ok ()) := by
      simpa only [DeploymentBlock.offered, he] using hmem
    refine ⟨by simp, ?_, ?_⟩
    · intro live
      exact .inl (live b.name rfl)
    · rintro (live | free) n hn
      · cases hn
        exact live
      · exact absurd ((h.contains_iff entry).1 htaken) (free entry offered)
  | rolledBack he hd hs =>
    have live := (h.started b.name).1 hs
    refine ⟨by simp, iff_of_true ?_ (.inl live)⟩
    intro n hn
    cases hn
    exact live
  | published he hd hs => simp [liveAfter]

end Coherent

/-- a block with an entry that is taken is refused under its own name -/
theorem DeploymentBlock.settle_taken (b : DeploymentBlock ι) (env : Environment) (contextName : String)
    {es : List (String × ι)} {entry : String} {w : World ι σ} (he : b.entries = .ok es)
    (hd : (w.directory env).conflict? es = some entry) :
    ∃ w', b.settle env contextName (.ok ()) w = (.ok (.error (.alreadyRunning b.name)), w') := by
  obtain ⟨r, w', d, s, hsettle, hr, -⟩ := b.settle_settles env contextName (.ok ()) w
  cases hr with
  | malformed he' => cases he.symm.trans he'
  | taken he' hd' => exact ⟨w', hsettle⟩
  | rolledBack he' hd' hs => exact ⟨w', hsettle⟩
  | published he' hd' hs =>
    cases he.symm.trans he'
    cases hd.symm.trans hd'

/-! ## Refusals in runs -/

/-- **A refusal and its truth.** In every deployment that is reached from a new environment by starts and stops of any
blocks, with any initializations: a start that says that a block is already running names its own block. What it says
is true exactly when a live block has this name, or when no live block has an entry that the start comes to publish. -/
theorem alreadyRunning_true_iff {properties : Properties} {w w₀ : World ι σ} {env : Environment}
    (hnew : Environment.new properties w = (.ok env, w₀)) {x y : Deployment ι σ} (hrun : Runs env ⟨w₀, []⟩ x)
    {b : DeploymentBlock ι} {name : String} {offered : List String} {r : Except StartError RunningBlock}
    (hstart : Starts env b x name offered r y) :
    (∀ n, r = .error (.alreadyRunning n) → n = name) ∧
      ((∀ n, r = .error (.alreadyRunning n) → y.HasBlock n) ↔
        y.HasBlock name ∨ ∀ entry ∈ offered, ¬y.HasEntry entry) := by
  cases hstart with
  | unprepared hs h =>
    have live := ((coherent_of_runs_new hnew hrun).started b.name).1 hs
    cases h.symm.trans (DeploymentBlock.startWith_of_started hs)
    refine ⟨by simp, iff_of_true ?_ (.inl live)⟩
    intro n hn
    cases hn
    exact live
  | @prepared b' init outcome w₁ w₂ L₁ r hs hinit nested h =>
    have coherent := coherent_of_runs_new hnew (hrun.trans nested)
    obtain ⟨r', w₃, d, s, hsettle, hr, -⟩ := b'.settle_settles env b.context outcome w₁
    cases h.symm.trans ((DeploymentBlock.startWith_of_init hs hinit).trans hsettle)
    exact coherent.refusal_of_settles hr

/-! ## A block that starts itself, and a block that shares a context name -/

/-- the first block of a new environment is started -/
theorem exists_first_start (b : DeploymentBlock Nat) {es : List (String × Nat)} (he : b.entries = .ok es) :
    ∃ w₀ w₁ : World Nat Unit, (Environment.new .empty : Act Nat Unit Environment) (.initial ()) = (.ok ⟨0, 0⟩, w₀) ∧
      (∀ name, (w₀.statuses ⟨0, 0⟩).isStarted name = false) ∧
      b.start ⟨0, 0⟩ w₀ = (.ok (.ok ⟨b.name, b.context, es.map (·.1), ⟨0, 0⟩⟩), w₁) ∧
      w₁.directory ⟨0, 0⟩ = Dict.empty.insertAll es ∧
      w₁.statuses ⟨0, 0⟩ = Dict.empty.insert b.name ⟨b.name, b.context, .started⟩ := by
  obtain ⟨w₀, hnew⟩ : ∃ w₀, (Environment.new .empty : Act Nat Unit Environment) (.initial ()) = (.ok ⟨0, 0⟩, w₀) :=
    ⟨_, rfl⟩
  obtain ⟨hd, hs⟩ := Environment.new_empty hnew
  have unstarted (name : String) : (w₀.statuses ⟨0, 0⟩).isStarted name = false := by
    rw [hs]
    rfl
  have free : (w₀.directory ⟨0, 0⟩).conflict? es = none := by
    rw [hd]
    exact Option.map_eq_none_iff.2 (List.find?_eq_none.2 fun e _ => by simp [Dict.contains])
  obtain ⟨w₁, hsettle, hp⟩ := b.settle_published ⟨0, 0⟩ b.context he free (unstarted b.name)
  refine ⟨w₀, w₁, hnew, unstarted, (DeploymentBlock.startWith_of_init (unstarted b.name) rfl).trans hsettle, ?_, ?_⟩
  · rw [hp.directory, hd]
  · rw [hp.statuses, hs]

/-- an initialization that starts another block of the same name, and fails -/
def doublingInit : DeploymentBlock.Init Nat Unit := fun b => do
  let _ ← (sharingBlock b.name).start ⟨0, 0⟩
  return (b, .error ⟨"std::io::Error", "boom", []⟩)

theorem alreadyRunning_true_iff_doubled :
    ∃ (w₀ : World Nat Unit) (y : Deployment Nat Unit),
      (Environment.new .empty : Act Nat Unit Environment) (.initial ()) = (.ok ⟨0, 0⟩, w₀) ∧
        Starts ⟨0, 0⟩ (⟨"core", none, [("/a", 2)]⟩ : DeploymentBlock Nat) ⟨w₀, []⟩ "core" []
          (.error (.alreadyRunning "core")) y ∧ y.HasBlock "core" := by
  let b : DeploymentBlock Nat := ⟨"core", none, [("/a", 2)]⟩
  obtain ⟨w₀, w₁, hnew, unstarted, hinner, hd, hs⟩ := exists_first_start (sharingBlock "core") rfl
  have hinit : doublingInit b w₀ = (.ok (b, .error ⟨"std::io::Error", "boom", []⟩), w₁) := bind_of_ok hinner
  have nested : Runs ⟨0, 0⟩ ⟨w₀, []⟩ ⟨w₁, [⟨⟨"core", "shop", ["shop/log"], ⟨0, 0⟩⟩, sharingBlock "core"⟩]⟩ :=
    .start (unstarted "core") rfl (.refl _) hinner (.refl _)
  -- the failure is not recorded, for the name is started by then
  have started : (w₁.statuses ⟨0, 0⟩).isStarted "core" = true := by
    rw [hs]
    exact Statuses.isStarted_of_get? (Dict.get?_insert_self _ _ _)
  obtain ⟨r, w₂, d, s, hsettle, hr, -⟩ := b.settle_settles ⟨0, 0⟩ "core" (.error ⟨"std::io::Error", "boom", []⟩) w₁
  cases hr with
  | failed hlate => cases hlate.symm.trans started
  | failedLate _ =>
    have hstart := (DeploymentBlock.startWith_of_init (unstarted "core") hinit).trans hsettle
    have starts : Starts ⟨0, 0⟩ b ⟨w₀, []⟩ "core" [] (.error (.alreadyRunning "core")) _ :=
      .prepared (unstarted "core") hinit nested hstart
    have truth := (alreadyRunning_true_iff hnew (.refl _) starts).2.2 (.inr nofun)
    exact ⟨w₀, _, hnew, starts, truth "core" rfl⟩

/-- **A refusal for another block.** The block `audit` runs under the context name `shop`. A start of the block `orders`
with the same context name and path says that `orders` is already running, but no live block has this name. -/
theorem start_refused_for_other :
    ∃ (w₀ : World Nat Unit) (x y : Deployment Nat Unit),
      (Environment.new .empty : Act Nat Unit Environment) (.initial ()) = (.ok ⟨0, 0⟩, w₀) ∧
        Runs ⟨0, 0⟩ ⟨w₀, []⟩ x ∧
          Starts ⟨0, 0⟩ (sharingBlock "orders") x "orders" ["shop/log"] (.error (.alreadyRunning "orders")) y ∧
            ¬y.HasBlock "orders" := by
  obtain ⟨w₀, w₁, hnew, unstarted, hfirst, hd, hs⟩ := exists_first_start (sharingBlock "audit") rfl
  let audit : Live Nat := ⟨⟨"audit", "shop", ["shop/log"], ⟨0, 0⟩⟩, sharingBlock "audit"⟩
  have run : Runs ⟨0, 0⟩ ⟨w₀, []⟩ ⟨w₁, [audit]⟩ := .start (unstarted "audit") rfl (.refl _) hfirst (.refl _)
  have unstarted₁ : (w₁.statuses ⟨0, 0⟩).isStarted "orders" = false := by
    rw [hs]
    decide
  have taken : (w₁.directory ⟨0, 0⟩).conflict? [("shop/log", 1)] = some "shop/log" := by
    rw [hd]
    decide
  obtain ⟨w₂, hsettle⟩ := (sharingBlock "orders").settle_taken ⟨0, 0⟩ "shop" rfl taken
  have hstart : (sharingBlock "orders").startWith ⟨0, 0⟩ .nothing w₁ = (.ok (.error (.alreadyRunning "orders")), w₂) :=
    (DeploymentBlock.startWith_of_init unstarted₁ rfl).trans hsettle
  have starts : Starts ⟨0, 0⟩ (sharingBlock "orders") ⟨w₁, [audit]⟩ "orders" ["shop/log"]
      (.error (.alreadyRunning "orders")) ⟨w₂, [audit]⟩ := .prepared unstarted₁ rfl (.refl _) hstart
  refine ⟨w₀, _, _, hnew, run, starts, ?_⟩
  simp [Deployment.HasBlock, audit]

end Loopback
