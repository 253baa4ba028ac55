/-
Whose invoker a call gets.

An entry is a context name followed by a path, and the two are not told apart when the context name has a slash of its
own: the target `core` and the service `/v1/calc` make up the same entry as the context name `core/v1` and the path
`/calc`. So a call can meet a block that it does not target.
- `context_eq_iff`: two ways to make up one entry agree exactly when neither context name has a slash;
- `call_meets_declared`: in every state of every run, a call that finds an invoker gets the one that a live block declared
  for the entry; that block has the targeted context name exactly when its context name has no slash;
- `call_crosses_blocks`: a run, and a call that targets `core` and meets the block of the context name `core/v1`.
-/
import Loopback.Proofs.Routing

namespace Loopback

variable {ι σ : Type}

/-! ## Entries that are made up in two ways -/

section Splitting

variable {context block path service : String}

/-- a context name with a slash starts with the text in front of the first slash of its entries -/
theorem exists_between (hc : '/' ∈ context.toList) (hb : '/' ∉ block.toList) (hs : service.toList.head? = some '/')
    (h : context ++ path = block ++ service) :
    ∃ between : String, between.toList.head? = some '/' ∧ context = block ++ between ∧ service = between ++ path := by
  have lists : context.toList ++ path.toList = block.toList ++ service.toList := by
    rw [← String.toList_append, ← String.toList_append, h]
  rcases List.append_eq_append_iff.1 lists with ⟨front, hblock, -⟩ | ⟨between, hcontext, hservice⟩
  · -- the context name would be a part of the block name, which has no slash
    have inside : '/' ∈ block.toList := by
      rw [hblock]
      exact List.mem_append_left _ hc
    exact absurd inside hb
  · refine ⟨String.ofList between, ?_, ?_, ?_⟩
    · rw [String.toList_ofList]
      cases between with
      | nil =>
        rw [List.append_nil] at hcontext
        rw [hcontext] at hc
        exact absurd hc hb
      | cons c r =>
        rw [hservice] at hs
        exact hs
    · apply String.toList_inj.1
      rw [String.toList_append, String.toList_ofList, hcontext]
    · apply String.toList_inj.1
      rw [String.toList_append, String.toList_ofList, hservice]

/-- **Reading an entry.** Of two ways to make up one entry, where one context name has no slash, the context names agree
exactly when the other one has none either. -/
theorem context_eq_iff (hb : '/' ∉ block.toList) (hp : path.toList.head? = some '/')
    (hs : service.toList.head? = some '/') (h : context ++ path = block ++ service) :
    context = block ↔ '/' ∉ context.toList := by
  constructor
  · intro same
    rw [same]
    exact hb
  · intro hc
    have split := append_injective hc hb hp hs h
    exact split.1

end Splitting

/-! ## The block that a call meets -/

/-- a live block declares an entry: the service, its canonical path, and what the context name and the path make up -/
structure Live.Declares (l : Live ι) (entry : String) (invoker : ι) (path : String) : Prop where
  service : ∃ name, (name, invoker) ∈ l.source.services ∧ ServiceName.normalize? name = some path
  entry : l.source.context ++ path = entry

/-- an entry of a live block is one that it declares -/
theorem Live.exists_declares {l : Live ι} {es : List (String × ι)} (he : l.source.entries = .ok es) {entry : String}
    {i : ι} (h : (entry, i) ∈ l.declared) : ∃ path, l.Declares entry i path := by
  rw [Live.declared, he] at h
  obtain ⟨⟨name, i'⟩, hservice, hentry⟩ := (DeploymentBlock.mem_entries_iff he).1 h
  obtain ⟨path, hpath, hmade⟩ := Option.map_eq_some_iff.1 hentry
  obtain ⟨hname, rfl⟩ := Prod.mk.inj hmade
  exact ⟨path, ⟨name, hservice, hpath⟩, hname⟩

/-- every run from a new environment ends in a coherent deployment -/
theorem coherent_of_runs_new {properties : Properties} {w w₀ : World ι σ} {env : Environment}
    (hnew : Environment.new properties w = (.ok env, w₀)) {y : Deployment ι σ} (hrun : Runs env ⟨w₀, []⟩ y) :
    y.Coherent env := by
  obtain ⟨hd, hs⟩ := Environment.new_empty hnew
  apply coherent_of_runs hrun
  unfold Deployment.Coherent
  rw [hd, hs]
  exact .empty env

/-- **Whose invoker a call gets.** In every state that is reached from a new environment by starts and stops of any
blocks, with any initializations, a call that finds an invoker targets a block name, and gets the invoker that a live
block declared for the entry of the call. The context name of that block is the targeted name exactly when it has no
slash; with one it goes on behind the targeted name, and the name of the service starts with what it goes on with. -/
theorem call_meets_declared {properties : Properties} {w w₀ : World ι σ} {env : Environment}
    (hnew : Environment.new properties w = (.ok env, w₀)) {y : Deployment ι σ} (hrun : Runs env ⟨w₀, []⟩ y)
    {d : Dispatcher} (henv : d.environment.hub = env.hub) {name : String}
    (hname : ServiceName.normalize? name = some d.serviceName) {method : String} {call : Call ι} {w' : World ι σ}
    (hcall : d.call method y.world = (.ok (.ok call), w')) :
    ∃ block l path, y.world.target? d.environment = some block ∧ l ∈ y.live ∧
      l.Declares (block ++ d.serviceName) call.invoker path ∧
      (l.source.context = block ↔ '/' ∉ l.source.context.toList) ∧
      ('/' ∈ l.source.context.toList → ∃ between : String, between.toList.head? = some '/' ∧
        l.source.context = block ++ between ∧ d.serviceName = between ++ path) := by
  -- the deployment is coherent, so what the directory holds is what a live block declares
  have coherent : y.Coherent env := coherent_of_runs_new hnew hrun
  have directory : y.world.directory d.environment = y.world.directory env := by
    unfold World.directory
    rw [henv]
  obtain ⟨_, hcall', -⟩ := d.call_eq method y.world
  have outcome : d.outcome method y.world = .ok call := Except.ok.inj (Prod.mk.inj (hcall'.symm.trans hcall)).1
  cases ht : y.world.target? d.environment with
  | none =>
    obtain ⟨e, he, -⟩ := d.outcome_of_no_target method ht
    cases he.symm.trans outcome
  | some block =>
    rw [Dispatcher.outcome_of_target ht] at outcome
    have slash : '/' ∉ block.toList := World.slash_not_mem_of_target? ht
    split at outcome
    · next i hi =>
      cases outcome
      rw [directory] at hi
      obtain ⟨l, hl, hdeclared⟩ := (coherent.directory _ i).1 hi
      obtain ⟨es, he, -⟩ := coherent.declares l hl
      obtain ⟨path, hdeclares⟩ := Live.exists_declares he hdeclared
      obtain ⟨_, _, hpath⟩ := hdeclares.service
      have hp : path.toList.head? = some '/' := ServiceName.head?_of_normalize? hpath
      have hs : d.serviceName.toList.head? = some '/' := ServiceName.head?_of_normalize? hname
      refine ⟨block, l, path, rfl, hl, hdeclares, context_eq_iff slash hp hs hdeclares.entry, ?_⟩
      intro hc
      exact exists_between hc slash hs hdeclares.entry
    · cases outcome

/-! ## Runs of one block -/

/-- setting the connection URL list changes the target of the calls, and leaves the directory and the statuses alone -/
theorem Environment.setProperty_target (env : Environment) (urls : String) (w : World ι σ) :
    ∃ w', env.setProperty Properties.connectionUrlList urls w = (.ok (), w') ∧ w'.directory env = w.directory env ∧
      w'.statuses env = w.statuses env ∧ w'.target? env = Properties.blockName? urls := by
  refine ⟨_, rfl, rfl, rfl, ?_⟩
  unfold World.target?
  rw [Cells.get_set_self, Dict.get?_insert_self, Option.bind_some]

/-- a block is started in a new environment, then the connection URL list is set -/
theorem exists_runs_single (b : DeploymentBlock Nat) {es : List (String × Nat)} (he : b.entries = .ok es)
    (urls : String) :
    ∃ (w₀ : World Nat Unit) (y : Deployment Nat Unit),
      (Environment.new .empty : Act Nat Unit Environment) (.initial ()) = (.ok ⟨0, 0⟩, w₀) ∧
        Runs ⟨0, 0⟩ ⟨w₀, []⟩ y ∧ y.live = [⟨⟨b.name, b.context, es.map (·.1), ⟨0, 0⟩⟩, b⟩] ∧
        y.world.target? ⟨0, 0⟩ = Properties.blockName? urls ∧
        y.world.directory ⟨0, 0⟩ = (Dict.empty : Directory Nat).insertAll es := by
  obtain ⟨w₀, hnew⟩ : ∃ w₀, (Environment.new .empty : Act Nat Unit Environment) (.initial ()) = (.ok ⟨0, 0⟩, w₀) :=
    ⟨_, rfl⟩
  obtain ⟨hd, hs⟩ := Environment.new_empty hnew
  -- in an empty environment the names are free, and nothing is started
  have free : (w₀.directory ⟨0, 0⟩).conflict? es = none := by
    rw [hd]
    simp [Directory.conflict?, Dict.contains]
  have unstarted : (w₀.statuses ⟨0, 0⟩).isStarted b.name = false := by
    rw [hs]
    rfl
  obtain ⟨w₁, hsettle, hp⟩ := b.settle_published ⟨0, 0⟩ b.context he free unstarted
  have started : b.startWith ⟨0, 0⟩ .nothing w₀ = (.ok (.ok ⟨b.name, b.context, es.map (·.1), ⟨0, 0⟩⟩), w₁) :=
    (DeploymentBlock.startWith_of_init unstarted rfl).trans hsettle
  obtain ⟨w₂, -, hd₂, hs₂, target⟩ := (⟨0, 0⟩ : Environment).setProperty_target urls w₁
  have run : Runs ⟨0, 0⟩ ⟨w₀, []⟩ ⟨w₂, [⟨⟨b.name, b.context, es.map (·.1), ⟨0, 0⟩⟩, b⟩]⟩ :=
    .start unstarted rfl (.refl _) started (.elsewhere hd₂ hs₂ (.refl _))
  refine ⟨w₀, _, hnew, run, rfl, target, ?_⟩
  rw [hd₂, hp.directory, hd]

/-- what calls the service `v1/calc` -/
def versionedDispatcher : Dispatcher := ⟨"/v1/calc", ⟨0, 0⟩, .postcard none, none⟩

/-- a call of `v1/calc` that targets `core` meets a block with the entry `core/v1/calc`, however the entry is made up -/
theorem exists_call_versioned (b : DeploymentBlock Nat) (he : b.entries = .ok [("core/v1/calc", 1)]) :
    ∃ (w₀ : World Nat Unit) (y : Deployment Nat Unit) (call : Call Nat) (w' : World Nat Unit),
      (Environment.new .empty : Act Nat Unit Environment) (.initial ()) = (.ok ⟨0, 0⟩, w₀) ∧
        Runs ⟨0, 0⟩ ⟨w₀, []⟩ y ∧ (∀ l ∈ y.live, l.source = b ∧ l.block.contextName = b.context) ∧
        y.world.target? versionedDispatcher.environment = some "core" ∧
        versionedDispatcher.call "describe" y.world = (.ok (.ok call), w') ∧ call.invoker = 1 := by
  obtain ⟨w₀, y, hnew, run, live, target, directory⟩ := exists_runs_single b he "http://localhost:8080/core"
  have targeted : y.world.target? versionedDispatcher.environment = some "core" := target.trans (by decide)
  have found : (y.world.directory versionedDispatcher.environment).get? ("core" ++ versionedDispatcher.serviceName) =
      some 1 := by
    show (y.world.directory ⟨0, 0⟩).get? _ = _
    rw [directory]
    decide
  have declared : ∀ l ∈ y.live, l.source = b ∧ l.block.contextName = b.context := by
    intro l hl
    rw [live, List.mem_singleton] at hl
    rw [hl]
    exact ⟨rfl, rfl⟩
  obtain ⟨w', hcall, -⟩ := versionedDispatcher.call_eq "describe" y.world
  rw [Dispatcher.outcome_of_target targeted, found] at hcall
  exact ⟨w₀, y, _, w', hnew, run, declared, targeted, hcall, rfl⟩

/-- a block with the context name `core` -/
def coreBlock : DeploymentBlock Nat := ⟨"billing", some "core", [(" v1/calc", 1)]⟩

theorem call_meets_declared_core :
    ∃ (w₀ : World Nat Unit) (y : Deployment Nat Unit) (call : Call Nat) (w' : World Nat Unit),
      (Environment.new .empty : Act Nat Unit Environment) (.initial ()) = (.ok ⟨0, 0⟩, w₀) ∧
        Runs ⟨0, 0⟩ ⟨w₀, []⟩ y ∧ versionedDispatcher.call "describe" y.world = (.ok (.ok call), w') ∧
          ∃ l path, l ∈ y.live ∧ l.Declares "core/v1/calc" 1 path ∧ l.source.context = "core" := by
  obtain ⟨w₀, y, call, w', hnew, run, declared, targeted, hcall, hi⟩ := exists_call_versioned coreBlock (by decide)
  have bound : ServiceName.normalize? "v1/calc" = some versionedDispatcher.serviceName := by decide
  obtain ⟨block, l, path, ht, hl, hdeclares, hcontext, -⟩ := call_meets_declared hnew run rfl bound hcall
  cases targeted.symm.trans ht
  have context : l.source.context = "core" := by
    apply hcontext.2
    rw [(declared l hl).1]
    decide
  rw [hi] at hdeclares
  exact ⟨w₀, y, call, w', hnew, run, hcall, l, path, hl, hdeclares, context⟩

/-- a block whose context name has a slash -/
def versionedBlock : DeploymentBlock Nat := ⟨"billing", some "core/v1", [("calc", 1)]⟩

/-- **A call across blocks.** The connection URL list targets `core`, no block of that context name is live, and the
call gets the invoker of the block with the context name `core/v1`. -/
theorem call_crosses_blocks :
    ∃ (w₀ : World Nat Unit) (y : Deployment Nat Unit) (call : Call Nat) (w' : World Nat Unit),
      (Environment.new .empty : Act Nat Unit Environment) (.initial ()) = (.ok ⟨0, 0⟩, w₀) ∧
        Runs ⟨0, 0⟩ ⟨w₀, []⟩ y ∧ y.world.target? versionedDispatcher.environment = some "core" ∧
          versionedDispatcher.call "describe" y.world = (.ok (.ok call), w') ∧ call.invoker = 1 ∧
            ∀ l ∈ y.live, l.source.context ≠ "core" ∧ l.block.contextName ≠ "core" := by
  obtain ⟨w₀, y, call, w', hnew, run, declared, targeted, hcall, hi⟩ := exists_call_versioned versionedBlock (by decide)
  refine ⟨w₀, y, call, w', hnew, run, targeted, hcall, hi, ?_⟩
  intro l hl
  obtain ⟨hsource, hblock⟩ := declared l hl
  rw [hsource, hblock]
  decide

end Loopback
