/-
What a started block says of itself.

A start reads the context name before its initialization, the entries and the name after it. The initialization may leave
any block, and may do anything to the state; what is told here is told from the block that it leaves.
- `DeploymentBlock.startWith_ok`: a start that succeeds publishes the entries and the status of the block that its
  initialization left;
- `RunningBlock.Agrees`: a running block says of its services what a list of them declares;
- `started_agrees`: its status tells its name and its context name, and it agrees with the services of the block that was
  left if the initialization left the context name as it was;
- `started_disagrees`: paths are compared in canonical form, and a changed context name is not noticed.
-/
import Loopback.Proofs.FailedStart

namespace Loopback

variable {ι σ : Type}

/-! ## Invokers -/

namespace RunningBlock

variable {r : RunningBlock} {name path : String}

/-- a name without a canonical form has no invoker -/
theorem invoker?_of_unnamed (hn : ServiceName.normalize? name = none) (w : World ι σ) :
    r.invoker? name w = (.ok none, w) := by
  unfold invoker?
  rw [hn]
  rfl

/-- an entry of the block is looked up in the directory -/
theorem invoker?_of_mem (hn : ServiceName.normalize? name = some path) (he : r.contextName ++ path ∈ r.entries)
    (w : World ι σ) :
    r.invoker? name w = (.ok ((w.directory r.environment).get? (r.contextName ++ path)), w) := by
  unfold invoker?
  rw [hn]
  dsimp only
  rw [if_pos he]
  rfl

/-- the directory is not asked for what is no entry of the block -/
theorem invoker?_of_not_mem (hn : ServiceName.normalize? name = some path) (he : r.contextName ++ path ∉ r.entries)
    (w : World ι σ) : r.invoker? name w = (.ok none, w) := by
  unfold invoker?
  rw [hn]
  dsimp only
  rw [if_neg he]
  rfl

end RunningBlock

/-! ## Successful starts -/

/-- **A successful start.** The initialization succeeded, and the block that it left is published, under the context name
of the block before it. -/
theorem DeploymentBlock.startWith_ok {b : DeploymentBlock ι} {env : Environment} {init : Init ι σ} {w w' : World ι σ}
    {r : RunningBlock} (h : b.startWith env init w = (.ok (.ok r), w')) :
    ∃ b' left es, init b w = (.ok (b', .ok ()), left) ∧ b'.entries = .ok es ∧
      r = ⟨b'.name, b.context, es.map (·.1), env⟩ ∧
      World.Publishes env left w' ((left.directory env).insertAll es)
        ((left.statuses env).insert b'.name ⟨b'.name, b.context, .started⟩) := by
  rcases startWith_cases h with ⟨-, hr, -⟩ | ⟨-, p, -, hr⟩ | ⟨-, b', outcome, left, r', d, s, hinit, hr, hsettles, hp⟩
  · cases hr
  · cases hr
  · cases hr
    cases hsettles with
    | published he hd hs => exact ⟨b', left, _, hinit, he, rfl, hp⟩

/-! ## Agreement -/

/-- a running block says of its services what a list of them declares -/
structure RunningBlock.Agrees (r : RunningBlock) (services : List (String × ι)) (w : World ι σ) : Prop where
  /-- an entry is the context name and the canonical form of a declared path -/
  entries : ∀ e ∈ r.entries, ∃ service ∈ services, ∃ path,
    ServiceName.normalize? service.1 = some path ∧ e = r.contextName ++ path
  /-- a declared path is given its invoker, however it is written -/
  declared : ∀ service ∈ services, ∃ path, ServiceName.normalize? service.1 = some path ∧
    ∀ name, ServiceName.normalize? name = some path → r.invoker? name w = (.ok (some service.2), w)
  /-- any other path is given none -/
  others : ∀ name, (∀ path, ServiceName.normalize? name = some path →
      ∀ service ∈ services, ServiceName.normalize? service.1 ≠ some path) →
    r.invoker? name w = (.ok none, w)

/-- a block of entries in one context agrees with the services that they are made of, where the directory has them -/
theorem DeploymentBlock.agrees_of_entries {b : DeploymentBlock ι} {es : List (String × ι)} {r : RunningBlock}
    {w : World ι σ} (he : b.entries = .ok es) (hcontext : r.contextName = b.context) (hr : r.entries = es.map (·.1))
    (hd : ∀ e ∈ es, (w.directory r.environment).get? e.1 = some e.2) : r.Agrees b.services w := by
  have entry {service : String × ι} {path : String} (hp : ServiceName.normalize? service.1 = some path) :
      b.entryOf service = some (r.contextName ++ path, service.2) := by
    rw [entryOf_of_normalize? hp, hcontext]
  -- an entry comes from a service, with the canonical form of its path
  have source {e : String × ι} (hmem : e ∈ es) : ∃ service ∈ b.services, ∃ path,
      ServiceName.normalize? service.1 = some path ∧ e = (r.contextName ++ path, service.2) := by
    obtain ⟨service, hservice, hentry⟩ := (mem_entries_iff he).1 hmem
    obtain ⟨path, hp, -⟩ := Option.map_eq_some_iff.1 hentry
    exact ⟨service, hservice, path, hp, Option.some.inj (hentry.symm.trans (entry hp))⟩
  refine ⟨fun entryName hentry => ?_, fun service hservice => ?_, fun name hname => ?_⟩
  · rw [hr] at hentry
    obtain ⟨e, hmem, rfl⟩ := List.mem_map.1 hentry
    obtain ⟨service, hservice, path, hp, same⟩ := source hmem
    exact ⟨service, hservice, path, hp, congrArg Prod.fst same⟩
  · have listed : b.entryOf service ∈ es.map some := by
      rw [entries_map_some he]
      exact List.mem_map_of_mem hservice
    obtain ⟨e, hmem, hentry⟩ := List.mem_map.1 listed
    obtain ⟨path, hp, -⟩ := Option.map_eq_some_iff.1 hentry.symm
    obtain rfl : e = (r.contextName ++ path, service.2) := Option.some.inj (hentry.trans (entry hp))
    refine ⟨path, hp, fun name hn => ?_⟩
    have named : r.contextName ++ path ∈ r.entries := hr ▸ List.mem_map_of_mem hmem
    rw [RunningBlock.invoker?_of_mem hn named, hd _ hmem]
  · cases hn : ServiceName.normalize? name with
    | none => exact RunningBlock.invoker?_of_unnamed hn w
    | some path =>
      refine RunningBlock.invoker?_of_not_mem hn (fun named => ?_) w
      rw [hr] at named
      obtain ⟨e, hmem, hentry⟩ := List.mem_map.1 named
      obtain ⟨service, hservice, path', hp, rfl⟩ := source hmem
      obtain rfl : path' = path := String.append_right_inj _ |>.1 hentry
      exact hname path' hn service hservice hp

/-- **Started blocks.** For every state, block and initialization, whatever that does to the block and to the state: the
running block of a start that succeeds has the name of the block that the initialization left, and the status under that
name says that it is started, with its context name. If the initialization left the context name as it was, the entries
and the invokers that it gives out are those of the services of the block that was left. -/
theorem started_agrees {b : DeploymentBlock ι} {env : Environment} {init : DeploymentBlock.Init ι σ} {w w' : World ι σ}
    {r : RunningBlock} (h : b.startWith env init w = (.ok (.ok r), w')) :
    ∃ b' left, init b w = (.ok (b', .ok ()), left) ∧ r.name = b'.name ∧ r.contextName = b.context ∧
      (w'.statuses env).get? r.name = some ⟨r.name, r.contextName, .started⟩ ∧
      (b'.context = b.context → r.Agrees b'.services w') := by
  obtain ⟨b', left, es, hinit, he, rfl, hp⟩ := DeploymentBlock.startWith_ok h
  refine ⟨b', left, hinit, rfl, rfl, ?_, fun hcontext => ?_⟩
  · rw [hp.statuses]
    exact Dict.get?_insert_self _ _ _
  · refine DeploymentBlock.agrees_of_entries he hcontext.symm rfl fun e hmem => ?_
    show (w'.directory env).get? e.1 = some e.2
    rw [hp.directory]
    exact Dict.get?_insertAll_of_mem _ (DeploymentBlock.entries_nodup he) hmem

/-! ## Replaced blocks -/

/-- an initialization that leaves another block -/
def DeploymentBlock.Init.replacing (b : DeploymentBlock ι) : DeploymentBlock.Init ι σ := fun _ => return (b, .ok ())

/-- a block is started in place of another one where its entries and its name are free -/
theorem DeploymentBlock.startWith_replacing (b b' : DeploymentBlock ι) (env : Environment) (w : World ι σ)
    {es : List (String × ι)} (he : b'.entries = .ok es) (hd : (w.directory env).conflict? es = none)
    (hs : (w.statuses env).isStarted b.name = false) (hs' : (w.statuses env).isStarted b'.name = false) :
    ∃ w', b.startWith env (.replacing b') w = (.ok (.ok ⟨b'.name, b.context, es.map (·.1), env⟩), w') ∧
      w'.directory env = (w.directory env).insertAll es := by
  obtain ⟨w', hsettle, hp⟩ := b'.settle_published env b.context he hd hs'
  exact ⟨w', (startWith_of_init hs rfl).trans hsettle, hp.directory⟩

theorem started_agrees_renamed :
    ∃ (env : Environment) (w w' : World Nat Unit) (r : RunningBlock),
      (⟨"core", some "shop", [("/a", 1)]⟩ : DeploymentBlock Nat).startWith env
        (.replacing ⟨"orders", some "shop", [("log", 2), ("/b/c", 3)]⟩) w = (.ok (.ok r), w') ∧
      r.entries = ["shop/log", "shop/b/c"] ∧
      (w'.statuses env).get? "orders" = some ⟨"orders", "shop", .started⟩ ∧
      r.invoker? " /log" w' = (.ok (some 2), w') ∧ r.invoker? "/a" w' = (.ok none, w') := by
  let b : DeploymentBlock Nat := ⟨"core", some "shop", [("/a", 1)]⟩
  let b' : DeploymentBlock Nat := ⟨"orders", some "shop", [("log", 2), ("/b/c", 3)]⟩
  let env : Environment := ⟨0, 0⟩
  let w : World Nat Unit := .initial ()
  have entries : b'.entries = .ok [("shop/log", 2), ("shop/b/c", 3)] := rfl
  obtain ⟨w', hstart, -⟩ := b.startWith_replacing b' env w entries rfl rfl rfl
  obtain ⟨b'', left, hinit, -, -, status, agrees⟩ := started_agrees hstart
  cases hinit
  have agrees := agrees rfl
  obtain ⟨path, hp, written⟩ := agrees.declared ("log", 2) List.mem_cons_self
  refine ⟨env, w, w', _, hstart, rfl, status, written " /log" (hp ▸ rfl), agrees.others "/a" ?_⟩
  intro path hn service hservice same
  cases hn.symm.trans (rfl : ServiceName.normalize? "/a" = some "/a")
  revert service
  decide

/-- **Disagreement.** A path that is not declared as it is written is given the invoker of the declared path with the same
canonical form. An initialization that replaces a block by one of another context name leaves a running block with the
context name of the former and the entries of the latter, which gives out no invoker for the path that it declares. -/
theorem started_disagrees :
    ∃ (env : Environment) (w : World Nat Unit),
      (∃ w' r, (⟨"core", none, [("/log", 1)]⟩ : DeploymentBlock Nat).startWith env
          (.replacing ⟨"core", none, [("/log", 1)]⟩) w = (.ok (.ok r), w') ∧
        r.invoker? "log" w' = (.ok (some 1), w')) ∧
      ∃ w' r, (⟨"core", none, [("/log", 1)]⟩ : DeploymentBlock Nat).startWith env
          (.replacing ⟨"audit", none, [("/log", 1)]⟩) w = (.ok (.ok r), w') ∧
        r.contextName = "core" ∧ r.entries = ["audit/log"] ∧ (∀ path, "audit/log" ≠ r.contextName ++ path) ∧
        r.invoker? "/log" w' = (.ok none, w') := by
  let core : DeploymentBlock Nat := ⟨"core", none, [("/log", 1)]⟩
  let audit : DeploymentBlock Nat := ⟨"audit", none, [("/log", 1)]⟩
  let env : Environment := ⟨0, 0⟩
  let w : World Nat Unit := .initial ()
  have entries : core.entries = .ok [("core/log", 1)] := rfl
  have entries' : audit.entries = .ok [("audit/log", 1)] := rfl
  have canonical (name : String) (h : name ∈ ["log", "/log"]) : ServiceName.normalize? name = some "/log" := by
    revert name
    decide
  obtain ⟨w₁, hstart, hd⟩ := core.startWith_replacing core env w entries rfl rfl rfl
  obtain ⟨w₂, hstart', -⟩ := core.startWith_replacing audit env w entries' rfl rfl rfl
  refine ⟨env, w, ⟨w₁, _, hstart, ?_⟩, w₂, _, hstart', rfl, rfl, fun path same => ?_, ?_⟩
  · rw [RunningBlock.invoker?_of_mem (canonical "log" (by simp)) (by decide)]
    have found : (w₁.directory env).get? "core/log" = some 1 := by
      rw [hd]
      rfl
    exact congrArg (fun i => (Except.ok i, w₁)) found
  · have first := congrArg (fun s : String => s.toList.head?) same
    simp [core, DeploymentBlock.context] at first
  · exact RunningBlock.invoker?_of_not_mem (canonical "/log" (by simp)) (by decide) w₂

end Loopback
