/-
Where calls go.

`Serves` are the runs in which every initialization only adds services to its block and no context name has a slash;
all else may change at any time, the connection URL list in particular. In a state that such a run reaches, the entry of
a call says which block and which path it means.
- `Dispatcher.call_eq`: what a call of a method comes to, in terms of the properties and the directory;
- `Deployment.Coherent.get?_iff_offers`: an entry without a slash before its path is there exactly when a live block of
  that context name declares the path;
- `call_routed`: a call gets an invoker exactly when a live block of the target context name declares the service, and
  then the one that this block declares; any other call is refused before an invoker runs.
-/
import Mathlib.Data.List.Nodup
import Mathlib.Data.List.Pairwise
import Loopback.Proofs.BlockName
import Loopback.Proofs.Lifecycle

namespace Loopback

variable {ι σ : Type}

/-! ## What a call comes to -/

/-- the name of the block that calls through an environment go to, if the property is there and names one -/
def World.target? (w : World ι σ) (env : Environment) : Option String :=
  ((w.properties.get env.properties).get? Properties.connectionUrlList).bind Properties.blockName?

theorem Properties.targetBlockName_of_some {property : String → Option String} {block : String}
    (h : (property connectionUrlList).bind blockName? = some block) : targetBlockName property = .ok block := by
  obtain ⟨urls, hurls, hblock⟩ := Option.bind_eq_some_iff.1 h
  rw [targetBlockName, hurls]
  dsimp only
  rw [blockName, hblock]

theorem Properties.targetBlockName_of_none {property : String → Option String}
    (h : (property connectionUrlList).bind blockName? = none) :
    ∃ e : InvocationError, targetBlockName property = .error e ∧ e.kind = .configuration := by
  unfold targetBlockName
  cases hurls : property connectionUrlList with
  | none => exact ⟨.configuration _, rfl, rfl⟩
  | some urls =>
    rw [hurls, Option.bind_some] at h
    dsimp only
    rw [blockName, h]
    exact ⟨.configuration _, rfl, rfl⟩

/-- what a call of a method comes to -/
def Dispatcher.outcome (d : Dispatcher) (method : String) (w : World ι σ) : Except InvocationError (Call ι) :=
  match Properties.targetBlockName (w.properties.get d.environment.properties).get? with
  | .error e => .error e
  | .ok block =>
    match (w.directory d.environment).get? (block ++ d.serviceName) with
    | some i => .ok (d.firstCall block method i)
    | none => .error ((w.statuses d.environment).accessError block (block ++ d.serviceName))

/-- **Calling.** A call always returns its outcome, and only keeps books. -/
theorem Dispatcher.call_eq (d : Dispatcher) (method : String) (w : World ι σ) :
    ∃ w', d.call method w = (.ok (d.outcome method w), w') ∧ w.Alike w' := by
  obtain ⟨_, w₁, hcount, hl, -⟩ := d.environment.count_keeps .calls w
  -- counting changes neither the properties nor the directory
  have same : d.outcome method w = d.outcome method w₁ := by
    unfold outcome World.directory World.statuses
    rw [hl.properties, hl.directory, hl.statuses]
  have refused {e : InvocationError} (he : d.resolve w₁ = (.ok (.error e), w₁)) (ho : d.outcome method w₁ = .error e) :
      ∃ w', d.call method w = (.ok (d.outcome method w), w') ∧ w.Alike w' := by
    obtain ⟨_, w₂, hreject, hl', rfl⟩ := d.reject_keeps d.serviceName method e w₁
    refine ⟨w₂, ?_, hl.trans hl'⟩
    rw [same, ho]
    unfold call
    rw [bind_of_ok hcount, bind_of_ok he]
    exact bind_of_ok hreject
  have target : (d.environment.targetBlock : Act ι σ _) w₁ =
      (.ok (Properties.targetBlockName (w₁.properties.get d.environment.properties).get?), w₁) := rfl
  cases ht : Properties.targetBlockName (w₁.properties.get d.environment.properties).get? with
  | error e =>
    rw [ht] at target
    refine refused (e := e) ?_ ?_
    · unfold resolve
      rw [bind_of_ok target]
      rfl
    · rw [outcome, ht]
  | ok block =>
    rw [ht] at target
    have found : (d.environment.lookup (block ++ d.serviceName) : Act ι σ (Option ι)) w₁ =
        (.ok ((w₁.directory d.environment).get? (block ++ d.serviceName)), w₁) := rfl
    cases hi : (w₁.directory d.environment).get? (block ++ d.serviceName) with
    | none =>
      rw [hi] at found
      refine refused (e := (w₁.statuses d.environment).accessError block (block ++ d.serviceName)) ?_ ?_
      · unfold resolve
        rw [bind_of_ok target]
        dsimp only
        rw [bind_of_ok found]
        rfl
      · rw [outcome, ht]
        dsimp only
        rw [hi]
    | some i =>
      rw [hi] at found
      have resolved : d.resolve w₁ = (.ok (.ok (block ++ d.serviceName, i)), w₁) := by
        unfold resolve
        rw [bind_of_ok target]
        dsimp only
        rw [bind_of_ok found]
        rfl
      refine ⟨w₁, ?_, hl⟩
      rw [same, outcome, ht]
      dsimp only
      rw [hi]
      unfold call
      rw [bind_of_ok hcount, bind_of_ok resolved]
      rfl

section Outcome

variable {d : Dispatcher} {method : String} {w w' : World ι σ}

theorem Dispatcher.outcome_of_target {block : String} (h : w.target? d.environment = some block) :
    d.outcome method w = match (w.directory d.environment).get? (block ++ d.serviceName) with
      | some i => .ok (d.firstCall block method i)
      | none => .error ((w.statuses d.environment).accessError block (block ++ d.serviceName)) := by
  rw [outcome, Properties.targetBlockName_of_some h]

/-- without a target a call is an error of the configuration -/
theorem Dispatcher.outcome_of_no_target (d : Dispatcher) (method : String) (h : w.target? d.environment = none) :
    ∃ e : InvocationError, d.outcome method w = .error e ∧ e.kind = .configuration := by
  obtain ⟨e, he, hk⟩ := Properties.targetBlockName_of_none h
  refine ⟨e, ?_, hk⟩
  rw [outcome, he]

theorem World.slash_not_mem_of_target? {env : Environment} {block : String} (h : w.target? env = some block) :
    '/' ∉ block.toList := by
  obtain ⟨urls, -, hblock⟩ := Option.bind_eq_some_iff.1 h
  exact Properties.slash_not_mem_of_blockName? hblock

/-- a call that is refused ends the call of the method, whatever the invokers would do -/
theorem Signature.call_of_refused {behave : Behaviour ι σ} {sig : Signature} {args : Args sig.params}
    {e : InvocationError} (h : d.call sig.name w = (.ok (.error e), w')) :
    sig.call behave d args w = (.ok (.error (sig.error.ofInvocation e)), w') := by
  unfold Signature.call
  rw [bind_of_ok h]
  rfl

end Outcome

/-! ## Runs of routable blocks -/

/-- an initialization that only adds services to a block in a state; what else it does leaves the environment alone -/
structure DeploymentBlock.OnlyAdds (b : DeploymentBlock ι) (env : Environment) (init : Init ι σ) (w : World ι σ) :
    Prop where
  directory : (init b w).2.directory env = w.directory env
  statuses : (init b w).2.statuses env = w.statuses env
  block : ∀ b' outcome, (init b w).1 = .ok (b', outcome) →
    ∃ added, b' = { b with services := b.services ++ added }

/-- a block after its initialization -/
def DeploymentBlock.initialized (b : DeploymentBlock ι) (init : Init ι σ) (w : World ι σ) : DeploymentBlock ι :=
  match (init b w).1 with
  | .ok (b', _) => b'
  | .error _ => b

/-- the live blocks after a start, which may have panicked -/
def DeploymentBlock.liveAfterStart (b : DeploymentBlock ι) (init : Init ι σ) (w : World ι σ) (L : List (Live ι)) :
    Except Panic (Except StartError RunningBlock) → List (Live ι)
  | .ok r => liveAfter (b.initialized init w) L r
  | .error _ => L

/-- runs of starts and stops in an environment, of blocks without a slash in their context names and with
initializations that only add services -/
inductive Serves (env : Environment) : Deployment ι σ → Deployment ι σ → Prop
  | refl (x : Deployment ι σ) : Serves env x x
  /-- properties change, calls are made, or anything else that leaves the directory and the statuses alone -/
  | elsewhere {w w' : World ι σ} {L : List (Live ι)} {y : Deployment ι σ} (hd : w'.directory env = w.directory env)
    (hs : w'.statuses env = w.statuses env) (next : Serves env ⟨w', L⟩ y) : Serves env ⟨w, L⟩ y
  /-- a live block is stopped, or dropped -/
  | stop {w w' : World ι σ} {before after : List (Live ι)} {l : Live ι} {y : Deployment ι σ}
    (h : l.block.stop w = (.ok (), w')) (next : Serves env ⟨w', before ++ after⟩ y) :
    Serves env ⟨w, before ++ l :: after⟩ y
  /-- a block is started -/
  | start {b : DeploymentBlock ι} {init : DeploymentBlock.Init ι σ} {w w' : World ι σ} {L : List (Live ι)}
    {r : Except Panic (Except StartError RunningBlock)} {y : Deployment ι σ} (hcontext : '/' ∉ b.context.toList)
    (hinit : b.OnlyAdds env init w) (h : b.startWith env init w = (r, w'))
    (next : Serves env ⟨w', b.liveAfterStart init w L r⟩ y) : Serves env ⟨w, L⟩ y

section Runs

variable {env : Environment} {b : DeploymentBlock ι} {init : DeploymentBlock.Init ι σ} {w w' : World ι σ}
  {L : List (Live ι)} {r : Except Panic (Except StartError RunningBlock)} {y : Deployment ι σ}

/-- a start that only adds services is a step of a run -/
theorem Runs.start_onlyAdds (hinit : b.OnlyAdds env init w) (h : b.startWith env init w = (r, w'))
    (next : Runs env ⟨w', b.liveAfterStart init w L r⟩ y) : Runs env ⟨w, L⟩ y := by
  cases hs : (w.statuses env).isStarted b.name with
  | true =>
    cases h.symm.trans (DeploymentBlock.startWith_of_started hs)
    exact .restart hs h next
  | false =>
    have quiet {w₁ : World ι σ} (hw : (init b w).2 = w₁) : Runs env ⟨w, L⟩ ⟨w₁, L⟩ :=
      .elsewhere (hw ▸ hinit.directory) (hw ▸ hinit.statuses) (.refl _)
    cases hi : init b w with
    | mk result w₁ =>
      have nested : Runs env ⟨w, L⟩ ⟨w₁, L⟩ := quiet (by rw [hi])
      cases result with
      | error p =>
        cases h.symm.trans (DeploymentBlock.startWith_of_panic hs hi)
        exact .panicked hs hi nested h next
      | ok initialized =>
        obtain ⟨b', outcome⟩ := initialized
        obtain ⟨r', w₂, -, -, hsettle, -, -⟩ := b'.settle_settles env b.context outcome w₁
        cases h.symm.trans ((DeploymentBlock.startWith_of_init hs hi).trans hsettle)
        refine .start hs hi nested h ?_
        have source : b.initialized init w = b' := by rw [DeploymentBlock.initialized, hi]
        rw [DeploymentBlock.liveAfterStart, source] at next
        exact next

theorem Serves.runs {x y : Deployment ι σ} (h : Serves env x y) : Runs env x y := by
  induction h with
  | refl x => exact .refl x
  | elsewhere hd hs next ih => exact .elsewhere hd hs ih
  | stop h next ih => exact .stop h ih
  | start hcontext hinit h next ih => exact .start_onlyAdds hinit h ih

/-- a live block that runs under the context name that it declares, which has no slash -/
structure Live.Routable (l : Live ι) : Prop where
  context : l.block.contextName = l.source.context
  slash : '/' ∉ l.block.contextName.toList

/-- a block that starts runs under its own context name -/
theorem routable_start (hcontext : '/' ∉ b.context.toList) (hinit : b.OnlyAdds env init w)
    (h : b.startWith env init w = (r, w')) (hL : ∀ l ∈ L, l.Routable) :
    ∀ l ∈ b.liveAfterStart init w L r, l.Routable := by
  cases hs : (w.statuses env).isStarted b.name with
  | true =>
    cases h.symm.trans (DeploymentBlock.startWith_of_started hs)
    exact hL
  | false =>
    cases hi : init b w with
    | mk result w₁ =>
      cases result with
      | error p =>
        cases h.symm.trans (DeploymentBlock.startWith_of_panic hs hi)
        exact hL
      | ok initialized =>
        obtain ⟨b', outcome⟩ := initialized
        have source : b.initialized init w = b' := by rw [DeploymentBlock.initialized, hi]
        obtain ⟨added, rfl⟩ := hinit.block b' outcome (by rw [hi])
        obtain ⟨r', w₂, d, s, hsettle, hr, -⟩ := DeploymentBlock.settle_settles
          { b with services := b.services ++ added } env b.context outcome w₁
        cases h.symm.trans ((DeploymentBlock.startWith_of_init hs hi).trans hsettle)
        rw [DeploymentBlock.liveAfterStart, source]
        cases hr with
        | published he hd hs =>
          intro l hl
          rcases List.mem_cons.1 hl with rfl | hl
          · exact ⟨rfl, hcontext⟩
          · exact hL l hl
        | _ => exact hL

theorem routable_of_serves {x y : Deployment ι σ} (h : Serves env x y) (hx : ∀ l ∈ x.live, l.Routable) :
    ∀ l ∈ y.live, l.Routable := by
  induction h with
  | refl x => exact hx
  | elsewhere hd hs next ih => exact ih hx
  | stop h next ih =>
    refine ih fun l hl => hx l ?_
    rcases List.mem_append.1 hl with hl | hl
    · exact List.mem_append_left _ hl
    · exact List.mem_append_right _ (List.mem_cons_of_mem _ hl)
  | start hcontext hinit h next ih => exact ih (routable_start hcontext hinit h hx)

end Runs

/-! ## Offers -/

/-- a live block with a context name declares a service under a path with the canonical form of a name -/
structure Deployment.Offers (x : Deployment ι σ) (context name : String) (l : Live ι) (service : String × ι) : Prop where
  live : l ∈ x.live
  runs : l.block.contextName = context
  declares : service ∈ l.source.services
  path : ServiceName.normalize? service.1 = ServiceName.normalize? name

namespace Deployment

variable {env : Environment} {x : Deployment ι σ} {context name path : String} {l l' : Live ι}
  {service service' : String × ι}

/-- an offer is an entry of its block -/
theorem Offers.mem_declared (h : x.Offers context name l service) (hx : x.Coherent env)
    (hr : ∀ l ∈ x.live, l.Routable) (hn : ServiceName.normalize? name = some path) :
    (context ++ path, service.2) ∈ l.declared := by
  obtain ⟨es, he, -⟩ := hx.declares l h.live
  have entry : l.source.entryOf service = some (context ++ path, service.2) := by
    rw [DeploymentBlock.entryOf_of_normalize? (h.path.trans hn), ← h.runs, (hr l h.live).context]
  rw [Live.declared, he]
  exact (DeploymentBlock.mem_entries_iff he).2 ⟨service, h.declares, entry⟩

/-- **Reading an entry.** A context name without a slash before a path is an entry exactly when a live block of that
context name offers the path. -/
theorem Coherent.get?_iff_offers (hx : x.Coherent env) (hr : ∀ l ∈ x.live, l.Routable)
    (hc : '/' ∉ context.toList) (hn : ServiceName.normalize? name = some path) (i : ι) :
    (x.world.directory env).get? (context ++ path) = some i ↔ ∃ l p, x.Offers context name l (p, i) := by
  constructor
  · intro hi
    obtain ⟨l, hl, hdeclared⟩ := (hx.directory _ i).1 hi
    obtain ⟨es, he, -⟩ := hx.declares l hl
    rw [Live.declared, he] at hdeclared
    obtain ⟨⟨p, i'⟩, hservice, hentry⟩ := (DeploymentBlock.mem_entries_iff he).1 hdeclared
    obtain ⟨path', hp', hsame⟩ := Option.map_eq_some_iff.1 hentry
    obtain ⟨hname, rfl⟩ := Prod.mk.inj hsame
    have routable := hr l hl
    rw [← routable.context] at hname
    obtain ⟨hcontext, rfl⟩ := append_injective routable.slash hc (ServiceName.head?_of_normalize? hp')
      (ServiceName.head?_of_normalize? hn) hname
    exact ⟨l, p, hl, hcontext, hservice, hp'.trans hn.symm⟩
  · rintro ⟨l, p, h⟩
    exact (hx.directory _ i).2 ⟨l, h.live, h.mem_declared hx hr hn⟩

/-- no two live blocks, and no two services of one, offer the same -/
theorem Offers.unique (h : x.Offers context name l service) (h' : x.Offers context name l' service')
    (hx : x.Coherent env) (hr : ∀ l ∈ x.live, l.Routable) (hn : ServiceName.normalize? name = some path) :
    l' = l ∧ service' = service := by
  have shared {l : Live ι} {service : String × ι} (h : x.Offers context name l service) :
      context ++ path ∈ l.block.entries := Loopback.Coherent.mem_entries hx h.live (h.mem_declared hx hr hn)
  have one : l' = l := by
    by_contra hne
    have apart := (List.nodup_flatMap.1 hx.disjoint).2
    have symmetric : Std.Symm (Function.onFun List.Disjoint fun l : Live ι => l.block.entries) :=
      ⟨fun _ _ apart _ h h' => apart h' h⟩
    exact apart.forall h'.live h.live hne (shared h') (shared h)
  subst one
  obtain ⟨es, he, -⟩ := hx.declares l' h.live
  exact ⟨rfl, DeploymentBlock.service_unique he h'.declares h.declares (h'.path.trans hn) (h.path.trans hn)⟩

/-- the block gives out the invoker that it offers -/
theorem Offers.invoker? (h : x.Offers context name l service) (hx : x.Coherent env) (hr : ∀ l ∈ x.live, l.Routable)
    (hn : ServiceName.normalize? name = some path) :
    l.block.invoker? name x.world = (.ok (some service.2), x.world) := by
  have declared := h.mem_declared hx hr hn
  have entry : l.block.contextName ++ path ∈ l.block.entries := by
    rw [h.runs]
    exact Loopback.Coherent.mem_entries hx h.live declared
  have found : (l.block.environment.lookup (l.block.contextName ++ path) : Act ι σ (Option ι)) x.world =
      (.ok (some service.2), x.world) := by
    rw [h.runs, hx.placed l h.live, ← (hx.directory _ service.2).2 ⟨l, h.live, declared⟩]
    rfl
  unfold RunningBlock.invoker?
  rw [hn]
  dsimp only
  rw [if_pos entry, found]

section Calls

variable {d : Dispatcher}

/-- the directory answers for the target exactly what its live blocks offer -/
theorem Coherent.answers_iff (hx : x.Coherent env) (hr : ∀ l ∈ x.live, l.Routable)
    (henv : d.environment.hub = env.hub) (hn : ServiceName.normalize? name = some d.serviceName) {block : String}
    (ht : x.world.target? d.environment = some block) (i : ι) :
    (x.world.directory d.environment).get? (block ++ d.serviceName) = some i ↔ ∃ l p, x.Offers block name l (p, i) := by
  have directory : x.world.directory d.environment = x.world.directory env := by
    unfold World.directory
    rw [henv]
  rw [directory]
  exact hx.get?_iff_offers hr (World.slash_not_mem_of_target? ht) hn i

/-- a call gets the invokers that the target block offers -/
theorem Coherent.outcome_ok_iff (hx : x.Coherent env) (hr : ∀ l ∈ x.live, l.Routable)
    (henv : d.environment.hub = env.hub) (hn : ServiceName.normalize? name = some d.serviceName) (method : String)
    (i : ι) :
    (∃ call, d.outcome method x.world = .ok call ∧ call.invoker = i) ↔
      ∃ block l p, x.world.target? d.environment = some block ∧ x.Offers block name l (p, i) := by
  constructor
  · rintro ⟨call, ho, rfl⟩
    cases ht : x.world.target? d.environment with
    | none =>
      obtain ⟨e, he, -⟩ := d.outcome_of_no_target method ht
      cases he.symm.trans ho
    | some block =>
      rw [Dispatcher.outcome_of_target ht] at ho
      split at ho
      · next i hi =>
        cases ho
        obtain ⟨l, p, offers⟩ := (hx.answers_iff hr henv hn ht i).1 hi
        exact ⟨block, l, p, rfl, offers⟩
      · cases ho
  · rintro ⟨block, l, p, ht, offers⟩
    have found := (hx.answers_iff hr henv hn ht i).2 ⟨l, p, offers⟩
    rw [Dispatcher.outcome_of_target ht, found]
    exact ⟨_, rfl, rfl⟩

/-- a call of what the target block does not offer is refused, by the kind of what is missing -/
theorem Coherent.outcome_error (hx : x.Coherent env) (hr : ∀ l ∈ x.live, l.Routable)
    (henv : d.environment.hub = env.hub) (hn : ServiceName.normalize? name = some d.serviceName) (method : String)
    (h : ¬∃ block l service, x.world.target? d.environment = some block ∧ x.Offers block name l service) :
    ∃ e : InvocationError, d.outcome method x.world = .error e ∧
      e.kind = if (x.world.target? d.environment).isSome then .localAccess else .configuration := by
  cases ht : x.world.target? d.environment with
  | none => exact d.outcome_of_no_target method ht
  | some block =>
    rw [Dispatcher.outcome_of_target ht]
    cases hi : (x.world.directory d.environment).get? (block ++ d.serviceName) with
    | none => exact ⟨_, rfl, rfl⟩
    | some i =>
      obtain ⟨l, p, offers⟩ := (hx.answers_iff hr henv hn ht i).1 hi
      exact absurd ⟨block, l, (p, i), ht, offers⟩ h

end Calls

end Deployment

/-! ## Exact routing -/

/-- **Exact routing.** In every state that is reached from a new environment by starting and stopping blocks without a
slash in their context names, with initializations that only add services, and for every value of the connection URL
list:
- a call gets an invoker exactly when the list names a block, and a live block of that context name offers the service
  with that invoker;
- no other live block and no other service offers it, and the block itself gives out the same invoker;
- any other call is refused, as an error of the configuration when the list names no block and else as one of local
  access, and a call of a method ends there, whatever the invokers would do.
A list that ends with a slash and a name, then slashes, then blanks, names the block of that name. -/
theorem call_routed {properties : Properties} {w w₀ : World ι σ} {env : Environment}
    (hnew : Environment.new properties w = (.ok env, w₀)) {y : Deployment ι σ} (hrun : Serves env ⟨w₀, []⟩ y)
    {d : Dispatcher} (henv : d.environment.hub = env.hub) {name : String}
    (hname : ServiceName.normalize? name = some d.serviceName) (method : String) :
    (∀ i, (∃ call w', d.call method y.world = (.ok (.ok call), w') ∧ call.invoker = i) ↔
      ∃ block l p, y.world.target? d.environment = some block ∧ y.Offers block name l (p, i)) ∧
    (∀ block l service, y.Offers block name l service →
      (∀ l' service', y.Offers block name l' service' → l' = l ∧ service' = service) ∧
        l.block.invoker? name y.world = (.ok (some service.2), y.world)) ∧
    ((¬∃ block l service, y.world.target? d.environment = some block ∧ y.Offers block name l service) →
      ∃ (e : InvocationError) (w' : World ι σ), d.call method y.world = (.ok (.error e), w') ∧ y.world.Alike w' ∧
        e.kind = (if (y.world.target? d.environment).isSome then .localAccess else .configuration) ∧
        ∀ (behave : Behaviour ι σ) (sig : Signature) (args : Args sig.params), sig.name = method →
          sig.call behave d args y.world = (.ok (.error (sig.error.ofInvocation e)), w')) ∧
    ∀ (front block : String) (slashes : Nat) (blanks : String), block ≠ "" → '/' ∉ block.toList →
      Text.trim block = block → block.toList.getLast? ≠ some ':' → (∀ c ∈ blanks.toList, Text.isBlank c = true) →
        Properties.blockName? (front ++ "/" ++ block ++ String.ofList (List.replicate slashes '/') ++ blanks) =
          some block := by
  obtain ⟨hd, hs⟩ := Environment.new_empty hnew
  have fresh : Deployment.Coherent env ⟨w₀, []⟩ := by
    unfold Deployment.Coherent
    rw [hd, hs]
    exact .empty env
  have coherent : y.Coherent env := coherent_of_runs hrun.runs fresh
  have routable : ∀ l ∈ y.live, l.Routable := routable_of_serves hrun nofun
  obtain ⟨w', hcall, hl⟩ := d.call_eq method y.world
  refine ⟨fun i => ?_, fun block l service h => ?_, fun hnone => ?_, fun front block slashes blanks => ?_⟩
  · rw [← coherent.outcome_ok_iff routable henv hname method i]
    constructor
    · rintro ⟨call, w'', hcall', hi⟩
      exact ⟨call, Except.ok.inj (Prod.mk.inj (hcall.symm.trans hcall')).1, hi⟩
    · rintro ⟨call, ho, hi⟩
      rw [ho] at hcall
      exact ⟨call, w', hcall, hi⟩
  · exact ⟨fun l' service' h' => h.unique h' coherent routable hname, h.invoker? coherent routable hname⟩
  · obtain ⟨e, he, hk⟩ := coherent.outcome_error routable henv hname method hnone
    rw [he] at hcall
    refine ⟨e, w', hcall, hl, hk, ?_⟩
    rintro behave sig args rfl
    exact Signature.call_of_refused hcall
  · exact Properties.blockName?_append front slashes

/-- a block with one service, under a context name of its own -/
def shopBlock : DeploymentBlock Nat := ⟨"orders", some "shop", [("/cart", 1)]⟩

/-- an initialization that adds a service -/
def shopInit : DeploymentBlock.Init Nat Unit := fun b => return (b.addService " pay " 2, .ok ())

/-- what calls the service that was added -/
def payDispatcher : Dispatcher := ⟨"/pay", ⟨0, 0⟩, .postcard none, none⟩

theorem call_routed_shop :
    ∃ (env : Environment) (w₀ : World Nat Unit) (y : Deployment Nat Unit),
      Environment.new .empty (.initial ()) = (.ok env, w₀) ∧ Serves env ⟨w₀, []⟩ y ∧
        y.world.target? env = some "shop" ∧
          ∃ call w', payDispatcher.call "charge" y.world = (.ok (.ok call), w') ∧ call.invoker = 2 := by
  let env : Environment := ⟨0, 0⟩
  obtain ⟨w₀, hnew⟩ : ∃ w₀, (Environment.new .empty : Act Nat Unit Environment) (.initial ()) = (.ok env, w₀) :=
    ⟨_, rfl⟩
  obtain ⟨hd, hs⟩ := Environment.new_empty hnew
  -- the block is started
  let published := shopBlock.addService " pay " 2
  have entries : published.entries = .ok [("shop/cart", 1), ("shop/pay", 2)] := by decide
  have free : (w₀.directory env).conflict? [("shop/cart", 1), ("shop/pay", 2)] = none := by
    rw [hd]
    rfl
  have unstarted : (w₀.statuses env).isStarted "orders" = false := by
    rw [hs]
    rfl
  obtain ⟨w₁, hsettle, -⟩ := published.settle_published env "shop" entries free unstarted
  have started : shopBlock.startWith env shopInit w₀ =
      (.ok (.ok ⟨"orders", "shop", ["shop/cart", "shop/pay"], env⟩), w₁) :=
    (DeploymentBlock.startWith_of_init unstarted rfl).trans hsettle
  have adds : shopBlock.OnlyAdds env shopInit w₀ := by
    refine ⟨rfl, rfl, fun b' outcome h => ?_⟩
    cases h
    exact ⟨[(" pay ", 2)], rfl⟩
  -- then the connection URL list is set
  obtain ⟨w₂, hset⟩ : ∃ w₂, (env.setProperty Properties.connectionUrlList "http://localhost/shop/ " :
      Act Nat Unit Unit) w₁ = (.ok (), w₂) := ⟨_, rfl⟩
  have quiet : w₂.directory env = w₁.directory env ∧ w₂.statuses env = w₁.statuses env := by
    cases hset
    exact ⟨rfl, rfl⟩
  let live : Live Nat := ⟨⟨"orders", "shop", ["shop/cart", "shop/pay"], env⟩, published⟩
  have run : Serves env ⟨w₀, []⟩ ⟨w₂, [live]⟩ :=
    .start (by decide) adds started (.elsewhere quiet.1 quiet.2 (.refl _))
  have target : w₂.target? env = some "shop" := by
    cases hset
    unfold World.target?
    rw [Cells.get_set_self, Dict.get?_insert_self]
    decide
  have offers : Deployment.Offers ⟨w₂, [live]⟩ "shop" "pay" live (" pay ", 2) :=
    ⟨List.mem_singleton_self _, rfl, by decide, by decide⟩
  have bound : ServiceName.normalize? "pay" = some payDispatcher.serviceName := by decide
  have routed := call_routed hnew run rfl bound "charge"
  exact ⟨env, w₀, _, hnew, run, target, (routed.1 2).2 ⟨"shop", live, " pay ", target, offers⟩⟩

end Loopback
