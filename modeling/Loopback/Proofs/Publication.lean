/-
What starting and stopping a block publishes.

Each operation on a directory or on statuses publishes one new hub. `World.Publishes` says what a sequence of them comes
to: another directory and other statuses, and nothing else but log entries.
- `Environment.register_publishes` and the other lemmas of its section: what each of these operations returns and publishes;
- `DeploymentBlock.Settles`: the ways in which a start ends after its initialization, with what each leaves;
- `settle_settles`: a start ends in one of these ways, and publishes just what that way leaves;
- `stop_publishes`: stopping a block removes its status and its entries.
-/
import Loopback.Block
import Loopback.Proofs.Frame

namespace Loopback

variable {ι σ : Type}

/-! ## Publishing -/

/-- the directory of an environment -/
def World.directory (w : World ι σ) (env : Environment) : Directory ι := (w.hubs.get env.hub).directory

/-- the statuses of an environment -/
def World.statuses (w : World ι σ) (env : Environment) : Statuses := (w.hubs.get env.hub).statuses

/-- one state comes from another by publishing a directory and statuses; nothing else changes but the log -/
structure World.Publishes (env : Environment) (w w' : World ι σ) (d : Directory ι) (s : Statuses) : Prop where
  hub : w'.hubs.get env.hub = { w.hubs.get env.hub with directory := d, statuses := s }
  others : ∀ h, h ≠ env.hub → w'.hubs.get h = w.hubs.get h
  properties : w'.properties = w.properties
  meters : w'.meters = w.meters
  exported : w'.exported = w.exported
  app : w'.app = w.app

namespace World.Publishes

variable {env : Environment} {w w' w'' : World ι σ} {d d' : Directory ι} {s s' : Statuses}

theorem directory (h : World.Publishes env w w' d s) : w'.directory env = d := by
  rw [World.directory, h.hub]

theorem statuses (h : World.Publishes env w w' d s) : w'.statuses env = s := by
  rw [World.statuses, h.hub]

theorem refl (env : Environment) (w : World ι σ) : World.Publishes env w w (w.directory env) (w.statuses env) :=
  ⟨rfl, fun _ _ => rfl, rfl, rfl, rfl, rfl⟩

theorem trans (h : World.Publishes env w w' d s) (h' : World.Publishes env w' w'' d' s') :
    World.Publishes env w w'' d' s' := by
  refine ⟨?_, fun n hn => (h'.others n hn).trans (h.others n hn), h'.properties.trans h.properties,
    h'.meters.trans h.meters, h'.exported.trans h.exported, h'.app.trans h.app⟩
  rw [h'.hub, h.hub]

theorem of_set (env : Environment) (w : World ι σ) (d : Directory ι) (s : Statuses) (log : List LogEntry) :
    World.Publishes env w
      { w with hubs := w.hubs.set env.hub { w.hubs.get env.hub with directory := d, statuses := s }, log := log } d s :=
  ⟨Cells.get_set_self _ _ _, fun _ hn => Cells.get_set_ne _ _ hn, rfl, rfl, rfl, rfl⟩

/-- logging publishes nothing -/
theorem event (h : World.Publishes env w w' d s) (level : Level) (message : String) (fields : List (String × Field)) :
    ∃ w'', (Act.event level message fields : Act ι σ Unit) w' = (.ok (), w'') ∧ World.Publishes env w w'' d s :=
  ⟨_, rfl, h.hub, h.others, h.properties, h.meters, h.exported, h.app⟩

/-- logging an event for each of a list publishes nothing -/
theorem forM_event (h : World.Publishes env w w' d s) (level : Level) (message : String) (names : List String) :
    ∃ w'', (names.forM fun name => Act.event level message [("entry", .text name)] : Act ι σ Unit) w' = (.ok (), w'') ∧
      World.Publishes env w w'' d s := by
  induction names generalizing w' with
  | nil => exact ⟨w', rfl, h⟩
  | cons name names ih =>
    obtain ⟨w₁, hlog, h₁⟩ := h.event level message [("entry", .text name)]
    obtain ⟨w₂, hrest, h₂⟩ := ih h₁
    exact ⟨w₂, (bind_of_ok hlog).trans hrest, h₂⟩

end World.Publishes

/-! ## Steps -/

namespace Environment

variable (env : Environment) (w : World ι σ)

theorem directory_eq : (env.directory : Act ι σ (Directory ι)) w = (.ok (w.directory env), w) := rfl

theorem statuses_eq : (env.statuses : Act ι σ Statuses) w = (.ok (w.statuses env), w) := rfl

theorem register_publishes (name : String) (i : ι) :
    ∃ w', env.register name i w = (.ok ((w.directory env).get? name), w') ∧
      World.Publishes env w w' ((w.directory env).insert name i) (w.statuses env) := by
  unfold register
  rw [bind_of_ok (env.directory_eq w)]
  cases (w.directory env).get? name with
  | some old => exact ⟨_, rfl, .of_set env w _ _ _⟩
  | none => exact ⟨_, rfl, .of_set env w _ _ _⟩

theorem unregister_publishes (name : String) :
    ∃ w', env.unregister name w = (.ok ((w.directory env).get? name), w') ∧
      World.Publishes env w w' ((w.directory env).erase name) (w.statuses env) := by
  unfold unregister
  rw [bind_of_ok (env.directory_eq w)]
  cases (w.directory env).get? name with
  | some old => exact ⟨_, rfl, .of_set env w _ _ _⟩
  | none => exact ⟨_, rfl, .of_set env w _ _ w.log⟩

theorem registerAll_publishes (es : List (String × ι)) :
    ∃ w', env.registerAll es w = (.ok (), w') ∧
      World.Publishes env w w' ((w.directory env).insertAll es) (w.statuses env) := by
  cases es with
  | nil => exact ⟨w, rfl, .refl env w⟩
  | cons e r =>
    obtain ⟨w₁, hset, h₁⟩ : ∃ w₁, (env.setDirectory ((w.directory env).insertAll (e :: r)) : Act ι σ Unit) w = (.ok (), w₁) ∧
        World.Publishes env w w₁ ((w.directory env).insertAll (e :: r)) (w.statuses env) :=
      ⟨_, rfl, .of_set env w _ _ w.log⟩
    obtain ⟨w₂, hwarn, h₂⟩ := h₁.forM_event .warn "Replaced registered local service invoker"
      ((w.directory env).taken (e :: r))
    obtain ⟨w₃, hlog, h₃⟩ := h₂.event .debug "Registered local service invokers" [("count", .count (e :: r).length)]
    refine ⟨w₃, ?_, h₃⟩
    unfold registerAll
    rw [List.isEmpty_cons, if_neg Bool.false_ne_true, bind_of_ok (env.directory_eq w), bind_of_ok hset,
      bind_of_ok hwarn, hlog]

theorem tryRegisterAll_publishes (entries : List (String × ι)) :
    (∃ name, (w.directory env).conflict? entries = some name ∧ env.tryRegisterAll entries w = (.ok (some name), w)) ∨
      (w.directory env).conflict? entries = none ∧ ∃ w', env.tryRegisterAll entries w = (.ok none, w') ∧
        World.Publishes env w w' ((w.directory env).insertAll entries) (w.statuses env) := by
  unfold tryRegisterAll Directory.tryRegisterAll
  rw [bind_of_ok (env.directory_eq w)]
  cases (w.directory env).conflict? entries with
  | some name => exact .inl ⟨name, rfl, rfl⟩
  | none => exact .inr ⟨rfl, _, rfl, .of_set env w _ _ _⟩

theorem unregisterAll_publishes (entries : List String) :
    ∃ w', env.unregisterAll entries w = (.ok (), w') ∧
      World.Publishes env w w' ((w.directory env).eraseAll entries) (w.statuses env) := by
  cases entries with
  | nil => exact ⟨w, rfl, .refl env w⟩
  | cons e r => exact ⟨_, rfl, .of_set env w _ _ _⟩

theorem tryRecordStarted_publishes (name contextName : String) :
    (w.statuses env).isStarted name = true ∧ env.tryRecordStarted name contextName w = (.ok false, w) ∨
      (w.statuses env).isStarted name = false ∧ ∃ w', env.tryRecordStarted name contextName w = (.ok true, w') ∧
        World.Publishes env w w' (w.directory env) ((w.statuses env).insert name ⟨name, contextName, .started⟩) := by
  unfold tryRecordStarted Statuses.record
  rw [bind_of_ok (env.statuses_eq w)]
  cases (w.statuses env).isStarted name with
  | true => exact .inl ⟨rfl, rfl⟩
  | false => exact .inr ⟨rfl, _, rfl, .of_set env w _ _ _⟩

theorem recordFailed_publishes (name contextName : String) (cause : CapturedFailure) :
    (w.statuses env).isStarted name = true ∧ env.recordFailed name contextName cause w = (.ok false, w) ∨
      (w.statuses env).isStarted name = false ∧ ∃ w', env.recordFailed name contextName cause w = (.ok true, w') ∧
        World.Publishes env w w' (w.directory env)
          ((w.statuses env).insert name ⟨name, contextName, .failed cause⟩) := by
  unfold recordFailed Statuses.record
  rw [bind_of_ok (env.statuses_eq w)]
  cases (w.statuses env).isStarted name with
  | true => exact .inl ⟨rfl, rfl⟩
  | false => exact .inr ⟨rfl, _, rfl, .of_set env w _ _ _⟩

theorem removeStatus_publishes (name : String) :
    ∃ w', env.removeStatus name w = (.ok ((w.statuses env).get? name), w') ∧
      World.Publishes env w w' (w.directory env) ((w.statuses env).erase name) :=
  ⟨_, rfl, .of_set env w _ _ w.log⟩

/-- a new environment has no entries and no statuses -/
theorem new_empty {properties : Properties} {w w' : World ι σ} {env : Environment}
    (h : Environment.new properties w = (.ok env, w')) : w'.directory env = .empty ∧ w'.statuses env = .empty := by
  rw [World.directory, World.statuses, new_hub h]
  exact ⟨rfl, rfl⟩

end Environment

/-- **Stopping a block** removes its status and its entries. -/
theorem RunningBlock.stop_publishes (b : RunningBlock) (w : World ι σ) :
    ∃ w', b.stop w = (.ok (), w') ∧ World.Publishes b.environment w w'
      ((w.directory b.environment).eraseAll b.entries) ((w.statuses b.environment).erase b.name) := by
  obtain ⟨w₁, hremove, h₁⟩ := b.environment.removeStatus_publishes w b.name
  obtain ⟨w₂, hunregister, h₂⟩ := b.environment.unregisterAll_publishes w₁ b.entries
  rw [h₁.directory, h₁.statuses] at h₂
  obtain ⟨w₃, hlog, h₃⟩ := (h₁.trans h₂).event .info "Stopped deployment block" [("block", .text b.name)]
  refine ⟨w₃, ?_, h₃⟩
  unfold stop
  rw [bind_of_ok hremove, bind_of_ok hunregister, hlog]

/-! ## Starting -/

namespace DeploymentBlock

/-- what a start does after its initialization -/
def settle (b : DeploymentBlock ι) (env : Environment) (contextName : String) (outcome : Except Report Unit) :
    Act ι σ (Except StartError RunningBlock) :=
  match outcome with
  | .error e => b.fail env contextName (.capture e)
  | .ok () =>
    match b.entries with
    | .error e => return .error e
    | .ok entries => b.publish env contextName entries

section Start

variable {b b' : DeploymentBlock ι} {env : Environment} {init : Init ι σ} {w w' : World ι σ}

/-- the start of a block that is recorded as started is refused -/
theorem startWith_of_started (h : (w.statuses env).isStarted b.name = true) :
    b.startWith env init w = (.ok (.error (.alreadyRunning b.name)), w) := by
  unfold startWith
  rw [bind_of_ok (env.statuses_eq w), if_pos h]
  rfl

/-- any other start settles after its initialization -/
theorem startWith_of_init {outcome : Except Report Unit} (h : (w.statuses env).isStarted b.name = false)
    (hinit : init b w = (.ok (b', outcome), w')) : b.startWith env init w = b'.settle env b.context outcome w' := by
  unfold startWith
  rw [bind_of_ok (env.statuses_eq w), h]
  exact bind_of_ok hinit

/-- a panic of the initialization ends the start -/
theorem startWith_of_panic {p : Panic} (h : (w.statuses env).isStarted b.name = false)
    (hinit : init b w = (.error p, w')) : b.startWith env init w = (.error p, w') := by
  unfold startWith
  rw [bind_of_ok (env.statuses_eq w), h]
  exact bind_of_error hinit

end Start

/-- the ways in which a start ends after its initialization, from a directory and statuses, with the ones it leaves -/
inductive Settles (b : DeploymentBlock ι) (env : Environment) (contextName : String) (d : Directory ι) (s : Statuses) :
    Except Report Unit → Except StartError RunningBlock → Directory ι → Statuses → Prop
  /-- the initialization failed -/
  | failed {e : Report} (hs : s.isStarted b.name = false) :
    Settles b env contextName d s (.error e) (.error (.failed b.name (.capture e))) d
      (s.insert b.name ⟨b.name, contextName, .failed (.capture e)⟩)
  /-- the initialization failed, but the block was started by then -/
  | failedLate {e : Report} (hs : s.isStarted b.name = true) :
    Settles b env contextName d s (.error e) (.error (.alreadyRunning b.name)) d s
  /-- the block has no valid list of entries -/
  | malformed {e : StartError} (he : b.entries = .error e) : Settles b env contextName d s (.ok ()) (.error e) d s
  /-- the name of an entry is taken -/
  | taken {es : List (String × ι)} {name : String} (he : b.entries = .ok es) (hd : d.conflict? es = some name) :
    Settles b env contextName d s (.ok ()) (.error (.alreadyRunning b.name)) d s
  /-- the entries were registered, but the block was started by then -/
  | rolledBack {es : List (String × ι)} (he : b.entries = .ok es) (hd : d.conflict? es = none)
    (hs : s.isStarted b.name = true) :
    Settles b env contextName d s (.ok ()) (.error (.alreadyRunning b.name)) d s
  /-- the block runs -/
  | published {es : List (String × ι)} (he : b.entries = .ok es) (hd : d.conflict? es = none)
    (hs : s.isStarted b.name = false) :
    Settles b env contextName d s (.ok ()) (.ok ⟨b.name, contextName, es.map (·.1), env⟩) (d.insertAll es)
      (s.insert b.name ⟨b.name, contextName, .started⟩)

end DeploymentBlock

/-- **A conflict** is told by the first entry of a batch whose name is taken. -/
theorem Directory.conflict?_eq_some_iff {d : Directory ι} {es : List (String × ι)} {name : String} :
    d.conflict? es = some name ↔ ∃ before i after, es = before ++ (name, i) :: after ∧
      (∀ e ∈ before, d.get? e.1 = none) ∧ ∃ i', d.get? name = some i' := by
  rw [conflict?, Option.map_eq_some_iff]
  simp only [List.find?_eq_some_iff_append, Dict.contains, Option.isSome_iff_exists, Bool.not_eq_true',
    Option.isSome_eq_false_iff, Option.isNone_iff_eq_none]
  constructor
  · rintro ⟨⟨name, i⟩, ⟨htaken, before, after, rfl, hfree⟩, rfl⟩
    exact ⟨before, i, after, rfl, hfree, htaken⟩
  · rintro ⟨before, i, after, rfl, hfree, htaken⟩
    exact ⟨(name, i), ⟨htaken, before, after, rfl, hfree⟩, rfl⟩

/-- a batch without a conflict has new names only -/
theorem Directory.get?_of_conflict?_none {d : Directory ι} {es : List (String × ι)} (h : d.conflict? es = none) :
    ∀ name ∈ es.map (·.1), d.get? name = none := by
  intro name hname
  obtain ⟨e, he, rfl⟩ := List.mem_map.1 hname
  have free : ¬d.contains e.1 = true := List.find?_eq_none.1 (Option.map_eq_none_iff.1 h) e he
  rw [Dict.contains, Option.not_isSome_iff_eq_none] at free
  exact free

/-- **Settling.** After its initialization a start ends in one of the ways of `Settles`, and publishes what that way
leaves. -/
theorem DeploymentBlock.settle_settles (b : DeploymentBlock ι) (env : Environment) (contextName : String)
    (outcome : Except Report Unit) (w : World ι σ) :
    ∃ r w' d s, b.settle env contextName outcome w = (.ok r, w') ∧
      b.Settles env contextName (w.directory env) (w.statuses env) outcome r d s ∧ World.Publishes env w w' d s := by
  cases outcome with
  | error e =>
    show ∃ r w' d s, b.fail env contextName (.capture e) w = (.ok r, w') ∧ _
    unfold fail
    rcases env.recordFailed_publishes w b.name contextName (.capture e) with ⟨hs, hr⟩ | ⟨hs, w', hr, hp⟩
    · rw [bind_of_ok hr]
      exact ⟨_, w, _, _, rfl, .failedLate hs, .refl env w⟩
    · rw [bind_of_ok hr]
      exact ⟨_, w', _, _, rfl, .failed hs, hp⟩
  | ok _ =>
    unfold settle
    cases he : b.entries with
    | error e => exact ⟨_, w, _, _, rfl, .malformed he, .refl env w⟩
    | ok es =>
      show ∃ r w' d s, b.publish env contextName es w = (.ok r, w') ∧ _
      unfold publish
      rcases env.tryRegisterAll_publishes w es with ⟨name, hd, hr⟩ | ⟨hd, w₁, hr, hp⟩
      · rw [bind_of_ok hr]
        exact ⟨_, w, _, _, rfl, .taken he hd, .refl env w⟩
      · rw [bind_of_ok hr]
        rcases env.tryRecordStarted_publishes w₁ b.name contextName with ⟨hs, hr'⟩ | ⟨hs, w₂, hr', hp'⟩
        · rw [hp.statuses] at hs
          obtain ⟨w₂, hu, hp'⟩ := env.unregisterAll_publishes w₁ (es.map (·.1))
          rw [hp.directory, hp.statuses, Dict.eraseAll_insertAll _ (Directory.get?_of_conflict?_none hd)] at hp'
          refine ⟨_, w₂, _, _, ?_, .rolledBack he hd hs, hp.trans hp'⟩
          dsimp only
          rw [bind_of_ok hr', if_neg Bool.false_ne_true]
          exact bind_of_ok hu
        · rw [hp.statuses] at hs
          rw [hp.directory, hp.statuses] at hp'
          obtain ⟨w₃, hlog, hp''⟩ := (hp.trans hp').event .info "Started deployment block"
            [("block", .text b.name), ("context", .text contextName), ("services", .count (es.map (·.1)).length)]
          refine ⟨_, w₃, _, _, ?_, .published he hd hs, hp''⟩
          dsimp only
          rw [bind_of_ok hr', if_pos rfl]
          exact bind_of_ok hlog

/-- a block with new names and a new status is published -/
theorem DeploymentBlock.settle_published (b : DeploymentBlock ι) (env : Environment) (contextName : String)
    {es : List (String × ι)} {w : World ι σ} (he : b.entries = .ok es)
    (hd : (w.directory env).conflict? es = none) (hs : (w.statuses env).isStarted b.name = false) :
    ∃ w', b.settle env contextName (.ok ()) w = (.ok (.ok ⟨b.name, contextName, es.map (·.1), env⟩), w') ∧
      World.Publishes env w w' ((w.directory env).insertAll es)
        ((w.statuses env).insert b.name ⟨b.name, contextName, .started⟩) := by
  obtain ⟨r, w', d, s, hsettle, hr, hp⟩ := b.settle_settles env contextName (.ok ()) w
  cases hr with
  | malformed he' => cases he.symm.trans he'
  | taken he' hd' =>
    cases he.symm.trans he'
    cases hd.symm.trans hd'
  | rolledBack he' hd' hs' => cases hs.symm.trans hs'
  | published he' hd' hs' =>
    cases he.symm.trans he'
    exact ⟨w', hsettle, hp⟩

end Loopback
