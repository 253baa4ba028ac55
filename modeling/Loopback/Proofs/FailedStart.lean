/-
What a start leaves behind when it fails.

A start has six ways to fail: one before its initialization, the others after it, and one of those after the entries
were registered. The initialization may do anything, so all is told from the state in which it ends.
- `StartError.recordedIn`: what an error of a start leaves in the statuses;
- `startWith_cases`: a start is refused, or its initialization panics, or it settles;
- `failed_start_leaves`: a failed start leaves the directory as the initialization left it, and the statuses too, except
  for a failure that it records; no start touches the status of a started block.
-/
import Loopback.Proofs.Ownership
import Loopback.Proofs.ServiceList

namespace Loopback

variable {ι σ : Type}

/-! ## Errors -/

/-- the statuses after an error of a start: of the errors only a failed initialization is recorded -/
def StartError.recordedIn (contextName : String) (s : Statuses) : StartError → Statuses
  | .failed name cause => s.insert name ⟨name, contextName, .failed cause⟩
  | .alreadyRunning _ | .duplicateService _ _ | .unnamedService _ => s

namespace DeploymentBlock

variable {b : DeploymentBlock ι} {env : Environment} {contextName : String} {d d' : Directory ι} {s s' : Statuses}
  {outcome : Except Report Unit} {r : Except StartError RunningBlock}

/-- the error of a malformed list of entries is not recorded -/
theorem recordedIn_of_entries {e : StartError} (h : b.entries = .error e) : e.recordedIn contextName s = s := by
  rcases entries_error h with rfl | ⟨path, rfl⟩
  · rfl
  · rfl

/-! ## Settling -/

namespace Settles

/-- an error leaves the directory alone, and in the statuses what it records -/
theorem of_error {e : StartError} (h : b.Settles env contextName d s outcome (.error e) d' s') :
    d' = d ∧ s' = e.recordedIn contextName s := by
  cases h with
  | failed hs => exact ⟨rfl, rfl⟩
  | failedLate hs => exact ⟨rfl, rfl⟩
  | malformed he => exact ⟨rfl, (recordedIn_of_entries he).symm⟩
  | taken he hd => exact ⟨rfl, rfl⟩
  | rolledBack he hd hs => exact ⟨rfl, rfl⟩

/-- a start that is reported as failed has captured the report of its initialization -/
theorem of_failed {name : String} {cause : CapturedFailure}
    (h : b.Settles env contextName d s outcome (.error (.failed name cause)) d' s') :
    ∃ report, outcome = .error report ∧ name = b.name ∧ cause = .capture report := by
  generalize he : (.failed name cause : StartError) = e at h
  cases h with
  | failed hs =>
    cases he
    exact ⟨_, rfl, rfl, rfl⟩
  | failedLate hs => cases he
  | malformed hentries =>
    subst he
    rcases entries_error hentries with h | ⟨path, h⟩
    · cases h
    · cases h
  | taken hentries hd => cases he
  | rolledBack hentries hd hs => cases he

/-- the status of a started block stays -/
theorem get?_of_isStarted (h : b.Settles env contextName d s outcome r d' s') {name : String}
    (hs : s.isStarted name = true) : s'.get? name = s.get? name := by
  -- what is recorded is the status of a block that was not started
  have other {status : BlockStatus} (hb : s.isStarted b.name = false) :
      (s.insert b.name status).get? name = s.get? name := by
    apply Dict.get?_insert_ne
    rintro rfl
    rw [hb] at hs
    cases hs
  cases h with
  | failed hb => exact other hb
  | failedLate hb => rfl
  | malformed he => rfl
  | taken he hd => rfl
  | rolledBack he hd hb => rfl
  | published he hd hb => exact other hb

end Settles

/-! ## Starting -/

section Start

variable {init : Init ι σ} {w w' : World ι σ}

/-- **Starting.** A start is refused, or its initialization panics, or it settles after its initialization. -/
theorem startWith_cases {r : Except Panic (Except StartError RunningBlock)} (h : b.startWith env init w = (r, w')) :
    ((w.statuses env).isStarted b.name = true ∧ r = .ok (.error (.alreadyRunning b.name)) ∧ w' = w) ∨
    ((w.statuses env).isStarted b.name = false ∧ ∃ p, init b w = (.error p, w') ∧ r = .error p) ∨
    ((w.statuses env).isStarted b.name = false ∧ ∃ b' outcome left r' d s, init b w = (.ok (b', outcome), left) ∧
      r = .ok r' ∧ b'.Settles env b.context (left.directory env) (left.statuses env) outcome r' d s ∧
        World.Publishes env left w' d s) := by
  cases hs : (w.statuses env).isStarted b.name with
  | true =>
    cases h.symm.trans (startWith_of_started hs)
    exact .inl ⟨rfl, rfl, rfl⟩
  | false =>
    obtain ⟨x, left, hinit⟩ : ∃ x left, init b w = (x, left) := ⟨_, _, rfl⟩
    cases x with
    | error p =>
      cases h.symm.trans (startWith_of_panic hs hinit)
      exact .inr (.inl ⟨rfl, p, hinit, rfl⟩)
    | ok x =>
      obtain ⟨b', outcome⟩ := x
      obtain ⟨r', w₂, d, s, hsettle, hsettles, hp⟩ := b'.settle_settles env b.context outcome left
      cases h.symm.trans ((startWith_of_init hs hinit).trans hsettle)
      exact .inr (.inr ⟨rfl, b', outcome, left, r', d, s, hinit, rfl, hsettles, hp⟩)

end Start

/-- the state in which a start goes on: the one in which its initialization ends, if it is run at all -/
def leftByInit (b : DeploymentBlock ι) (env : Environment) (init : Init ι σ) (w : World ι σ) : World ι σ :=
  if (w.statuses env).isStarted b.name then w else (init b w).2

section LeftByInit

variable {init : Init ι σ} {w : World ι σ}

theorem leftByInit_of_started (h : (w.statuses env).isStarted b.name = true) : b.leftByInit env init w = w :=
  if_pos h

theorem leftByInit_of_init {x : Except Panic (DeploymentBlock ι × Except Report Unit)} {left : World ι σ}
    (h : (w.statuses env).isStarted b.name = false) (hinit : init b w = (x, left)) :
    b.leftByInit env init w = left := by
  unfold leftByInit
  rw [h, hinit]
  rfl

end LeftByInit

end DeploymentBlock

/-- **A failed start.** For every state, block and initialization:
- the start of a block that is recorded as started is refused, whatever the initialization, and changes nothing;
- an error publishes, on top of what the initialization left, the very same directory, and the statuses with nothing but
  the failure that it reports; all else but the log stays;
- a failure that is reported is the captured report of the initialization, under the name that the block has after it;
- however the start ends, the status of every block that is started when the initialization ends stays. -/
theorem failed_start_leaves (b : DeploymentBlock ι) (env : Environment) (init : DeploymentBlock.Init ι σ)
    (w : World ι σ) :
    ((w.statuses env).isStarted b.name = true → ∀ init' : DeploymentBlock.Init ι σ,
      b.startWith env init' w = (.ok (.error (.alreadyRunning b.name)), w)) ∧
    (∀ e w', b.startWith env init w = (.ok (.error e), w') →
      World.Publishes env (b.leftByInit env init w) w' ((b.leftByInit env init w).directory env)
        (e.recordedIn b.context ((b.leftByInit env init w).statuses env))) ∧
    (∀ name cause w', b.startWith env init w = (.ok (.error (.failed name cause)), w') →
      ∃ b' report, init b w = (.ok (b', .error report), b.leftByInit env init w) ∧ name = b'.name ∧
        cause = .capture report) ∧
    ∀ r w', b.startWith env init w = (r, w') →
      ∀ name, ((b.leftByInit env init w).statuses env).isStarted name = true →
        (w'.statuses env).get? name = ((b.leftByInit env init w).statuses env).get? name := by
  refine ⟨fun hs init' => DeploymentBlock.startWith_of_started hs, fun e w' h => ?_, fun name cause w' h => ?_,
    fun r w' h name hname => ?_⟩
  · rcases DeploymentBlock.startWith_cases h with ⟨hs, hr, rfl⟩ | ⟨hs, p, hinit, hr⟩ |
      ⟨hs, b', outcome, left, r', d, s, hinit, hr, hsettles, hp⟩
    · cases hr
      rw [DeploymentBlock.leftByInit_of_started hs]
      exact .refl env w'
    · cases hr
    · cases hr
      rw [DeploymentBlock.leftByInit_of_init hs hinit]
      obtain ⟨rfl, rfl⟩ := hsettles.of_error
      exact hp
  · rcases DeploymentBlock.startWith_cases h with ⟨hs, hr, rfl⟩ | ⟨hs, p, hinit, hr⟩ |
      ⟨hs, b', outcome, left, r', d, s, hinit, hr, hsettles, hp⟩
    · cases hr
    · cases hr
    · cases hr
      obtain ⟨report, rfl, hname, hcause⟩ := hsettles.of_failed
      rw [DeploymentBlock.leftByInit_of_init hs hinit]
      exact ⟨b', report, hinit, hname, hcause⟩
  · rcases DeploymentBlock.startWith_cases h with ⟨hs, hr, rfl⟩ | ⟨hs, p, hinit, hr⟩ |
      ⟨hs, b', outcome, left, r', d, s, hinit, hr, hsettles, hp⟩
    · rw [DeploymentBlock.leftByInit_of_started hs]
    · rw [DeploymentBlock.leftByInit_of_init hs hinit]
    · rw [DeploymentBlock.leftByInit_of_init hs hinit] at hname ⊢
      rw [hp.statuses]
      exact hsettles.get?_of_isStarted hname

/-- an initialization that starts a block of the same name, and succeeds -/
def overtakingInit (env : Environment) : DeploymentBlock.Init Nat Unit := fun b => do
  let _ ← (⟨"core", none, [("/a", 1)]⟩ : DeploymentBlock Nat).start env
  return (b, .ok ())

theorem failed_start_leaves_overtaken :
    ∃ (env : Environment) (w w' : World Nat Unit),
      (⟨"core", none, [("/b", 2)]⟩ : DeploymentBlock Nat).startWith env (overtakingInit env) w =
        (.ok (.error (.alreadyRunning "core")), w') ∧
      w'.directory env = Dict.empty.insert "core/a" 1 ∧
        (w'.statuses env).get? "core" = some ⟨"core", "core", .started⟩ := by
  let outer : DeploymentBlock Nat := ⟨"core", none, [("/b", 2)]⟩
  let inner : DeploymentBlock Nat := ⟨"core", none, [("/a", 1)]⟩
  let env : Environment := ⟨0, 0⟩
  let w : World Nat Unit := .initial ()
  have unstarted : (w.statuses env).isStarted "core" = false := rfl
  have entries : inner.entries = .ok [("core/a", 1)] := rfl
  have free : (w.directory env).conflict? [("core/a", 1)] = none := rfl
  obtain ⟨left, hsettle, hp⟩ := inner.settle_published env "core" entries free unstarted
  have hinner : inner.start env w = (.ok (.ok ⟨"core", "core", ["core/a"], env⟩), left) :=
    (DeploymentBlock.startWith_of_init unstarted rfl).trans hsettle
  have hinit : overtakingInit env outer w = (.ok (outer, .ok ()), left) := bind_of_ok hinner
  -- the entries of the outer block are free, but its name is started by then
  obtain ⟨r, w', d, s, hsettle', hsettles, -⟩ := outer.settle_settles env "core" (.ok ()) left
  have hr : r = .error (.alreadyRunning "core") := by
    cases hsettles with
    | malformed he => cases he
    | taken he hd => rfl
    | rolledBack he hd hs => rfl
    | published he hd hs =>
      have started : (left.statuses env).isStarted "core" = true := by
        rw [hp.statuses]
        exact Statuses.isStarted_of_get? (Dict.get?_insert_self _ _ _)
      cases hs.symm.trans started
  subst hr
  have hstart : outer.startWith env (overtakingInit env) w = (.ok (.error (.alreadyRunning "core")), w') :=
    (DeploymentBlock.startWith_of_init unstarted hinit).trans hsettle'
  have leaves := failed_start_leaves outer env (overtakingInit env) w
  rw [DeploymentBlock.leftByInit_of_init unstarted hinit] at leaves
  have published := leaves.2.1 _ _ hstart
  refine ⟨env, w, w', hstart, ?_, ?_⟩
  · rw [published.directory, hp.directory]
    rfl
  · rw [published.statuses, hp.statuses]
    exact Dict.get?_insert_self _ _ _

end Loopback
