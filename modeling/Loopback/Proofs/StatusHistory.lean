/-
What is known of blocks after any history of changes.

The status of a block is changed by recording another one, as started or as failed, or by removing it. Recording is refused
while the block is known as started, so such a status is left by its removal alone; starting a block relies on that.
- `Change.upon`, `get?_after`: what one change makes of the status of its block; all others keep theirs;
- `get?_replay`: after a history, a block has the status that the changes of that block alone lead to;
- `get?_replay_of_started`: a started status stays through every history that does not remove it;
- `get?_replay_iff_of_started`: where a started status comes from: one change that recorded it, with no removal since;
- `Environment.changeStatuses_publishes`: changes one after another publish the replay of their history;
- `started_until_removed`: what holds in every state that changes lead to from a new environment.
-/
import Mathlib.Data.List.Induction
import Loopback.Proofs.Publication

namespace Loopback

variable {ι σ : Type}

namespace Statuses

/-! ## Changes -/

/-- a change that is asked for -/
inductive Change where
  | record (status : BlockStatus)
  | remove (name : String)

/-- the block that a change is about -/
def Change.name : Change → String
  | .record status => status.name
  | .remove name => name

/-- the status of its block after a change, by the one before -/
def Change.upon (old : Option BlockStatus) : Change → Option BlockStatus
  | .record status => if old.any (·.isStarted) then old else some status
  | .remove _ => none

/-- the statuses after a change -/
def after (s : Statuses) : Change → Statuses
  | .record status => (s.record status).getD s
  | .remove name => s.erase name

/-- the statuses after the changes of a history, the oldest first -/
def replay (s : Statuses) (history : List Change) : Statuses := history.foldl after s

/-- a block is known as started -/
def HasStarted (s : Statuses) (name : String) : Prop := ∃ status, s.get? name = some status ∧ status.outcome = .started

variable {s : Statuses} {name : String} {status : BlockStatus}

theorem isStarted_iff : s.isStarted name = true ↔ s.HasStarted name := by
  rw [isStarted, Option.any_eq_true]
  simp [HasStarted, BlockStatus.isStarted]

theorem after_record_of_started (h : s.isStarted status.name = true) : s.after (.record status) = s := by
  have refused : s.record status = none := if_pos h
  rw [after, refused, Option.getD_none]

theorem after_record (h : s.isStarted status.name = false) :
    s.after (.record status) = s.insert status.name status := by
  have recorded : s.record status = some (s.insert status.name status) := if_neg (by simp [h])
  rw [after, recorded, Option.getD_some]

/-- **One change.** A change says what becomes of the status of its block, by that status alone; all other blocks keep
theirs. -/
theorem get?_after (s : Statuses) (c : Change) (name : String) :
    (s.after c).get? name = if name = c.name then c.upon (s.get? name) else s.get? name := by
  cases c with
  | remove removed => exact Dict.get?_erase s removed name
  | record status =>
    rw [Change.name, Change.upon]
    cases hs : s.isStarted status.name with
    | true =>
      rw [after_record_of_started hs]
      split
      · next h =>
        subst h
        rw [isStarted] at hs
        rw [if_pos hs]
      · rfl
    | false =>
      rw [after_record hs, Dict.get?_insert]
      split
      · next h =>
        subst h
        rw [isStarted] at hs
        rw [hs, if_neg Bool.false_ne_true]
      · rfl

theorem get?_after_of_ne {c : Change} (h : name ≠ c.name) : (s.after c).get? name = s.get? name := by
  rw [get?_after, if_neg h]

/-! ## Histories -/

/-- **Blocks apart.** After a history a block has the status to which the changes of that block lead, whatever was done
to others in between. -/
theorem get?_replay (s : Statuses) (history : List Change) (name : String) :
    (s.replay history).get? name = (history.filter (·.name = name)).foldl Change.upon (s.get? name) := by
  induction history generalizing s with
  | nil => rfl
  | cons c history ih =>
    rw [replay, List.foldl_cons]
    by_cases hc : c.name = name
    · rw [List.filter_cons_of_pos (by simpa using hc), List.foldl_cons, ← replay, ih, get?_after, if_pos hc.symm]
    · rw [List.filter_cons_of_neg (by simpa using hc), ← replay, ih, get?_after_of_ne (Ne.symm hc)]

/-- **Started blocks** keep their status through every history that does not remove it. -/
theorem get?_replay_of_started {history : List Change} (h : s.get? name = some status)
    (hs : status.outcome = .started) (hkept : .remove name ∉ history) : (s.replay history).get? name = some status := by
  have started : status.isStarted = true := by simp [BlockStatus.isStarted, hs]
  rw [get?_replay, h]
  -- of the changes of the block none is a removal, and each record is refused
  refine List.foldlRecOn (motive := (· = some status)) _ _ rfl fun old hold c hc => ?_
  obtain ⟨hmem, hname⟩ := List.mem_filter.1 hc
  subst hold
  cases c with
  | record _ => exact if_pos started
  | remove removed =>
    obtain rfl : removed = name := of_decide_eq_true hname
    exact absurd hmem hkept

/-- **Where a started status comes from.** A block is known as started, after a history from nothing, exactly by the one
change that recorded the status while the block was not known as started, with no removal since. -/
theorem get?_replay_iff_of_started {history : List Change} (hs : status.outcome = .started) :
    (replay .empty history).get? name = some status ↔
      ∃ before later, history = before ++ .record status :: later ∧ status.name = name ∧
        ¬(replay .empty before).HasStarted name ∧ .remove name ∉ later := by
  constructor
  · intro h
    induction history using List.reverseRecOn with
    | nil => cases h
    | append_singleton history c ih =>
      have kept (h : (replay .empty history).get? name = some status) (hc : c ≠ .remove name) :
          ∃ before later, history ++ [c] = before ++ .record status :: later ∧ status.name = name ∧
            ¬(replay .empty before).HasStarted name ∧ .remove name ∉ later := by
        obtain ⟨before, later, rfl, hname, hfree, hlater⟩ := ih h
        refine ⟨before, later ++ [c], by simp, hname, hfree, ?_⟩
        simp [hlater, Ne.symm hc]
      rw [replay, List.foldl_append, List.foldl_cons, List.foldl_nil, ← replay, get?_after] at h
      split at h
      · next hname =>
        cases c with
        | remove removed => cases h
        | record recorded =>
          rw [Change.upon] at h
          split at h
          · exact kept h nofun
          · next hfree =>
            obtain rfl := Option.some.inj h
            refine ⟨history, [], rfl, hname.symm, ?_, List.not_mem_nil⟩
            rwa [← isStarted_iff, isStarted]
      · next hname =>
        refine kept h ?_
        rintro rfl
        exact hname rfl
  · rintro ⟨before, later, rfl, rfl, hfree, hlater⟩
    have recorded : ((replay .empty before).after (.record status)).get? status.name = some status := by
      rw [after_record (by simpa [← isStarted_iff] using hfree), Dict.get?_insert_self]
    rw [replay, List.foldl_append, List.foldl_cons, ← replay, ← replay]
    exact get?_replay_of_started recorded hs hlater

example : ((replay .empty [.record ⟨"core", "shop", .started⟩, .record ⟨"core", "v1", .started⟩, .remove "edge"]).get?
    "core") = some ⟨"core", "shop", .started⟩ := by decide

/-! ## Names -/

/-- every status stands under the name of its own block -/
def Own (s : Statuses) : Prop := ∀ name status, s.get? name = some status → status.name = name

theorem Own.empty : Own .empty := by
  intro name status h
  cases h

theorem Own.after (h : s.Own) (c : Change) : (s.after c).Own := by
  intro name status hget
  rw [get?_after] at hget
  split at hget
  · next hname =>
    cases c with
    | remove _ => cases hget
    | record recorded =>
      rw [Change.upon] at hget
      split at hget
      · exact h name status hget
      · obtain rfl := Option.some.inj hget
        exact hname.symm
  · exact h name status hget

theorem Own.replay (h : s.Own) (history : List Change) : (s.replay history).Own :=
  List.foldlRecOn history Statuses.after h fun _ hown c _ => hown.after c

end Statuses

/-! ## Changes of an environment -/

namespace Environment

open Statuses (Change)

variable (env : Environment) (w : World ι σ)

/-- record the status of a block, as started or as failed -/
def recordStatus (status : BlockStatus) : Act ι σ Bool :=
  match status.outcome with
  | .started => env.tryRecordStarted status.name status.contextName
  | .failed cause => env.recordFailed status.name status.contextName cause

/-- make a change -/
def changeStatus : Change → Act ι σ Unit
  | .record status => do
    let _ ← env.recordStatus status
  | .remove name => do
    let _ ← env.removeStatus name

/-- make changes one after another -/
def changeStatuses (changes : List Change) : Act ι σ Unit := changes.forM env.changeStatus

/-- recording is refused while the block is known as started, and else publishes the status -/
theorem recordStatus_publishes (status : BlockStatus) :
    (w.statuses env).isStarted status.name = true ∧ env.recordStatus status w = (.ok false, w) ∨
      (w.statuses env).isStarted status.name = false ∧ ∃ w', env.recordStatus status w = (.ok true, w') ∧
        World.Publishes env w w' (w.directory env) ((w.statuses env).insert status.name status) := by
  obtain ⟨name, contextName, outcome⟩ := status
  cases outcome with
  | started => exact env.tryRecordStarted_publishes w name contextName
  | failed cause => exact env.recordFailed_publishes w name contextName cause

/-- **A change** always returns, and publishes the statuses after it. -/
theorem changeStatus_publishes (c : Change) :
    ∃ w', env.changeStatus c w = (.ok (), w') ∧
      World.Publishes env w w' (w.directory env) ((w.statuses env).after c) := by
  cases c with
  | record status =>
    rcases env.recordStatus_publishes w status with ⟨hs, hrun⟩ | ⟨hs, w', hrun, hp⟩
    · rw [Statuses.after_record_of_started hs]
      exact ⟨w, bind_of_ok hrun, .refl env w⟩
    · rw [Statuses.after_record hs]
      exact ⟨w', bind_of_ok hrun, hp⟩
  | remove name =>
    obtain ⟨w', hrun, hp⟩ := env.removeStatus_publishes w name
    exact ⟨w', bind_of_ok hrun, hp⟩

/-- **Changes** always return, and publish the replay of their history. -/
theorem changeStatuses_publishes (changes : List Change) :
    ∃ w', env.changeStatuses changes w = (.ok (), w') ∧
      World.Publishes env w w' (w.directory env) ((w.statuses env).replay changes) := by
  induction changes generalizing w with
  | nil => exact ⟨w, rfl, .refl env w⟩
  | cons c changes ih =>
    obtain ⟨w₁, hrun, h₁⟩ := env.changeStatus_publishes w c
    obtain ⟨w₂, hrest, h₂⟩ := ih w₁
    rw [h₁.directory, h₁.statuses] at h₂
    exact ⟨w₂, (bind_of_ok hrun).trans hrest, h₁.trans h₂⟩

end Environment

/-! ## The guard -/

/-- what holds of the statuses of an environment in a state -/
structure Environment.GuardsStarted (env : Environment) (w : World ι σ) : Prop where
  /-- reading them changes nothing -/
  read : env.statuses w = (.ok (w.statuses env), w)
  /-- every status stands under the name of its own block -/
  own : ∀ name status, (w.statuses env).get? name = some status → status.name = name
  /-- a started status stays, with its context name, through all changes that do not remove it -/
  stays : ∀ name status, (w.statuses env).get? name = some status → status.outcome = .started →
    ∀ changes, .remove name ∉ changes →
      ∃ w', env.changeStatuses changes w = (.ok (), w') ∧ (w'.statuses env).get? name = some status
  /-- recording is refused exactly if the block is known as started, and then changes nothing; else it leaves the status
  that was given; no other block gets another status -/
  records : ∀ status, ∃ recorded w', env.recordStatus status w = (.ok recorded, w') ∧
    (recorded = false ↔ (w.statuses env).HasStarted status.name) ∧ (recorded = false → w' = w) ∧
    (recorded = true → (w'.statuses env).get? status.name = some status) ∧
    ∀ other, other ≠ status.name → (w'.statuses env).get? other = (w.statuses env).get? other
  /-- removing returns the status that was known, and leaves none; no other block gets another status -/
  removes : ∀ name, ∃ w', env.removeStatus name w = (.ok ((w.statuses env).get? name), w') ∧
    (w'.statuses env).get? name = none ∧
    ∀ other, other ≠ name → (w'.statuses env).get? other = (w.statuses env).get? other

theorem Environment.guardsStarted_of_own {env : Environment} {w : World ι σ} (h : (w.statuses env).Own) :
    env.GuardsStarted w where
  read := env.statuses_eq w
  own := h
  stays name status hget hs changes hkept := by
    obtain ⟨w', hrun, hp⟩ := env.changeStatuses_publishes w changes
    refine ⟨w', hrun, ?_⟩
    rw [hp.statuses]
    exact Statuses.get?_replay_of_started hget hs hkept
  records status := by
    rcases env.recordStatus_publishes w status with ⟨hs, hrun⟩ | ⟨hs, w', hrun, hp⟩
    · refine ⟨false, w, hrun, ?_, fun _ => rfl, nofun, fun _ _ => rfl⟩
      simpa using Statuses.isStarted_iff.1 hs
    · refine ⟨true, w', hrun, ?_, nofun, fun _ => ?_, fun other hother => ?_⟩
      · simp [← Statuses.isStarted_iff, hs]
      · rw [hp.statuses, Dict.get?_insert_self]
      · rw [hp.statuses, Dict.get?_insert_ne _ _ hother]
  removes name := by
    obtain ⟨w', hrun, hp⟩ := env.removeStatus_publishes w name
    refine ⟨w', hrun, ?_, fun other hother => ?_⟩
    · rw [hp.statuses, Dict.get?_erase_self]
    · rw [hp.statuses, Dict.get?_erase_ne _ hother]

/-- **The guard.** From a new environment, any changes of statuses, with any names and contexts, always return, and lead to
a state in which every status stands under its own name, a started one is left by its removal alone, and recording is
refused for started blocks only. -/
theorem started_until_removed (properties : Properties) (w : World ι σ) (changes : List Statuses.Change) :
    ∃ env w₀ w', Environment.new properties w = (.ok env, w₀) ∧ env.changeStatuses changes w₀ = (.ok (), w') ∧
      env.GuardsStarted w' := by
  obtain ⟨env, w₀, hnew⟩ : ∃ env w₀, (Environment.new properties : Act ι σ Environment) w = (.ok env, w₀) :=
    ⟨_, _, rfl⟩
  obtain ⟨w', hrun, hp⟩ := env.changeStatuses_publishes w₀ changes
  refine ⟨env, w₀, w', hnew, hrun, Environment.guardsStarted_of_own ?_⟩
  rw [hp.statuses, (Environment.new_empty hnew).2]
  exact Statuses.Own.empty.replay changes

end Loopback
