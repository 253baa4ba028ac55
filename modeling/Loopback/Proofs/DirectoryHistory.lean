/-
What a directory answers after any history of changes.

A directory is changed by registering and removing entries, one at a time or in batches, and a batch may name an entry more
than once. Each change is an `Event`: what was asked, and what it was answered with. The answer says what was registered.
- `LastOf`, `LastGiven`: the invoker that a batch, and a history, last gave to a name;
- `Directory.get?_after`: what one event leaves under a name;
- `Directory.get?_replay_iff`: a replayed history answers with the invoker that was last given;
- `Environment.change_publishes`, `Environment.changeAll_publishes`: a change publishes what its event says, and changes one
  after another publish the replay of their history;
- `directory_answers_history`: every history from a new environment is answered for at its end.
-/
import Mathlib.Data.List.Induction
import Loopback.Proofs.Publication

namespace Loopback

variable {ι σ : Type}

/-! ## Batches -/

/-- the last entry of a batch under a name has this invoker -/
def LastOf (es : List (String × ι)) (name : String) (i : ι) : Prop :=
  ∃ before after, es = before ++ (name, i) :: after ∧ name ∉ after.map (·.1)

/-- a name of a batch has a last entry -/
theorem exists_lastOf {es : List (String × ι)} {name : String} (h : name ∈ es.map (·.1)) : ∃ i, LastOf es name i := by
  induction es using List.reverseRecOn with
  | nil => cases h
  | append_singleton es e ih =>
    by_cases he : name = e.1
    · subst he
      exact ⟨e.2, es, [], rfl, by simp⟩
    · have earlier : name ∈ es.map (·.1) := by simpa [he] using h
      obtain ⟨i, before, after, rfl, hafter⟩ := ih earlier
      exact ⟨i, before, after ++ [e], by simp, by simpa [he] using hafter⟩

theorem LastOf.mem {es : List (String × ι)} {name : String} {i : ι} (h : LastOf es name i) : name ∈ es.map (·.1) := by
  obtain ⟨before, after, rfl, -⟩ := h
  simp

/-- a batch leaves its last entry under a name -/
theorem Dict.get?_insertAll_of_lastOf (d : Dict String ι) {es : List (String × ι)} {name : String} {i : ι}
    (h : LastOf es name i) : (d.insertAll es).get? name = some i := by
  obtain ⟨before, after, rfl, hafter⟩ := h
  have split : d.insertAll (before ++ (name, i) :: after) = ((d.insertAll before).insert name i).insertAll after := by
    rw [insertAll, List.foldl_append]
    rfl
  rw [split, get?_insertAll_of_not_mem _ hafter, get?_insert_self]

/-! ## Events -/

namespace Directory

/-- a change that is asked for -/
inductive Change (ι : Type) where
  | register (name : String) (invoker : ι)
  | registerAll (entries : List (String × ι))
  | tryRegisterAll (entries : List (String × ι))
  | unregister (name : String)
  | unregisterAll (names : List String)

/-- what a change is answered with -/
inductive Answer (ι : Type) where
  /-- the invoker that was replaced, or removed -/
  | previous (invoker : Option ι)
  | done
  /-- a name that is taken -/
  | refused (name : String)

/-- a change and its answer -/
structure Event (ι : Type) where
  change : Change ι
  answer : Answer ι

/-- the entries that an event registered; a refused batch registered none -/
def Event.registered : Event ι → List (String × ι)
  | ⟨.register name i, _⟩ => [(name, i)]
  | ⟨.registerAll es, _⟩ => es
  | ⟨.tryRegisterAll _, .refused _⟩ => []
  | ⟨.tryRegisterAll es, _⟩ => es
  | ⟨.unregister _, _⟩ => []
  | ⟨.unregisterAll _, _⟩ => []

/-- the names that an event removed -/
def Event.removed : Event ι → List String
  | ⟨.unregister name, _⟩ => [name]
  | ⟨.unregisterAll names, _⟩ => names
  | ⟨.register _ _, _⟩ => []
  | ⟨.registerAll _, _⟩ => []
  | ⟨.tryRegisterAll _, _⟩ => []

/-- the directory after an event -/
def after (d : Directory ι) (e : Event ι) : Directory ι := (d.insertAll e.registered).eraseAll e.removed

/-- the directory after the events of a history, the oldest first -/
def replay (d : Directory ι) (history : List (Event ι)) : Directory ι := history.foldl after d

/-- an event changes nothing under a name -/
def Event.Spares (e : Event ι) (name : String) : Prop := name ∉ e.registered.map (·.1) ∧ name ∉ e.removed

/-- an event that removes names registers none -/
theorem Event.removed_of_registered {e : Event ι} {name : String} (h : name ∈ e.registered.map (·.1)) :
    name ∉ e.removed := by
  obtain ⟨change, answer⟩ := e
  cases change with
  | register _ _ => exact List.not_mem_nil
  | registerAll _ => exact List.not_mem_nil
  | tryRegisterAll _ => exact List.not_mem_nil
  | unregister _ => cases h
  | unregisterAll _ => cases h

/-- **One event.** What a name has after an event: what was registered last, nothing if it was removed, and else what it
had before. -/
theorem get?_after (d : Directory ι) (e : Event ι) (name : String) (i : ι) :
    (d.after e).get? name = some i ↔ LastOf e.registered name i ∨ e.Spares name ∧ d.get? name = some i := by
  by_cases hremoved : name ∈ e.removed
  · have gone : (d.after e).get? name = none := Dict.get?_eraseAll_of_mem _ hremoved
    have unregistered : ¬LastOf e.registered name i := fun h => Event.removed_of_registered h.mem hremoved
    simp [gone, unregistered, Event.Spares, hremoved]
  · have kept : (d.after e).get? name = (d.insertAll e.registered).get? name :=
      Dict.get?_eraseAll_of_not_mem _ hremoved
    rw [kept]
    by_cases hnew : name ∈ e.registered.map (·.1)
    · obtain ⟨i', hlast⟩ := exists_lastOf hnew
      rw [Dict.get?_insertAll_of_lastOf d hlast]
      constructor
      · rintro ⟨rfl⟩
        exact .inl hlast
      · rintro (h | ⟨⟨h, -⟩, -⟩)
        · -- a batch has one last entry under a name
          rw [← Dict.get?_insertAll_of_lastOf d hlast, Dict.get?_insertAll_of_lastOf d h]
        · exact absurd hnew h
    · rw [Dict.get?_insertAll_of_not_mem d hnew]
      have unregistered : ¬LastOf e.registered name i := fun h => hnew h.mem
      simp only [unregistered, Event.Spares, hnew, hremoved, not_false_eq_true, and_self, true_and, false_or]

/-! ## Histories -/

/-- the last event of a history that concerns a name registered it with this invoker -/
def LastGiven (history : List (Event ι)) (name : String) (i : ι) : Prop :=
  ∃ before e after, history = before ++ e :: after ∧ LastOf e.registered name i ∧ ∀ later ∈ after, later.Spares name

theorem lastGiven_concat_iff {history : List (Event ι)} {e : Event ι} {name : String} {i : ι} :
    LastGiven (history ++ [e]) name i ↔ LastOf e.registered name i ∨ e.Spares name ∧ LastGiven history name i := by
  constructor
  · rintro ⟨before, e', after, hsplit, hlast, hspares⟩
    rcases List.eq_nil_or_concat after with rfl | ⟨after, later, rfl⟩
    · obtain ⟨-, hlater⟩ := List.append_inj' hsplit rfl
      obtain rfl : e = e' := by simpa using hlater
      exact .inl hlast
    · rw [List.concat_eq_append, ← List.cons_append, ← List.append_assoc] at hsplit
      obtain ⟨rfl, hlater⟩ := List.append_inj' hsplit rfl
      obtain rfl : e = later := by simpa using hlater
      refine .inr ⟨hspares e (by simp), before, e', after, rfl, hlast, fun later hmem => hspares later ?_⟩
      simp [hmem]
  · rintro (hlast | ⟨hspares, before, e', after, rfl, hlast, hlater⟩)
    · exact ⟨history, e, [], rfl, hlast, nofun⟩
    · refine ⟨before, e', after ++ [e], by simp, hlast, fun later hmem => ?_⟩
      rcases List.mem_append.1 hmem with hmem | hmem
      · exact hlater later hmem
      · rw [List.mem_singleton.1 hmem]
        exact hspares

/-- **Replaying.** After a history, a name has the invoker that it was last given. -/
theorem get?_replay_iff (history : List (Event ι)) (name : String) (i : ι) :
    (replay .empty history).get? name = some i ↔ LastGiven history name i := by
  induction history using List.reverseRecOn with
  | nil =>
    constructor
    · intro h
      cases h
    · rintro ⟨before, e, after, h, -⟩
      exact absurd h.symm (by simp)
  | append_singleton history e ih =>
    rw [lastGiven_concat_iff, ← ih, replay, List.foldl_append]
    exact get?_after (replay .empty history) e name i

example : (replay .empty [⟨.registerAll [("core/a", 1), ("core/b", 2), ("core/a", 3)], .done⟩,
    ⟨.tryRegisterAll [("core/c", 4), ("core/b", 5)], .refused "core/b"⟩, ⟨.unregister "core/b", .previous (some 2)⟩]).entries =
      [("core/a", 3)] := by decide

end Directory

/-! ## Changes of an environment -/

namespace Environment

open Directory (Change Answer Event LastGiven)

variable (env : Environment) (w : World ι σ)

/-- make a change -/
def change : Change ι → Act ι σ (Answer ι)
  | .register name i => return .previous (← env.register name i)
  | .registerAll es => do
    env.registerAll es
    return .done
  | .tryRegisterAll es => do
    match ← env.tryRegisterAll es with
    | some name => return .refused name
    | none => return .done
  | .unregister name => return .previous (← env.unregister name)
  | .unregisterAll names => do
    env.unregisterAll names
    return .done

/-- make changes one after another; their history is returned -/
def changeAll : List (Change ι) → Act ι σ (List (Event ι))
  | [] => return []
  | c :: changes => do
    let answer ← env.change c
    let later ← changeAll changes
    return ⟨c, answer⟩ :: later

theorem lookup_eq (name : String) : env.lookup name w = (.ok ((w.directory env).get? name), w) := rfl

/-- **A change** always returns an answer, and publishes what its event says. -/
theorem change_publishes (c : Change ι) :
    ∃ answer w', env.change c w = (.ok answer, w') ∧
      World.Publishes env w w' ((w.directory env).after ⟨c, answer⟩) (w.statuses env) := by
  cases c with
  | register name i =>
    obtain ⟨w', hrun, hp⟩ := env.register_publishes w name i
    exact ⟨_, w', bind_of_ok hrun, hp⟩
  | registerAll es =>
    obtain ⟨w', hrun, hp⟩ := env.registerAll_publishes w es
    exact ⟨_, w', bind_of_ok hrun, hp⟩
  | tryRegisterAll es =>
    rcases env.tryRegisterAll_publishes w es with ⟨name, -, hrun⟩ | ⟨-, w', hrun, hp⟩
    · exact ⟨_, w, bind_of_ok hrun, .refl env w⟩
    · exact ⟨_, w', bind_of_ok hrun, hp⟩
  | unregister name =>
    obtain ⟨w', hrun, hp⟩ := env.unregister_publishes w name
    exact ⟨_, w', bind_of_ok hrun, hp⟩
  | unregisterAll names =>
    obtain ⟨w', hrun, hp⟩ := env.unregisterAll_publishes w names
    exact ⟨_, w', bind_of_ok hrun, hp⟩

/-- **Changes** always return, and publish the replay of their history. -/
theorem changeAll_publishes (changes : List (Change ι)) :
    ∃ history w', env.changeAll changes w = (.ok history, w') ∧ history.map (·.change) = changes ∧
      World.Publishes env w w' ((w.directory env).replay history) (w.statuses env) := by
  induction changes generalizing w with
  | nil => exact ⟨[], w, rfl, rfl, .refl env w⟩
  | cons c changes ih =>
    obtain ⟨answer, w₁, hrun, h₁⟩ := env.change_publishes w c
    obtain ⟨later, w₂, hlater, hchanges, h₂⟩ := ih w₁
    rw [h₁.directory, h₁.statuses] at h₂
    refine ⟨⟨c, answer⟩ :: later, w₂, ?_, by rw [List.map_cons, hchanges], h₁.trans h₂⟩
    unfold changeAll
    rw [bind_of_ok hrun, bind_of_ok hlater]
    rfl

end Environment

/-! ## Answers -/

/-- what the directory of an environment answers in a state to which a history led -/
structure Environment.AnswersFor (env : Environment) (w : World ι σ) (history : List (Directory.Event ι)) : Prop where
  /-- a look-up changes nothing -/
  lookup : ∀ name, env.lookup name w = (.ok ((w.directory env).get? name), w)
  /-- it finds the invoker that the history last gave to the name -/
  found : ∀ name i, (w.directory env).get? name = some i ↔ Directory.LastGiven history name i
  /-- registering a name returns what a look-up gives just before -/
  register : ∀ name i, ∃ w', env.register name i w = (.ok ((w.directory env).get? name), w')
  /-- so does removing it -/
  unregister : ∀ name, ∃ w', env.unregister name w = (.ok ((w.directory env).get? name), w')
  /-- a batch is accepted exactly if none of its names is taken -/
  accepted : ∀ es : List (String × ι),
    (∃ w', env.tryRegisterAll es w = (.ok none, w')) ↔ ∀ e ∈ es, (w.directory env).get? e.1 = none
  /-- else the first name that is taken is returned, and nothing is changed -/
  refused : ∀ es : List (String × ι), (¬∀ e ∈ es, (w.directory env).get? e.1 = none) →
    ∃ before name i after, es = before ++ (name, i) :: after ∧ (∀ e ∈ before, (w.directory env).get? e.1 = none) ∧
      (∃ i', (w.directory env).get? name = some i') ∧ env.tryRegisterAll es w = (.ok (some name), w)
  /-- the names strictly ascend -/
  sorted : (w.directory env).keys.Pairwise (· < ·)
  /-- they are those that a look-up finds -/
  mem_keys : ∀ name, name ∈ (w.directory env).keys ↔ ∃ i, (w.directory env).get? name = some i
  size : (w.directory env).size = (w.directory env).keys.length

/-- a directory that is the replay of a history answers for it -/
theorem Environment.answersFor_of_replay {env : Environment} {w : World ι σ} {history : List (Directory.Event ι)}
    (h : w.directory env = Directory.replay .empty history) : env.AnswersFor w history where
  lookup := env.lookup_eq w
  found name i := by
    rw [h]
    exact Directory.get?_replay_iff history name i
  register name i := by
    obtain ⟨w', hrun, -⟩ := env.register_publishes w name i
    exact ⟨w', hrun⟩
  unregister name := by
    obtain ⟨w', hrun, -⟩ := env.unregister_publishes w name
    exact ⟨w', hrun⟩
  accepted es := by
    constructor
    · rintro ⟨w', haccepted⟩
      rcases env.tryRegisterAll_publishes w es with ⟨name, -, hrun⟩ | ⟨hfree, -⟩
      · cases haccepted.symm.trans hrun
      · intro e he
        exact Directory.get?_of_conflict?_none hfree e.1 (List.mem_map_of_mem he)
    · intro hfree
      rcases env.tryRegisterAll_publishes w es with ⟨name, hconflict, -⟩ | ⟨-, w', hrun, -⟩
      · obtain ⟨before, i, after, rfl, -, i', htaken⟩ := Directory.conflict?_eq_some_iff.1 hconflict
        cases htaken.symm.trans (hfree (name, i) (by simp))
      · exact ⟨w', hrun⟩
  refused es htaken := by
    rcases env.tryRegisterAll_publishes w es with ⟨name, hconflict, hrun⟩ | ⟨hfree, -⟩
    · obtain ⟨before, i, after, hes, hbefore, hname⟩ := Directory.conflict?_eq_some_iff.1 hconflict
      exact ⟨before, name, i, after, hes, hbefore, hname, hrun⟩
    · exact (htaken fun e he => Directory.get?_of_conflict?_none hfree e.1 (List.mem_map_of_mem he)).elim
  sorted := (w.directory env).keys_sorted.imp fun h => of_decide_eq_true h
  mem_keys name := by
    rw [Dict.mem_keys_iff, Dict.contains, Option.isSome_iff_exists]
  size := by rw [Dict.size, Dict.keys, List.length_map]

/-- **Histories.** From a new environment, any changes of its directory, with any names, repeated ones included, are all
answered, and the state that they lead to answers for their history: a look-up finds the invoker that the name was last
given, unless it was removed since; the other answers are those that the look-ups just before them call for. -/
theorem directory_answers_history (properties : Properties) (w : World ι σ) (changes : List (Directory.Change ι)) :
    ∃ env w₀ history w', Environment.new properties w = (.ok env, w₀) ∧
      env.changeAll changes w₀ = (.ok history, w') ∧ history.map (·.change) = changes ∧ env.AnswersFor w' history := by
  obtain ⟨env, w₀, hnew⟩ : ∃ env w₀, (Environment.new properties : Act ι σ Environment) w = (.ok env, w₀) :=
    ⟨_, _, rfl⟩
  obtain ⟨history, w', hrun, hchanges, hp⟩ := env.changeAll_publishes w₀ changes
  refine ⟨env, w₀, history, w', hnew, hrun, hchanges, Environment.answersFor_of_replay ?_⟩
  rw [hp.directory, (Environment.new_empty hnew).1]

end Loopback
